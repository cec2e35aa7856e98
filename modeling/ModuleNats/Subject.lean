import ModuleNats.Url

set_option autoImplicit false

/-! # Subjects

`NatsHelper::isValidSubject()` checks a subject token by token. The grammar says of the text itself
which subjects are valid; `isValidSubject_iff` says that the check accepts these. -/

namespace ModuleNats

/-! ## The check -/

/-- The check of the token number `i` of so many. -/
def validToken (size i : ℕ) (tok : Text) : Bool :=
  if tok.isEmpty then false
  else if tok = ">".toList then i = size - 1
  else if tok = "*".toList then true
  else !tok.any fun c => c = '*' || c = '>'

/-- `\s` in a regular expression: the characters of `isspace()`. -/
def isWhitespace (c : Char) : Bool := Decimal.isSpace c

/-- `NatsHelper::isValidSubject()` -/
def isValidSubject (subject : Text) : Bool :=
  if subject.isEmpty then false
  else if subject.any isWhitespace then false
  else
    let tokens := qoreSplit true '.' subject
    tokens.zipIdx.all fun (tok, i) => validToken tokens.length i tok

/-! ## The grammar -/

/-- A valid subject. Its tokens are the fields between its dots. -/
structure ValidSubject (subject : Text) : Prop where
  not_empty : subject ≠ []
  /-- no character is a space, a tab, a new line, a vertical tab, a form feed or a return -/
  no_space : ∀ c ∈ [' ', '\t', '\n', '\x0b', '\x0c', '\r'], c ∉ subject
  /-- no token is empty -/
  token : ∀ before tok after, subject.IsField '.' before tok after → tok ≠ []
  /-- `*` is a whole token -/
  star : ∀ before tok after, subject.IsField '.' before tok after → '*' ∈ tok → tok = ['*']
  /-- `>` is the whole last token -/
  full : ∀ before tok after, subject.IsField '.' before tok after → '>' ∈ tok →
    tok = ['>'] ∧ after = []

/-! ## The check accepts the grammar -/

theorem validToken_iff {size i : ℕ} {tok : Text} :
    validToken size i tok = true ↔
      tok ≠ [] ∧ ('*' ∈ tok → tok = ['*']) ∧ ('>' ∈ tok → tok = ['>'] ∧ i = size - 1) := by
  unfold validToken
  split
  · next hempty => simp [List.isEmpty_iff.1 hempty]
  · next hempty =>
      have hne : tok ≠ [] := by simpa using hempty
      split
      · next hfull => simp [hfull]
      · next hfull =>
          split
          · next hstar => simp [hstar]
          · next hstar =>
              -- a wildcard would be one among other characters
              have hfull' : tok ≠ ['>'] := hfull
              have hstar' : tok ≠ ['*'] := hstar
              have hwild : (!tok.any fun c => c = '*' || c = '>') = true ↔
                  '*' ∉ tok ∧ '>' ∉ tok := by
                simp only [Bool.not_eq_true', List.any_eq_false, Bool.or_eq_true,
                  decide_eq_true_eq, not_or]
                exact ⟨fun h => ⟨fun hm => (h _ hm).1 rfl, fun hm => (h _ hm).2 rfl⟩,
                  fun h c hc => ⟨fun heq => h.1 (heq ▸ hc), fun heq => h.2 (heq ▸ hc)⟩⟩
              rw [hwild]
              simp [hne, hfull', hstar']

theorem all_zipIdx_iff {tokens : List Text} {p : ℕ → Text → Bool} :
    (tokens.zipIdx.all fun (tok, i) => p i tok) = true ↔
      ∀ front tok back, tokens = front ++ tok :: back → p front.length tok = true := by
  simp only [List.all_eq_true, Prod.forall, List.mem_zipIdx_iff_getElem?]
  constructor
  · rintro h front tok back rfl
    exact h tok front.length (by simp)
  · intro h tok i hi
    obtain ⟨hlt, rfl⟩ := List.getElem?_eq_some_iff.1 hi
    have hcut := List.take_append_drop i tokens
    rw [List.drop_eq_getElem_cons hlt] at hcut
    have hp := h (tokens.take i) tokens[i] (tokens.drop (i + 1)) hcut.symm
    rwa [List.length_take_of_le (Nat.le_of_lt hlt)] at hp

/-- The loop over the tokens, as conditions on the fields of the text. -/
theorem tokens_valid_iff (subject : Text) :
    ((subject.splitOn '.').zipIdx.all fun (tok, i) =>
        validToken (subject.splitOn '.').length i tok) = true ↔
      ∀ before tok after, subject.IsField '.' before tok after →
        tok ≠ [] ∧ ('*' ∈ tok → tok = ['*']) ∧ ('>' ∈ tok → tok = ['>'] ∧ after = []) := by
  rw [all_zipIdx_iff]
  constructor
  · intro h before tok after hfield
    obtain ⟨front, back, hsplit, hback⟩ := hfield.splitOn_eq
    have hvalid := validToken_iff.1 (h front tok back hsplit)
    have hlast : front.length = (subject.splitOn '.').length - 1 ↔ after = [] := by
      rw [hsplit, ← hback, ← List.length_eq_zero_iff, List.length_append, List.length_cons]
      omega
    rwa [hlast] at hvalid
  · intro h front tok back hsplit
    obtain ⟨before, after, hfield, hafter⟩ := List.exists_isField hsplit
    have hlast : front.length = (subject.splitOn '.').length - 1 ↔ after = [] := by
      rw [hsplit, hafter, ← List.length_eq_zero_iff, List.length_append, List.length_cons]
      omega
    rw [validToken_iff, hlast]
    exact h before tok after hfield

/-- The check accepts exactly the valid subjects. -/
theorem isValidSubject_iff (subject : Text) :
    isValidSubject subject = true ↔ ValidSubject subject := by
  have hsplit : qoreSplit true '.' subject = subject.splitOn '.' := by simp [qoreSplit]
  unfold isValidSubject
  split
  · next hempty =>
      have hnil := List.isEmpty_iff.1 hempty
      exact iff_of_false Bool.false_ne_true fun h => h.not_empty hnil
  · next hempty =>
      split
      · next hspace =>
          obtain ⟨c, hc, hcspace⟩ := List.any_eq_true.1 hspace
          have hmem := of_decide_eq_true hcspace
          exact iff_of_false Bool.false_ne_true fun h => h.no_space c hmem hc
      · next hspace =>
          simp only [hsplit]
          rw [tokens_valid_iff]
          constructor
          · intro h
            exact {
              not_empty := by simpa using hempty
              no_space := fun c hcspace hc =>
                hspace (List.any_eq_true.2 ⟨c, hc, decide_eq_true hcspace⟩)
              token := fun b t a hf => (h b t a hf).1
              star := fun b t a hf => (h b t a hf).2.1
              full := fun b t a hf => (h b t a hf).2.2 }
          · intro h b t a hf
            exact ⟨h.token b t a hf, h.star b t a hf, h.full b t a hf⟩

example : isValidSubject "foo.*.bar".toList = true := by decide

example : isValidSubject "foo.>.bar".toList = false := by decide

end ModuleNats
