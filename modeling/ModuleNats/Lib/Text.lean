import Mathlib.Data.Int.Notation
import Mathlib.Data.List.Basic
import Mathlib.Tactic.Common

set_option autoImplicit false

/-! # Text cut at delimiters

Cutting a list at the first or the last occurrence of a delimiter, cutting it into fields, and
reading a decimal number at the beginning of a text. What a cut gives back is stated for text that
was put together around the delimiter, which is what a round trip needs. -/

/-! ## Cutting in two -/

namespace List

variable {α : Type*} [DecidableEq α]

/-- What stands before and after the first `c`, if there is one. -/
def cutFirst (c : α) : List α → Option (List α × List α)
  | [] => none
  | x :: rest =>
      if x = c then some ([], rest)
      else (cutFirst c rest).map fun (before, after) => (x :: before, after)

/-- What stands before and after the last `c`, if there is one. -/
def cutLast (c : α) (l : List α) : Option (List α × List α) :=
  (cutFirst c l.reverse).map fun (after, before) => (before.reverse, after.reverse)

theorem cutFirst_eq_none {c : α} {l : List α} : cutFirst c l = none ↔ c ∉ l := by
  induction l with
  | nil => simp [cutFirst]
  | cons x rest ih =>
      by_cases hx : x = c
      · simp [cutFirst, hx]
      · simp [cutFirst, hx, ih, Ne.symm hx]

theorem cutFirst_append {c : α} {before : List α} (h : c ∉ before) (after : List α) :
    cutFirst c (before ++ c :: after) = some (before, after) := by
  induction before with
  | nil => simp [cutFirst]
  | cons x rest ih =>
      obtain ⟨hx, hrest⟩ := not_or.1 (mt List.mem_cons.2 h)
      simp [cutFirst, Ne.symm hx, ih hrest]

theorem cutFirst_spec {c : α} {l before after : List α} (h : cutFirst c l = some (before, after)) :
    c ∉ before ∧ l = before ++ c :: after := by
  induction l generalizing before with
  | nil => cases h
  | cons x rest ih =>
      simp only [cutFirst] at h
      split at h
      · next hx => cases h; exact ⟨List.not_mem_nil, by rw [hx]; rfl⟩
      · next hx =>
          obtain ⟨⟨b, a⟩, hcut, h⟩ := Option.map_eq_some_iff.1 h
          obtain ⟨rfl, rfl⟩ := Prod.mk.inj h
          obtain ⟨hb, rfl⟩ := ih hcut
          exact ⟨by simp [hb, Ne.symm hx], rfl⟩

theorem cutLast_eq_none {c : α} {l : List α} : cutLast c l = none ↔ c ∉ l := by
  rw [cutLast, Option.map_eq_none_iff, cutFirst_eq_none, List.mem_reverse]

theorem cutLast_append {c : α} {after : List α} (h : c ∉ after) (before : List α) :
    cutLast c (before ++ c :: after) = some (before, after) := by
  have hrev : (before ++ c :: after).reverse = after.reverse ++ c :: before.reverse := by simp
  rw [cutLast, hrev, cutFirst_append (by simpa using h)]
  simp

theorem cutLast_spec {c : α} {l before after : List α} (h : cutLast c l = some (before, after)) :
    c ∉ after ∧ l = before ++ c :: after := by
  obtain ⟨⟨a, b⟩, hcut, h⟩ := Option.map_eq_some_iff.1 h
  obtain ⟨rfl, rfl⟩ := Prod.mk.inj h
  obtain ⟨ha, hl⟩ := cutFirst_spec hcut
  refine ⟨by simpa using ha, ?_⟩
  rw [← List.reverse_reverse l, hl]
  simp

/-! ## Fields -/

/-- No field contains the delimiter. -/
theorem not_mem_of_mem_splitOn {c : α} {l field : List α} (h : field ∈ l.splitOn c) :
    c ∉ field := by
  induction hn : l.length using Nat.strongRecOn generalizing l with
  | _ n ih =>
  cases hcut : cutFirst c l with
  | none =>
      rw [cutFirst_eq_none] at hcut
      rw [List.splitOn_eq_singleton hcut] at h
      rw [List.mem_singleton.1 h]
      exact hcut
  | some cut =>
      obtain ⟨before, after⟩ := cut
      obtain ⟨hbefore, rfl⟩ := cutFirst_spec hcut
      rw [List.splitOn_append_cons_self_of_not_mem hbefore] at h
      rcases List.mem_cons.1 h with rfl | h
      · exact hbefore
      · exact ih after.length (by rw [← hn, List.length_append, List.length_cons]; omega) h rfl

/-- `field` stands in `l` between `before` and `after`, as a whole field. -/
structure IsField (c : α) (l before field after : List α) : Prop where
  eq : l = before ++ field ++ after
  not_mem : c ∉ field
  starts : before = [] ∨ before.getLast? = some c
  ends : after = [] ∨ after.head? = some c

/-- What begins with a field is cut after it. -/
theorem splitOn_append_of_ends {c : α} {field after : List α} (hfield : c ∉ field)
    (hends : after = [] ∨ after.head? = some c) :
    ∃ back, (field ++ after).splitOn c = field :: back ∧ (back = [] ↔ after = []) := by
  rcases hends with rfl | hhead
  · exact ⟨[], by rw [append_nil, splitOn_eq_singleton hfield], by simp⟩
  · obtain ⟨rest, rfl⟩ := head?_eq_some_iff.1 hhead
    refine ⟨rest.splitOn c, splitOn_append_cons_self_of_not_mem hfield rest, ?_⟩
    simp

/-- Every field is one of the fields that the list is cut into, and the last one if nothing follows
    it. -/
theorem IsField.splitOn_eq {c : α} {l before field after : List α}
    (h : IsField c l before field after) :
    ∃ front back, l.splitOn c = front ++ field :: back ∧ (back = [] ↔ after = []) := by
  obtain ⟨back, hsplit, hback⟩ := splitOn_append_of_ends h.not_mem h.ends
  rcases h.starts with rfl | hlast
  · exact ⟨[], back, by rw [h.eq, nil_append, hsplit, nil_append], hback⟩
  · obtain ⟨start, rfl⟩ := getLast?_eq_some_iff.1 hlast
    refine ⟨start.splitOn c, back, ?_, hback⟩
    rw [h.eq, append_assoc, append_assoc, singleton_append, splitOn_append_cons_self, hsplit]

omit [DecidableEq α] in
theorem intercalate_cons_eq (c : α) (field : List α) (back : List (List α)) :
    [c].intercalate (field :: back) = field ++ (back.map (c :: ·)).flatten := by
  induction back generalizing field with
  | nil => simp
  | cons next back ih =>
      rw [intercalate_cons_cons, ih]
      simp

omit [DecidableEq α] in
theorem intercalate_append_cons_eq (c : α) (front : List (List α)) (field : List α)
    (back : List (List α)) : [c].intercalate (front ++ field :: back) =
      (front.map (· ++ [c])).flatten ++ field ++ (back.map (c :: ·)).flatten := by
  induction front with
  | nil => simp [intercalate_cons_eq]
  | cons first front ih =>
      have hne : front ++ field :: back ≠ [] := by simp
      obtain ⟨next, rest, hnext⟩ := exists_cons_of_ne_nil hne
      rw [cons_append, hnext, intercalate_cons_cons, ← hnext, ih]
      simp

/-- Every list that the list is cut into is a field of it. -/
theorem exists_isField {c : α} {l field : List α} {front back : List (List α)}
    (h : l.splitOn c = front ++ field :: back) :
    ∃ before after, IsField c l before field after ∧ (after = [] ↔ back = []) := by
  refine ⟨(front.map (· ++ [c])).flatten, (back.map (c :: ·)).flatten, ⟨?_, ?_, ?_, ?_⟩, ?_⟩
  · rw [← intercalate_append_cons_eq, ← h, intercalate_splitOn]
  · exact not_mem_of_mem_splitOn (h ▸ mem_append_right _ mem_cons_self)
  · rcases eq_nil_or_concat front with rfl | ⟨start, last, rfl⟩
    · exact .inl rfl
    · exact .inr (by simp)
  · cases back with
    | nil => exact .inl rfl
    | cons next back => exact .inr rfl
  · cases back <;> simp

end List

/-! ## Decimal numbers -/

namespace Decimal

/-- The digits at the beginning of a text as a number. -/
def readNat (l : List Char) : ℕ := Nat.ofDigitChars 10 (l.takeWhile Char.isDigit) 0

/-- `isspace()` -/
def isSpace (c : Char) : Bool := c ∈ [' ', '\t', '\n', '\x0b', '\x0c', '\r']

/-- White space, a sign and digits, as `strtol()` reads them; what follows is ignored. -/
def readInt (l : List Char) : ℤ :=
  match l.dropWhile isSpace with
  | '-' :: digits => - (readNat digits : ℤ)
  | '+' :: digits => readNat digits
  | digits => readNat digits

/-- The digits of a number, with something after them that is not a digit. -/
theorem readNat_append {n : ℕ} {rest : List Char} (h : ∀ c, rest.head? = some c → ¬ c.isDigit) :
    readNat (Nat.toDigits 10 n ++ rest) = n := by
  have hdigits : ∀ c ∈ Nat.toDigits 10 n, c.isDigit := fun c hc =>
    Nat.isDigit_of_mem_toDigits (by decide) (by decide) hc
  have hrest : rest.takeWhile Char.isDigit = [] := by
    cases rest with
    | nil => rfl
    | cons c rest => exact List.takeWhile_cons_of_neg (h c rfl)
  rw [readNat, List.takeWhile_append_of_pos hdigits, hrest, List.append_nil,
    Nat.ofDigitChars_ten_toDigits]

theorem readInt_append {n : ℕ} {rest : List Char} (h : ∀ c, rest.head? = some c → ¬ c.isDigit) :
    readInt (Nat.toDigits 10 n ++ rest) = n := by
  have hread := readNat_append (n := n) h
  cases hdigits : Nat.toDigits 10 n with
  | nil => exact absurd hdigits Nat.toDigits_ne_nil
  | cons c digits =>
      have hc : c.isDigit := Nat.isDigit_of_mem_toDigits (by decide) (by decide)
        (hdigits ▸ List.mem_cons_self)
      have hspace : ¬ isSpace c := by
        intro h
        have hmem : c ∈ [' ', '\t', '\n', '\x0b', '\x0c', '\r'] := of_decide_eq_true h
        simp only [List.mem_cons, List.not_mem_nil, or_false] at hmem
        rcases hmem with rfl | rfl | rfl | rfl | rfl | rfl <;> cases hc
      rw [hdigits, List.cons_append] at hread
      rw [readInt, List.cons_append, List.dropWhile_cons_of_neg hspace]
      split
      · next hsign => rw [(List.cons.inj hsign).1] at hc; cases hc
      · next hsign => rw [(List.cons.inj hsign).1] at hc; cases hc
      · rw [hread]

/-- A number is read back from the text that it is written as. -/
theorem readInt_repr (i : ℤ) : readInt i.repr.toList = i := by
  rw [Int.repr_eq_if]
  split
  · next hnonneg =>
      rw [Nat.toList_repr, ← List.append_nil (Nat.toDigits 10 i.toNat),
        readInt_append (by simp), Int.toNat_of_nonneg hnonneg]
  · next hneg =>
      have hread : readNat (Nat.toDigits 10 (-i).toNat ++ []) = (-i).toNat :=
        readNat_append (by simp)
      rw [List.append_nil] at hread
      have hminus : ("-" ++ (-i).toNat.repr).toList = '-' :: Nat.toDigits 10 (-i).toNat := by
        rw [String.toList_append, Nat.toList_repr]; rfl
      rw [hminus, readInt, List.dropWhile_cons_of_neg (by decide)]
      change -(readNat (Nat.toDigits 10 (-i).toNat) : ℤ) = i
      rw [hread]
      omega

theorem repr_injective {i j : ℤ} (h : i.repr = j.repr) : i = j := by
  rw [← readInt_repr i, h, readInt_repr]

end Decimal
