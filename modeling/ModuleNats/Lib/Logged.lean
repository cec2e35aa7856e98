import Mathlib.Tactic.Common

set_option autoImplicit false

/-! # Computations that log what they do

A computation ends with a value or an exception and leaves the list of the events on its way; after
an exception nothing happens. A `Discipline` says what an event needs to have happened before it,
which events have to be the last ones, which may happen at all, and which an exception can come
from. Whether a computation keeps to a discipline is settled step by step, with the rule for
sequences. `Performs` says which events a computation comes to, all of them or the first ones. -/

universe u

/-- What a computation has done, and how it has ended. -/
structure Logged (ε χ α : Type u) where
  events : List ε
  result : Except χ α

namespace Logged

variable {ε χ α β : Type u}

instance : Monad (Logged ε χ) where
  pure a := ⟨[], .ok a⟩
  bind c f :=
    match c.result with
    | .ok a => ⟨c.events ++ (f a).events, (f a).result⟩
    | .error x => ⟨c.events, .error x⟩

def log (e : ε) : Logged ε χ PUnit := ⟨[e], .ok ⟨⟩⟩

def raise (x : χ) : Logged ε χ α := ⟨[], .error x⟩

/-- A step that is made for a value that is there. -/
def whenSome {α : Type*} (o : Option α) (f : α → Logged ε χ PUnit) : Logged ε χ PUnit :=
  match o with
  | some a => f a
  | none => pure ⟨⟩

/-- A step that is made if the condition holds. -/
def whenTrue (p : Prop) [Decidable p] (c : Logged ε χ PUnit) : Logged ε χ PUnit :=
  if p then c else pure ⟨⟩

theorem bind_of_ok {c : Logged ε χ α} {a : α} (h : c.result = .ok a) (f : α → Logged ε χ β) :
    c >>= f = ⟨c.events ++ (f a).events, (f a).result⟩ := by
  simp only [bind, h]

theorem bind_of_error {c : Logged ε χ α} {x : χ} (h : c.result = .error x)
    (f : α → Logged ε χ β) : c >>= f = ⟨c.events, .error x⟩ := by
  simp only [bind, h]

/-- What the first step has done is done. -/
theorem mem_bind_left {c : Logged ε χ α} (f : α → Logged ε χ β) {e : ε} (h : e ∈ c.events) :
    e ∈ (c >>= f).events := by
  cases hc : c.result with
  | error x => rw [bind_of_error hc]; exact h
  | ok a => rw [bind_of_ok hc]; exact List.mem_append_left _ h

theorem mem_bind_right {c : Logged ε χ α} {a : α} (hc : c.result = .ok a)
    {f : α → Logged ε χ β} {e : ε} (h : e ∈ (f a).events) : e ∈ (c >>= f).events := by
  rw [bind_of_ok hc]
  exact List.mem_append_right _ h

/-- A sequence that has ended with a value has come to the end of each step. -/
theorem ok_of_bind_ok {c : Logged ε χ α} {f : α → Logged ε χ β} {b : β}
    (h : (c >>= f).result = .ok b) : ∃ a, c.result = .ok a ∧ (f a).result = .ok b := by
  cases hc : c.result with
  | error x => rw [bind_of_error hc] at h; cases h
  | ok a => rw [bind_of_ok hc] at h; exact ⟨a, rfl, h⟩

theorem ok_of_whenSome_ok {γ : Type*} {o : Option γ} {f : γ → Logged ε χ PUnit} {u : PUnit}
    (h : (whenSome o f).result = .ok u) {a : γ} (ho : o = some a) : (f a).result = .ok u := by
  subst ho
  exact h

/-! ## Disciplines -/

structure Discipline (ε : Type u) where
  /-- what has to have happened before an event -/
  needs : ε → List ε
  /-- an event after which nothing happens, and that ends with an exception -/
  fatal : ε → Prop
  may : ε → Prop
  /-- an event that an exception can come from -/
  cause : ε → Prop

/-- The computation keeps to the discipline, after what has happened before it. -/
structure KeepsTo (D : Discipline ε) (earlier : List ε) (c : Logged ε χ α) : Prop where
  needs : ∀ before e after, c.events = before ++ e :: after → D.needs e ⊆ earlier ++ before
  fatal : ∀ before e after, c.events = before ++ e :: after → D.fatal e →
    after = [] ∧ ∃ x, c.result = .error x
  may : ∀ e ∈ c.events, D.may e
  cause : ∀ x, c.result = .error x → ∃ e ∈ earlier ++ c.events, D.cause e

variable {D : Discipline ε}

theorem keepsTo_of_no_events {earlier : List ε} {c : Logged ε χ α} (h : c.events = [])
    (hcause : ∀ x, c.result = .error x → ∃ e ∈ earlier, D.cause e) : KeepsTo D earlier c where
  needs before e after heq := by rw [h] at heq; cases before <;> cases heq
  fatal before e after heq := by rw [h] at heq; cases before <;> cases heq
  may e he := by rw [h] at he; cases he
  cause x hx := by rw [h, List.append_nil]; exact hcause x hx

theorem keepsTo_pure (earlier : List ε) (a : α) :
    KeepsTo D earlier (pure a : Logged ε χ α) := keepsTo_of_no_events rfl nofun

theorem keepsTo_raise {earlier : List ε} (x : χ) (h : ∃ e ∈ earlier, D.cause e) :
    KeepsTo D earlier (raise x : Logged ε χ α) := keepsTo_of_no_events rfl fun _ _ => h

/-- One event, which is the last one if it has to be. -/
theorem keepsTo_of_one_event {earlier : List ε} {c : Logged ε χ α} {e : ε} (h : c.events = [e])
    (hneeds : D.needs e ⊆ earlier) (hfatal : D.fatal e → ∃ x, c.result = .error x)
    (hmay : D.may e) (hcause : ∀ x, c.result = .error x → D.cause e) : KeepsTo D earlier c where
  needs before e' after heq := by
    obtain ⟨rfl, rfl, rfl⟩ : before = [] ∧ e' = e ∧ after = [] := by
      rw [h] at heq
      cases before with
      | nil => cases heq; exact ⟨rfl, rfl, rfl⟩
      | cons b before => cases before <;> cases heq
    simpa using hneeds
  fatal before e' after heq hf := by
    rw [h] at heq
    cases before with
    | nil => cases heq; exact ⟨rfl, hfatal hf⟩
    | cons b before => cases before <;> cases heq
  may e' he' := by
    rw [h, List.mem_singleton] at he'
    exact he' ▸ hmay
  cause x hx := ⟨e, by simp [h], hcause x hx⟩

theorem keepsTo_log {earlier : List ε} {e : ε} (hneeds : D.needs e ⊆ earlier)
    (hfatal : ¬ D.fatal e) (hmay : D.may e) :
    KeepsTo D earlier (log e : Logged ε χ PUnit) :=
  keepsTo_of_one_event rfl hneeds (fun h => absurd h hfatal) hmay nofun

/-- What has happened earlier only helps. -/
theorem KeepsTo.mono {earlier later : List ε} {c : Logged ε χ α} (h : KeepsTo D earlier c)
    (hle : earlier ⊆ later) : KeepsTo D later c where
  needs before e after heq := List.Subset.trans (h.needs before e after heq)
    (List.append_subset.2 ⟨List.Subset.trans hle (List.subset_append_left _ _),
      List.subset_append_right _ _⟩)
  fatal := h.fatal
  may := h.may
  cause x hx := by
    obtain ⟨e, he, hcause⟩ := h.cause x hx
    refine ⟨e, ?_, hcause⟩
    exact (List.mem_append.1 he).elim (fun he => List.mem_append_left _ (hle he))
      (List.mem_append_right _)

/-- An event of two lists stands in the first or in the second. -/
theorem split_append {l l' before after : List ε} {e : ε} (h : l ++ l' = before ++ e :: after) :
    (∃ rest, l = before ++ e :: rest ∧ after = rest ++ l') ∨
      ∃ start, before = l ++ start ∧ l' = start ++ e :: after := by
  rcases List.append_eq_append_iff.1 h with ⟨start, hbefore, hl'⟩ | ⟨rest, hl, hrest⟩
  · exact .inr ⟨start, hbefore, hl'⟩
  · cases rest with
    | nil => exact .inr ⟨[], by simpa using hl.symm, hrest.symm⟩
    | cons e' rest =>
        obtain ⟨rfl, hafter⟩ := List.cons.inj hrest
        exact .inl ⟨rest, hl, hafter⟩

/-- The rule for sequences. -/
theorem KeepsTo.bind {earlier : List ε} {c : Logged ε χ α} {f : α → Logged ε χ β}
    (hc : KeepsTo D earlier c)
    (hf : ∀ a, c.result = .ok a → KeepsTo D (earlier ++ c.events) (f a)) :
    KeepsTo D earlier (c >>= f) := by
  cases hresult : c.result with
  | error x =>
      rw [bind_of_error hresult]
      exact ⟨hc.needs, fun before e after heq he => ⟨(hc.fatal before e after heq he).1, x, rfl⟩,
        hc.may, fun _ _ => hc.cause x hresult⟩
  | ok a =>
      have hfa := hf a hresult
      rw [bind_of_ok hresult]
      constructor
      · intro before e after heq
        rcases split_append heq with ⟨rest, hfirst, -⟩ | ⟨start, rfl, hsecond⟩
        · exact hc.needs before e rest hfirst
        · rw [← List.append_assoc]
          exact hfa.needs start e after hsecond
      · intro before e after heq he
        rcases split_append heq with ⟨rest, hfirst, -⟩ | ⟨start, -, hsecond⟩
        · -- a computation that has gone on has not met a last event
          obtain ⟨-, x, herror⟩ := hc.fatal before e rest hfirst he
          rw [hresult] at herror
          cases herror
        · exact hfa.fatal start e after hsecond he
      · intro e he
        exact (List.mem_append.1 he).elim (hc.may e) (hfa.may e)
      · intro x hx
        rw [← List.append_assoc]
        exact hfa.cause x hx

/-- The rule for sequences of steps that need nothing of each other. -/
theorem KeepsTo.seq {c : Logged ε χ α} {f : α → Logged ε χ β} (hc : KeepsTo D [] c)
    (hf : ∀ a, KeepsTo D [] (f a)) : KeepsTo D [] (c >>= f) :=
  hc.bind fun a _ => (hf a).mono (List.nil_subset _)

theorem KeepsTo.whenSome {γ : Type*} {earlier : List ε} {o : Option γ}
    {f : γ → Logged ε χ PUnit} (h : ∀ a, o = some a → KeepsTo D earlier (f a)) :
    KeepsTo D earlier (whenSome o f) := by
  cases o with
  | none => exact keepsTo_pure _ _
  | some a => exact h a rfl

theorem KeepsTo.whenTrue {earlier : List ε} {p : Prop} [Decidable p] {c : Logged ε χ PUnit}
    (h : p → KeepsTo D earlier c) : KeepsTo D earlier (whenTrue p c) := by
  by_cases hp : p
  · rw [Logged.whenTrue, if_pos hp]
    exact h hp
  · rw [Logged.whenTrue, if_neg hp]
    exact keepsTo_pure _ _

/-! ## What a computation comes to -/

section Performs

variable {γ : Type*} {f : ε → Option γ}

/-- Of the events that `f` selects the computation has those of `l`, in their order: all if it ends
    with a value, else the first ones. -/
structure Performs (f : ε → Option γ) (l : List γ) (c : Logged ε χ α) : Prop where
  begun : c.events.filterMap f <+: l
  done : ∀ a, c.result = .ok a → c.events.filterMap f = l

theorem performs_of_events {l : List γ} {c : Logged ε χ α} (h : c.events.filterMap f = l) :
    Performs f l c :=
  ⟨h ▸ List.prefix_refl _, fun _ _ => h⟩

theorem performs_pure (a : α) : Performs f [] (pure a : Logged ε χ α) := performs_of_events rfl

theorem performs_raise (x : χ) : Performs f [] (raise x : Logged ε χ α) := performs_of_events rfl

/-- One event, whatever the end. -/
theorem performs_of_one_event {c : Logged ε χ α} {e : ε} (h : c.events = [e]) :
    Performs f (f e).toList c := by
  refine performs_of_events ?_
  rw [h]
  cases he : f e <;> simp [he]

/-- The rule for sequences. -/
theorem Performs.bind {l l' : List γ} {c : Logged ε χ α} {k : α → Logged ε χ β}
    (hc : Performs f l c) (hk : ∀ a, Performs f l' (k a)) : Performs f (l ++ l') (c >>= k) := by
  cases hresult : c.result with
  | error x =>
      rw [bind_of_error hresult]
      exact ⟨hc.begun.trans (List.prefix_append _ _), fun _ h => by cases h⟩
  | ok a =>
      rw [bind_of_ok hresult]
      constructor
      · rw [List.filterMap_append, hc.done a hresult]
        exact (List.prefix_append_right_inj l).2 (hk a).begun
      · intro b hb
        rw [List.filterMap_append, hc.done a hresult, (hk a).done b hb]

/-- A step of which `f` selects nothing. -/
theorem Performs.skip {l : List γ} {c : Logged ε χ α} {k : α → Logged ε χ β}
    (hc : Performs f [] c) (hk : ∀ a, Performs f l (k a)) : Performs f l (c >>= k) :=
  hc.bind hk

theorem Performs.whenSome {δ : Type*} {o : Option δ} {k : δ → Logged ε χ PUnit} {g : δ → γ}
    (h : ∀ a, Performs f [g a] (k a)) : Performs f (o.map g).toList (whenSome o k) := by
  cases o with
  | none => exact performs_pure _
  | some a => exact h a

theorem Performs.skipSome {δ : Type*} {o : Option δ} {k : δ → Logged ε χ PUnit}
    (h : ∀ a, Performs f [] (k a)) : Performs f [] (Logged.whenSome o k) := by
  cases o with
  | none => exact performs_pure _
  | some a => exact h a

theorem Performs.skipTrue {p : Prop} [Decidable p] {c : Logged ε χ PUnit}
    (h : Performs f [] c) : Performs f [] (whenTrue p c) := by
  by_cases hp : p
  · rw [Logged.whenTrue, if_pos hp]
    exact h
  · rw [Logged.whenTrue, if_neg hp]
    exact performs_pure _

end Performs

end Logged
