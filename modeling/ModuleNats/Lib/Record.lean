import Mathlib.Logic.Function.Basic
import Mathlib.Tactic.Common

set_option autoImplicit false

/-! # Records with optional fields

A record has for every key a value of the type of the key, or none: a hash whose keys are declared.
The library says what a converter from records to another structure and back has to satisfy for
every field (`ReadsBack`), and what follows for the whole: every value is kept, and a record that
was read, changed at one key and converted again differs at that key only. The converters
themselves are made of assignments, one for each field (`assign`). -/

/-- For every key a value of its type, or none. -/
abbrev Record {κ : Type*} (τ : κ → Type*) := ∀ k, Option (τ k)

namespace Record

variable {κ : Type*} {τ : κ → Type*}

/-- The record changed at one key. -/
def set [DecidableEq κ] (r : Record τ) (k : κ) (v : τ k) : Record τ := Function.update r k (some v)

@[simp] theorem set_self [DecidableEq κ] (r : Record τ) (k : κ) (v : τ k) :
    r.set k v k = some v := by
  rw [set, Function.update_self]

theorem set_of_ne [DecidableEq κ] (r : Record τ) {j k : κ} (v : τ k) (h : j ≠ k) :
    r.set k v j = r j := by
  rw [set, Function.update_of_ne h]

/-- `r'` has every key of `r` with the same value. -/
def Kept (r r' : Record τ) : Prop := ∀ k v, r k = some v → r' k = some v

/-- Every value of the record satisfies the condition of its key. -/
def All (P : ∀ k, τ k → Prop) (r : Record τ) : Prop := ∀ k v, r k = some v → P k v

theorem All.set [DecidableEq κ] {P : ∀ k, τ k → Prop} {r : Record τ} (h : r.All P) {k : κ}
    {v : τ k} (hv : P k v) : (r.set k v).All P := by
  intro j w hw
  by_cases hjk : j = k
  · subst hjk
    rw [set_self] at hw
    rw [← Option.some.inj hw]
    exact hv
  · rw [set_of_ne r v hjk] at hw
    exact h j w hw

/-- Two conditions that agree on the values of the record. -/
theorem all_congr {P Q : ∀ k, τ k → Prop} {r : Record τ}
    (h : ∀ k v, r k = some v → (P k v ↔ Q k v)) : r.All P ↔ r.All Q :=
  forall_congr' fun k => forall_congr' fun v => forall_congr' fun hv => h k v hv

/-! ## Some of the keys -/

/-- The record without the keys that `P` does not hold of. -/
def restrict (P : κ → Prop) [DecidablePred P] (r : Record τ) : Record τ :=
  fun k => if P k then r k else none

section Restrict

variable {P : κ → Prop} [DecidablePred P] {r : Record τ}

theorem restrict_of_pos {k : κ} (h : P k) : r.restrict P k = r k := if_pos h

theorem restrict_of_neg {k : κ} (h : ¬ P k) : r.restrict P k = none := if_neg h

theorem All.restrict {Q : ∀ k, τ k → Prop} (h : r.All Q) : (r.restrict P).All Q := by
  intro k v hv
  by_cases hk : P k
  · rw [restrict_of_pos hk] at hv
    exact h k v hv
  · rw [restrict_of_neg hk] at hv
    cases hv

end Restrict

/-! ## Assignments -/

section Assign

variable {α β : Type*}

/-- A variable after the assignment of a value that may be missing. -/
def assign (v : Option α) (conv : α → β) (old : β) : β := v.elim old conv

theorem assign_of_some {v : Option α} {a : α} (hv : v = some a) (conv : α → β) (old : β) :
    assign v conv old = conv a := by
  rw [hv]
  rfl

theorem assign_eq_assign {v v' : Option α} {a : α} (hv : v = some a) (hv' : v' = some a)
    (conv : α → β) (old old' : β) : assign v conv old = assign v' conv old' := by
  rw [assign_of_some hv, assign_of_some hv']

theorem assign_of_none {v : Option α} (hv : v = none) (conv : α → β) (old : β) :
    assign v conv old = old := by
  rw [hv]
  rfl

/-- What is read after an assignment: the value, or what was there before. -/
theorem read_assign (conv : α → β) (read : β → Option α) {v : Option α} {old : β}
    (h : ∀ a, v = some a → read (conv a) = some a) :
    read (assign v conv old) = v.or (read old) := by
  cases v with
  | none => rfl
  | some a => exact h a rfl

/-- It makes no difference to assign what is there already. -/
theorem assign_congr {v v' there : Option α} {conv : α → β} {old : β}
    (hold : assign there conv old = old) (h : v' = v.or there ∨ v' = v) :
    assign v' conv old = assign v conv old := by
  rcases h with rfl | rfl
  · cases v with
    | none => exact hold
    | some a => rfl
  · rfl

end Assign

/-! ## Converters -/

section Convert

variable {σ : Type*} {fill : Record τ → σ} {read : σ → Record τ} {init : σ}

/-- From what was filled in, every value of the record is read back, and for the other keys the
    values of `init`. -/
def ReadsBack (fill : Record τ → σ) (read : σ → Record τ) (init : σ) (r : Record τ) : Prop :=
  ∀ k, read (fill r) k = (r k).or (read init k)

theorem ReadsBack.kept {r : Record τ} (h : ReadsBack fill read init r) :
    Kept r (read (fill r)) := by
  intro k v hv
  rw [h k, hv]
  rfl

theorem ReadsBack.all {P : ∀ k, τ k → Prop} {r : Record τ} (h : ReadsBack fill read init r)
    (hr : r.All P) (hinit : (read init).All P) : (read (fill r)).All P := by
  intro k v hv
  rw [h k] at hv
  cases hk : r k with
  | none => rw [hk] at hv; exact hinit k v hv
  | some w => rw [hk] at hv; exact hr k v (hk.trans hv)

/-- A record comes back as it is if `init` has no values for the keys it leaves out. -/
theorem ReadsBack.read_eq {r : Record τ} (h : ReadsBack fill read init r)
    (hnone : ∀ k, r k = none → read init k = none) : read (fill r) = r := by
  funext k
  rw [h k]
  cases hk : r k with
  | none => exact hnone k hk
  | some v => rfl

/-- A record that was read and changed at one key comes back with the change and no other, if
    `init` has values only for keys that are always read. -/
theorem ReadsBack.update [DecidableEq κ] {s : σ} {k : κ} {v : τ k}
    (h : ReadsBack fill read init ((read s).set k v))
    (hnone : ∀ j, read s j = none → read init j = none) :
    read (fill ((read s).set k v)) = (read s).set k v := by
  refine h.read_eq fun j hj => ?_
  have hjk : j ≠ k := by
    rintro rfl
    rw [set_self] at hj
    cases hj
  exact hnone j ((set_of_ne _ v hjk).symm.trans hj)

end Convert

/-! ## Updates that go through some of the keys

The structure has a field for every key (`Fieldwise`). A record is read from it, changed at one key
and restricted, and the structure is filled anew from that. -/

section Fields

/-- The record with this key only. -/
def single [DecidableEq κ] (k : κ) (v : τ k) : Record τ := Record.set (fun _ => none) k v

theorem single_self [DecidableEq κ] (k : κ) (v : τ k) : single k v k = some v := set_self _ k v

theorem single_of_ne [DecidableEq κ] {j k : κ} (v : τ k) (h : j ≠ k) : single k v j = none :=
  set_of_ne _ v h

theorem all_single [DecidableEq κ] {P : ∀ k, τ k → Prop} {k : κ} {v : τ k} (hv : P k v) :
    (single k v).All P :=
  All.set (fun _ _ h => by cases h) hv

/-- Keys changed one after the other. -/
def setAll [DecidableEq κ] (r : Record τ) (updates : List (Σ k, τ k)) : Record τ :=
  updates.foldl (fun r u => r.set u.1 u.2) r

variable {σ : Type*} {φ : κ → Type*} {fill : σ → Record τ → σ} {read : σ → Record τ}
  {field : σ → ∀ k, φ k}

/-- The fields of keys assigned one after the other. -/
def assignAll [DecidableEq κ] (fill : σ → Record τ → σ) (s : σ) (updates : List (Σ k, τ k)) : σ :=
  updates.foldl (fun s u => fill s (single u.1 u.2)) s

/-- Every value of a record is assigned to the field of its key and read from it, and the structure
    consists of these fields. -/
structure Fieldwise (fill : σ → Record τ → σ) (read : σ → Record τ) (field : σ → ∀ k, φ k) :
    Prop where
  of_none : ∀ {s : σ} {r : Record τ} {k : κ}, r k = none → field (fill s r) k = field s k
  of_some : ∀ {s s' : σ} {r r' : Record τ} {k : κ} {v : τ k}, r k = some v → r' k = some v →
    field (fill s r) k = field (fill s' r') k
  read : ∀ {s s' : σ} {k : κ}, field s k = field s' k → read s k = read s' k
  ext : ∀ {s s' : σ}, (∀ k, field s k = field s' k) → s = s'

theorem Fieldwise.congr (hf : Fieldwise fill read field) {s : σ} {r r' : Record τ} {k : κ}
    (h : r k = r' k) : field (fill s r) k = field (fill s r') k := by
  cases hk : r k with
  | none => rw [hf.of_none hk, hf.of_none (h ▸ hk)]
  | some v => exact hf.of_some hk (h ▸ hk)

/-- The other keys have the fields of `init`, and the fields of these keys are what is made of what
    is read of them: the structure can be filled again from these keys. -/
structure Restorable (fill : σ → Record τ → σ) (read : σ → Record τ) (field : σ → ∀ k, φ k)
    (P : κ → Prop) (init s : σ) : Prop where
  others : ∀ k, ¬ P k → field s k = field init k
  these : ∀ k, P k → field (fill init (read s)) k = field s k

variable [DecidableEq κ] {P : κ → Prop} {init s : σ} {k : κ} {v : τ k}

/-- The structure can be restored after an update as well. -/
theorem Restorable.fill_single (hf : Fieldwise fill read field)
    (h : Restorable fill read field P init s) (hk : P k)
    (hv : read (fill s (single k v)) k = some v) :
    Restorable fill read field P init (fill s (single k v)) := by
  have hsame : ∀ j, j ≠ k → field (fill s (single k v)) j = field s j :=
    fun j hj => hf.of_none (single_of_ne v hj)
  refine ⟨fun j hj => ?_, fun j hj => ?_⟩
  · rw [hsame j (by rintro rfl; exact hj hk), h.others j hj]
  · by_cases hjk : j = k
    · subst hjk
      exact hf.of_some hv (single_self _ _)
    · rw [hsame j hjk, hf.congr (hf.read (hsame j hjk)), h.these j hj]

/-- What is read after the update. -/
theorem read_fill_single (hf : Fieldwise fill read field)
    (hv : read (fill s (single k v)) k = some v) :
    read (fill s (single k v)) = (read s).set k v := by
  funext j
  by_cases hjk : j = k
  · subst hjk
    rw [hv, set_self]
  · rw [hf.read (hf.of_none (single_of_ne v hjk)), set_of_ne _ v hjk]

variable [DecidablePred P]

/-- An update of a structure that can be restored assigns the one field. -/
theorem Restorable.fill_set (hf : Fieldwise fill read field)
    (h : Restorable fill read field P init s) (hk : P k) :
    fill init (((read s).set k v).restrict P) = fill s (single k v) := by
  refine hf.ext fun j => ?_
  by_cases hjk : j = k
  · subst hjk
    exact hf.of_some ((restrict_of_pos hk).trans (set_self _ _ _)) (single_self _ _)
  · rw [hf.of_none (single_of_ne v hjk)]
    by_cases hj : P j
    · rw [hf.congr ((restrict_of_pos hj).trans (set_of_ne _ v hjk)), h.these j hj]
    · rw [hf.of_none (restrict_of_neg hj), h.others j hj]

/-- If updates of two keys assign the one field each, the structure can be restored. -/
theorem restorable_of_fill_set (hf : Fieldwise fill read field) {j k : κ} {w : τ j} {v : τ k}
    (hjk : j ≠ k) (hj : fill init (((read s).set j w).restrict P) = fill s (single j w))
    (hk : fill init (((read s).set k v).restrict P) = fill s (single k v)) :
    Restorable fill read field P init s := by
  have hboth : ∀ i, ∃ l, ∃ x : τ l, i ≠ l ∧
      fill init (((read s).set l x).restrict P) = fill s (single l x) := by
    intro i
    by_cases hij : i = j
    · exact ⟨k, v, hij ▸ hjk, hk⟩
    · exact ⟨j, w, hij, hj⟩
  refine ⟨fun i hi => ?_, fun i hi => ?_⟩ <;> obtain ⟨l, x, hne, heq⟩ := hboth i
  · rw [← hf.of_none (single_of_ne x hne), ← heq, hf.of_none (restrict_of_neg hi)]
  · rw [← hf.of_none (r := single l x) (s := s) (single_of_ne x hne), ← heq]
    exact hf.congr ((restrict_of_pos hi).trans (set_of_ne _ x hne)).symm

/-- What is filled from these keys can be restored, if `init` can be. -/
theorem restorable_fill (hf : Fieldwise fill read field) {r : Record τ}
    (hinit : ∀ k, P k → field (fill init (read init)) k = field init k)
    (hr : ∀ k v, P k → r k = some v → read (fill init (single k v)) k = some v) :
    Restorable fill read field P init (fill init (r.restrict P)) := by
  refine ⟨fun k hk => hf.of_none (restrict_of_neg hk), fun k hk => ?_⟩
  have hrestrict : r.restrict P k = r k := restrict_of_pos hk
  cases hv : r k with
  | none =>
      have hfield : field (fill init (r.restrict P)) k = field init k :=
        hf.of_none (hrestrict.trans hv)
      rw [hfield, hf.congr (hf.read hfield), hinit k hk]
  | some v =>
      have hfield : field (fill init (r.restrict P)) k = field (fill init (single k v)) k :=
        hf.of_some (hrestrict.trans hv) (single_self _ _)
      exact hf.of_some ((hf.read hfield).trans (hr k v hk hv)) (hrestrict.trans hv)

end Fields

end Record
