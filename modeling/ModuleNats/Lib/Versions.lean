import Mathlib.Data.List.Infix
import Mathlib.Data.List.Nodup
import ModuleNats.Lib.Transition

set_option autoImplicit false

/-! # Optimistic writers over a history of versions

A store keeps the versions of a value, each with a revision of its own. A writer takes a reading,
maybe an old one, computes a value from it, and asks the store to append that value if no version
has come since: after a reading of a version, if the last version has its revision; after a reading
of nothing, if there is no value.

Such a writer need not lock anything: where the store admits the write, the value it has read is the
current one (`current_eq_of_admits`). So the writes that go through are those of a `register` that
reads and writes in one step. -/

namespace Versions

variable {R V : Type*}

/-- A version without a value is a deletion; one without a revision was made by the store. -/
structure Version (R V : Type*) where
  rev : Option R
  value : Option V
deriving DecidableEq

/-- The versions, the oldest first. -/
abbrev History (R V : Type*) := List (Version R V)

def current (h : History R V) : Option V := h.getLast?.bind Version.value

/-- No two versions have the same revision. -/
def Distinct (h : History R V) : Prop := (h.filterMap Version.rev).Nodup

@[simp] theorem current_append_singleton (h : History R V) (v : Version R V) :
    current (h ++ [v]) = v.value := by
  simp [current]

/-- Two versions with one revision are the same version. -/
theorem Distinct.eq_of_rev {h : History R V} (hd : Distinct h) {v w : Version R V} {r : R}
    (hv : v ∈ h) (hw : w ∈ h) (hvr : v.rev = some r) (hwr : w.rev = some r) : v = w := by
  induction h with
  | nil => cases hv
  | cons x h ih =>
      have hrest : Distinct h := by
        unfold Distinct at hd ⊢
        rw [List.filterMap_cons] at hd
        split at hd
        · exact hd
        · exact (List.nodup_cons.1 hd).2
      -- the revision of the head is that of no other version
      have hhead : ∀ y ∈ h, x.rev = some r → y.rev ≠ some r := by
        intro y hy hx hyr
        rw [Distinct, List.filterMap_cons_some hx] at hd
        exact (List.nodup_cons.1 hd).1 (List.mem_filterMap.2 ⟨y, hy, hyr⟩)
      rcases List.mem_cons.1 hv with rfl | hv'
      · rcases List.mem_cons.1 hw with rfl | hw'
        · rfl
        · exact absurd hwr (hhead w hw' hvr)
      · rcases List.mem_cons.1 hw with rfl | hw'
        · exact absurd hvr (hhead v hv' hwr)
        · exact ih hrest hv' hw'

/-! ## Readings -/

/-- What a writer has read. -/
inductive Reading (R V : Type*) where
  | absent
  | found (rev : R) (value : V)

namespace Reading

/-- The value that the new one is computed from. -/
def seen : Reading R V → Option V
  | absent => none
  | found _ value => some value

/-- The reading is one of the history, not always of its last version. -/
def Of (h : History R V) : Reading R V → Prop
  | absent => True
  | found rev value => ⟨some rev, some value⟩ ∈ h

/-- The store admits the write that follows the reading. -/
def Admits (h : History R V) : Reading R V → Prop
  | absent => current h = none
  | found rev _ => h.getLast?.bind Version.rev = some rev

theorem Of.of_isPrefix {h h' : History R V} {r : Reading R V} (hr : r.Of h) (hle : h <+: h') :
    r.Of h' := by
  cases r with
  | absent => trivial
  | found rev value => exact hle.subset hr

end Reading

/-- A write that is admitted was computed from the current value. -/
theorem current_eq_of_admits {h : History R V} (hd : Distinct h) {r : Reading R V} (hr : r.Of h)
    (hadmits : r.Admits h) : current h = r.seen := by
  cases r with
  | absent => exact hadmits
  | found rev value =>
      obtain ⟨last, hlast, hrev⟩ := Option.bind_eq_some_iff.1 hadmits
      obtain rfl := hd.eq_of_rev (List.mem_of_getLast? hlast) hr hrev rfl
      simp [current, hlast, Reading.seen]

/-! ## The register -/

/-- What happens to a register: a writer computes the new value from the old one in one step, and is
    told so or not, or another party changes the value. -/
inductive Change (V : Type*) where
  | modify (i : ℕ) (told : Bool)
  | overwrite (value : Option V)

structure Register (V : Type*) where
  value : Option V
  /-- the writers whose writes went through, with whether they were told -/
  done : List (ℕ × Bool) := []

/-- The writer `i` computes `f i value`. -/
def register (f : ℕ → Option V → V) (value : Option V) :
    TransitionSystem (Register V) (Change V) where
  init := { value }
  step s a := match a with
    | .modify i told => some ⟨some (f i s.value), s.done ++ [(i, told)]⟩
    | .overwrite value => some { s with value }

/-- The value that the writers make of a value, one after the other. -/
def foldWrites (f : ℕ → Option V → V) (value : Option V) (done : List (ℕ × Bool)) : Option V :=
  done.foldl (fun v call => some (f call.1 v)) value

theorem foldWrites_append_singleton (f : ℕ → Option V → V) (value : Option V)
    (done : List (ℕ × Bool)) (call : ℕ × Bool) :
    foldWrites f value (done ++ [call]) = some (f call.1 (foldWrites f value done)) := by
  simp [foldWrites]

end Versions
