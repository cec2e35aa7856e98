import Mathlib.Data.Int.Notation
import Mathlib.Data.List.Perm.Basic
import Mathlib.Tactic.Common

set_option autoImplicit false

/-! # Reference counts

An object with several owners counts its references in an atomic number: an owner adds one before it
hands the object to another owner, and whoever takes the number from one to zero cleans the object
up and deletes it. The decrement and the cleanup are separate steps, between which other threads
run, so a `Counter` also records which threads are in the cleanup.

`Counted` ties the number to the list of the owners. Its rules say that owners come and go in any
order, that there is exactly one cleanup, and that it begins when the last owner is gone. -/

namespace RefCount

variable {θ ω : Type*}

/-- The counter of an object; `θ` are the threads. -/
structure Counter (θ : Type*) where
  refs : ℤ := 1
  /-- the threads that have released the last reference, and have not deleted the object yet -/
  cleaners : List θ := []
  deleted : Bool := false
deriving DecidableEq, Repr

namespace Counter

def ref (c : Counter θ) : Counter θ := { c with refs := c.refs + 1 }

/-- The decrement: who finds more than one reference goes on. -/
def release (c : Counter θ) (t : θ) : Counter θ :=
  { c with
    refs := c.refs - 1
    cleaners := if c.refs > 1 then c.cleaners else t :: c.cleaners }

/-- The end of the cleanup of a thread. -/
def delete [DecidableEq θ] (c : Counter θ) (t : θ) : Counter θ :=
  { c with cleaners := c.cleaners.erase t, deleted := true }

end Counter

/-- The counter counts these owners. -/
structure Counted (c : Counter θ) (owners : List ω) : Prop where
  refs : c.refs = owners.length
  owned : owners ≠ [] → c.cleaners = [] ∧ c.deleted = false
  unowned : owners = [] → (∃ t, c.cleaners = [t] ∧ c.deleted = false) ∨
    c.cleaners = [] ∧ c.deleted = true

namespace Counted

variable {c : Counter θ} {owners owners' : List ω}

/-- The first owner. -/
theorem init (o : ω) : Counted ({} : Counter θ) [o] :=
  ⟨rfl, fun _ => ⟨rfl, rfl⟩, nofun⟩

theorem perm (h : Counted c owners) (hp : owners.Perm owners') : Counted c owners' := by
  have hnil : owners = [] ↔ owners' = [] := by
    rw [← List.length_eq_zero_iff, ← List.length_eq_zero_iff, hp.length_eq]
  exact ⟨hp.length_eq ▸ h.refs, fun hne => h.owned (mt hnil.1 hne), fun he => h.unowned (hnil.2 he)⟩

/-- An owner adds a reference for another one. -/
theorem ref (h : Counted c owners) (hne : owners ≠ []) (o : ω) : Counted c.ref (o :: owners) := by
  refine ⟨?_, fun _ => h.owned hne, nofun⟩
  simp [Counter.ref, h.refs]

/-- An owner releases its reference; the last one goes to the cleanup. -/
theorem release {o : ω} (h : Counted c (o :: owners)) (t : θ) : Counted (c.release t) owners := by
  obtain ⟨hcleaners, hdeleted⟩ := h.owned (List.cons_ne_nil _ _)
  have hrefs : c.refs = owners.length + 1 := by simpa using h.refs
  refine ⟨?_, fun hne => ⟨?_, hdeleted⟩, fun he => .inl ⟨t, ?_, hdeleted⟩⟩
  · simp [Counter.release, hrefs]
  · have hpos := List.length_pos_iff.2 hne
    have hmore : c.refs > 1 := by omega
    simp [Counter.release, hmore, hcleaners]
  · have hlast : ¬ c.refs > 1 := by simp [hrefs, he]
    simp [Counter.release, hlast, hcleaners]

/-- Nobody owns an object that is being cleaned up. -/
theorem eq_nil_of_cleaner {t : θ} (h : Counted c owners) (ht : t ∈ c.cleaners) : owners = [] := by
  by_contra hne
  rw [(h.owned hne).1] at ht
  exact List.not_mem_nil ht

/-- The object is deleted once: whoever is in the cleanup is alone there. -/
theorem not_deleted_of_cleaner {t : θ} (h : Counted c owners) (ht : t ∈ c.cleaners) :
    c.deleted = false := by
  rcases h.unowned (h.eq_nil_of_cleaner ht) with ⟨_, -, hdeleted⟩ | ⟨hcleaners, -⟩
  · exact hdeleted
  · rw [hcleaners] at ht
    exact absurd ht List.not_mem_nil

theorem delete [DecidableEq θ] {t : θ} (h : Counted c owners) (ht : t ∈ c.cleaners) :
    Counted (c.delete t) owners := by
  have hnil := h.eq_nil_of_cleaner ht
  refine ⟨h.refs, fun hne => absurd hnil hne, fun _ => .inr ⟨?_, rfl⟩⟩
  rcases h.unowned hnil with ⟨t', hcleaners, -⟩ | ⟨hcleaners, -⟩
  · rw [hcleaners, List.mem_singleton] at ht
    simp [Counter.delete, hcleaners, ht]
  · simp [Counter.delete, hcleaners]

/-- Without owners and cleanups the object is deleted. -/
theorem deleted_of_unowned (h : Counted c owners) (hnil : owners = [])
    (hcleaners : c.cleaners = []) : c.deleted = true := by
  rcases h.unowned hnil with ⟨t, ht, -⟩ | ⟨-, hdeleted⟩
  · exact absurd (hcleaners.symm.trans ht) nofun
  · exact hdeleted

/-- A deleted object has no owner. -/
theorem eq_nil_of_deleted (h : Counted c owners) (hdeleted : c.deleted = true) : owners = [] := by
  by_contra hne
  exact Bool.noConfusion (hdeleted.symm.trans (h.owned hne).2)

end Counted

/-! ## Numbers of references

Where nobody has to know the owners apart, their number will do. -/

/-- The counter counts `n` references, whoever holds them. -/
def Refs (c : Counter θ) (n : ℕ) : Prop := Counted c (List.replicate n ())

namespace Refs

variable {c : Counter θ} {n : ℕ}

theorem init : Refs ({} : Counter θ) 1 := Counted.init ()

theorem ref (h : Refs c n) (hn : 0 < n) : Refs c.ref (n + 1) :=
  Counted.ref h (by simpa using Nat.ne_of_gt hn) ()

theorem release (h : Refs c (n + 1)) (t : θ) : Refs (c.release t) n := Counted.release h t

theorem delete [DecidableEq θ] {t : θ} (h : Refs c n) (ht : t ∈ c.cleaners) :
    Refs (c.delete t) n :=
  Counted.delete h ht

/-- What is referenced is neither deleted nor in its cleanup. -/
theorem alive (h : Refs c n) (hn : 0 < n) : c.cleaners = [] ∧ c.deleted = false :=
  h.owned (by simpa using Nat.ne_of_gt hn)

theorem eq_zero_of_cleaner {t : θ} (h : Refs c n) (ht : t ∈ c.cleaners) : n = 0 := by
  simpa using h.eq_nil_of_cleaner ht

theorem not_deleted_of_cleaner {t : θ} (h : Refs c n) (ht : t ∈ c.cleaners) : c.deleted = false :=
  Counted.not_deleted_of_cleaner h ht

/-- An object without references whose cleanup is over is deleted. -/
theorem deleted_of_zero (h : Refs c 0) (hcleaners : c.cleaners = []) : c.deleted = true :=
  h.deleted_of_unowned rfl hcleaners

end Refs

end RefCount
