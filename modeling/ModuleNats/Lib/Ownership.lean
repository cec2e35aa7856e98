import Mathlib.Data.List.Count
import Mathlib.Data.List.Perm.Basic
import Mathlib.Tactic.Common

set_option autoImplicit false

/-! # Ownership of resources that are released by hand

A program that acquires objects from a library and must hand each back exactly once leaves a log of
operations on them: `acquire`, `use`, `release`. `Legal` says of a log (newest operation first)
what manual memory management promises step by step: an object is acquired once, and used or
released only while it is live. The consequences for a whole log are proved here: no operation on an
object follows its release, no object is released twice, and an object that is no longer live has
been released exactly once.

A program's state keeps its objects in several places; `Owns` ties the list of all of them to the
log, and the rules below say how it changes when objects move, are acquired, read or released. -/

namespace Ownership

variable {ι : Type*}

/-- One operation on an object. -/
inductive Op (ι : Type*) where
  | acquire (i : ι)
  | use (i : ι)
  | release (i : ι)
deriving DecidableEq, Repr

/-- The object an operation is on. -/
def Op.object : Op ι → ι
  | .acquire i | .use i | .release i => i

/-- Acquired and not yet released. -/
def Live (log : List (Op ι)) (i : ι) : Prop :=
  Op.acquire i ∈ log ∧ Op.release i ∉ log

/-- The log of a program that acquires each object once and touches it only while it is live. -/
inductive Legal : List (Op ι) → Prop where
  | nil : Legal []
  | acquire {log : List (Op ι)} {i : ι} :
      Legal log → Op.acquire i ∉ log → Legal (.acquire i :: log)
  | use {log : List (Op ι)} {i : ι} : Legal log → Live log i → Legal (.use i :: log)
  | release {log : List (Op ι)} {i : ι} : Legal log → Live log i → Legal (.release i :: log)

/-! ## What a legal log promises -/

/-- Only acquired objects are touched. -/
theorem Legal.acquired {log : List (Op ι)} (h : Legal log) {op : Op ι} (hop : op ∈ log) :
    Op.acquire op.object ∈ log := by
  induction h with
  | nil => cases hop
  | acquire _ _ ih =>
      rcases List.mem_cons.1 hop with rfl | hop
      · exact List.mem_cons_self
      · exact List.mem_cons_of_mem _ (ih hop)
  | use _ hlive ih =>
      rcases List.mem_cons.1 hop with rfl | hop
      · exact List.mem_cons_of_mem _ hlive.1
      · exact List.mem_cons_of_mem _ (ih hop)
  | release _ hlive ih =>
      rcases List.mem_cons.1 hop with rfl | hop
      · exact List.mem_cons_of_mem _ hlive.1
      · exact List.mem_cons_of_mem _ (ih hop)

/-- An object that was not acquired has no operation in the log. -/
theorem Legal.not_mem_of_fresh {log : List (Op ι)} (h : Legal log) {i : ι}
    (hi : Op.acquire i ∉ log) {op : Op ι} (hop : op ∈ log) : op.object ≠ i := by
  rintro rfl
  exact hi (h.acquired hop)

/-- No operation on an object follows its release. -/
theorem Legal.untouched_after_release {newer older : List (Op ι)} {i : ι}
    (h : Legal (newer ++ .release i :: older)) : ∀ op ∈ newer, op.object ≠ i := by
  induction newer with
  | nil => intro op hop; cases hop
  | cons op newer ih =>
      have hmem : Op.release i ∈ newer ++ .release i :: older := by simp
      intro op' hop'
      cases h with
      | acquire hlog hfresh =>
          rcases List.mem_cons.1 hop' with rfl | hop'
          · exact fun hi => hlog.not_mem_of_fresh hfresh hmem hi.symm
          · exact ih hlog op' hop'
      | use hlog hlive =>
          rcases List.mem_cons.1 hop' with rfl | hop'
          · rintro rfl; exact hlive.2 hmem
          · exact ih hlog op' hop'
      | release hlog hlive =>
          rcases List.mem_cons.1 hop' with rfl | hop'
          · rintro rfl; exact hlive.2 hmem
          · exact ih hlog op' hop'

/-- No object is released twice. -/
theorem Legal.count_release_le_one [DecidableEq ι] {log : List (Op ι)} (h : Legal log) (i : ι) :
    log.count (.release i) ≤ 1 := by
  induction h with
  | nil => simp
  | acquire _ _ ih => simpa [List.count_cons] using ih
  | use _ _ ih => simpa [List.count_cons] using ih
  | @release log j _ hlive ih =>
      by_cases hij : j = i
      · subst hij
        simp [List.count_eq_zero_of_not_mem hlive.2]
      · simpa [List.count_cons, hij] using ih

/-- An acquired object that is not live has been released exactly once. -/
theorem Legal.released_once [DecidableEq ι] {log : List (Op ι)} (h : Legal log) {i : ι}
    (hi : Op.acquire i ∈ log) (hdead : ¬ Live log i) : log.count (.release i) = 1 := by
  have hmem : Op.release i ∈ log := by
    by_contra hnot
    exact hdead ⟨hi, hnot⟩
  have hpos : 0 < log.count (.release i) := List.count_pos_iff.2 hmem
  have hle : log.count (.release i) ≤ 1 := h.count_release_le_one i
  omega

/-! ## How liveness changes -/

theorem live_acquire {log : List (Op ι)} (h : Legal log) {i : ι} (hi : Op.acquire i ∉ log) (j : ι) :
    Live (.acquire i :: log) j ↔ j = i ∨ Live log j := by
  constructor
  · rintro ⟨hacq, hrel⟩
    rcases List.mem_cons.1 hacq with heq | hacq
    · exact Or.inl (by simpa using heq)
    · exact Or.inr ⟨hacq, fun hr => hrel (List.mem_cons_of_mem _ hr)⟩
  · rintro (rfl | ⟨hacq, hrel⟩)
    · refine ⟨List.mem_cons_self, fun hr => ?_⟩
      rcases List.mem_cons.1 hr with heq | hr
      · cases heq
      · exact hi (h.acquired hr)
    · exact ⟨List.mem_cons_of_mem _ hacq, by simpa using hrel⟩

theorem live_use {log : List (Op ι)} {i : ι} (j : ι) :
    Live (.use i :: log) j ↔ Live log j := by
  simp [Live]

theorem live_release {log : List (Op ι)} {i : ι} (j : ι) :
    Live (.release i :: log) j ↔ Live log j ∧ j ≠ i := by
  simp only [Live, List.mem_cons, reduceCtorEq, false_or, not_or, Op.release.injEq]
  tauto

/-! ## The owner's list -/

/-- The objects of `held` are live, and each is held in one place only. -/
structure Owns (log : List (Op ι)) (held : List ι) : Prop where
  legal : Legal log
  live : ∀ i ∈ held, Live log i
  nodup : held.Nodup

/-- Every live object is held: nothing has been lost. -/
def NothingLost (log : List (Op ι)) (held : List ι) : Prop :=
  ∀ i, Live log i → i ∈ held

theorem owns_nil : Owns ([] : List (Op ι)) [] :=
  ⟨.nil, fun _ h => absurd h List.not_mem_nil, List.nodup_nil⟩

theorem nothingLost_nil : NothingLost ([] : List (Op ι)) [] :=
  fun _ h => absurd h.1 List.not_mem_nil

/-- Objects may move between places. -/
theorem Owns.perm {log : List (Op ι)} {held held' : List ι} (h : Owns log held)
    (hp : held'.Perm held) : Owns log held' :=
  ⟨h.legal, fun i hi => h.live i (hp.mem_iff.1 hi), hp.nodup_iff.2 h.nodup⟩

theorem NothingLost.perm {log : List (Op ι)} {held held' : List ι} (h : NothingLost log held)
    (hp : held'.Perm held) : NothingLost log held' :=
  fun i hi => hp.mem_iff.2 (h i hi)

/-- Dropping an object without releasing it loses it, but keeps the rest in order. -/
theorem Owns.sublist {log : List (Op ι)} {held held' : List ι} (h : Owns log held)
    (hs : held'.Sublist held) : Owns log held' :=
  ⟨h.legal, fun i hi => h.live i (hs.subset hi), h.nodup.sublist hs⟩

theorem Owns.acquire {log : List (Op ι)} {held : List ι} (h : Owns log held) {i : ι}
    (hi : Op.acquire i ∉ log) : Owns (.acquire i :: log) (i :: held) := by
  refine ⟨.acquire h.legal hi, fun j hj => ?_, List.nodup_cons.2 ⟨fun hmem => ?_, h.nodup⟩⟩
  · rw [live_acquire h.legal hi]
    exact (List.mem_cons.1 hj).imp id (h.live j)
  · exact hi (h.live i hmem).1

theorem NothingLost.acquire {log : List (Op ι)} {held : List ι} (h : NothingLost log held)
    (hlegal : Legal log) {i : ι} (hi : Op.acquire i ∉ log) :
    NothingLost (.acquire i :: log) (i :: held) := by
  intro j hj
  rcases (live_acquire hlegal hi j).1 hj with rfl | hj
  · exact List.mem_cons_self
  · exact List.mem_cons_of_mem _ (h j hj)

theorem Owns.use {log : List (Op ι)} {held : List ι} (h : Owns log held) {i : ι}
    (hi : i ∈ held) : Owns (.use i :: log) held :=
  ⟨.use h.legal (h.live i hi), fun j hj => (live_use j).2 (h.live j hj), h.nodup⟩

theorem NothingLost.use {log : List (Op ι)} {held : List ι} (h : NothingLost log held) (i : ι) :
    NothingLost (.use i :: log) held :=
  fun j hj => h j ((live_use j).1 hj)

theorem Owns.release {log : List (Op ι)} {held : List ι} {i : ι} (h : Owns log (i :: held)) :
    Owns (.release i :: log) held := by
  obtain ⟨hnot, hnodup⟩ := List.nodup_cons.1 h.nodup
  refine ⟨.release h.legal (h.live i List.mem_cons_self), fun j hj => ?_, hnodup⟩
  rw [live_release]
  exact ⟨h.live j (List.mem_cons_of_mem _ hj), fun hji => hnot (hji ▸ hj)⟩

theorem NothingLost.release {log : List (Op ι)} {held : List ι} {i : ι}
    (h : NothingLost log (i :: held)) : NothingLost (.release i :: log) held := by
  intro j hj
  obtain ⟨hlive, hne⟩ := (live_release j).1 hj
  exact (List.mem_cons.1 (h j hlive)).resolve_left hne

/-- Releasing a list of held objects, one after the other. -/
theorem Owns.releaseAll {log : List (Op ι)} {held : List ι} (gone : List ι)
    (h : Owns log (gone ++ held)) : Owns ((gone.map Op.release).reverse ++ log) held := by
  induction gone generalizing log with
  | nil => exact h
  | cons i gone ih =>
      rw [List.map_cons, List.reverse_cons, List.append_assoc]
      exact ih h.release

theorem NothingLost.releaseAll {log : List (Op ι)} {held : List ι} (gone : List ι)
    (h : NothingLost log (gone ++ held)) :
    NothingLost ((gone.map Op.release).reverse ++ log) held := by
  induction gone generalizing log with
  | nil => exact h
  | cons i gone ih =>
      rw [List.map_cons, List.reverse_cons, List.append_assoc]
      exact ih h.release

/-- Acquiring a list of new objects. -/
theorem Owns.acquireAll {log : List (Op ι)} {held : List ι} (new : List ι) (h : Owns log held)
    (hfresh : ∀ i ∈ new, Op.acquire i ∉ log) (hnodup : new.Nodup) :
    Owns ((new.map Op.acquire).reverse ++ log) (new ++ held) := by
  induction new generalizing log held with
  | nil => exact h
  | cons i new ih =>
      obtain ⟨hnot, hnodup⟩ := List.nodup_cons.1 hnodup
      have hnew : ∀ j ∈ new, Op.acquire j ∉ .acquire i :: log := by
        intro j hj hmem
        rcases List.mem_cons.1 hmem with heq | hmem
        · exact hnot (Op.acquire.inj heq ▸ hj)
        · exact hfresh j (List.mem_cons_of_mem _ hj) hmem
      rw [List.map_cons, List.reverse_cons, List.append_assoc]
      exact (ih (h.acquire (hfresh i List.mem_cons_self)) hnew hnodup).perm
        List.perm_middle.symm

theorem NothingLost.acquireAll {log : List (Op ι)} {held : List ι} (new : List ι)
    (h : NothingLost log held) :
    NothingLost ((new.map Op.acquire).reverse ++ log) (new ++ held) := by
  rintro i ⟨hacq, hrel⟩
  rcases List.mem_append.1 hacq with hacq | hacq
  · obtain ⟨j, hj, heq⟩ := List.mem_map.1 (List.mem_reverse.1 hacq)
    exact List.mem_append_left _ (Op.acquire.inj heq ▸ hj)
  · exact List.mem_append_right _ (h i ⟨hacq, fun hr => hrel (List.mem_append_right _ hr)⟩)

/-- Using a list of held objects, one after the other. -/
theorem Owns.useAll {log : List (Op ι)} {held : List ι} (used : List ι) (h : Owns log held)
    (hused : ∀ i ∈ used, i ∈ held) : Owns ((used.map Op.use).reverse ++ log) held := by
  induction used generalizing log with
  | nil => exact h
  | cons i used ih =>
      rw [List.map_cons, List.reverse_cons, List.append_assoc]
      exact ih (h.use (hused i List.mem_cons_self)) fun j hj => hused j (List.mem_cons_of_mem _ hj)

theorem NothingLost.useAll {log : List (Op ι)} {held : List ι} (used : List ι)
    (h : NothingLost log held) : NothingLost ((used.map Op.use).reverse ++ log) held := by
  induction used generalizing log with
  | nil => exact h
  | cons i used ih =>
      rw [List.map_cons, List.reverse_cons, List.append_assoc]
      exact ih (h.use i)

/-! ## Places that hold objects -/

/-- Changing one place of a table exchanges what it holds. -/
theorem exists_perm_filterMap_set {κ : Type*} (f : κ → Option ι) {l : List κ} {n : ℕ} {a : κ}
    (h : l[n]? = some a) (b : κ) :
    ∃ rest, (l.filterMap f).Perm ((f a).toList ++ rest) ∧
      ((l.set n b).filterMap f).Perm ((f b).toList ++ rest) := by
  obtain ⟨hn, rfl⟩ := List.getElem?_eq_some_iff.1 h
  have hcons : ∀ (c : κ) (rest : List κ),
      (c :: rest).filterMap f = (f c).toList ++ rest.filterMap f := by
    intro c rest
    cases hc : f c <;> simp [hc]
  refine ⟨(l.eraseIdx n).filterMap f, ?_, ?_⟩
  · rw [← hcons]
    exact (List.getElem_cons_eraseIdx_perm hn).symm.filterMap _
  · rw [← hcons]
    exact (List.set_perm_cons_eraseIdx hn b).filterMap _

/-! ## One step of a program -/

/-- What a step of the program does with the objects it holds: they move, one of them is released
    after some uses of it, or a new one is received (and kept, or refused at once). -/
inductive Moves (log : List (Op ι)) (held : List ι) : List (Op ι) → List ι → Prop where
  | keep {log' held'} (hlog : log' = log) (hp : held'.Perm held) : Moves log held log' held'
  | consume {log' held'} (i : ι) (uses : List (Op ι)) (huses : ∀ op ∈ uses, op = .use i)
      (hlog : log' = .release i :: (uses ++ log)) (hp : held.Perm (i :: held')) :
      Moves log held log' held'
  | receive {log' held'} (i : ι) (hfresh : Op.acquire i ∉ log)
      (hlog : log' = .use i :: .acquire i :: log) (hp : held'.Perm (i :: held)) :
      Moves log held log' held'
  | refuse {log' held'} (i : ι) (hfresh : Op.acquire i ∉ log)
      (hlog : log' = .release i :: .use i :: .acquire i :: log) (hp : held'.Perm held) :
      Moves log held log' held'

theorem Owns.uses {log : List (Op ι)} {held : List ι} {i : ι} (h : Owns log held) (hi : i ∈ held) :
    ∀ uses : List (Op ι), (∀ op ∈ uses, op = .use i) → Owns (uses ++ log) held
  | [], _ => h
  | op :: uses, huses => by
      obtain rfl : op = .use i := huses op List.mem_cons_self
      exact (h.uses hi uses fun op hop => huses op (List.mem_cons_of_mem _ hop)).use hi

theorem NothingLost.uses {log : List (Op ι)} {held : List ι} {i : ι} (h : NothingLost log held) :
    ∀ uses : List (Op ι), (∀ op ∈ uses, op = .use i) → NothingLost (uses ++ log) held
  | [], _ => h
  | op :: uses, huses => by
      obtain rfl : op = .use i := huses op List.mem_cons_self
      exact (h.uses uses fun op hop => huses op (List.mem_cons_of_mem _ hop)).use i

theorem Owns.moves {log log' : List (Op ι)} {held held' : List ι} (h : Owns log held)
    (hm : Moves log held log' held') : Owns log' held' := by
  cases hm with
  | keep hlog hp => rw [hlog]; exact h.perm hp
  | consume i uses huses hlog hp =>
      rw [hlog]
      exact ((h.perm hp.symm).uses List.mem_cons_self uses huses).release
  | receive i hfresh hlog hp =>
      rw [hlog]
      exact ((h.acquire hfresh).use List.mem_cons_self).perm hp
  | refuse i hfresh hlog hp =>
      rw [hlog]
      exact ((h.acquire hfresh).use List.mem_cons_self).release.perm hp

theorem NothingLost.moves {log log' : List (Op ι)} {held held' : List ι}
    (h : NothingLost log held) (howns : Owns log held) (hm : Moves log held log' held') :
    NothingLost log' held' := by
  cases hm with
  | keep hlog hp => rw [hlog]; exact h.perm hp
  | consume i uses huses hlog hp =>
      rw [hlog]
      exact ((h.perm hp.symm).uses uses huses).release
  | receive i hfresh hlog hp =>
      rw [hlog]
      exact ((h.acquire howns.legal hfresh).use i).perm hp
  | refuse i hfresh hlog hp =>
      rw [hlog]
      exact ((h.acquire howns.legal hfresh).use i).release.perm hp

/-! ## The end of a program -/

/-- An acquired object is either held or has been released exactly once. -/
theorem Owns.released_once_iff [DecidableEq ι] {log : List (Op ι)} {held : List ι}
    (h : Owns log held) (hlost : NothingLost log held) {i : ι} (hi : Op.acquire i ∈ log) :
    log.count (.release i) = 1 ↔ i ∉ held := by
  constructor
  · intro hcount hmem
    exact (h.live i hmem).2 (List.count_pos_iff.1 (by omega))
  · intro hnot
    exact h.legal.released_once hi fun hlive => hnot (hlost i hlive)

end Ownership
