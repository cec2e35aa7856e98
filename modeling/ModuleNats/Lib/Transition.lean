import Mathlib.Data.List.Induction
import Mathlib.Data.Nat.Basic
import Mathlib.Order.Lattice
import Mathlib.Tactic.Common

set_option autoImplicit false

/-! # Transition systems with computed steps

A system is an initial state and a step function `σ → α → Option σ`: every choice that the
scheduler, another thread or the environment makes is part of the action, so the step itself is a
function and concrete runs can be evaluated. `none` means that the action is not possible.

A `Run` carries the proof that each of its actions was possible. The rules that developments over
such systems use are proved here once: the invariant rule, its form for runs whose steps all meet a
condition, the rule for an induction over a run, and the transfer of runs along a refinement. -/

/-- Initial state and step function; an action that is not possible in a state gives `none`. -/
structure TransitionSystem (σ α : Type*) where
  init : σ
  step : σ → α → Option σ

namespace TransitionSystem

variable {σ α τ β : Type*} (M : TransitionSystem σ α)

/-! ## Executing lists of actions -/

/-- The state after the actions of a list, in order. -/
def exec (s : σ) : List α → Option σ
  | [] => some s
  | a :: acts => (M.step s a).bind fun s' => exec s' acts

@[simp] theorem exec_nil (s : σ) : M.exec s [] = some s := rfl

@[simp] theorem exec_cons (s : σ) (a : α) (acts : List α) :
    M.exec s (a :: acts) = (M.step s a).bind fun s' => M.exec s' acts := rfl

theorem exec_append (s : σ) (acts rest : List α) :
    M.exec s (acts ++ rest) = (M.exec s acts).bind fun s' => M.exec s' rest := by
  induction acts generalizing s with
  | nil => rfl
  | cons a acts ih =>
      simp only [List.cons_append, exec_cons]
      cases M.step s a with
      | none => rfl
      | some s' => exact ih s'

theorem exec_snoc (s : σ) (acts : List α) (a : α) :
    M.exec s (acts ++ [a]) = (M.exec s acts).bind fun s' => M.step s' a := by
  rw [exec_append]
  cases M.exec s acts with
  | none => rfl
  | some s' => simp

variable {M}

/-- The first step of a non-empty execution. -/
theorem exec_cons_eq_some {s s' : σ} {a : α} {acts : List α}
    (h : M.exec s (a :: acts) = some s') :
    ∃ mid, M.step s a = some mid ∧ M.exec mid acts = some s' :=
  Option.bind_eq_some_iff.1 h

/-- Invariant rule for an execution from any state: what every action that meets `G` preserves
    holds at the end if it held at the start. -/
theorem exec_invariant {I : σ → Prop} {G : α → Prop}
    (hstep : ∀ s a s', I s → G a → M.step s a = some s' → I s')
    {acts : List α} {s s' : σ} (hs : I s) (hG : ∀ a ∈ acts, G a)
    (h : M.exec s acts = some s') : I s' := by
  induction acts generalizing s with
  | nil => cases h; exact hs
  | cons a acts ih =>
      obtain ⟨mid, hmid, hrest⟩ := exec_cons_eq_some h
      have hI : I mid := hstep s a mid hs (hG a List.mem_cons_self) hmid
      exact ih hI (fun b hb => hG b (List.mem_cons_of_mem _ hb)) hrest

/-! ## Finite runs -/

variable (M)

/-- A run from the initial state, with the proof that every action was possible. -/
structure Run where
  acts : List α
  final : σ
  ok : M.exec M.init acts = some final

/-- The state reached by a list of actions is the run of these actions. -/
def runOf (acts : List α) (h : (M.exec M.init acts).isSome) : M.Run where
  acts := acts
  final := (M.exec M.init acts).get h
  ok := by simp

@[simp] theorem runOf_acts (acts : List α) (h : (M.exec M.init acts).isSome) :
    (M.runOf acts h).acts = acts := rfl

namespace Run

variable {M}

/-- The run that has taken no step. -/
def nil : M.Run := ⟨[], M.init, rfl⟩

/-- The run extended by one possible action. -/
def extend (r : M.Run) (a : α) (s' : σ) (h : M.step r.final a = some s') : M.Run :=
  ⟨r.acts ++ [a], s', by rw [exec_snoc, r.ok]; exact h⟩

/-- The run extended by a possible execution. -/
def append (r : M.Run) (acts : List α) (s' : σ) (h : M.exec r.final acts = some s') : M.Run :=
  ⟨r.acts ++ acts, s', by rw [exec_append, r.ok]; exact h⟩

/-- `r` takes the step from `s` to `s'` by the action `a` somewhere. -/
def Occurs (r : M.Run) (s : σ) (a : α) (s' : σ) : Prop :=
  ∃ before after, r.acts = before ++ a :: after ∧ M.exec M.init before = some s ∧
    M.step s a = some s'

/-- Every step of the run meets the condition `G` on the state before it and its action. -/
def All (r : M.Run) (G : σ → α → Prop) : Prop :=
  ∀ s a s', r.Occurs s a s' → G s a

theorem Occurs.step {r : M.Run} {s s' : σ} {a : α} (h : r.Occurs s a s') :
    M.step s a = some s' := by
  obtain ⟨_, _, _, _, hstep⟩ := h
  exact hstep

/-- The state before a step of a run is itself the end of a run. -/
theorem Occurs.exists_run {r : M.Run} {s s' : σ} {a : α} (h : r.Occurs s a s') :
    ∃ before : M.Run, before.final = s ∧ ∃ after, r.acts = before.acts ++ a :: after := by
  obtain ⟨before, after, hacts, hexec, _⟩ := h
  exact ⟨⟨before, s, hexec⟩, rfl, after, hacts⟩

theorem not_occurs_nil (s : σ) (a : α) (s' : σ) : ¬ (nil : M.Run).Occurs s a s' := by
  rintro ⟨before, after, hacts, _⟩
  exact List.cons_ne_nil _ _ (List.append_eq_nil_iff.1 hacts.symm).2

/-- The steps of an extended run are the old ones and the last one. -/
theorem occurs_extend {r : M.Run} {a : α} {s' : σ} {h : M.step r.final a = some s'}
    {t t' : σ} {b : α} :
    (r.extend a s' h).Occurs t b t' ↔ r.Occurs t b t' ∨ (t = r.final ∧ b = a ∧ t' = s') := by
  constructor
  · rintro ⟨before, after, hacts, hexec, hstep⟩
    rcases List.eq_nil_or_concat after with rfl | ⟨rest, c, rfl⟩
    · obtain ⟨hbefore, hab⟩ := List.append_inj' hacts rfl
      obtain rfl : a = b := by simpa using hab
      rw [← hbefore, r.ok] at hexec
      obtain rfl : r.final = t := Option.some.inj hexec
      exact Or.inr ⟨rfl, rfl, Option.some.inj (hstep.symm.trans h)⟩
    · refine Or.inl ⟨before, rest, ?_, hexec, hstep⟩
      have hcut : r.acts ++ [a] = (before ++ b :: rest) ++ [c] := by
        simpa [extend, List.append_assoc] using hacts
      exact (List.append_inj' hcut rfl).1
  · rintro (⟨before, after, hacts, hexec, hstep⟩ | ⟨rfl, rfl, rfl⟩)
    · exact ⟨before, after ++ [a], by simp [extend, hacts], hexec, hstep⟩
    · exact ⟨r.acts, [], rfl, r.ok, h⟩

theorem all_extend {r : M.Run} {a : α} {s' : σ} {h : M.step r.final a = some s'}
    {G : σ → α → Prop} : (r.extend a s' h).All G ↔ r.All G ∧ G r.final a := by
  constructor
  · intro hall
    exact ⟨fun t b t' ht => hall t b t' (occurs_extend.2 (Or.inl ht)),
      hall _ _ _ (occurs_extend.2 (Or.inr ⟨rfl, rfl, rfl⟩))⟩
  · rintro ⟨hall, hlast⟩ t b t' ht
    rcases occurs_extend.1 ht with hold | ⟨rfl, rfl, rfl⟩
    · exact hall t b t' hold
    · exact hlast

/-- Induction over a run by its last step. -/
theorem induction {P : M.Run → Prop} (nil : P nil)
    (extend : ∀ (r : M.Run) a s' (h : M.step r.final a = some s'), P r → P (r.extend a s' h))
    (r : M.Run) : P r := by
  obtain ⟨acts, final, ok⟩ := r
  induction acts using List.reverseRecOn generalizing final with
  | nil =>
      obtain rfl : M.init = final := Option.some.inj ok
      exact nil
  | append_singleton acts a ih =>
      rw [exec_snoc] at ok
      obtain ⟨s, hs, hstep⟩ := Option.bind_eq_some_iff.1 ok
      exact extend ⟨acts, s, hs⟩ a final hstep (ih s hs)

/-- Invariant rule: what holds initially and is preserved by every step holds at the end of every
    run. -/
theorem invariant {I : σ → Prop} (init : I M.init)
    (step : ∀ s a s', I s → M.step s a = some s' → I s') (r : M.Run) : I r.final := by
  induction r using Run.induction with
  | nil => exact init
  | extend r a s' h ih => exact step _ a s' ih h

/-- Invariant rule for runs whose steps all meet a condition. -/
theorem invariant_of_all {I : σ → Prop} {G : σ → α → Prop} (init : I M.init)
    (step : ∀ s a s', I s → G s a → M.step s a = some s' → I s') (r : M.Run) (h : r.All G) :
    I r.final := by
  induction r using Run.induction with
  | nil => exact init
  | extend r a s' hs ih =>
      obtain ⟨hall, hlast⟩ := all_extend.1 h
      exact step _ a s' (ih hall) hlast hs

/-- The condition `G` on the steps of an execution, as a computation. -/
def AllFrom (M : TransitionSystem σ α) (G : σ → α → Prop) (s : σ) : List α → Prop
  | [] => True
  | a :: acts => G s a ∧ (match M.step s a with
      | some s' => AllFrom M G s' acts
      | none => True)

instance decidableAllFrom (M : TransitionSystem σ α) (G : σ → α → Prop) [∀ s a, Decidable (G s a)] :
    ∀ s acts, Decidable (AllFrom M G s acts)
  | _, [] => isTrue trivial
  | s, a :: acts => by
      have hrest : Decidable (match M.step s a with
          | some s' => AllFrom M G s' acts
          | none => True) := by
        cases M.step s a with
        | some s' => exact decidableAllFrom M G s' acts
        | none => exact isTrue trivial
      exact inferInstanceAs (Decidable (_ ∧ _))

theorem all_of_allFrom {G : σ → α → Prop} (r : M.Run) (h : AllFrom M G M.init r.acts) :
    r.All G := by
  have hfrom : ∀ (before after : List α) (a : α) (t s : σ), AllFrom M G t (before ++ a :: after) →
      M.exec t before = some s → G s a := by
    intro before
    induction before with
    | nil => intro after a t s hall hexec; cases hexec; exact hall.1
    | cons b before ih =>
        intro after a t s hall hexec
        obtain ⟨mid, hmid, hrest⟩ := exec_cons_eq_some hexec
        have htail := hall.2
        rw [hmid] at htail
        exact ih after a mid s htail hrest
  rintro s a s' ⟨before, after, hacts, hexec, _⟩
  exact hfrom before after a M.init s (hacts ▸ h) hexec

/-- The run comes through the state `s`. -/
def Reached (r : M.Run) (s : σ) : Prop :=
  ∃ before after, r.acts = before ++ after ∧ M.exec M.init before = some s

/-- The run comes through the states before and after each of its steps. -/
theorem Occurs.reached {r : M.Run} {s s' : σ} {a : α} (h : r.Occurs s a s') :
    r.Reached s ∧ r.Reached s' := by
  obtain ⟨before, after, hacts, hexec, hstep⟩ := h
  refine ⟨⟨before, a :: after, hacts, hexec⟩, before ++ [a], after, by simp [hacts], ?_⟩
  rw [exec_snoc, hexec]
  exact hstep

/-- A condition on the steps of a run holds on the steps of every earlier part of it. -/
theorem All.of_prefix {r before : M.Run} {rest : List α} {G : σ → α → Prop}
    (hacts : r.acts = before.acts ++ rest) (h : r.All G) : before.All G := by
  rintro s a s' ⟨pre, post, hpre, hexec, hstep⟩
  exact h s a s' ⟨pre, post ++ rest, by simp [hacts, hpre], hexec, hstep⟩

/-- Invariant rule for the states that a run comes through, if its steps all meet a condition. -/
theorem reached_invariant_of_all {I : σ → Prop} {G : σ → α → Prop} (init : I M.init)
    (step : ∀ s a s', I s → G s a → M.step s a = some s' → I s') {r : M.Run} (h : r.All G) {s : σ}
    (hs : r.Reached s) : I s := by
  obtain ⟨before, after, hacts, hexec⟩ := hs
  exact invariant_of_all init step ⟨before, s, hexec⟩ (h.of_prefix hacts)

end Run

/-! ## What the steps of a run put out -/

section Outputs

variable {M} {γ : Type*}

/-- What the actions of a list put out, in order: an action `a` in a state `s` puts out
    `out s a`. -/
def outputs (M : TransitionSystem σ α) (out : σ → α → List γ) (s : σ) : List α → List γ
  | [] => []
  | a :: acts => match M.step s a with
      | some s' => out s a ++ outputs M out s' acts
      | none => []

/-- What a run has put out. -/
def Run.outputs (out : σ → α → List γ) (r : M.Run) : List γ :=
  M.outputs out M.init r.acts

variable {out : σ → α → List γ}

theorem outputs_cons {s s' : σ} {a : α} (h : M.step s a = some s') (acts : List α) :
    M.outputs out s (a :: acts) = out s a ++ M.outputs out s' acts := by
  simp [outputs, h]

theorem outputs_append {s s' : σ} {acts : List α} (h : M.exec s acts = some s')
    (rest : List α) :
    M.outputs out s (acts ++ rest) = M.outputs out s acts ++ M.outputs out s' rest := by
  induction acts generalizing s with
  | nil => cases h; rfl
  | cons a acts ih =>
      obtain ⟨mid, hmid, hrest⟩ := exec_cons_eq_some h
      rw [List.cons_append, outputs_cons hmid, outputs_cons hmid, ih hrest, List.append_assoc]

theorem Run.outputs_extend {r : M.Run} {a : α} {s' : σ} {h : M.step r.final a = some s'} :
    (r.extend a s' h).outputs out = r.outputs out ++ out r.final a := by
  simp only [Run.outputs, extend, outputs_append r.ok, outputs_cons h]
  simp [TransitionSystem.outputs]

/-- What is put out is bounded by a quantity of the state that every step pays for. -/
theorem length_outputs_le {I : σ → Prop} {budget : σ → ℕ}
    (hstep : ∀ s a s', I s → M.step s a = some s' →
      I s' ∧ (out s a).length + budget s' ≤ budget s)
    {s : σ} (hs : I s) (acts : List α) : (M.outputs out s acts).length ≤ budget s := by
  induction acts generalizing s with
  | nil => exact Nat.zero_le _
  | cons a acts ih =>
      cases h : M.step s a with
      | none => simp [TransitionSystem.outputs, h]
      | some s' =>
          obtain ⟨hs', hpay⟩ := hstep s a s' hs h
          rw [outputs_cons h, List.length_append]
          exact (Nat.add_le_add_left (ih hs') _).trans hpay

end Outputs

/-! ## Refinement -/

/-- `N` follows `M`: every step of `M` from a state that meets the invariant `inv` is, seen through
    `abs`, the execution of some actions of `N`. -/
structure Refinement (N : TransitionSystem τ β) where
  inv : σ → Prop
  abs : σ → τ
  acts : σ → α → List β
  inv_init : inv M.init
  inv_step : ∀ s a s', inv s → M.step s a = some s' → inv s'
  init : abs M.init = N.init
  step : ∀ s a s', inv s → M.step s a = some s' → N.exec (abs s) (acts s a) = some (abs s')

/-- A run of the finer system is a run of the coarser one. -/
theorem Refinement.exists_run {M : TransitionSystem σ α} {N : TransitionSystem τ β}
    (R : M.Refinement N) (r : M.Run) : ∃ q : N.Run, q.final = R.abs r.final := by
  induction r using Run.induction with
  | nil => exact ⟨Run.nil, R.init.symm⟩
  | extend r a s' h ih =>
      obtain ⟨q, hq⟩ := ih
      have hstep : N.exec q.final (R.acts r.final a) = some (R.abs s') := by
        rw [hq]; exact R.step _ a s' (r.invariant R.inv_init R.inv_step) h
      exact ⟨q.append _ _ hstep, rfl⟩

/-- Invariants of the coarser system hold of what `abs` shows of the finer one. -/
theorem Refinement.invariant {M : TransitionSystem σ α} {N : TransitionSystem τ β}
    (R : M.Refinement N) {I : τ → Prop} (hI : ∀ q : N.Run, I q.final) (r : M.Run) :
    I (R.abs r.final) := by
  obtain ⟨q, hq⟩ := R.exists_run r
  exact hq ▸ hI q

end TransitionSystem
