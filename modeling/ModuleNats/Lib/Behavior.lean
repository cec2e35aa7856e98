import Mathlib.Data.List.Basic
import ModuleNats.Lib.Transition

set_option autoImplicit false

/-! # Infinite behaviors of transition systems

A `Behavior` is an infinite run, which may idle. What holds at the end of every run holds at every
moment of a behavior. The rules of this module are those that a development needs to show that
something does or does not happen in the end: the ranking rule for progress under fair scheduling,
and the construction of a behavior that goes round a cycle for ever. -/

namespace TransitionSystem

variable {σ α : Type*} (M : TransitionSystem σ α)

/-! ## Infinite behaviors -/

/-- The actions of the first `n` moments of a schedule; `none` is a moment in which nothing
    happens. -/
def scheduled (act : ℕ → Option α) (n : ℕ) : List α := (List.range n).filterMap act

theorem scheduled_succ (act : ℕ → Option α) (n : ℕ) :
    scheduled act (n + 1) = scheduled act n ++ (act n).toList := by
  cases h : act n <;> simp [scheduled, List.range_succ, List.filterMap_append, h]

/-- An infinite run; `act n = none` is a moment in which nothing happens. -/
structure Behavior where
  state : ℕ → σ
  act : ℕ → Option α
  start : state 0 = M.init
  next : ∀ n, match act n with
    | some a => M.step (state n) a = some (state (n + 1))
    | none => state (n + 1) = state n

namespace Behavior

variable {M}

theorem step_of_act (b : M.Behavior) {n : ℕ} {a : α} (h : b.act n = some a) :
    M.step (b.state n) a = some (b.state (n + 1)) := by
  have hn := b.next n
  rw [h] at hn
  exact hn

theorem idle_of_act (b : M.Behavior) {n : ℕ} (h : b.act n = none) :
    b.state (n + 1) = b.state n := by
  have hn := b.next n
  rw [h] at hn
  exact hn

/-- One moment of a behavior: nothing, or a step. -/
theorem step_cases (b : M.Behavior) (n : ℕ) :
    b.state (n + 1) = b.state n ∨
      ∃ a, b.act n = some a ∧ M.step (b.state n) a = some (b.state (n + 1)) := by
  cases hact : b.act n with
  | none => exact Or.inl (b.idle_of_act hact)
  | some a => exact Or.inr ⟨a, rfl, b.step_of_act hact⟩

theorem exec_scheduled (b : M.Behavior) (n : ℕ) :
    M.exec M.init (scheduled b.act n) = some (b.state n) := by
  induction n with
  | zero => simp [scheduled, b.start]
  | succ n ih =>
      rw [scheduled_succ]
      cases hact : b.act n with
      | none => simp [ih, b.idle_of_act hact]
      | some a => rw [Option.toList_some, exec_snoc, ih]; exact b.step_of_act hact

/-- The first `n` moments of a behavior as a run. -/
def take (b : M.Behavior) (n : ℕ) : M.Run := ⟨scheduled b.act n, b.state n, b.exec_scheduled n⟩

/-- What holds at the end of every run holds at every moment of a behavior. -/
theorem invariant {I : σ → Prop} (hI : ∀ r : M.Run, I r.final) (b : M.Behavior) (n : ℕ) :
    I (b.state n) := hI (b.take n)

/-- Invariant rule for behaviors whose actions all meet a condition. -/
theorem invariant_of_acts {I : σ → Prop} {G : α → Prop} (init : I M.init)
    (step : ∀ s a s', I s → G a → M.step s a = some s' → I s') (b : M.Behavior)
    (hacts : ∀ n a, b.act n = some a → G a) (n : ℕ) : I (b.state n) := by
  induction n with
  | zero => rw [b.start]; exact init
  | succ n ih =>
      rcases b.step_cases n with hidle | ⟨a, hact, hs⟩
      · rw [hidle]; exact ih
      · exact step _ a _ ih (hacts n a hact) hs

/-- Invariant rule for behaviors whose steps all meet a condition. -/
theorem invariant_of_steps {I : σ → Prop} {G : σ → α → Prop} (init : I M.init)
    (step : ∀ s a s', I s → G s a → M.step s a = some s' → I s') (b : M.Behavior)
    (hsteps : ∀ n a, b.act n = some a → G (b.state n) a) (n : ℕ) : I (b.state n) := by
  induction n with
  | zero => rw [b.start]; exact init
  | succ n ih =>
      rcases b.step_cases n with hidle | ⟨a, hact, hs⟩
      · rw [hidle]; exact ih
      · exact step _ a _ ih (hsteps n a hact) hs

/-- What every step preserves holds from any moment on at which it holds. -/
theorem stable {I : σ → Prop} (hstep : ∀ s a s', I s → M.step s a = some s' → I s')
    (b : M.Behavior) {n k : ℕ} (hnk : n ≤ k) (hn : I (b.state n)) : I (b.state k) := by
  induction k, hnk using Nat.le_induction with
  | base => exact hn
  | succ k _ ih =>
      rcases b.step_cases k with hidle | ⟨a, _, hs⟩
      · rw [hidle]; exact ih
      · exact hstep _ a _ ih hs

/-- What does not hold at one moment and holds later is brought about by some step in between. -/
theorem exists_step_into (b : M.Behavior) {P : σ → Prop} {m n : ℕ} (hm : ¬ P (b.state m))
    (hmn : m ≤ n) (hn : P (b.state n)) :
    ∃ k a, m ≤ k ∧ k < n ∧ b.act k = some a ∧ ¬ P (b.state k) ∧ P (b.state (k + 1)) := by
  induction n, hmn using Nat.le_induction with
  | base => exact absurd hn hm
  | succ n hmn ih =>
      by_cases hbefore : P (b.state n)
      · obtain ⟨k, a, hmk, hk, hact, hinto⟩ := ih hbefore
        exact ⟨k, a, hmk, hk.trans n.lt_succ_self, hact, hinto⟩
      · rcases b.step_cases n with hidle | ⟨a, hact, -⟩
        · exact absurd (hidle ▸ hn) hbefore
        · exact ⟨n, a, hmn, n.lt_succ_self, hact, hbefore, hn⟩

/-! ## Progress -/

/-- The actions for which `T` holds are taken again and again as long as `goal` does not hold:
    the thread `T` is scheduled, and no wait of it lasts for ever. -/
def Progresses (b : M.Behavior) (T : α → Prop) (goal : σ → Prop) : Prop :=
  ∀ n, ¬ goal (b.state n) → ∃ k a, n ≤ k ∧ b.act k = some a ∧ T a

/-- Ranking rule: if, from a moment on, every action of a progressing thread lowers a rank that the
    other actions do not raise, the goal is reached. -/
theorem exists_goal_of_rank {T : α → Prop} {goal : σ → Prop} (b : M.Behavior)
    (hprog : b.Progresses T goal) (rank : σ → ℕ) (start : ℕ)
    (hother : ∀ n, start ≤ n → ¬ goal (b.state n) → rank (b.state (n + 1)) ≤ rank (b.state n))
    (hthread : ∀ n a, start ≤ n → ¬ goal (b.state n) → b.act n = some a → T a →
      goal (b.state (n + 1)) ∨ rank (b.state (n + 1)) < rank (b.state n)) :
    ∃ n, start ≤ n ∧ goal (b.state n) := by
  by_contra hnever
  push Not at hnever
  have hmono : ∀ n k, start ≤ n → n ≤ k → rank (b.state k) ≤ rank (b.state n) := by
    intro n k hn hnk
    induction k, hnk using Nat.le_induction with
    | base => exact le_rfl
    | succ k hk ih =>
        exact (hother k (hn.trans hk) (hnever k (hn.trans hk))).trans ih
  -- the thread takes a step after every moment, and each lowers the rank
  have hlower : ∀ n, start ≤ n → ∃ k, n ≤ k ∧ rank (b.state k) < rank (b.state n) := by
    intro n hn
    obtain ⟨k, a, hk, hact, hT⟩ := hprog n (hnever n hn)
    have hsk : start ≤ k := hn.trans hk
    rcases hthread k a hsk (hnever k hsk) hact hT with hgoal | hlt
    · exact absurd hgoal (hnever _ (hsk.trans k.le_succ))
    · exact ⟨k + 1, hk.trans k.le_succ, hlt.trans_le (hmono n k hn hk)⟩
  have hdown : ∀ m n, start ≤ n → rank (b.state n) ≤ m → False := by
    intro m
    induction m with
    | zero =>
        intro n hn hm
        obtain ⟨k, _, hlt⟩ := hlower n hn
        omega
    | succ m ih =>
        intro n hn hm
        obtain ⟨k, hk, hlt⟩ := hlower n hn
        exact ih k (hn.trans hk) (by omega)
  exact hdown (rank (b.state start)) start le_rfl le_rfl

/-- The actions for which `T` holds are fairly scheduled: if from some moment on one of them is
    always possible, one is taken. -/
def WeaklyFair (b : M.Behavior) (T : α → Prop) : Prop :=
  ∀ n, (∀ k, n ≤ k → ∃ a, T a ∧ (M.step (b.state k) a).isSome) →
    ∃ k a, n ≤ k ∧ b.act k = some a ∧ T a

/-- Ranking rule under weak fairness: the thread is never blocked before the goal. -/
theorem exists_goal_of_weaklyFair {T : α → Prop} {G : σ → Prop} (b : M.Behavior)
    (hfair : b.WeaklyFair T) (rank : σ → ℕ) (start : ℕ)
    (hcan : ∀ n, start ≤ n → ¬ G (b.state n) → ∃ a, T a ∧ (M.step (b.state n) a).isSome)
    (hother : ∀ n, start ≤ n → ¬ G (b.state n) → rank (b.state (n + 1)) ≤ rank (b.state n))
    (hthread : ∀ n a, start ≤ n → ¬ G (b.state n) → b.act n = some a → T a →
      G (b.state (n + 1)) ∨ rank (b.state (n + 1)) < rank (b.state n)) :
    ∃ n, start ≤ n ∧ G (b.state n) := by
  by_contra hnever
  push Not at hnever
  have hprog : b.Progresses T G := by
    intro n _
    obtain ⟨k, a, hk, hact, hT⟩ := hfair (max n start) fun k hk =>
      hcan k ((le_max_right _ _).trans hk) (hnever k ((le_max_right _ _).trans hk))
    exact ⟨k, a, (le_max_left _ _).trans hk, hact, hT⟩
  obtain ⟨n, hn, hgoal⟩ := b.exists_goal_of_rank hprog rank start hother hthread
  exact hnever n hn hgoal

/-! ## What a behavior puts out -/

section Outputs

variable {γ : Type*} (out : σ → α → List γ)

/-- What a behavior has put out before the moment `n`. -/
def outputs (b : M.Behavior) (n : ℕ) : List γ := (b.take n).outputs out

variable {out}

theorem outputs_of_act (b : M.Behavior) {n : ℕ} {a : α} (h : b.act n = some a) :
    b.outputs out (n + 1) = b.outputs out n ++ out (b.state n) a := by
  show M.outputs out M.init (scheduled b.act (n + 1)) = _
  rw [scheduled_succ, h, Option.toList_some, outputs_append (b.exec_scheduled n),
    outputs_cons (b.step_of_act h)]
  simp [TransitionSystem.outputs, outputs, Run.outputs, take]

theorem outputs_of_idle (b : M.Behavior) {n : ℕ} (h : b.act n = none) :
    b.outputs out (n + 1) = b.outputs out n := by
  show M.outputs out M.init (scheduled b.act (n + 1)) = _
  rw [scheduled_succ, h, Option.toList_none, List.append_nil]
  rfl

theorem outputs_mono (b : M.Behavior) (out : σ → α → List γ) {n k : ℕ} (h : n ≤ k) :
    b.outputs out n <+: b.outputs out k := by
  induction k, h using Nat.le_induction with
  | base => exact List.prefix_rfl
  | succ k _ ih =>
      refine ih.trans ?_
      cases hact : b.act k with
      | none => exact (b.outputs_of_idle hact).symm ▸ List.prefix_rfl
      | some a =>
          rw [b.outputs_of_act hact]
          exact List.prefix_append _ _

end Outputs

/-- The moments of a behavior as a behavior. -/
def clock (b : M.Behavior) :
    (⟨0, fun n _ => some (n + 1)⟩ : TransitionSystem ℕ (Option α)).Behavior where
  state n := n
  act n := some (b.act n)
  start := rfl
  next _ := rfl

/-- Ranking rule for a goal and a rank that depend on what has happened before. -/
theorem exists_moment_of_rank {T : α → Prop} {G : ℕ → Prop} (b : M.Behavior) (rank : ℕ → ℕ)
    (start : ℕ)
    (hprog : (∀ n, start ≤ n → ¬ G n) →
      ∀ n, start ≤ n → ∃ k a, n ≤ k ∧ b.act k = some a ∧ T a)
    (hother : ∀ n, start ≤ n → ¬ G n → rank (n + 1) ≤ rank n)
    (hthread : ∀ n a, start ≤ n → ¬ G n → b.act n = some a → T a →
      G (n + 1) ∨ rank (n + 1) < rank n) :
    ∃ n, start ≤ n ∧ G n := by
  by_contra hnever
  push Not at hnever
  have hclock : b.clock.Progresses (fun o => ∃ a, o = some a ∧ T a) G := by
    intro n _
    obtain ⟨k, a, hk, hact, hT⟩ := hprog hnever (max n start) (le_max_right _ _)
    exact ⟨k, b.act k, (le_max_left _ _).trans hk, rfl, a, hact, hT⟩
  obtain ⟨n, hn, hgoal⟩ := b.clock.exists_goal_of_rank hclock rank start hother
    (by
      rintro n _ hn hgoal hact ⟨a, rfl, hT⟩
      exact hthread n a hn hgoal (Option.some.inj hact) hT)
  exact hnever n hn hgoal

/-! ## Behaviors that go round a cycle -/

/-- A schedule whose actions are possible, one after the other, makes a behavior. -/
def ofActs (act : ℕ → Option α) (h : ∀ n, (M.exec M.init (scheduled act n)).isSome) :
    M.Behavior where
  state n := (M.exec M.init (scheduled act n)).get (h n)
  act := act
  start := rfl
  next n := by
    obtain ⟨s, hs⟩ := Option.isSome_iff_exists.1 (h n)
    obtain ⟨s', hs'⟩ := Option.isSome_iff_exists.1 (h (n + 1))
    have hnext : M.exec M.init (scheduled act n ++ (act n).toList) = some s' :=
      scheduled_succ act n ▸ hs'
    simp only [hs, hs', Option.get_some]
    cases hact : act n with
    | none =>
        rw [hact, Option.toList_none, List.append_nil, hs] at hnext
        exact (Option.some.inj hnext).symm
    | some a =>
        rw [hact, Option.toList_some, exec_snoc, hs] at hnext
        exact hnext

theorem scheduled_getElem?_eq_take (l : List α) (n : ℕ) :
    scheduled (fun n => l[n]?) n = l.take n := by
  induction n with
  | zero => rfl
  | succ n ih => rw [scheduled_succ, ih, List.take_add_one]

/-- The behavior that takes the steps of a run, and then nothing happens any more. -/
def idleAfter (r : M.Run) : M.Behavior :=
  ofActs (fun n => r.acts[n]?) fun n => by
    have h := r.ok
    rw [← List.take_append_drop n r.acts, exec_append] at h
    obtain ⟨s, hs, -⟩ := Option.bind_eq_some_iff.1 h
    rw [scheduled_getElem?_eq_take, hs]
    rfl

theorem idleAfter_state (r : M.Run) {n : ℕ} (hn : r.acts.length ≤ n) :
    (idleAfter r).state n = r.final := by
  refine Option.get_of_eq_some _ ?_
  rw [scheduled_getElem?_eq_take, List.take_of_length_le hn]
  exact r.ok

/-- An action of a run without repetition has its moment. -/
theorem idleAfter_act_inj {r : M.Run} (hnodup : r.acts.Nodup) {a : α} {j k : ℕ}
    (hj : (idleAfter r).act j = some a) (hk : (idleAfter r).act k = some a) : j = k := by
  replace hj : r.acts[j]? = some a := hj
  replace hk : r.acts[k]? = some a := hk
  exact (List.getElem?_inj (List.getElem?_eq_some_iff.1 hj).1 hnodup).1 (hj.trans hk.symm)

/-- Nothing is owed to a thread that can do nothing at the end. -/
theorem idleAfter_weaklyFair (r : M.Run) {T : α → Prop}
    (h : ∀ a, T a → M.step r.final a = none) : (idleAfter r).WeaklyFair T := by
  intro n hcan
  obtain ⟨a, hT, hstep⟩ := hcan (max n r.acts.length) (le_max_left _ _)
  rw [idleAfter_state r (le_max_right _ _), h a hT] at hstep
  cases hstep

/-- The actions of `first`, and after that those of `cycle` again and again. -/
def cycleAct (first cycle : List α) (n : ℕ) : Option α :=
  if n < first.length then first[n]? else cycle[(n - first.length) % cycle.length]?

theorem scheduled_getElem? (l : List α) : scheduled (fun n => l[n]?) l.length = l := by
  rw [scheduled_getElem?_eq_take, List.take_length]

theorem cycleAct_first {first cycle : List α} {n : ℕ} (h : n < first.length) :
    cycleAct first cycle n = first[n]? := if_pos h

theorem cycleAct_cycle (first : List α) {cycle : List α} (rounds : ℕ) {j : ℕ}
    (hj : j < cycle.length) :
    cycleAct first cycle (first.length + rounds * cycle.length + j) = cycle[j]? := by
  have hoff : first.length + rounds * cycle.length + j - first.length
      = j + rounds * cycle.length := by omega
  rw [cycleAct, if_neg (by omega), hoff, Nat.add_mul_mod_self_right, Nat.mod_eq_of_lt hj]

/-- The first `rounds` rounds of the schedule. -/
theorem scheduled_cycleAct (first cycle : List α) (rounds : ℕ) :
    scheduled (cycleAct first cycle) (first.length + rounds * cycle.length)
      = first ++ (List.replicate rounds cycle).flatten := by
  induction rounds with
  | zero =>
      have hfirst : scheduled (cycleAct first cycle) first.length
          = scheduled (fun n => first[n]?) first.length :=
        List.filterMap_congr fun n hn => cycleAct_first (List.mem_range.1 hn)
      simpa using hfirst.trans (scheduled_getElem? first)
  | succ rounds ih =>
      have hround : (List.range cycle.length).filterMap
            (cycleAct first cycle ∘ (first.length + rounds * cycle.length + ·))
          = scheduled (fun n => cycle[n]?) cycle.length :=
        List.filterMap_congr fun n hn => cycleAct_cycle first rounds (List.mem_range.1 hn)
      rw [scheduled] at ih
      rw [scheduled, Nat.succ_mul, ← Nat.add_assoc, List.range_add, List.filterMap_append, ih,
        List.filterMap_map, hround, scheduled_getElem?, List.append_assoc, List.replicate_succ',
        List.flatten_append, List.flatten_singleton]

section Cycle

variable {first cycle : List α} {round : ℕ → σ}

/-- The state after the first `rounds` rounds. -/
theorem exec_rounds (hfirst : M.exec M.init first = some (round 0))
    (hround : ∀ r, M.exec (round r) cycle = some (round (r + 1))) (rounds : ℕ) :
    M.exec M.init (first ++ (List.replicate rounds cycle).flatten) = some (round rounds) := by
  induction rounds with
  | zero => simpa using hfirst
  | succ rounds ih =>
      rw [List.replicate_succ', List.flatten_append, List.flatten_singleton, ← List.append_assoc,
        exec_append, ih]
      exact hround rounds

theorem cycleAct_possible (hcycle : cycle ≠ []) (hfirst : M.exec M.init first = some (round 0))
    (hround : ∀ r, M.exec (round r) cycle = some (round (r + 1))) (n : ℕ) :
    (M.exec M.init (scheduled (cycleAct first cycle) n)).isSome := by
  have hpos : 0 < cycle.length := List.length_pos_iff.2 hcycle
  have hn : n ≤ first.length + n * cycle.length :=
    (Nat.le_mul_of_pos_right n hpos).trans (Nat.le_add_left _ _)
  obtain ⟨k, hk⟩ := Nat.exists_eq_add_of_le hn
  have hall := exec_rounds hfirst hround n
  rw [← scheduled_cycleAct, hk, scheduled, List.range_add, List.filterMap_append,
    exec_append] at hall
  obtain ⟨s, hs, _⟩ := Option.bind_eq_some_iff.1 hall
  rw [scheduled, hs]
  rfl

/-- The behavior that takes the actions of `first` and then goes round `cycle` for ever; `round r`
    is its state after `r` rounds. -/
def ofCycle (first cycle : List α) (round : ℕ → σ) (hcycle : cycle ≠ [])
    (hfirst : M.exec M.init first = some (round 0))
    (hround : ∀ r, M.exec (round r) cycle = some (round (r + 1))) : M.Behavior :=
  ofActs (cycleAct first cycle) (cycleAct_possible hcycle hfirst hround)

variable (hcycle : cycle ≠ []) (hfirst : M.exec M.init first = some (round 0))
  (hround : ∀ r, M.exec (round r) cycle = some (round (r + 1)))

theorem ofCycle_state (r : ℕ) :
    (ofCycle first cycle round hcycle hfirst hround).state (first.length + r * cycle.length)
      = round r := by
  have hr := exec_rounds hfirst hround r
  rw [← scheduled_cycleAct] at hr
  exact Option.get_of_eq_some _ hr

theorem ofCycle_act {n : ℕ} {a : α}
    (h : (ofCycle first cycle round hcycle hfirst hround).act n = some a) :
    a ∈ first ∨ a ∈ cycle := by
  replace h : cycleAct first cycle n = some a := h
  rw [cycleAct] at h
  split at h
  · exact Or.inl (List.mem_of_getElem? h)
  · exact Or.inr (List.mem_of_getElem? h)

/-- Every action of the cycle is taken again and again. -/
theorem ofCycle_again {a : α} (ha : a ∈ cycle) (n : ℕ) :
    ∃ k, n ≤ k ∧ (ofCycle first cycle round hcycle hfirst hround).act k = some a := by
  obtain ⟨j, hj, rfl⟩ := List.getElem_of_mem ha
  have hpos : 0 < cycle.length := List.length_pos_iff.2 hcycle
  refine ⟨first.length + n * cycle.length + j, ?_, ?_⟩
  · have hn : n ≤ n * cycle.length := Nat.le_mul_of_pos_right n hpos
    omega
  · exact (cycleAct_cycle first n hj).trans (List.getElem?_eq_getElem hj)

/-- A thread that acts in the cycle progresses. -/
theorem ofCycle_progresses {a : α} (ha : a ∈ cycle) {T : α → Prop} (hT : T a) (goal : σ → Prop) :
    (ofCycle first cycle round hcycle hfirst hround).Progresses T goal := by
  intro n _
  obtain ⟨k, hk, hact⟩ := ofCycle_again hcycle hfirst hround ha n
  exact ⟨k, a, hk, hact, hT⟩

end Cycle

end Behavior

end TransitionSystem
