import ModuleNats.ChannelSubscription.Active

set_option autoImplicit false

/-! # A drain that fails

`drain()` sets the stop flag before it drains the subscription of the C client, and leaves it set
when that raises an exception. Afterwards the wrapper is not active any more, and `close()` takes
the subscription for one that is closed already: it never unsubscribes. -/

namespace ModuleNats.ChannelSubscription

open State

variable {μ : Type}

/-- A call of `drain()` that gets past the stop flag and raises an exception, at the end of any run,
    with whatever the other threads do during the call. -/
structure FailedDrain (pull : Bool) (bufferSize : ℕ) where
  /-- the run up to the call -/
  run : (system (μ := μ) pull bufferSize).Run
  active : run.final.stopping = false
  /-- the steps of the other threads until the subscription of the C client is drained -/
  meanwhile : List (Action μ)
  atDrain : State μ
  /-- the state after the exception -/
  after : State μ
  called : (system pull bufferSize).exec run.final (.drain :: meanwhile) = some atDrain
  fails : step atDrain (.drainSubscription false) = some after

/-- A later call of `close()` can unsubscribe from the server, and close the channel. -/
def Closable (pull : Bool) (bufferSize : ℕ) (s : State μ) : Prop :=
  ∃ acts later, (system pull bufferSize).exec s acts = some later ∧
    .unsubscribe true ∈ acts ∧ .closeChannel ∈ acts

namespace FailedDrain

variable {pull : Bool} {bufferSize : ℕ}

/-- The wrapper is as it was before the call. -/
structure AsBefore (d : FailedDrain (μ := μ) pull bufferSize) : Prop where
  isActive : d.after.isActive = d.run.final.isActive
  closable : Closable pull bufferSize d.after

/-! ## The stop flag stays set -/

/-- The call that has set the stop flag is over, so no other one will do anything. -/
structure Stuck (s : State μ) : Prop where
  stopping : s.stopping = true
  closer : s.closer = .done

theorem stuck_step {s s' : State μ} {a : Action μ} (h : Stuck s) (hs : Step s a s') :
    Stuck s' ∧ a ≠ .unsubscribe true := by
  have hcloser : ∀ pc, s.closer = pc → pc ≠ .done → False := fun pc hpc hne =>
    hne (hpc.symm.trans h.closer)
  cases hs with
  | unsubscribe hc | unsubscribeFails hc | closeChannel hc | drainSubscription hc =>
      exact (hcloser _ hc (by simp)).elim
  | close hstop | drain hstop =>
      rw [h.stopping] at hstop
      cases hstop
  | _ => exact ⟨⟨h.stopping, h.closer⟩, by simp⟩

theorem stuck_exec {s s' : State μ} {acts : List (Action μ)} (h : Stuck s)
    (hexec : (system pull bufferSize).exec s acts = some s') : .unsubscribe true ∉ acts := by
  induction acts generalizing s with
  | nil => simp
  | cons a acts ih =>
      obtain ⟨mid, hstep, hrest⟩ := TransitionSystem.exec_cons_eq_some hexec
      obtain ⟨hmid, hne⟩ := stuck_step h (step_cases hstep)
      rw [List.mem_cons, not_or]
      exact ⟨hne.symm, ih hmid hrest⟩

/-! ## Every failed drain -/

theorem stuck_after (d : FailedDrain (μ := μ) pull bufferSize) : Stuck d.after := by
  obtain ⟨called, hcall, hmeanwhile⟩ := TransitionSystem.exec_cons_eq_some d.called
  have hcalled : called.stopping = true := by
    have hdrain : Step d.run.final .drain called := step_cases hcall
    generalize d.run.final = s at hdrain
    cases hdrain with
    | alreadyDrained hstop => exact hstop
    | drain => rfl
  have hatDrain : d.atDrain.stopping = true :=
    TransitionSystem.exec_invariant (M := system pull bufferSize) (G := fun _ => True)
      (fun _ _ _ h _ hs => stopping_step h (step_cases hs)) hcalled (fun _ _ => trivial) hmeanwhile
  have hfails : Step d.atDrain (.drainSubscription false) d.after := step_cases d.fails
  refine ⟨stopping_step hatDrain hfails, ?_⟩
  generalize d.after = s at hfails
  cases hfails with
  | drainSubscription => rfl

/-- After every failed drain `isActive()` says something else than before the call, and no later
    call of `close()` unsubscribes. -/
theorem not_asBefore (d : FailedDrain (μ := μ) pull bufferSize) :
    d.after.isActive ≠ d.run.final.isActive ∧ ¬ Closable pull bufferSize d.after ∧
      ¬ d.AsBefore := by
  have hstuck : Stuck d.after := d.stuck_after
  have hclosable : ¬ Closable pull bufferSize d.after := by
    rintro ⟨acts, later, hexec, hunsubscribe, -⟩
    exact stuck_exec hstuck hexec hunsubscribe
  refine ⟨?_, hclosable, fun h => hclosable h.closable⟩
  rw [isActive, isActive, hstuck.stopping, d.active]
  decide

/-- `drain()` is called at once; the background thread looks at the stop flag before the
    subscription of the C client fails to drain. -/
def atOnce : FailedDrain (μ := ℕ) false 100 where
  run := .nil
  active := rfl
  meanwhile := [.check]
  atDrain := { State.start false 100 with bg := .leaving, stopping := true, closer := .draining }
  after := { State.start false 100 with bg := .leaving, stopping := true, closer := .done }
  called := rfl
  fails := rfl

theorem not_asBefore_atOnce :
    atOnce.after.isActive ≠ atOnce.run.final.isActive ∧ ¬ Closable false 100 atOnce.after ∧
      ¬ atOnce.AsBefore :=
  not_asBefore atOnce

/-- The wrapper is active before the call, and not active after it. -/
theorem failed_drain_leaves_inactive :
    ¬ ∀ d : FailedDrain (μ := ℕ) false 100, d.AsBefore := by
  intro hclaim
  have hactive : atOnce.after.isActive = atOnce.run.final.isActive := (hclaim atOnce).isActive
  exact absurd hactive (by decide)

end FailedDrain

end ModuleNats.ChannelSubscription
