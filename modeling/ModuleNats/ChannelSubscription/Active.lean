import ModuleNats.ChannelSubscription.Steps
import ModuleNats.Lib.StopFlag

set_option autoImplicit false

/-! # `isActive()` and the end of the loop

Only `close()` and `drain()` set the stop flag that `isActive()` reads. When an exception ends the
loop, its `on_exit` block closes the channel and the flag stays as it is: one step after such an
exception `isActive()` is wrong (`active_after_raise`).

The channel is shared: a consumer can close it with what it has got from `channel()`. -/

namespace ModuleNats.ChannelSubscription

open State

variable {μ : Type}

/-! ## With a shared channel -/

inductive SharedAction (μ : Type) where
  | own (a : Action μ)
  /-- a consumer closes the channel -/
  | closedByConsumer
deriving DecidableEq, Repr

/-- `closedByWrapper` is not in the code; it records that the wrapper has closed the channel. -/
structure SharedState (μ : Type) extends State μ where
  closedByWrapper : Bool := false

/-- The steps in which the wrapper closes the channel. -/
def closesChannel : Action μ → Bool
  | .exit | .closeChannel => true
  | _ => false

def sharedStep (s : SharedState μ) : SharedAction μ → Option (SharedState μ)
  | .own a => (step s.toState a).map fun t => ⟨t, s.closedByWrapper || closesChannel a⟩
  | .closedByConsumer => some { s with chan := s.chan.close }

def sharedSystem (pull : Bool) (bufferSize : ℕ) :
    TransitionSystem (SharedState μ) (SharedAction μ) :=
  ⟨⟨State.start pull bufferSize, false⟩, sharedStep⟩

/-! ## The stop flag -/

/-- The step makes a call in the loop raise an exception: `nextMsg()`, or `chan.send()`. -/
def Raises (s : State μ) : Action μ → Prop
  | .cancel _ | .sendFails _ | .poll (.failed _) _ | .poll .ok (some _) => True
  | .send => s.chan.closed = true
  | _ => False

/-- The loop has been left, or a call of `close()` or `drain()` has set the stop flag. -/
def State.ending (s : State μ) : Prop := s.bg = .leaving ∨ s.bg = .exited ∨ s.closer ≠ .idle

theorem stopping_step {s s' : State μ} {a : Action μ} (h : s.stopping = true) (hs : Step s a s') :
    s'.stopping = true := by
  cases hs with
  | close | drain => rfl
  | _ => exact h

/-- What ends the loop: the stop flag, or an exception. -/
theorem ending_of_step {s s' : State μ} {a : Action μ} (hs : Step s a s') (h : s'.ending) :
    s.ending ∨ s'.stopping = true ∨ Raises s a := by
  have hgoes : s'.bg ≠ .leaving → s'.bg ≠ .exited → s'.closer = s.closer → s.ending := by
    intro hleaving hexited hcloser
    rcases h with hbg | hbg | hc
    · exact absurd hbg hleaving
    · exact absurd hbg hexited
    · exact Or.inr (Or.inr (hcloser ▸ hc))
  cases hs with
  | goOn | message | timedOut | again | finished => exact Or.inl (hgoes (by simp) (by simp) rfl)
  | send | handOver => exact Or.inl (hgoes (by simp) (by simp) rfl)
  | stop hbg hstop => exact Or.inr (Or.inl hstop)
  | unconverted | failed | cancel | sendFails => exact Or.inr (Or.inr trivial)
  | sendClosed hbg hclosed => exact Or.inr (Or.inr hclosed)
  | exit hbg => exact Or.inl (Or.inl hbg)
  | close | drain => exact Or.inr (Or.inl rfl)
  | unsubscribe hc | unsubscribeFails hc | closeChannel hc | drainSubscription hc =>
      exact Or.inl (Or.inr (Or.inr (by simp [hc])))
  | arrive | offer | finish | receive | alreadyClosed | alreadyDrained => exact Or.inl h

/-- Where the wrapper closes the channel, it is ending. -/
theorem ending_of_closesChannel {s s' : State μ} {a : Action μ} (hs : Step s a s')
    (h : closesChannel a = true) : s.ending := by
  cases hs with
  | exit hbg => exact Or.inl hbg
  | closeChannel hc => exact Or.inr (Or.inr (by simp [hc]))
  | _ => cases h

/-- The loop has ended, or the wrapper has closed the channel. -/
def SharedState.ended (s : SharedState μ) : Prop := s.bg = .exited ∨ s.closedByWrapper = true

/-- The flag that `isActive()` reads. -/
def stopFlag (pull : Bool) (bufferSize : ℕ) : StopFlag (sharedSystem (μ := μ) pull bufferSize) where
  stopping s := s.stopping
  ending s := s.toState.ending ∨ s.closedByWrapper = true
  raises s
    | .own a => Raises s.toState a
    | .closedByConsumer => False
  init := by simp [sharedSystem, State.start, State.ending]
  keeps s a s' hs hset := by
    cases a with
    | closedByConsumer => cases hs; exact hset
    | own a =>
        obtain ⟨t, ht, rfl⟩ := Option.map_eq_some_iff.1 hs
        exact stopping_step hset (step_cases ht)
  ends s a s' hs hending := by
    cases a with
    | closedByConsumer => cases hs; exact Or.inl hending
    | own a =>
        obtain ⟨t, ht, rfl⟩ := Option.map_eq_some_iff.1 hs
        rcases hending with hending | hclosed
        · exact (ending_of_step (step_cases ht) hending).imp_left Or.inl
        · rcases Bool.or_eq_true_iff.1 hclosed with hclosed | hcloses
          · exact Or.inl (Or.inr hclosed)
          · exact Or.inl (Or.inl (ending_of_closesChannel (step_cases ht) hcloses))

theorem isActive_of_stoppedFirst {pull : Bool} {bufferSize : ℕ} {s : SharedState μ}
    (h : (stopFlag pull bufferSize).StoppedFirst s) (hended : s.ended) : s.isActive = false := by
  have hstopping : s.stopping = true := by
    refine h ?_
    rcases hended with hbg | hclosed
    · exact Or.inl (Or.inr (Or.inl hbg))
    · exact Or.inr hclosed
  rw [isActive, hstopping]
  rfl

/-! ## After an exception -/

/-- After an exception of the loop with the flag unset, the loop can exit at once, and `isActive()`
    is still true. -/
theorem active_after_raise {pull : Bool} {bufferSize : ℕ} {s s' : SharedState μ}
    {a : SharedAction μ} (ha : (stopFlag pull bufferSize).RaisesUnstopped s a)
    (hs : sharedStep s a = some s') :
    ∃ t, sharedStep s' (.own .exit) = some t ∧ t.ended ∧ t.isActive = true := by
  obtain ⟨hraises, hunset⟩ := ha
  obtain ⟨hbg, hstopping⟩ : s'.bg = .leaving ∧ s'.stopping = false := by
    cases a with
    | closedByConsumer => cases hraises
    | own a =>
        obtain ⟨t, ht, rfl⟩ := Option.map_eq_some_iff.1 hs
        have hact : Step s.toState a t := step_cases ht
        cases hact with
        | unconverted | failed | cancel | sendFails | sendClosed => exact ⟨rfl, hunset⟩
        | send hbg hsend =>
            have hopen : s.chan.closed = false := (Channel.send_spec hsend).1
            have hclosed : s.chan.closed = true := hraises
            rw [hopen] at hclosed
            cases hclosed
        | @finished _ status conversion _ hstatus _ =>
            cases status <;> simp [NextStatus.finished, stopFlag, Raises] at hstatus hraises
        | _ => cases hraises
  refine ⟨⟨{ s'.toState with bg := .exited, chan := s'.chan.close }, true⟩, ?_, .inl rfl, ?_⟩
  · simp [sharedStep, step, hbg, closesChannel]
  · simp [isActive, hstopping]

end ModuleNats.ChannelSubscription
