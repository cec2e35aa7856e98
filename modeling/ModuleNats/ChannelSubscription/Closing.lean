import ModuleNats.ChannelSubscription.Steps

set_option autoImplicit false

/-! # Why a channel is closed

A closed channel tells its consumers that nothing more will come, but not why. `Caused` says what is
always behind it: the stop flag, or an exception that the background thread has caught and dropped.
`ClosedAfterRemoval` says when the channel is closed only after the server has removed the
subscription; that needs a condition on the steps (`LeavesEarly`). -/

namespace ModuleNats.ChannelSubscription

open State

variable {μ : Type}

/-- The channel is closed, or about to be. -/
def State.closing (s : State μ) : Prop :=
  s.bg = .leaving ∨ s.bg = .exited ∨ s.closer = .closingChannel ∨ s.chan.closed = true

/-- A subscription that the server has removed does not come back. -/
theorem removed_step {s s' : State μ} {a : Action μ} (h : s.nsub.removed) (hs : Step s a s') :
    s'.nsub.removed := by
  cases hs with
  | finish | unsubscribe => rfl
  | drainSubscription hcloser hphase =>
      rcases hphase with rfl | ⟨_, rfl⟩
      · exact h
      · rfl
  | _ => exact h

/-! ## The cause -/

/-- Behind a channel that is closing stands the stop flag or an exception of the loop. -/
structure Caused (s : State μ) : Prop where
  closing : s.closing → s.stopping = true ∨ s.caught ≠ []
  closer : s.closer ≠ .idle → s.stopping = true
  caught : ∀ ex ∈ s.caught, ex.source = .receive ∨ ex.source = .send

theorem caused_step {s s' : State μ} {a : Action μ} (h : Caused s) (hs : Step s a s') :
    Caused s' := by
  have hcatch : ∀ (t : State μ) (source : Source) (ex : ExceptionInfo), t.caught = s.caught →
      t.stopping = s.stopping → t.closer = s.closer → (source = .receive ∨ source = .send) →
      Caused (t.catchException source ex) := by
    intro t source ex hcaught hstopping hcloser hsource
    refine ⟨fun _ => Or.inr (by simp [catchException]), ?_, fun x hx => ?_⟩
    · simpa [catchException, hstopping, hcloser] using h.closer
    · rcases List.mem_append.1 hx with hx | hx
      · exact h.caught x (hcaught ▸ hx)
      · obtain rfl := List.mem_singleton.1 hx
        exact hsource
  -- the channel and the closer as before, and the loop goes on
  have hgoes : ∀ t : State μ, t.caught = s.caught → t.stopping = s.stopping →
      t.closer = s.closer → t.chan.closed = s.chan.closed → t.bg ≠ .leaving → t.bg ≠ .exited →
      Caused t := by
    intro t hcaught hstopping hcloser hchan hleaving hexited
    refine ⟨fun hclosing => ?_, by simpa [hstopping, hcloser] using h.closer,
      by simpa [hcaught] using h.caught⟩
    rw [hstopping, hcaught]
    rcases hclosing with hbg | hbg | hc | hc
    · exact absurd hbg hleaving
    · exact absurd hbg hexited
    · exact h.closing (Or.inr (Or.inr (Or.inl (hcloser ▸ hc))))
    · exact h.closing (Or.inr (Or.inr (Or.inr (hchan ▸ hc))))
  cases hs with
  | unconverted | failed | cancel | sendClosed | sendFails =>
      exact hcatch _ _ _ rfl rfl rfl (by simp)
  | goOn | message | timedOut | again | finished => exact hgoes _ rfl rfl rfl rfl nofun nofun
  | handOver => exact hgoes _ rfl rfl rfl rfl nofun nofun
  | send hbg hsend =>
      have hspec := Channel.send_spec hsend
      exact hgoes _ rfl rfl rfl (hspec.2.1.trans hspec.1.symm) nofun nofun
  | stop hbg hstop => exact ⟨fun _ => Or.inl hstop, h.closer, h.caught⟩
  | exit hbg => exact ⟨fun _ => h.closing (Or.inl hbg), h.closer, h.caught⟩
  | receive hreceive =>
      refine ⟨fun hclosing => h.closing ?_, h.closer, h.caught⟩
      simpa only [closing, (Channel.receive_spec hreceive).2] using hclosing
  | close hstop => exact ⟨fun _ => Or.inl rfl, fun _ => rfl, h.caught⟩
  | drain hstop => exact ⟨fun _ => Or.inl rfl, fun _ => rfl, h.caught⟩
  | unsubscribe hcloser | unsubscribeFails hcloser | closeChannel hcloser
  | drainSubscription hcloser =>
      have hstop : s.stopping = true := h.closer (by simp [hcloser])
      exact ⟨fun _ => Or.inl hstop, fun _ => hstop, h.caught⟩
  | arrive | offer | finish | alreadyClosed | alreadyDrained =>
      exact ⟨h.closing, h.closer, h.caught⟩

theorem caused_run {pull : Bool} {bufferSize : ℕ} (run : (system (μ := μ) pull bufferSize).Run) :
    Caused run.final := by
  refine run.invariant (I := Caused) ⟨?_, ?_, ?_⟩ fun _ _ _ h hs => caused_step h (step_cases hs)
  all_goals simp [system, State.start, closing]

/-! ## Closed after the removal -/

/-- The steps that leave the loop or go on to close the channel for another reason than that the
    subscription has been removed. -/
def LeavesEarly (s : State μ) : Action μ → Prop
  | .check => s.stopping = true
  | .cancel _ | .sendFails _ | .poll (.failed _) _ | .poll _ (some _) | .unsubscribe false => True
  | _ => False

instance decidableLeavesEarly (s : State μ) : ∀ a, Decidable (LeavesEarly s a)
  | .check => inferInstanceAs (Decidable (s.stopping = true))
  | .cancel _ | .sendFails _ | .poll (.failed _) _ | .unsubscribe false => isTrue trivial
  | .poll status (some _) => isTrue (by cases status <;> trivial)
  | .poll .ok none | .poll .timeout none | .poll .maxDeliveredMsgs none
  | .poll .invalidSubscription none | .unsubscribe true => isFalse id
  | .arrive _ | .offer _ | .finish | .send | .exit | .receive | .handOver | .close
  | .closeChannel | .drain | .drainSubscription _ => isFalse id

/-- The channel is closed only after the server has removed the subscription. -/
def ClosedAfterRemoval (s : State μ) : Prop := s.closing → s.nsub.removed

theorem closedAfterRemoval_start (pull : Bool) (bufferSize : ℕ) :
    ClosedAfterRemoval (State.start pull bufferSize : State μ) := by
  simp [ClosedAfterRemoval, State.start, closing]

theorem closedAfterRemoval_step {s s' : State μ} {a : Action μ} (h : ClosedAfterRemoval s)
    (hearly : LeavesEarly s a → s.nsub.removed) (hs : Step s a s') : ClosedAfterRemoval s' := by
  intro hclosing
  -- a step that does not close the channel
  have hsame : ∀ t : State μ, t.closing → t.chan.closed = s.chan.closed → t.closer = s.closer →
      t.bg ≠ .leaving → t.bg ≠ .exited → s.nsub.removed := by
    intro t hclosing hchan hcloser hleaving hexited
    rcases hclosing with hbg | hbg | hc | hc
    · exact absurd hbg hleaving
    · exact absurd hbg hexited
    · exact h (Or.inr (Or.inr (Or.inl (hcloser ▸ hc))))
    · exact h (Or.inr (Or.inr (Or.inr (hchan ▸ hc))))
  -- a step of `close()` or `drain()` that does not come to the channel
  have hcalls : ∀ t : State μ, t.closing → t.bg = s.bg → t.chan = s.chan →
      t.closer ≠ .closingChannel → s.nsub.removed := by
    intro t hclosing hbg hchan hcloser
    refine h ?_
    rcases hclosing with hc | hc | hc | hc
    · exact Or.inl (hbg ▸ hc)
    · exact Or.inr (Or.inl (hbg ▸ hc))
    · exact absurd hc hcloser
    · exact Or.inr (Or.inr (Or.inr (hchan ▸ hc)))
  cases hs with
  | finish | unsubscribe => rfl
  | stop hbg hstop => exact hearly hstop
  | unconverted | failed | cancel | sendFails | unsubscribeFails => exact hearly trivial
  | sendClosed hbg hclosed => exact h (Or.inr (Or.inr (Or.inr hclosed)))
  | goOn | message | timedOut | again | finished => exact hsame _ hclosing rfl rfl nofun nofun
  | handOver => exact hsame _ hclosing rfl rfl nofun nofun
  | send hbg hsend =>
      have hspec := Channel.send_spec hsend
      exact hsame _ hclosing (hspec.2.1.trans hspec.1.symm) rfl nofun nofun
  | exit hbg => exact h (Or.inl hbg)
  | receive hreceive =>
      refine h ?_
      simpa only [closing, (Channel.receive_spec hreceive).2] using hclosing
  | closeChannel hcloser => exact h (Or.inr (Or.inr (Or.inl hcloser)))
  | close | drain => exact hcalls _ hclosing rfl rfl (by simp)
  | drainSubscription hcloser hphase =>
      have hremoved : s.nsub.removed := hcalls _ hclosing rfl rfl (by simp)
      rcases hphase with rfl | ⟨_, rfl⟩
      · exact hremoved
      · rfl
  | arrive | offer | alreadyClosed | alreadyDrained => exact h hclosing

end ModuleNats.ChannelSubscription
