import ModuleNats.ChannelSubscription.Steps

set_option autoImplicit false

/-! # What `drain()` loses

`drain()` sets the stop flag before it drains the subscription, and the background thread leaves its
loop at the next look at that flag. So of the messages that are pending when `drain()` is called at
most one is still sent: the one that a running `nextMsg()` takes. `drain_lossless_iff` says exactly
when that is enough.

Two quantities of a state whose stop flag is set carry the proof. What is promised to the channel
(`promised`) only grows as long as nothing interferes, and the number of messages that can still be
sent (`budget`) bounds it from above. -/

namespace ModuleNats.ChannelSubscription

open State

variable {μ : Type}

/-! ## Quiet runs -/

/-- Everything but a call of `close()` and an exception in the loop. -/
def Quiet : Action μ → Prop
  | .close | .cancel _ | .sendFails _ | .poll (.failed _) _ | .poll _ (some _) => False
  | _ => True

instance : DecidablePred (Quiet (μ := μ))
  | .close | .cancel _ | .sendFails _ | .poll (.failed _) _ => isFalse id
  | .poll status (some _) => isFalse (by cases status <;> exact id)
  | .poll .ok none | .poll .timeout none | .poll .maxDeliveredMsgs none
  | .poll .invalidSubscription none => isTrue trivial
  | .arrive _ | .offer _ | .finish | .check | .send | .exit | .receive | .handOver
  | .unsubscribe _ | .closeChannel | .drain | .drainSubscription _ => isTrue trivial

/-- Without `close()` the channel is closed by the background thread only, and a subscription that
    has ended by itself has no pending messages. -/
structure QuietInv (s : State μ) : Prop where
  closed : s.chan.closed = true → s.bg = .exited
  closer : s.closer ≠ .unsubscribing ∧ s.closer ≠ .closingChannel
  pending : s.nsub.pull = true ∨ s.nsub.phase = .ended → s.nsub.pending = []

theorem quietInv_start (pull : Bool) (bufferSize : ℕ) :
    QuietInv (State.start pull bufferSize : State μ) :=
  ⟨nofun, ⟨nofun, nofun⟩, fun _ => rfl⟩

theorem QuietInv.open {s : State μ} (h : QuietInv s) (hbg : s.bg ≠ .exited) :
    s.chan.closed = false := by
  cases hclosed : s.chan.closed with
  | false => rfl
  | true => exact absurd (h.closed hclosed) hbg

theorem quietInv_step {s s' : State μ} {a : Action μ} (h : QuietInv s) (hquiet : Quiet a)
    (hs : Step s a s') : QuietInv s' := by
  have hrunning : s.bg ≠ .exited → ∀ bg : BgPc μ, s.chan.closed = true → bg = .exited := by
    intro hbg bg hclosed
    rw [h.open hbg] at hclosed
    cases hclosed
  cases hs with
  | arrive hphase =>
      refine ⟨h.closed, h.closer, fun hend => ?_⟩
      rcases hend with hpull | hend
      · exact absurd (hphase.1.symm.trans hpull) Bool.false_ne_true
      · exact absurd hend hphase.2
  | offer hpull => exact ⟨h.closed, h.closer, h.pending⟩
  | finish hpend => exact ⟨h.closed, h.closer, fun _ => hpend⟩
  | stop hbg hstop => exact ⟨hrunning (by simp [hbg]) _, h.closer, h.pending⟩
  | goOn hbg hstop => exact ⟨hrunning (by simp [hbg]) _, h.closer, h.pending⟩
  | message hbg hphase hpend =>
      refine ⟨hrunning (by simp [hbg]) _, h.closer, fun hend => ?_⟩
      exact absurd (h.pending hend) (by simp [hpend])
  | timedOut hbg hpend => exact ⟨hrunning (by simp [hbg]) _, h.closer, h.pending⟩
  | again hbg hpend hless => exact ⟨hrunning (by simp [hbg]) _, h.closer, h.pending⟩
  | finished hbg hstatus hfinished => exact ⟨hrunning (by simp [hbg]) _, h.closer, h.pending⟩
  | send hbg hsend =>
      refine ⟨fun hclosed => ?_, h.closer, h.pending⟩
      rw [(Channel.send_spec hsend).2.1] at hclosed
      cases hclosed
  | sendClosed hbg hclosed => exact ⟨hrunning (by simp [hbg]) _, h.closer, h.pending⟩
  | exit hbg => exact ⟨fun _ => rfl, h.closer, h.pending⟩
  | receive hreceive =>
      exact ⟨fun hclosed => h.closed ((Channel.receive_spec hreceive).2 ▸ hclosed), h.closer,
        h.pending⟩
  | handOver hbg hchan => exact ⟨hrunning (by simp [hbg]) _, h.closer, h.pending⟩
  | unsubscribe hc => exact absurd hc h.closer.1
  | unsubscribeFails hc => exact absurd hc h.closer.1
  | closeChannel hc => exact absurd hc h.closer.2
  | alreadyDrained hstop => exact h
  | drain hstop => exact ⟨h.closed, ⟨nofun, nofun⟩, h.pending⟩
  | drainSubscription hc hphase =>
      refine ⟨h.closed, ⟨nofun, nofun⟩, fun hend => h.pending (hend.imp id fun hend => ?_)⟩
      rcases hphase with rfl | ⟨_, rfl⟩
      · exact hend
      · cases hend
  | unconverted | failed | cancel | sendFails | close => cases hquiet
  | alreadyClosed => cases hquiet

/-! ## What is sent once the stop flag is set -/

/-- The message that the background thread has taken and not sent yet. -/
def State.inHand (s : State μ) : List μ :=
  match s.bg with
  | .sending m => [m]
  | _ => []

/-- The message that a running `nextMsg()` will take. -/
def State.nextUp (s : State μ) : List μ :=
  match s.bg with
  | .receiving _ => s.nsub.pending.take 1
  | _ => []

/-- What has been sent, or will be as long as nothing interferes. -/
def State.promised (s : State μ) : List μ := s.sent ++ (s.inHand ++ s.nextUp)

/-- How many messages the background thread can still send before it sees the stop flag. -/
def State.budget (s : State μ) : ℕ :=
  match s.bg with
  | .receiving _ | .sending _ => 1
  | _ => 0

theorem promised_step {s s' : State μ} {a : Action μ} (h : QuietInv s) (hquiet : Quiet a)
    (hs : Step s a s') : s.promised <+: s'.promised := by
  cases hs with
  | arrive hphase =>
      refine (List.prefix_append_right_inj _).2 ((List.prefix_append_right_inj _).2 ?_)
      cases hbg : s.bg <;> cases hpend : s.nsub.pending <;> simp [nextUp, hbg, hpend]
  | message hbg hphase hpend => simp [promised, inHand, nextUp, hbg, hpend]
  | timedOut hbg hpend => simp [promised, inHand, nextUp, hbg, hpend]
  | again hbg hpend hless => simp [promised, inHand, nextUp, hbg]
  | finished hbg hstatus hfinished =>
      have hpend : s.nsub.pending = [] := by
        simp only [Subscription.finished, Bool.or_eq_true, Bool.and_eq_true, beq_iff_eq,
          List.isEmpty_iff] at hfinished
        rcases hfinished with hend | ⟨_, hempty⟩
        · exact h.pending hend
        · exact hempty
      simp [promised, inHand, nextUp, hbg, hpend]
  | sendClosed hbg hclosed => rw [h.open (by simp [hbg])] at hclosed; cases hclosed
  | stop hbg hstop => simp [promised, inHand, nextUp, hbg]
  | goOn hbg hstop => simp [promised, inHand, nextUp, hbg]
  | send hbg hsend => simp [promised, inHand, nextUp, hbg]
  | handOver hbg hchan => simp [promised, inHand, nextUp, hbg]
  | exit hbg => simp [promised, inHand, nextUp, hbg]
  | unconverted | failed | cancel | sendFails | close => cases hquiet
  | alreadyClosed => cases hquiet
  | _ => exact List.prefix_rfl

/-- With the stop flag set, sending uses up the budget. -/
theorem budget_step {s s' : State μ} {a : Action μ} (hstop : s.stopping = true) (hquiet : Quiet a)
    (hs : Step s a s') :
    s'.stopping = true ∧ s'.sent.length + s'.budget ≤ s.sent.length + s.budget := by
  cases hs with
  | goOn hbg hgo => rw [hstop] at hgo; cases hgo
  | stop hbg _ => exact ⟨hstop, by simp [budget, hbg]⟩
  | message hbg hphase hpend => exact ⟨hstop, by simp [budget, hbg]⟩
  | timedOut hbg hpend => exact ⟨hstop, by simp [budget, hbg]⟩
  | again hbg hpend hless => exact ⟨hstop, by simp [budget, hbg]⟩
  | finished hbg hstatus hfinished => exact ⟨hstop, by simp [budget, hbg]⟩
  | sendClosed hbg hclosed => exact ⟨hstop, by simp [budget, hbg, catchException]⟩
  | send hbg hsend => exact ⟨hstop, by simp [budget, hbg]⟩
  | handOver hbg hchan => exact ⟨hstop, by simp [budget, hbg]⟩
  | exit hbg => exact ⟨hstop, by simp [budget, hbg]⟩
  | drain hgo => rw [hstop] at hgo; cases hgo
  | unconverted | failed | cancel | sendFails | close => cases hquiet
  | alreadyClosed => cases hquiet
  | arrive | offer | finish | receive | unsubscribe | unsubscribeFails => exact ⟨hstop, le_rfl⟩
  | closeChannel | alreadyDrained | drainSubscription => exact ⟨hstop, le_rfl⟩

/-! ## The condition -/

/-- `drain()` loses nothing when it is called: nothing is pending, or the one pending message goes
    to a `nextMsg()` that is running. -/
def DrainLossless (s : State μ) : Prop :=
  s.nsub.pending = [] ∨ ∃ rem m, s.bg = .receiving rem ∧ s.nsub.pending = [m]

/-- `drain()` sets the flag and changes nothing else that the background thread reads. -/
theorem drain_spec {s s' : State μ} (h : step s .drain = some s') :
    s'.stopping = true ∧ s'.promised = s.promised ∧ s'.sent = s.sent ∧ s'.budget = s.budget := by
  cases step_cases h with
  | alreadyDrained hstop => exact ⟨hstop, rfl, rfl, rfl⟩
  | drain hstop => exact ⟨rfl, rfl, rfl, rfl⟩

/-- Whatever the interleaving, when the background thread has exited after a `drain()`, the messages
    that were pending at the call have been sent, in order and before any other, if and only if
    there were none, or a single one that a running `nextMsg()` could take. -/
theorem drain_lossless_iff {pull : Bool} {bufferSize : ℕ}
    (run : (system (μ := μ) pull bufferSize).Run) (hrun : ∀ a ∈ run.acts, Quiet a)
    {s₁ s₂ : State μ} (hdrain : step run.final .drain = some s₁) {acts : List (Action μ)}
    (hacts : ∀ a ∈ acts, Quiet a) (hexec : (system pull bufferSize).exec s₁ acts = some s₂)
    (hexited : s₂.bg = .exited) :
    (∃ later, s₂.sent = run.final.sent ++ run.final.inHand ++ run.final.nsub.pending ++ later) ↔
      DrainLossless run.final := by
  have hinv : QuietInv run.final := TransitionSystem.exec_invariant (I := QuietInv) (G := Quiet)
    (fun _ _ _ h hq hs => quietInv_step h hq (step_cases hs)) (quietInv_start pull bufferSize)
    hrun run.ok
  obtain ⟨hstop, hpromised, hsent, hbudget⟩ := drain_spec hdrain
  have hprefix : run.final.promised <+: s₂.sent := by
    have h : QuietInv s₂ ∧ s₁.promised <+: s₂.promised :=
      TransitionSystem.exec_invariant (I := fun t => QuietInv t ∧ s₁.promised <+: t.promised)
        (fun _ _ _ h hq hs => ⟨quietInv_step h.1 hq (step_cases hs),
          h.2.trans (promised_step h.1 hq (step_cases hs))⟩)
        ⟨quietInv_step (a := .drain) hinv trivial (step_cases hdrain), List.prefix_rfl⟩ hacts hexec
    rw [hpromised] at h
    simpa [promised, inHand, nextUp, hexited] using h.2
  have hbound : s₂.sent.length ≤ run.final.sent.length + run.final.budget := by
    have h : s₂.stopping = true ∧ s₂.sent.length + s₂.budget ≤ s₁.sent.length + s₁.budget :=
      TransitionSystem.exec_invariant
        (I := fun t => t.stopping = true ∧
          t.sent.length + t.budget ≤ s₁.sent.length + s₁.budget)
        (fun _ _ _ h hq hs => (budget_step h.1 hq (step_cases hs)).imp id fun hle =>
          hle.trans h.2) ⟨hstop, le_rfl⟩ hacts hexec
    rw [hsent, hbudget] at h
    exact (Nat.le_add_right _ _).trans h.2
  constructor
  · -- more pending messages than the budget allows
    rintro ⟨later, hlater⟩
    have hlength := congrArg List.length hlater
    simp only [List.length_append] at hlength
    cases hbg : run.final.bg with
    | receiving rem =>
        simp only [budget, inHand, hbg, List.length_nil] at hbound hlength
        cases hpend : run.final.nsub.pending with
        | nil => exact Or.inl hpend
        | cons m rest =>
            have hrest : rest = [] := by
              rw [hpend, List.length_cons] at hlength
              exact List.length_eq_zero_iff.1 (by omega)
            exact Or.inr ⟨rem, m, hbg, by rw [hpend, hrest]⟩
    | sending m =>
        simp only [budget, inHand, hbg, List.length_singleton] at hbound hlength
        exact Or.inl (List.length_eq_zero_iff.1 (by omega))
    | check | leaving | exited =>
        simp only [budget, inHand, hbg, List.length_nil] at hbound hlength
        exact Or.inl (List.length_eq_zero_iff.1 (by omega))
  · rintro (hpend | ⟨rem, m, hbg, hpend⟩)
    · obtain ⟨later, hlater⟩ := hprefix
      refine ⟨run.final.nextUp ++ later, ?_⟩
      rw [← hlater, hpend]
      simp [promised]
    · obtain ⟨later, hlater⟩ := hprefix
      refine ⟨later, ?_⟩
      rw [← hlater]
      simp [promised, inHand, nextUp, hbg, hpend]

/-- One message arrives while the background thread is at the head of its loop. -/
def oneMessageRun : (system (μ := ℕ) false 100).Run :=
  (system false 100).runOf [.arrive 7] (by decide)

/-- `drain()` is called, the subscription is drained, and the thread leaves without the message. -/
theorem drain_loses_pending_message :
    ¬ ∀ (run : (system (μ := ℕ) false 100).Run) (s₁ s₂ : State ℕ) (acts : List (Action ℕ)),
      (∀ a ∈ run.acts, Quiet a) → step run.final .drain = some s₁ → (∀ a ∈ acts, Quiet a) →
      (system false 100).exec s₁ acts = some s₂ → s₂.bg = .exited →
      ∃ later, s₂.sent = run.final.sent ++ run.final.inHand ++ run.final.nsub.pending ++ later := by
  intro hclaim
  obtain ⟨later, hlater⟩ := hclaim oneMessageRun _ _ [.drainSubscription true, .check, .exit]
    (by decide) rfl (by decide) rfl rfl
  have hnil : ([] : List ℕ) = [7] ++ later := hlater
  cases hnil

/-- The same message, taken by a `nextMsg()` that was running. -/
def oneMessageReceivingRun : (system (μ := ℕ) false 100).Run :=
  (system false 100).runOf [.check, .arrive 7] (by decide)

theorem drain_lossless_iff_receiving : ∃ s₁ s₂,
    step oneMessageReceivingRun.final .drain = some s₁ ∧
    (system false 100).exec s₁ [.poll .ok none, .send, .check, .exit] = some s₂ ∧
    ((∃ later, s₂.sent = oneMessageReceivingRun.final.sent ++ oneMessageReceivingRun.final.inHand ++
      oneMessageReceivingRun.final.nsub.pending ++ later) ↔
        DrainLossless oneMessageReceivingRun.final) :=
  ⟨_, _, rfl, rfl, drain_lossless_iff oneMessageReceivingRun (by decide) rfl
    (show ∀ a ∈ [Action.poll .ok none, .send, .check, .exit], Quiet a by decide) rfl rfl⟩

end ModuleNats.ChannelSubscription
