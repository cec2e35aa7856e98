import ModuleNats.ChannelSubscription.Drain

set_option autoImplicit false

/-! # What consumers receive

`bgLoop()` has at most one message in its hands: it takes the next one only after it has sent the
last one, and every way to drop a message leaves the loop. With the channel being a queue, what
consumers have received is therefore the beginning of what `bgLoop()` has taken, and all but one of
the messages taken have been put into the channel. Once the stop flag is set only a `nextMsg()` that
is already running takes another message. -/

namespace ModuleNats.ChannelSubscription

open State

variable {μ : Type}

/-! ## Taken, sent, received -/

/-- The message that a step of `bgLoop()` takes from the subscription. -/
def taken (s : State μ) : Action μ → List μ
  | .poll .ok _ => s.nsub.pending.take 1
  | _ => []

theorem taken_finished {s : State μ} {status : NextStatus} {conversion : Option ExceptionInfo}
    (h : status.finished) : taken s (.poll status conversion) = [] := by
  cases status with
  | ok => cases h
  | _ => rfl

/-- `bgLoop()` has left its loop. -/
def State.outOfLoop (s : State μ) : Prop := s.bg = .leaving ∨ s.bg = .exited

/-- What has become of the messages that `bgLoop()` has taken: they are sent in order, and all that
    is missing is the message in hand, or the one with which the loop was left. -/
structure Delivered (s : State μ) (msgs : List μ) : Prop where
  queue : s.sent = s.received ++ s.chan.buffer
  missing : ∃ rest, msgs = s.sent ++ rest ∧ rest.length ≤ 1 ∧ (¬ s.outOfLoop → rest = s.inHand)

/-- A step that takes nothing and sends nothing. -/
theorem Delivered.keep {s t : State μ} {msgs : List μ} (h : Delivered s msgs)
    (hqueue : t.sent = t.received ++ t.chan.buffer) (hsent : t.sent = s.sent)
    (hin : ¬ t.outOfLoop → ¬ s.outOfLoop ∧ t.inHand = s.inHand) : Delivered t (msgs ++ []) := by
  obtain ⟨rest, hmsgs, hlength, hrest⟩ := h.missing
  refine ⟨hqueue, rest, by rw [List.append_nil, hmsgs, hsent], hlength, fun hout => ?_⟩
  obtain ⟨hin, hhand⟩ := hin hout
  rw [hhand, hrest hin]

theorem delivered_step {s s' : State μ} {a : Action μ} {msgs : List μ} (h : Delivered s msgs)
    (hs : Step s a s') : Delivered s' (msgs ++ taken s a) := by
  have hidle : ∀ rem, s.bg = .receiving rem → msgs = s.sent := by
    intro rem hbg
    obtain ⟨rest, hmsgs, -, hrest⟩ := h.missing
    rw [hmsgs, hrest (by simp [outOfLoop, hbg]), inHand, hbg, List.append_nil]
  have hsending : ∀ m, s.bg = .sending m → msgs = s.sent ++ [m] := by
    intro m hbg
    obtain ⟨rest, hmsgs, -, hrest⟩ := h.missing
    rw [hmsgs, hrest (by simp [outOfLoop, hbg]), inHand, hbg]
  cases hs with
  | message hbg hphase hpending =>
      refine ⟨h.queue, [_], ?_, le_rfl, fun _ => rfl⟩
      rw [hidle _ hbg, taken, hpending, List.take_succ_cons, List.take_zero]
  | @unconverted rem m rest ex hbg hpending =>
      refine ⟨h.queue, [m], ?_, le_rfl, fun hin => absurd (Or.inl rfl) hin⟩
      rw [hidle _ hbg, taken, hpending, List.take_succ_cons, List.take_zero]
      rfl
  | send hbg hsend =>
      refine ⟨?_, [], by rw [hsending _ hbg]; rfl, Nat.zero_le _, fun _ => rfl⟩
      rw [(Channel.send_spec hsend).2.2, h.queue, List.append_assoc]
  | handOver hbg hchan =>
      refine ⟨?_, [], by rw [hsending _ hbg]; rfl, Nat.zero_le _, fun _ => rfl⟩
      simp only [h.queue, hchan.2, List.append_nil]
  | receive hreceive =>
      refine h.keep ?_ rfl fun hin => ⟨hin, rfl⟩
      rw [h.queue, (Channel.receive_spec hreceive).1, List.append_assoc]
      rfl
  | goOn hbg | timedOut hbg | again hbg =>
      exact h.keep h.queue rfl fun _ => by simp [outOfLoop, inHand, hbg]
  | finished hbg hstatus =>
      rw [taken_finished hstatus]
      exact h.keep h.queue rfl fun _ => by simp [outOfLoop, inHand, hbg]
  | stop | failed | cancel | sendClosed | sendFails =>
      exact h.keep h.queue rfl fun hin => absurd (Or.inl rfl) hin
  | exit => exact h.keep h.queue rfl fun hin => absurd (Or.inr rfl) hin
  | arrive | offer | finish | alreadyClosed | close | unsubscribe | unsubscribeFails
  | closeChannel | alreadyDrained | drain | drainSubscription =>
      exact h.keep h.queue rfl fun hin => ⟨hin, rfl⟩

theorem delivered_run {pull : Bool} {bufferSize : ℕ} (run : (system (μ := μ) pull bufferSize).Run) :
    Delivered run.final (run.outputs taken) := by
  induction run using TransitionSystem.Run.induction with
  | nil => exact ⟨rfl, [], rfl, Nat.zero_le _, fun _ => rfl⟩
  | extend run a s' h ih =>
      rw [TransitionSystem.Run.outputs_extend]
      exact delivered_step ih (step_cases h)

/-! ## After the stop flag -/

/-- How many messages `bgLoop()` can still take when the stop flag is set. -/
def State.takes (s : State μ) : ℕ :=
  match s.bg with
  | .receiving _ => 1
  | _ => 0

/-- With the stop flag set, taking a message uses up the running `nextMsg()`. -/
theorem takes_step {s s' : State μ} {a : Action μ} (hstop : s.stopping = true)
    (hs : Step s a s') :
    s'.stopping = true ∧ (taken s a).length + s'.takes ≤ s.takes := by
  cases hs with
  | goOn hbg hgo => exact absurd (hgo.symm.trans hstop) Bool.false_ne_true
  | message hbg hphase hpending | unconverted hbg hpending =>
      exact ⟨hstop, by simp [taken, takes, catchException, hbg, hpending]⟩
  | stop hbg | timedOut hbg hpending | again hbg hpending hless | cancel hbg | sendClosed hbg
  | send hbg | sendFails hbg | exit hbg | handOver hbg =>
      exact ⟨hstop, by simp [taken, takes, catchException, hbg]⟩
  | failed hbg => exact ⟨hstop, by simp [taken, takes, catchException, hbg]⟩
  | finished hbg hstatus => exact ⟨hstop, by simp [taken_finished hstatus, takes, hbg]⟩
  | close | drain => exact ⟨rfl, by simp [taken, takes]⟩
  | arrive | offer | finish | receive | alreadyClosed | unsubscribe | unsubscribeFails
  | closeChannel | alreadyDrained | drainSubscription =>
      exact ⟨hstop, by simp [taken, takes]⟩

theorem takes_le (s : State μ) : s.takes ≤ 1 := by
  unfold takes
  split
  · exact le_rfl
  · exact Nat.zero_le _

/-- Channel delivery: what consumers have received is the beginning of what `bgLoop()` has taken,
    at most one of the messages taken has not been put into the channel, and after a call of
    `close()` at most one more message is taken. -/
theorem delivery {pull : Bool} {bufferSize : ℕ} (run : (system (μ := μ) pull bufferSize).Run) :
    run.final.received <+: run.outputs taken ∧
      (∃ lost, run.outputs taken = run.final.received ++ run.final.chan.buffer ++ lost ∧
        lost.length ≤ 1) ∧
      ∀ s, step run.final .close = some s → ∀ acts,
        ((system pull bufferSize).outputs taken s acts).length ≤ 1 := by
  have h := delivered_run run
  obtain ⟨lost, hmsgs, hlength, -⟩ := h.missing
  rw [h.queue] at hmsgs
  refine ⟨⟨run.final.chan.buffer ++ lost, by rw [hmsgs, List.append_assoc]⟩,
    ⟨lost, hmsgs, hlength⟩, fun s hclose acts => ?_⟩
  have hstop : s.stopping = true := by
    cases step_cases hclose with
    | alreadyClosed hstop => exact hstop
    | close hstop => rfl
  have hbound := TransitionSystem.length_outputs_le (I := fun t : State μ => t.stopping = true)
    (M := system pull bufferSize) (fun _ _ _ hstop hs => takes_step hstop (step_cases hs))
    hstop acts
  exact hbound.trans (takes_le s)

end ModuleNats.ChannelSubscription
