import Mathlib.Data.Int.Notation
import ModuleNats.NatsHelper

set_option autoImplicit false

/-! # Subscriptions

`QoreNatsSubscription` wraps a `natsSubscription` of the C client. The C client's side of it is the
queue of messages that have arrived and the phase the subscription is in; `answer` says which
answers `natsSubscription_NextMsg()` can give there. `nextPoll` is one pass of the loop in
`QoreNatsSubscription::nextMsg()`: it asks the C client once and decides how to go on. Messages are
of any type `μ`, the hash that `nats_msg_to_hash()` makes of them. -/

namespace ModuleNats

/-! ## The subscription of the C client -/

/-- The phases of a `natsSubscription`. -/
inductive Phase where
  | active
  /-- removed from the server, the queue can still be read -/
  | draining
  /-- unsubscribed, drained, or past its limit of messages -/
  | ended
deriving DecidableEq, Repr

/-- A `natsSubscription`, and what the wrapper keeps with it. -/
structure Subscription (μ : Type) where
  /-- made by `js_PullSubscribe()` -/
  pull : Bool := false
  /-- the queue of messages that have arrived -/
  pending : List μ := []
  /-- what the consumer on the server has for a pull subscription; `natsSubscription_Fetch()` alone
      asks for it -/
  available : List μ := []
  phase : Phase := .active
  /-- `QoreNatsSubscription::lastMsg` -/
  lastMsg : Option μ := none
  /-- the messages acknowledged with `natsMsg_Ack()` -/
  acked : List μ := []
deriving DecidableEq

/-- The answers of `natsSubscription_NextMsg()`. -/
inductive NextStatus where
  | ok
  | timeout
  | maxDeliveredMsgs
  | invalidSubscription
  | failed (statusText : String)
deriving DecidableEq, Repr

/-- The answers that say that no message will come any more. -/
def NextStatus.finished : NextStatus → Bool
  | .maxDeliveredMsgs | .invalidSubscription => true
  | .ok | .timeout | .failed _ => false

namespace Subscription

variable {μ : Type}

/-- The server no longer has the subscription. -/
def removed (s : Subscription μ) : Bool := s.phase != .active

/-- Nothing can be read any more: a pull subscription has no queue to read from. -/
def finished (s : Subscription μ) : Bool :=
  s.pull || s.phase == .ended || (s.phase == .draining && s.pending.isEmpty)

/-- Which answers the C client can give, with the message and the queue after `NATS_OK`. -/
def answer (s : Subscription μ) : NextStatus → Option (Option μ × List μ)
  | .ok =>
      match s.pending with
      | m :: rest => if s.pull = false ∧ s.phase ≠ .ended then some (some m, rest) else none
      | [] => none
  | .timeout =>
      if s.pull = false ∧ s.phase ≠ .ended ∧ s.pending.isEmpty then some (none, s.pending) else none
  | .maxDeliveredMsgs | .invalidSubscription =>
      if s.finished then some (none, s.pending) else none
  | .failed _ => some (none, s.pending)

/-- `QoreNatsSubscription::ack()`: the last message is acknowledged, if there is one. `failure` is
    the error of `natsMsg_Ack()`, if it gives one. -/
def ack (s : Subscription μ) (failure : Option String) : Except ExceptionInfo (Subscription μ) :=
  match s.lastMsg, failure with
  | none, _ => .error ⟨"NATS-JETSTREAM-ERROR", "no message to acknowledge"⟩
  | some _, some statusText =>
      .error (natsError "NATS-JETSTREAM-ERROR" "failed to acknowledge message" statusText)
  | some m, none => .ok { s with acked := s.acked ++ [m] }

end Subscription

/-! ## `QoreNatsSubscription::nextMsg()` -/

/-- `QORE_IO_POLL_INTERVAL_MS`: the longest wait in one call of the C client. -/
def pollIntervalMs : ℤ := 500

/-- How `nextMsg()` goes on after one answer of the C client. -/
inductive NextResult (μ : Type) where
  | message (m : μ)
  | nothing
  | raised (ex : ExceptionInfo)
  /-- polls again with the remaining time -/
  | again (remainingMs : ℤ)
deriving DecidableEq

/-- The timeout of one call: `nextMsg()` waits in slices. -/
def effectiveTimeout (infinite : Bool) (remainingMs : ℤ) : ℤ :=
  if infinite then pollIntervalMs
  else if remainingMs > pollIntervalMs then pollIntervalMs else remainingMs

/-- One pass of the loop in `nextMsg()`. `conversion` is the exception of `nats_msg_to_hash()`, if
    it raises one. -/
def nextPoll {μ : Type} (s : Subscription μ) (infinite : Bool) (remainingMs : ℤ)
    (status : NextStatus) (conversion : Option ExceptionInfo) :
    Option (NextResult μ × Subscription μ) :=
  (s.answer status).map fun (msg, pending) =>
    match msg, status with
    | some m, _ =>
        (match conversion with
          | none => .message m
          | some ex => .raised ex, { s with pending := pending, lastMsg := some m })
    | none, .timeout =>
        let remainingMs' := remainingMs - effectiveTimeout infinite remainingMs
        (if infinite then .again remainingMs
          else if remainingMs' ≤ 0 then .nothing else .again remainingMs', s)
    | none, .failed statusText =>
        (.raised (natsError "NATS-SUBSCRIBE-ERROR" "failed to get next message" statusText), s)
    | none, _ => (.nothing, s)

/-- What one pass of a `nextMsg()` with a finite timeout can do. -/
inductive NextPoll {μ : Type} (s : Subscription μ) (remainingMs : ℤ) :
    NextStatus → Option ExceptionInfo → NextResult μ → Subscription μ → Prop where
  | message {m : μ} {rest : List μ} (hphase : s.pull = false ∧ s.phase ≠ .ended)
      (hpending : s.pending = m :: rest) :
      NextPoll s remainingMs .ok none (.message m) { s with pending := rest, lastMsg := some m }
  | unconverted {m : μ} {rest : List μ} {ex : ExceptionInfo} (hpending : s.pending = m :: rest) :
      NextPoll s remainingMs .ok (some ex) (.raised ex)
        { s with pending := rest, lastMsg := some m }
  | timedOut {conversion} (hpending : s.pending = []) :
      NextPoll s remainingMs .timeout conversion .nothing s
  | again {conversion} {remainingMs' : ℤ} (hpending : s.pending = [])
      (hless : 0 < remainingMs' ∧ remainingMs' < remainingMs) :
      NextPoll s remainingMs .timeout conversion (.again remainingMs') s
  | finished {status conversion} (hstatus : status.finished) (hfinished : s.finished) :
      NextPoll s remainingMs status conversion .nothing s
  | failed {statusText : String} {conversion} :
      NextPoll s remainingMs (.failed statusText) conversion
        (.raised (natsError "NATS-SUBSCRIBE-ERROR" "failed to get next message" statusText)) s

/-- While time is left after a slice, the slice was not empty. -/
theorem effectiveTimeout_pos {remainingMs : ℤ}
    (h : ¬ remainingMs - effectiveTimeout false remainingMs ≤ 0) :
    0 < effectiveTimeout false remainingMs := by
  simp only [effectiveTimeout, Bool.false_eq_true, if_false] at h ⊢
  split
  · decide
  · next hshort => rw [if_neg hshort] at h; omega

theorem nextPoll_cases {μ : Type} {s s' : Subscription μ} {remainingMs : ℤ} {status : NextStatus}
    {conversion : Option ExceptionInfo} {result : NextResult μ}
    (h : nextPoll s false remainingMs status conversion = some (result, s')) :
    NextPoll s remainingMs status conversion result s' := by
  obtain ⟨⟨msg, pending⟩, hanswer, h⟩ := Option.map_eq_some_iff.1 h
  cases status with
  | ok =>
      simp only [Subscription.answer] at hanswer
      split at hanswer
      · next m rest hpending =>
          split at hanswer
          · next hphase =>
              cases hanswer
              cases conversion <;> cases h
              · exact .message hphase hpending
              · exact .unconverted hpending
          · cases hanswer
      · cases hanswer
  | timeout =>
      simp only [Subscription.answer] at hanswer
      split at hanswer
      · next hwait =>
          cases hanswer
          have hpending : s.pending = [] := List.isEmpty_iff.1 hwait.2.2
          obtain ⟨rfl, rfl⟩ := Prod.mk.inj h
          rw [if_neg Bool.false_ne_true]
          split
          · exact .timedOut hpending
          · next hleft => exact .again hpending (by have := effectiveTimeout_pos hleft; omega)
      · cases hanswer
  | maxDeliveredMsgs | invalidSubscription =>
      simp only [Subscription.answer] at hanswer
      split at hanswer
      · next hfinished => cases hanswer; cases h; exact .finished rfl hfinished
      · cases hanswer
  | failed statusText =>
      cases hanswer
      cases h
      exact .failed

end ModuleNats
