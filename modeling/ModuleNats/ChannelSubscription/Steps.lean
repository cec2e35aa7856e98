import ModuleNats.ChannelSubscription.Model

set_option autoImplicit false

/-! # What a step of a channel subscription can do

One constructor of `Step` for each branch of the code, with its guard and its effect; `step` is
unfolded here only. -/

namespace ModuleNats.ChannelSubscription

open State

variable {μ : Type}

/-- Every step. -/
inductive Step (s : State μ) : Action μ → State μ → Prop where
  | arrive {m : μ} (hphase : s.nsub.pull = false ∧ s.nsub.phase ≠ .ended) :
      Step s (.arrive m) { s with nsub := { s.nsub with pending := s.nsub.pending ++ [m] } }
  | offer {m : μ} (hpull : s.nsub.pull = true) :
      Step s (.offer m) { s with nsub := { s.nsub with available := s.nsub.available ++ [m] } }
  | finish (hpending : s.nsub.pending = []) :
      Step s .finish { s with nsub := { s.nsub with phase := .ended } }
  | stop (hbg : s.bg = .check) (hstop : s.stopping = true) : Step s .check { s with bg := .leaving }
  | goOn (hbg : s.bg = .check) (hstop : s.stopping = false) :
      Step s .check { s with bg := .receiving 500 }
  | message {rem : ℤ} {m : μ} {rest : List μ} (hbg : s.bg = .receiving rem)
      (hphase : s.nsub.pull = false ∧ s.nsub.phase ≠ .ended)
      (hpending : s.nsub.pending = m :: rest) :
      Step s (.poll .ok none) { s with
        bg := .sending m
        nsub := { s.nsub with pending := rest, lastMsg := some m } }
  | unconverted {rem : ℤ} {m : μ} {rest : List μ} {ex : ExceptionInfo} (hbg : s.bg = .receiving rem)
      (hpending : s.nsub.pending = m :: rest) :
      Step s (.poll .ok (some ex)) (catchException
        { s with nsub := { s.nsub with pending := rest, lastMsg := some m } } .receive ex)
  | timedOut {rem : ℤ} {conversion} (hbg : s.bg = .receiving rem) (hpending : s.nsub.pending = []) :
      Step s (.poll .timeout conversion) { s with bg := .check }
  | again {rem rem' : ℤ} {conversion} (hbg : s.bg = .receiving rem) (hpending : s.nsub.pending = [])
      (hless : 0 < rem' ∧ rem' < rem) :
      Step s (.poll .timeout conversion) { s with bg := .receiving rem' }
  | finished {rem : ℤ} {status conversion} (hbg : s.bg = .receiving rem) (hstatus : status.finished)
      (hfinished : s.nsub.finished) : Step s (.poll status conversion) { s with bg := .check }
  | failed {rem : ℤ} {statusText : String} {conversion} (hbg : s.bg = .receiving rem) :
      Step s (.poll (.failed statusText) conversion) (s.catchException .receive
        (natsError "NATS-SUBSCRIBE-ERROR" "failed to get next message" statusText))
  | cancel {rem : ℤ} {ex : ExceptionInfo} (hbg : s.bg = .receiving rem) :
      Step s (.cancel ex) (s.catchException .receive ex)
  | sendClosed {m : μ} (hbg : s.bg = .sending m) (hclosed : s.chan.closed = true) :
      Step s .send (s.catchException .send channelClosed)
  | send {m : μ} {chan : Channel μ} (hbg : s.bg = .sending m) (hsend : s.chan.send m = some chan) :
      Step s .send { s with bg := .check, chan := chan, sent := s.sent ++ [m] }
  | sendFails {m : μ} {ex : ExceptionInfo} (hbg : s.bg = .sending m) :
      Step s (.sendFails ex) (s.catchException .send ex)
  | exit (hbg : s.bg = .leaving) : Step s .exit { s with bg := .exited, chan := s.chan.close }
  | receive {m : μ} {chan : Channel μ} (hreceive : s.chan.receive = some (m, chan)) :
      Step s .receive { s with chan := chan, received := s.received ++ [m] }
  | handOver {m : μ} (hbg : s.bg = .sending m)
      (hchan : s.chan.closed = false ∧ s.chan.buffer = []) :
      Step s .handOver { s with
        bg := .check
        sent := s.sent ++ [m]
        received := s.received ++ [m] }
  | alreadyClosed (hstop : s.stopping = true) : Step s .close s
  | close (hstop : s.stopping = false) :
      Step s .close { s with stopping := true, closer := .unsubscribing }
  | unsubscribe (hcloser : s.closer = .unsubscribing) :
      Step s (.unsubscribe true) { s with
        closer := .closingChannel
        nsub := { s.nsub with phase := .ended } }
  | unsubscribeFails (hcloser : s.closer = .unsubscribing) :
      Step s (.unsubscribe false) { s with closer := .closingChannel }
  | closeChannel (hcloser : s.closer = .closingChannel) :
      Step s .closeChannel { s with closer := .done, chan := s.chan.close }
  | alreadyDrained (hstop : s.stopping = true) : Step s .drain s
  | drain (hstop : s.stopping = false) :
      Step s .drain { s with stopping := true, closer := .draining }
  | drainSubscription {ok : Bool} (hcloser : s.closer = .draining) {phase : Phase}
      (hphase : phase = s.nsub.phase ∨ (s.nsub.phase = .active ∧ phase = .draining)) :
      Step s (.drainSubscription ok) { s with
        closer := .done
        nsub := { s.nsub with phase := phase } }

/-- Every step that is possible is one of `Step`. -/
theorem step_cases {s s' : State μ} {a : Action μ} (h : step s a = some s') : Step s a s' := by
  cases a with
  | arrive m =>
      simp only [step] at h
      split at h
      · next hphase => cases h; exact .arrive hphase
      · cases h
  | offer m =>
      simp only [step] at h
      split at h
      · next hpull => cases h; exact .offer hpull
      · cases h
  | finish =>
      simp only [step] at h
      split at h
      · next hpending => cases h; exact .finish (List.isEmpty_iff.1 hpending)
      · cases h
  | check =>
      simp only [step] at h
      split at h
      · next hbg =>
          cases h
          simp only [checkStop]
          split
          · next hstop => exact .stop hbg hstop
          · next hstop => exact .goOn hbg (Bool.not_eq_true _ ▸ hstop)
      · cases h
  | poll status conversion =>
      simp only [step] at h
      split at h
      · next rem hbg =>
          obtain ⟨⟨result, nsub⟩, hpoll, rfl⟩ := Option.map_eq_some_iff.1 h
          cases nextPoll_cases hpoll with
          | message hphase hpending => exact .message hbg hphase hpending
          | unconverted hpending => exact .unconverted hbg hpending
          | timedOut hpending => exact .timedOut hbg hpending
          | again hpending hless => exact .again hbg hpending hless
          | finished hstatus hfinished => exact .finished hbg hstatus hfinished
          | failed => exact .failed hbg
      · cases h
  | cancel ex =>
      simp only [step] at h
      split at h
      · next rem hbg => cases h; exact .cancel hbg
      · cases h
  | send =>
      simp only [step] at h
      split at h
      · next m hbg =>
          simp only [sendMsg] at h
          split at h
          · next hclosed => cases h; exact .sendClosed hbg hclosed
          · obtain ⟨chan, hsend, rfl⟩ := Option.map_eq_some_iff.1 h
            exact .send hbg hsend
      · cases h
  | sendFails ex =>
      simp only [step] at h
      split at h
      · next m hbg => cases h; exact .sendFails hbg
      · cases h
  | exit =>
      simp only [step] at h
      split at h
      · next hbg => cases h; exact .exit hbg
      · cases h
  | receive =>
      obtain ⟨⟨m, chan⟩, hreceive, rfl⟩ := Option.map_eq_some_iff.1 h
      exact .receive hreceive
  | handOver =>
      simp only [step] at h
      split at h
      · next m hbg =>
          split at h
          · next hchan => cases h; exact .handOver hbg ⟨hchan.1, List.isEmpty_iff.1 hchan.2⟩
          · cases h
      · cases h
  | close =>
      cases h
      simp only [setStopping]
      split
      · next hstop => exact .alreadyClosed hstop
      · next hstop => exact .close (Bool.not_eq_true _ ▸ hstop)
  | unsubscribe ok =>
      simp only [step] at h
      split at h
      · next hcloser =>
          cases h
          cases ok with
          | true => exact .unsubscribe hcloser
          | false => exact .unsubscribeFails hcloser
      · cases h
  | closeChannel =>
      simp only [step] at h
      split at h
      · next hcloser => cases h; exact .closeChannel hcloser
      · cases h
  | drain =>
      cases h
      simp only [setStopping]
      split
      · next hstop => exact .alreadyDrained hstop
      · next hstop => exact .drain (Bool.not_eq_true _ ▸ hstop)
  | drainSubscription ok =>
      simp only [step] at h
      split at h
      · next hcloser =>
          cases h
          split
          · next hok => exact .drainSubscription hcloser (Or.inr ⟨hok.2, rfl⟩)
          · exact .drainSubscription hcloser (Or.inl rfl)
      · cases h

end ModuleNats.ChannelSubscription
