import ModuleNats.Lib.Channel
import ModuleNats.Lib.Transition
import ModuleNats.Subscription

set_option autoImplicit false

/-! # Channel subscriptions

A `NatsChannelSubscription` reads its subscription in a background thread, `bgLoop()`, and sends
every message to a bounded channel that consumers receive from; `close()` and `drain()` are called
from any thread.

The model is a transition system with a program counter for the background thread and one for the
call of `close()` or `drain()` that has set the stop flag: later calls return at once, so there is
only one. The server, the C client, the consumers and thread cancellation act through the actions.
`caught`, `sent` and `received` are not in the code; they record what the background thread caught
and sent, and what consumers got. -/

namespace ModuleNats.ChannelSubscription

variable {μ : Type}

/-! ## The data -/

/-- Where `bgLoop()` is. -/
inductive BgPc (μ : Type) where
  /-- about to look at the stop flag -/
  | check
  /-- in `nextMsg(500ms)`, about to ask the C client -/
  | receiving (remainingMs : ℤ)
  /-- in `chan.send()` -/
  | sending (msg : μ)
  /-- out of the loop, about to run the `on_exit` block -/
  | leaving
  | exited
deriving DecidableEq

/-- Where the call of `close()` or `drain()` is that has set the stop flag. -/
inductive CloserPc where
  | idle
  /-- in `close()`, about to unsubscribe -/
  | unsubscribing
  /-- in `close()`, about to close the channel -/
  | closingChannel
  /-- in `drain()`, about to drain the subscription -/
  | draining
  | done
deriving DecidableEq, Repr

structure State (μ : Type) where
  nsub : Subscription μ
  chan : Channel μ
  stopping : Bool := false
  bg : BgPc μ := .check
  closer : CloserPc := .idle
  /-- the exceptions that `bgLoop()` has caught -/
  caught : List Raised := []
  /-- the messages sent to the channel, in order -/
  sent : List μ := []
  /-- the messages consumers have received, in order -/
  received : List μ := []

inductive Action (μ : Type) where
  /-- a message arrives on the subscription -/
  | arrive (msg : μ)
  /-- a message becomes available to the consumer of a pull subscription -/
  | offer (msg : μ)
  /-- the subscription ends by itself: its limit is reached, or its connection was drained -/
  | finish
  | check
  /-- one answer of the C client in `nextMsg()` -/
  | poll (status : NextStatus) (conversion : Option ExceptionInfo)
  /-- `nextMsg()` finds its thread cancelled -/
  | cancel (ex : ExceptionInfo)
  | send
  /-- `chan.send()` raises an exception of its own -/
  | sendFails (ex : ExceptionInfo)
  | exit
  /-- a consumer receives from the channel -/
  | receive
  /-- a consumer receives from the blocked sender -/
  | handOver
  | close
  | unsubscribe (ok : Bool)
  | closeChannel
  | drain
  | drainSubscription (ok : Bool)
deriving DecidableEq, Repr

/-! ## The steps -/

namespace State

/-- An exception in the loop: it is caught, and the loop is left. -/
def catchException (s : State μ) (source : Source) (ex : ExceptionInfo) : State μ :=
  { s with bg := .leaving, caught := s.caught ++ [⟨source, ex⟩] }

/-- `CHANNEL-CLOSED` of a channel that does not accept a message. -/
def channelClosed : ExceptionInfo := ⟨"CHANNEL-CLOSED", "channel is closed"⟩

/-- The head of the loop: the stop flag, then `nsub.nextMsg(500ms)`. -/
def checkStop (s : State μ) : State μ :=
  { s with bg := if s.stopping then .leaving else .receiving 500 }

/-- One pass of `nextMsg()`, and what the loop does with its result. -/
def pollNext (s : State μ) (remainingMs : ℤ) (status : NextStatus)
    (conversion : Option ExceptionInfo) : Option (State μ) :=
  (nextPoll s.nsub false remainingMs status conversion).map fun (result, nsub) =>
    let s' := { s with nsub := nsub }
    match result with
    | .message m => { s' with bg := .sending m }
    | .nothing => { s' with bg := .check }
    | .again remainingMs' => { s' with bg := .receiving remainingMs' }
    | .raised ex => s'.catchException .receive ex

/-- `chan.send(msg)`: on a closed channel the loop is left, on a full one the thread blocks. -/
def sendMsg (s : State μ) (m : μ) : Option (State μ) :=
  if s.chan.closed then some (s.catchException .send channelClosed)
  else (s.chan.send m).map fun chan => { s with bg := .check, chan := chan, sent := s.sent ++ [m] }

/-- The part of `close()` and `drain()` under the lock. -/
def setStopping (s : State μ) (next : CloserPc) : State μ :=
  if s.stopping then s else { s with stopping := true, closer := next }

/-- `isActive()` -/
def isActive (s : State μ) : Bool := !s.stopping

end State

open State

def step (s : State μ) : Action μ → Option (State μ)
  | .arrive m =>
      if s.nsub.pull = false ∧ s.nsub.phase ≠ .ended then
        some { s with nsub := { s.nsub with pending := s.nsub.pending ++ [m] } }
      else none
  | .offer m =>
      if s.nsub.pull then
        some { s with nsub := { s.nsub with available := s.nsub.available ++ [m] } }
      else none
  | .finish =>
      if s.nsub.pending.isEmpty then some { s with nsub := { s.nsub with phase := .ended } }
      else none
  | .check =>
      match s.bg with
      | .check => some s.checkStop
      | _ => none
  | .poll status conversion =>
      match s.bg with
      | .receiving remainingMs => s.pollNext remainingMs status conversion
      | _ => none
  | .cancel ex =>
      match s.bg with
      | .receiving _ => some (s.catchException .receive ex)
      | _ => none
  | .send =>
      match s.bg with
      | .sending m => s.sendMsg m
      | _ => none
  | .sendFails ex =>
      match s.bg with
      | .sending _ => some (s.catchException .send ex)
      | _ => none
  | .exit =>
      match s.bg with
      | .leaving => some { s with bg := .exited, chan := s.chan.close }
      | _ => none
  | .receive =>
      s.chan.receive.map fun (m, chan) => { s with chan := chan, received := s.received ++ [m] }
  | .handOver =>
      match s.bg with
      | .sending m =>
          if s.chan.closed = false ∧ s.chan.buffer.isEmpty then
            some { s with bg := .check, sent := s.sent ++ [m], received := s.received ++ [m] }
          else none
      | _ => none
  | .close => some (s.setStopping .unsubscribing)
  | .unsubscribe ok =>
      match s.closer with
      | .unsubscribing =>
          -- an error is ignored
          let nsub := if ok then { s.nsub with phase := .ended } else s.nsub
          some { s with closer := .closingChannel, nsub := nsub }
      | _ => none
  | .closeChannel =>
      match s.closer with
      | .closingChannel => some { s with closer := .done, chan := s.chan.close }
      | _ => none
  | .drain => some (s.setStopping .draining)
  | .drainSubscription ok =>
      match s.closer with
      | .draining =>
          -- an error is raised to the caller of `drain()`
          let nsub := if ok ∧ s.nsub.phase = .active then { s.nsub with phase := .draining }
            else s.nsub
          some { s with closer := .done, nsub := nsub }
      | _ => none

/-- A channel subscription over a fresh subscription, with a channel of the given size. -/
def State.start (pull : Bool) (bufferSize : ℕ) : State μ :=
  { nsub := { pull := pull }, chan := { capacity := bufferSize } }

def system (pull : Bool) (bufferSize : ℕ) : TransitionSystem (State μ) (Action μ) :=
  ⟨State.start pull bufferSize, step⟩

end ModuleNats.ChannelSubscription
