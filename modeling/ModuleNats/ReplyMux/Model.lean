import Mathlib.Data.List.AList
import ModuleNats.Lib.Ownership
import ModuleNats.Lib.Transition
import ModuleNats.NatsHelper

set_option autoImplicit false

/-! # The reply mux of a connection

`QoreNatsConnection::request()` publishes a request whose reply subject is the connection's inbox
prefix followed by a token of its own, and waits until `replyHandler()`, which the C client calls
for every message on the inbox, has stored a message under that token in `ReplyMux::replies`.

The model is a transition system over all `request()` calls of one connection at once. Each call is
a `Request` with a program counter; a step is one critical section of the mux lock, or one stretch
of code that touches nothing shared. The C client, the clock and thread cancellation act through
the actions. Every `natsMsg_*` call on a received message is written to `log`, newest first.

Two parts of the state are not in the code: `log`, and the field `delivered` of a request, which
records the messages delivered to its reply subject while it is registered. -/

namespace ModuleNats.ReplyMux

open Ownership

/-! ## The data -/

/-- `ReplyMux::replies`: the reply of each waiting request by its token, `none` until it arrives. -/
abbrev Replies := AList fun _ : String => Option NatsMsg

/-- How a `request()` call ends, once its request is registered. -/
inductive Outcome where
  | publishFailed (statusText : String)
  | deadline
  | cancelled
  | noResponders (reply : NatsMsg)
  | conversionFailed (reply : NatsMsg)
  | returned (reply : NatsMsg)
deriving DecidableEq, Repr

/-- The message an outcome was made from. -/
def Outcome.reply : Outcome → Option NatsMsg
  | .noResponders reply | .conversionFailed reply | .returned reply => some reply
  | .publishFailed _ | .deadline | .cancelled => none

/-- Where a `request()` call is, from the choice of its token to its return. -/
inductive RequestPc where
  /-- the token is chosen, the request is not in the map yet -/
  | numbered
  /-- in the map, not published -/
  | registered
  /-- published, about to look at its entry -/
  | polling
  /-- in the condition wait -/
  | blocked
  /-- the reply is taken and owned by the `NatsMsgHolder` -/
  | holding (reply : NatsMsg)
  /-- returning, before `~WaitingRequest` -/
  | leaving (o : Outcome)
  | ended (o : Outcome)
deriving DecidableEq, Repr

namespace RequestPc

/-- Between the registration and the end of the scope of `waiting_request`. -/
def inScope : RequestPc → Bool
  | .registered | .polling | .blocked | .holding _ | .leaving _ => true
  | .numbered | .ended _ => false

/-- Registered, with the entry not taken and the outcome open. -/
def waiting : RequestPc → Bool
  | .registered | .polling | .blocked => true
  | _ => false

/-- The call still has its reference to the mux. -/
def active : RequestPc → Bool
  | .ended _ => false
  | _ => true

/-- The message that the `NatsMsgHolder` of the call owns. -/
def held : RequestPc → Option NatsMsg
  | .holding reply => some reply
  | _ => none

/-- The message that decided how the call ends. -/
def answer : RequestPc → Option NatsMsg
  | .leaving o | .ended o => o.reply
  | _ => none

end RequestPc

/-- One `request()` call. -/
structure Request where
  subject : String
  timeoutMs : Int64
  token : String
  pc : RequestPc
  /-- the messages delivered to the reply subject while the request is registered, in order -/
  delivered : List NatsMsg := []
deriving DecidableEq, Repr

/-- A running `replyHandler()` call that is about to take the mux lock. -/
structure Callback where
  msg : NatsMsg
  token : String
deriving DecidableEq, Repr

structure State where
  replyCounter : Int64 := 0
  replies : Replies := ∅
  requests : List Request := []
  callbacks : List Callback := []
  /-- the connection object exists -/
  connected : Bool := true
  /-- the connection object's reference to the mux (`reply_mux`) -/
  replyMux : Bool := false
  /-- the callback closure's reference to the mux -/
  closure : Bool := false
  /-- a reply subscription was given up; the callback of its own empty mux can still run -/
  abandoned : Bool := false
  log : List (Op ℕ) := []
deriving DecidableEq

/-- What the C client answers while the reply subscription is set up. -/
inductive InboxResult where
  | subscribed
  | inboxFailed
  | subscribeFailed
  | completeFailed
deriving DecidableEq, Repr

inductive Action where
  | request (subject : String) (timeoutMs : Int64) (inbox : InboxResult)
  | register (i : ℕ)
  | publish (i : ℕ) (failure : Option String)
  /-- the head of the wait loop, with the clock past the deadline or not -/
  | poll (i : ℕ) (expired : Bool)
  | interrupt (i : ℕ)
  | convert (i : ℕ) (ok : Bool)
  | leave (i : ℕ)
  | arrive (msg : NatsMsg)
  | arriveAbandoned (msg : NatsMsg)
  | dispatch (k : ℕ)
  | destroyConnection
  | replyComplete
deriving DecidableEq, Repr

/-! ## Strings -/

/-- The token of a reply subject: `strncmp()` with the prefix, then the rest. -/
def replyToken (pre : String) (subject : Option String) : Option String :=
  subject.bind fun s => (s.toList.dropPrefix? pre.toList).map String.ofList

theorem replyToken_eq_some {pre tok : String} {subject : Option String} :
    replyToken pre subject = some tok ↔ subject = some (pre ++ tok) := by
  cases subject with
  | none => simp [replyToken]
  | some s =>
      simp only [replyToken, Option.bind_some, Option.map_eq_some_iff,
        List.dropPrefix?_eq_some_iff, Option.some.injEq]
      constructor
      · rintro ⟨rest, ⟨front, hs, hfront⟩, rfl⟩
        rw [beq_iff_eq] at hfront
        rw [← String.ofList_toList (s := s), hs, hfront, String.ofList_append,
          String.ofList_toList]
      · rintro rfl
        exact ⟨tok.toList, ⟨pre.toList, String.toList_append, by simp⟩, String.ofList_toList⟩

/-! ## The map -/

/-- `std::map::operator[]`: a missing entry is inserted. -/
def Replies.index (replies : Replies) (tok : String) : Replies :=
  if tok ∈ replies then replies else replies.insert tok none

/-- The stored messages, in the order of the map. -/
def Replies.stored (replies : Replies) : List ℕ :=
  replies.entries.filterMap fun e => e.2.map NatsMsg.id

/-! ## The steps -/

namespace State

def setPc (s : State) (i : ℕ) (r : Request) (pc : RequestPc) : State :=
  { s with requests := s.requests.set i { r with pc := pc } }

/-- `natsMsg_Destroy()`. -/
def destroyMsg (s : State) (id : ℕ) : State := { s with log := .release id :: s.log }

/-- A shared pointer to the mux is left. -/
def referenced (s : State) : Bool :=
  s.replyMux || s.closure || s.requests.any fun r => r.pc.active

/-- The end of a shared pointer: the last one runs `~ReplyMux`. -/
def dropRef (s : State) : State :=
  if s.referenced then s
  else
    { s with replies := ∅, log := (s.replies.stored.map Op.release).reverse ++ s.log }

/-- `getReplyMux()`: whether there is a mux, and the state after the attempt to create it. -/
def getReplyMux (s : State) (inbox : InboxResult) : Bool × State :=
  if s.replyMux then (true, s)
  else match inbox with
    | .subscribed => (true, { s with replyMux := true, closure := true })
    | .inboxFailed | .subscribeFailed => (false, s)
    | .completeFailed => (false, { s with abandoned := true })

/-- `std::to_string(++reply_counter)`. -/
def number (s : State) (subject : String) (timeoutMs : Int64) : State :=
  { s with
    replyCounter := s.replyCounter + 1
    requests := s.requests ++
      [⟨subject, timeoutMs, toString (s.replyCounter + 1).toInt, .numbered, []⟩] }

/-- The start of `request()`; without a mux it raises `NATS-REQUEST-ERROR` and ends. -/
def startRequest (s : State) (subject : String) (timeoutMs : Int64) (inbox : InboxResult) : State :=
  match s.getReplyMux inbox with
  | (true, s') => s'.number subject timeoutMs
  | (false, s') => s'

/-- `mux->replies[token] = nullptr`. -/
def registerRequest (s : State) (i : ℕ) (r : Request) : State :=
  { s.setPc i r .registered with replies := s.replies.insert r.token none }

/-- `natsConnection_PublishRequest()`. -/
def publishRequest (s : State) (i : ℕ) (r : Request) : Option String → State
  | none => s.setPc i r .polling
  | some statusText => s.setPc i r (.leaving (.publishFailed statusText))

/-- One pass of the wait loop, under the lock: the reply is taken if it is there, else the call
    gives up or waits. -/
def pollReply (s : State) (i : ℕ) (r : Request) (expired : Bool) : State :=
  let replies := s.replies.index r.token
  match replies.lookup r.token with
  | some (some reply) =>
      { s.setPc i r (.holding reply) with replies := replies.insert r.token none }
  | _ =>
      { s.setPc i r (if expired then .leaving .deadline else .blocked) with replies := replies }

/-- How a taken reply ends the call. -/
def replyOutcome (reply : NatsMsg) (ok : Bool) : Outcome :=
  if reply.noResponders then .noResponders reply
  else if ok then .returned reply
  else .conversionFailed reply

/-- `natsMsg_IsNoResponders()`, then `nats_msg_to_hash()` for a reply; the holder destroys the
    message. -/
def convertReply (s : State) (i : ℕ) (r : Request) (reply : NatsMsg) (ok : Bool) : State :=
  let s' := s.setPc i r (.leaving (replyOutcome reply ok))
  if reply.noResponders then
    { s' with log := .release reply.id :: .use reply.id :: s.log }
  else
    { s' with log := .release reply.id :: .use reply.id :: .use reply.id :: s.log }

/-- `~WaitingRequest`, and the end of the call's reference to the mux. -/
def leaveRequest (s : State) (i : ℕ) (r : Request) (o : Outcome) : State :=
  let s' := s.setPc i r (.ended o)
  match s.replies.lookup r.token with
  | none => s'.dropRef
  | some none => dropRef { s' with replies := s.replies.erase r.token }
  | some (some reply) =>
      dropRef { (s'.destroyMsg reply.id) with replies := s.replies.erase r.token }

/-- `replyHandler()` up to the lock: the subject is read, a foreign message is destroyed. -/
def replyHandler (s : State) (pre : String) (msg : NatsMsg) : State :=
  let s' := { s with log := .use msg.id :: .acquire msg.id :: s.log }
  match replyToken pre msg.subject with
  | none => s'.destroyMsg msg.id
  | some tok => { s' with callbacks := s'.callbacks ++ [⟨msg, tok⟩] }

/-- A message delivered to a token is noted for the requests registered under it. -/
def noteDelivery (c : Callback) (r : Request) : Request :=
  if r.pc.inScope ∧ r.token = c.token then { r with delivered := r.delivered ++ [c.msg] } else r

/-- `replyHandler()` under the lock: the message is stored if its request is there and has no reply
    yet, else destroyed. -/
def storeReply (s : State) (k : ℕ) (c : Callback) : State :=
  let s' := { s with
    callbacks := s.callbacks.eraseIdx k
    requests := s.requests.map (noteDelivery c) }
  match s.replies.lookup c.token with
  | some none => { s' with replies := s.replies.insert c.token (some c.msg) }
  | _ => s'.destroyMsg c.msg.id

end State

open State

/-- One step; `pre` is the reply subject prefix of the connection. -/
def step (pre : String) (s : State) : Action → Option State
  | .request subject timeoutMs inbox =>
      if s.connected then some (s.startRequest subject timeoutMs inbox) else none
  | .register i => s.requests[i]?.bind fun r =>
      match r.pc with
      | .numbered => some (s.registerRequest i r)
      | _ => none
  | .publish i failure => s.requests[i]?.bind fun r =>
      match r.pc with
      | .registered => some (s.publishRequest i r failure)
      | _ => none
  | .poll i expired => s.requests[i]?.bind fun r =>
      match r.pc with
      | .polling | .blocked => some (s.pollReply i r expired)
      | _ => none
  | .interrupt i => s.requests[i]?.bind fun r =>
      match r.pc with
      | .blocked => some (s.setPc i r (.leaving .cancelled))
      | _ => none
  | .convert i ok => s.requests[i]?.bind fun r =>
      match r.pc with
      | .holding reply => some (s.convertReply i r reply ok)
      | _ => none
  | .leave i => s.requests[i]?.bind fun r =>
      match r.pc with
      | .leaving o => some (s.leaveRequest i r o)
      | _ => none
  | .arrive msg =>
      if s.closure ∧ Op.acquire msg.id ∉ s.log then some (s.replyHandler pre msg) else none
  | .arriveAbandoned msg =>
      -- either branch of the handler destroys the message: the abandoned mux has no request
      if s.abandoned ∧ Op.acquire msg.id ∉ s.log then
        some { s with log := .release msg.id :: .use msg.id :: .acquire msg.id :: s.log }
      else none
  | .dispatch k => s.callbacks[k]?.map fun c => s.storeReply k c
  | .destroyConnection =>
      if s.connected then some (dropRef { s with connected := false, replyMux := false }) else none
  | .replyComplete =>
      -- the C client calls it after the last message callback of the subscription
      if s.closure ∧ s.callbacks = [] then some (dropRef { s with closure := false }) else none

/-- The connection's requests, its callbacks and the environment as one system. -/
def system (pre : String) : TransitionSystem State Action := ⟨{}, step pre⟩

end ModuleNats.ReplyMux
