import ModuleNats.ChannelSubscription.Model

set_option autoImplicit false

/-! # The subscribe event providers

Four data providers raise an event for every message of a subscription: the core NATS ones
(`NatsSubscribeEventDataProvider` and `NatsQueueSubscribeEventDataProvider`) and the JetStream ones
(`NatsJSSubscribeEventDataProvider` and `NatsJSPullSubscribeEventDataProvider`).
They differ in how they subscribe; the calls of `observersReady()` and `stopEvents()` and the loop
that listens are the same code but for the names of the events, modelled once for a `Provider`.

The model contains the channel subscription that the provider listens to: its environment, its
background thread and the rest of its `close()` are the actions `csub`. An event is raised by the
call of `notifyObservers()`; what the observers do with it comes after, and their exceptions come
back into the loop. -/

namespace ModuleNats.EventProvider

open ChannelSubscription (BgPc CloserPc)

/-! ## The providers -/

/-- The observer request: the options of a subscription. -/
structure ObserverRequest where
  subject : Option String
  queue : Option String
  durable : Option String
deriving DecidableEq, Repr

/-- The calls that create a subscription. -/
inductive SubscribeCall where
  | channelSubscribe (subject : String)
  | channelQueueSubscribe (subject queue : String)
  | jsSubscribe (subject : String)
  | jsPullSubscribe (subject : String) (durable : Option String)
deriving DecidableEq, Repr

/-- Only `js_PullSubscribe()` makes a pull subscription. -/
def SubscribeCall.pull : SubscribeCall → Bool
  | .jsPullSubscribe _ _ => true
  | .channelSubscribe _ | .channelQueueSubscribe _ _ | .jsSubscribe _ => false

/-- The call can be made: `string durable = observer_request.durable` raises an exception when the
    request has none. -/
def SubscribeCall.callable : SubscribeCall → Bool
  | .jsPullSubscribe _ durable => durable.isSome
  | .channelSubscribe _ | .channelQueueSubscribe _ _ | .jsSubscribe _ => true

/-- What distinguishes one provider, with its observer request, from another. -/
structure Provider where
  subscribe : SubscribeCall
  /-- `observersReady()` flushes the connection -/
  flushes : Bool
deriving DecidableEq, Repr

def natsSubscribe (req : ObserverRequest) : Provider :=
  ⟨.channelSubscribe (req.subject.getD ">"), true⟩

def natsQueueSubscribe (req : ObserverRequest) : Provider :=
  ⟨.channelQueueSubscribe (req.subject.getD ">") (req.queue.getD "default"), true⟩

def natsJSSubscribe (req : ObserverRequest) : Provider :=
  ⟨.jsSubscribe (req.subject.getD ">"), false⟩

def natsJSPullSubscribe (req : ObserverRequest) : Provider :=
  ⟨.jsPullSubscribe (req.subject.getD ">") req.durable, false⟩

/-! ## The data -/

variable {μ : Type}

/-- An event with its data. The data of an error are the `err` and `desc` of the exception. -/
inductive Event (μ : Type) where
  | message (msg : μ)
  | complete
  | error (ex : Raised)
deriving DecidableEq

def Event.terminal : Event μ → Bool
  | .message _ => false
  | .complete | .error _ => true

/-- Where the listening loop is. -/
inductive LoopPc (μ : Type) where
  | notStarted
  /-- in the `next()` of the channel iterator -/
  | next
  /-- about to look at the stop flag -/
  | check (msg : μ)
  /-- about to raise an event -/
  | raising (e : Event μ)
  /-- the observers are running -/
  | observing (e : Event μ)
  | ended
  /-- ended by the exception of an observer of the ERROR event -/
  | died (ex : Raised)
deriving DecidableEq

/-- Where `observersReady()` is. -/
inductive ReadyPc where
  | idle
  | subscribing
  | flushing
  | returned
  | failed (ex : ExceptionInfo)
deriving DecidableEq, Repr

structure State (μ : Type) where
  csub : Option (ChannelSubscription.State μ) := none
  started : Bool := false
  stopping : Bool := false
  active : Bool := true
  ready : ReadyPc := .idle
  /-- the `stopEvents()` calls that have set the stop flag and are about to close `csub` -/
  stops : ℕ := 0
  loop : LoopPc μ := .notStarted
  /-- the events raised so far, in order -/
  events : List (Event μ) := []

inductive Action (μ : Type) where
  | observersReady
  /-- the subscribe call and the assignment of `csub`, with the exception raised, if any -/
  | subscribe (failure : Option ExceptionInfo)
  | flush (failure : Option ExceptionInfo)
  | stopEvents
  /-- a `stopEvents()` call goes on with `csub.close()` -/
  | closeCsub
  /-- a step of the channel subscription that the provider does not take itself -/
  | csub (a : ChannelSubscription.Action μ)
  | next
  | iteratorFails (ex : ExceptionInfo)
  | check
  | notify
  /-- `notifyObservers()` returns, or lets the exception of an observer through -/
  | observed (thrown : Option ExceptionInfo)
deriving DecidableEq, Repr

/-! ## The steps -/

/-- The steps of the channel subscription that are not calls of the provider: those of its
    environment, of its background thread and of the rest of `close()`. -/
def ofCsub : ChannelSubscription.Action μ → Bool
  | .receive | .handOver | .close | .drain | .drainSubscription _ => false
  | _ => true

namespace State

/-- `background subscribeLoop()`. -/
def startLoop (s : State μ) : State μ := { s with ready := .returned, loop := .next }

/-- The `catch` block: the loop goes on to the ERROR event. -/
def catchException (s : State μ) (source : Source) (ex : ExceptionInfo) : State μ :=
  { s with active := false, loop := .raising (.error ⟨source, ex⟩) }

/-- The end of the `foreach`: the loop goes on to the COMPLETE event. -/
def endForeach (s : State μ) : State μ :=
  { s with active := false, loop := .raising .complete }

/-- `notifyObservers()` is over. The exception of an observer reaches the `catch` block unless it
    is raised there. -/
def afterObservers (s : State μ) (e : Event μ) : Option ExceptionInfo → State μ
  | none =>
      match e with
      | .message _ => { s with loop := .next }
      | .complete | .error _ => { s with loop := .ended }
  | some ex =>
      match e with
      | .message _ | .complete => s.catchException .observer ex
      | .error _ => { s with loop := .died ⟨.observer, ex⟩ }

/-- A step of the channel subscription, if there is one. -/
def stepCsub (s : State μ) (a : ChannelSubscription.Action μ) : Option (State μ) :=
  s.csub.bind fun csub => (ChannelSubscription.step csub a).map fun csub' =>
    { s with csub := some csub' }

/-- `next()` of the channel iterator: a message, or the end of a closed channel. -/
def iterate (s : State μ) : Option (State μ) :=
  s.csub.bind fun csub =>
    match csub.chan.buffer with
    | m :: _ => (s.stepCsub .receive).map fun s' => { s' with loop := .check m }
    | [] => if csub.chan.closed then some s.endForeach else none

end State

open State

/-- One step of a provider. -/
def step (p : Provider) (s : State μ) : Action μ → Option (State μ)
  | .observersReady =>
      -- a second call raises `NATS-OBSERVABLE-ERROR`
      if s.started then some s else some { s with started := true, ready := .subscribing }
  | .subscribe failure =>
      match s.ready, failure with
      | .subscribing, none =>
          if p.subscribe.callable then
            let s' := { s with csub := some (.start p.subscribe.pull 100) }
            some (if p.flushes then { s' with ready := .flushing } else s'.startLoop)
          else none
      | .subscribing, some ex => some { s with ready := .failed ex }
      | _, _ => none
  | .flush failure =>
      match s.ready, failure with
      | .flushing, none => some s.startLoop
      | .flushing, some ex => some { s with ready := .failed ex }
      | _, _ => none
  | .stopEvents => some { s with stopping := true, stops := s.stops + 1 }
  | .closeCsub =>
      if s.stops = 0 then none
      else
        -- without a subscription the call raises an exception
        let s' := { s with stops := s.stops - 1 }
        some ((s'.stepCsub .close).getD s')
  | .csub a => if ofCsub a then s.stepCsub a else none
  | .next =>
      match s.loop with
      | .next => s.iterate
      | _ => none
  | .iteratorFails ex =>
      match s.loop with
      | .next => some (s.catchException .iterator ex)
      | _ => none
  | .check =>
      match s.loop with
      | .check m =>
          some (if s.stopping then s.endForeach else { s with loop := .raising (.message m) })
      | _ => none
  | .notify =>
      match s.loop with
      | .raising e => some { s with loop := .observing e, events := s.events ++ [e] }
      | _ => none
  | .observed thrown =>
      match s.loop with
      | .observing e => some (s.afterObservers e thrown)
      | _ => none

def system (p : Provider) : TransitionSystem (State μ) (Action μ) := ⟨{}, step p⟩

/-! ## What the observers see -/

/-- The data of the MESSAGE events. -/
def State.messages (s : State μ) : List μ :=
  s.events.filterMap fun e => match e with
    | .message m => some m
    | .complete | .error _ => none

/-- The server no longer has the subscription of the provider. -/
def State.removed (s : State μ) : Bool := s.csub.any fun csub => csub.nsub.removed

end ModuleNats.EventProvider
