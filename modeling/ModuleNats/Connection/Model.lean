import ModuleNats.Lib.Ownership
import ModuleNats.Lib.RefCount
import ModuleNats.Lib.Transition
import ModuleNats.NatsHelper

set_option autoImplicit false

/-! # The callbacks of a connection

A `QoreNatsConnection` with callbacks has a `NatsCallbackContext`, which the C client passes to each
callback. The context is reference counted: one reference is the object's, the other one belongs to
the closed callback.

The system below interleaves the object (its constructor step by step, `close()`, its destructor)
and the callbacks of the C client. What the C client promises is part of the guards: callbacks are
those of a connection that was created; the closed callback comes once, when no other callback runs,
and is the last one. -/

namespace ModuleNats.Connection

open Ownership RefCount

/-! ## The context -/

inductive Callback where
  | disconnect
  | reconnect
  | closed
  | error
  | lameDuck
  | discoveredServers
deriving DecidableEq, Repr

/-- The callbacks in the order in which `setupCallbacks()` sets them. -/
def Callback.all : List Callback :=
  [.disconnect, .reconnect, .closed, .error, .lameDuck, .discoveredServers]

/-- The description of a callback that could not be set. -/
def Callback.failure : Callback → String
  | .disconnect => "failed to set disconnect callback"
  | .reconnect => "failed to set reconnect callback"
  | .closed => "failed to set closed callback"
  | .error => "failed to set error handler"
  | .lameDuck => "failed to set lame duck callback"
  | .discoveredServers => "failed to set discovered servers callback"

/-- What is allocated or referenced: the context, its closures, and its Program. -/
inductive Object where
  | ctx
  | closure (cb : Callback)
  | pgm
deriving DecidableEq, Repr

/-- A thread that can release a reference: the one of the object, or that of the callbacks. -/
inductive Thread where
  | object
  | callback
deriving DecidableEq, Repr

/-- The pointers that are not null, and the references to the context. -/
structure NatsCallbackContext where
  closures : List Callback := []
  pgm : Bool
  refs : Counter Thread := {}
deriving DecidableEq, Repr

namespace NatsCallbackContext

def pgmObjects (c : NatsCallbackContext) : List Object := if c.pgm then [.pgm] else []

/-- What `cleanup()` dereferences, in order. -/
def cleanup (c : NatsCallbackContext) : List Object := c.closures.map .closure ++ c.pgmObjects

/-- What a callback uses: without its closure or a Program it returns at once. -/
def execCallback (c : NatsCallbackContext) (cb : Callback) : List Object :=
  .ctx :: (if cb ∈ c.closures ∧ c.pgm then [.pgm, .closure cb] else [])

end NatsCallbackContext

/-! ## State and actions -/

/-- The progress of the object. -/
inductive ObjectPc where
  | fresh
  /-- in `setupCallbacks()`: the callbacks left to set, with whether a closure was given -/
  | setup (left : List (Callback × Bool))
  /-- before the check of the URL and the dialer -/
  | ready
  | connecting
  /-- `natsConnection_Connect()` has created no connection -/
  | unconnected
  | constructed
  /-- in the destructor, before the connection is destroyed -/
  | destroying
  /-- in the destructor, before the reference is released -/
  | dropping
  | destroyed
deriving DecidableEq, Repr

/-- The progress of the closed callback. -/
inductive ClosedPc where
  | pending
  | running
  | releasing
  | returned
deriving DecidableEq, Repr

structure State where
  pc : ObjectPc := .fresh
  /-- whether the pointer of the object to its context is not null -/
  cbCtx : Bool := false
  ctx : Option NatsCallbackContext := none
  /-- the callbacks that are set in the options -/
  registered : List Callback := []
  /-- whether the C client has created a connection -/
  created : Bool := false
  closed : ClosedPc := .pending
  /-- the running callbacks -/
  running : List Callback := []
  /-- the exception that the constructor raises -/
  raised : Option ExceptionInfo := none
  log : List (Op Object) := []

inductive Action where
  | setupCallbacks (given : List Callback) (pgm : Bool)
  /-- the next callback is set in the options -/
  | setCallback (error : Option String)
  /-- the check of the URL, and the dialer -/
  | check (error : Option ExceptionInfo)
  | createConnection
  /-- `natsConnection_Connect()` returns; the dialer may have kept an exception -/
  | connectReturns (error : Option String) (kept : Option ExceptionInfo)
  | releaseUnconnected
  | startCallback (cb : Callback)
  | endCallback (k : ℕ)
  | startClosed
  | endClosed
  | releaseClosed
  | close
  | destroy
  | destroyConnection
  | releaseObject
  /-- the cleanup of the thread that released the last reference -/
  | clean (t : Thread)
deriving DecidableEq, Repr

/-! ## The steps -/

namespace State

def use (s : State) (objects : List Object) : State :=
  { s with log := (objects.map .use).reverse ++ s.log }

/-- `setupCallbacks()`, up to the first callback. -/
def setupCallbacks (s : State) (given : List Callback) (pgm : Bool) : State :=
  if given.isEmpty then { s with pc := .ready }
  else
    let c : NatsCallbackContext := { pgm := pgm }
    { s with
      -- the closed callback is always registered
      pc := .setup ((Callback.all.filter fun cb => cb ∈ given ∨ cb = .closed).map
        fun cb => (cb, decide (cb ∈ given)))
      cbCtx := true
      ctx := some c
      log := ((Object.ctx :: c.pgmObjects).map .acquire).reverse ++ s.log }

/-- The closure is referenced, and its field set. -/
def keepClosure (s : State) (c : NatsCallbackContext) (cb : Callback) (given : Bool) : State :=
  if given then
    { s with
      ctx := some { c with closures := c.closures ++ [cb] }
      log := .acquire (.closure cb) :: .use .ctx :: s.log }
  else s

/-- The result of setting a callback in the options. -/
def setCallback (s : State) (cb : Callback) (left : List (Callback × Bool)) :
    Option String → State
  | none => { s with
      registered := s.registered ++ [cb]
      pc := if left.isEmpty then .ready else .setup left }
  | some text => { s with
      pc := .constructed
      raised := some (natsError "NATS-CONNECTION-ERROR" cb.failure text) }

/-- `ref()` -/
def ref (s : State) (c : NatsCallbackContext) : State :=
  { s.use [.ctx] with ctx := some { c with refs := c.refs.ref } }

/-- `release()`, up to the cleanup. -/
def release (s : State) (c : NatsCallbackContext) (t : Thread) : State :=
  { s.use [.ctx] with ctx := some { c with refs := c.refs.release t } }

/-- The cleanup in `release()`: the closures are released in the context of the Program. -/
def clean (s : State) (c : NatsCallbackContext) (t : Thread) : State :=
  { s with
    ctx := some { closures := [], pgm := false, refs := c.refs.delete t }
    log := ((c.cleanup ++ [Object.ctx]).map Op.release).reverse ++
      (((Object.ctx :: c.pgmObjects).map .use).reverse ++ s.log) }

end State

open State

def step (s : State) : Action → Option State
  | .setupCallbacks given pgm =>
      match s.pc with
      | .fresh => some (s.setupCallbacks given pgm)
      | _ => none
  | .setCallback error =>
      match s.pc, s.ctx with
      | .setup ((cb, given) :: left), some c =>
          some ((s.keepClosure c cb given).setCallback cb left error)
      | _, _ => none
  | .check error =>
      match s.pc with
      | .ready =>
          match error with
          | some ex => some { s with pc := .constructed, raised := some ex }
          | none =>
              -- the reference of the closed callback
              match s.ctx with
              | some c =>
                  if s.cbCtx then some { s.ref c with pc := .connecting }
                  else some { s with pc := .connecting }
              | none => some { s with pc := .connecting }
      | _ => none
  | .createConnection =>
      if s.pc = .connecting ∧ s.created = false then some { s with created := true } else none
  | .connectReturns error kept =>
      match s.pc with
      | .connecting => some { s with
          pc := if s.cbCtx && !s.created then .unconnected else .constructed
          raised := kept.or (error.map (natsError "NATS-CONNECTION-ERROR" "failed to connect")) }
      | _ => none
  | .releaseUnconnected =>
      match s.pc, s.ctx with
      | .unconnected, some c => some { s.release c .object with pc := .constructed }
      | _, _ => none
  | .startCallback cb =>
      match s.ctx with
      | some c =>
          if cb ∈ s.registered ∧ cb ≠ .closed ∧ s.created = true ∧ s.closed = .pending then
            some { s.use (c.execCallback cb) with running := s.running ++ [cb] }
          else none
      | none => none
  | .endCallback k =>
      match s.ctx, s.running[k]? with
      | some c, some cb =>
          some { s.use (c.execCallback cb) with running := s.running.eraseIdx k }
      | _, _ => none
  | .startClosed =>
      match s.ctx with
      | some c =>
          if .closed ∈ s.registered ∧ s.created = true ∧ s.closed = .pending ∧ s.running = [] then
            some { s.use (c.execCallback .closed) with closed := .running }
          else none
      | none => none
  | .endClosed =>
      match s.ctx, s.closed with
      | some c, .running => some { s.use (c.execCallback .closed) with closed := .releasing }
      | _, _ => none
  | .releaseClosed =>
      match s.ctx, s.closed with
      | some c, .releasing => some { s.release c .callback with closed := .returned }
      | _, _ => none
  | .close => if s.pc = .constructed then some s else none
  | .destroy => if s.pc = .constructed then some { s with pc := .destroying } else none
  | .destroyConnection =>
      if s.pc = .destroying then some { s with pc := .dropping } else none
  | .releaseObject =>
      match s.pc with
      | .dropping =>
          match s.ctx with
          | some c =>
              if s.cbCtx then some { s.release c .object with pc := .destroyed, cbCtx := false }
              else some { s with pc := .destroyed }
          | none => some { s with pc := .destroyed }
      | _ => none
  | .clean t =>
      match s.ctx with
      | some c => if t ∈ c.refs.cleaners then some (s.clean c t) else none
      | none => none

def system : TransitionSystem State Action := ⟨{}, step⟩

end ModuleNats.Connection
