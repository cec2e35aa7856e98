import ModuleNats.Lib.Ownership
import ModuleNats.Lib.Transition
import ModuleNats.NatsHelper

set_option autoImplicit false

/-! # Micro services and the contexts of their handlers

A `QoreNatsMicroService` and its groups give the C client an endpoint together with a
`MicroEndpointCallbackContext`, which the threads of the C client use for every request. The
contexts are kept in the `MicroServiceState` that the done handler of the service shares; it
releases them when the last endpoint is complete.

The system below interleaves the calls of `addEndpoint()` (each: the C client adds the endpoint,
then the context is registered or cleaned up), the requests, and the done handler. What the C client
promises is part of the guards: a request is delivered to an endpoint that was added, and the done
handler is called once, when no request handler runs, after which there are no requests. -/

namespace ModuleNats.MicroService

open Ownership

/-! ## Handler contexts -/

/-- What a context consists of: itself, and its references to the closure and to the Program. -/
inductive Part where
  | ctx
  | handler
  | pgm
deriving DecidableEq, Repr

structure Object where
  part : Part
  id : ℕ
deriving DecidableEq, Repr

/-- `MicroEndpointCallbackContext`: which of its pointers are not null. -/
structure MicroEndpointCallbackContext where
  id : ℕ
  handler : Bool := true
  pgm : Bool := true
deriving DecidableEq, Repr

/-- All objects of a context, in the order in which they are created. -/
def parts (id : ℕ) : List Object := [⟨.ctx, id⟩, ⟨.handler, id⟩, ⟨.pgm, id⟩]

namespace MicroEndpointCallbackContext

/-- What is dereferenced by `cleanup()`, and the context after it. -/
def cleanup (c : MicroEndpointCallbackContext) : List Object × MicroEndpointCallbackContext :=
  ((if c.handler then [⟨.handler, c.id⟩] else []) ++ (if c.pgm then [⟨.pgm, c.id⟩] else []),
    { c with handler := false, pgm := false })

/-- `cleanup()` and `delete` -/
def discard (c : MicroEndpointCallbackContext) : List Object :=
  c.cleanup.1 ++ [⟨.ctx, c.id⟩]

/-- One pass of the loop in `releaseHandlers()`. -/
def release (c : MicroEndpointCallbackContext) : List Object :=
  -- the handler is released in the context of its Program
  if c.pgm && c.handler then ⟨.handler, c.id⟩ :: { c with handler := false }.discard
  else c.discard

end MicroEndpointCallbackContext

/-! ## Configurations -/

/-- A hash that describes an endpoint; a value that is not a string is like no value. -/
structure EndpointConfig where
  name : Option String
  subject : Option String
  handler : Bool
deriving DecidableEq, Repr

structure ServiceConfig where
  name : Option String
  version : Option String
  description : Option String
  endpoint : Option EndpointConfig
deriving DecidableEq, Repr

/-- `microEndpointConfig`, with the context as `State`. -/
structure MicroEndpointConfig where
  name : String
  subject : Option String
  state : Option ℕ
deriving DecidableEq, Repr

/-! ## State and actions -/

/-- The member function that adds an endpoint. -/
inductive Via where
  /-- the constructor of the service, for its default endpoint -/
  | constructor
  | service
  | group
deriving DecidableEq, Repr

/-- The progress of a call. -/
inductive CallPc where
  /-- before the C client adds the endpoint; a service can be created without one -/
  | adding (cfg : Option MicroEndpointConfig)
  | added (ctx : Option ℕ)
  | failed (ctx : Option ℕ) (err : ExceptionInfo)
  /-- in `registerHandler()`, after the done handler was called -/
  | releasing (ctx : ℕ)
  | returned (result : Option ExceptionInfo)
deriving DecidableEq, Repr

/-- The context that a call has not given away yet. -/
def CallPc.ctx : CallPc → Option ℕ
  | .adding cfg => cfg.bind (·.state)
  | .added ctx => ctx
  | .failed ctx _ => ctx
  | .releasing ctx => some ctx
  | .returned _ => none

def CallPc.isReturned : CallPc → Bool
  | .returned _ => true
  | _ => false

/-- `name` is the one that the message of a failure mentions. -/
structure Call where
  via : Via
  name : String
  pc : CallPc
deriving DecidableEq, Repr

/-- The service object; `svc` is null unless it is live. -/
inductive Service where
  | none
  | constructing
  | live
  | failed
  | destroyed
deriving DecidableEq, Repr

/-- The done handler: the contexts that it still has to release. -/
inductive DoneHandler where
  | waiting
  | releasing (handlers : List ℕ)
  | finished
deriving DecidableEq, Repr

structure State where
  service : Service := .none
  /-- the number of group objects -/
  groups : ℕ := 0
  calls : List Call := []
  /-- `MicroServiceState` -/
  handlers : List ℕ := []
  done : Bool := false
  doneHandler : DoneHandler := .waiting
  /-- the contexts of the endpoints that the C client has -/
  endpoints : List ℕ := []
  /-- the contexts of the running request handlers -/
  running : List ℕ := []
  /-- the number of contexts created so far -/
  created : ℕ := 0
  log : List (Op Object) := []

inductive Action where
  | construct (config : ServiceConfig)
  | addEndpoint (via : Via) (config : EndpointConfig)
  /-- the C client has added the endpoint of a call, or reports an error -/
  | answer (i : ℕ) (error : Option String)
  /-- the context is registered, or cleaned up after a failure -/
  | finish (i : ℕ)
  | release (i : ℕ)
  | addGroup (via : Via)
  | dropGroup
  | stop
  | destroy
  /-- a request arrives, and its handler starts -/
  | deliver (ctx : ℕ)
  /-- the handler of a request returns -/
  | respond (k : ℕ)
  | serviceDone
  /-- the done handler releases the next context, or ends -/
  | releaseNext
deriving DecidableEq, Repr

/-! ## The steps -/

def microError (desc : String) : ExceptionInfo := ⟨"NATS-MICRO-ERROR", desc⟩

/-- The description of a failure. -/
def Call.failure (c : Call) : String :=
  match c.via with
  | .constructor => "failed to create microservice '" ++ c.name ++ "'"
  | .service => "failed to add endpoint '" ++ c.name ++ "'"
  | .group => "failed to add endpoint '" ++ c.name ++ "' to group"

namespace State

def startCall (s : State) (c : Call) : State := { s with calls := s.calls ++ [c] }

/-- A call that raises an exception before it creates anything. -/
def refuse (s : State) (via : Via) (desc : String) : State :=
  s.startCall ⟨via, "", .returned (some (microError desc))⟩

/-- A new context, if the endpoint has a handler. -/
def create (s : State) (handler : Bool) : State :=
  if handler then
    { s with
      created := s.created + 1
      log := ((parts s.created).map .acquire).reverse ++ s.log }
  else s

def config (s : State) (name : String) (config : EndpointConfig) : MicroEndpointConfig where
  name := name
  subject := config.subject
  state := if config.handler then some s.created else none

/-- The constructor of the service, up to `micro_AddService()`. -/
def construct (s : State) (config : ServiceConfig) : State :=
  match config.name, config.version with
  | some name, some _ =>
      match config.endpoint with
      | none => { s.startCall ⟨.constructor, name, .adding none⟩ with service := .constructing }
      | some endpoint =>
          match endpoint.name with
          | none => { s.refuse .constructor "endpoint config requires 'name' field" with
              service := .failed }
          | some epName =>
              let cfg := s.config epName endpoint
              { (s.create endpoint.handler).startCall ⟨.constructor, name, .adding (some cfg)⟩ with
                service := .constructing }
  | _, _ => { s.refuse .constructor "microservice config requires 'name' and 'version' fields" with
      service := .failed }

/-- `addEndpoint()` of the service and of a group, up to the call of the C client. -/
def addEndpoint (s : State) (via : Via) (config : EndpointConfig) : State :=
  match config.name with
  | none => s.refuse via "endpoint config requires 'name' field"
  | some name =>
      (s.create config.handler).startCall ⟨via, name, .adding (some (s.config name config))⟩

def setPc (s : State) (i : ℕ) (c : Call) (pc : CallPc) : State :=
  { s with calls := s.calls.set i { c with pc := pc } }

/-- A call returns; the service is there when its constructor has returned. -/
def returnCall (s : State) (i : ℕ) (c : Call) (result : Option ExceptionInfo) : State :=
  { s.setPc i c (.returned result) with
    service := if c.via = .constructor then (if result.isNone then .live else .failed)
      else s.service }

/-- Objects of a context are released, in order. -/
def releaseObjects (s : State) (objects : List Object) : State :=
  { s with log := (objects.map .release).reverse ++ s.log }

/-- The answer of the C client. -/
def answer (s : State) (i : ℕ) (c : Call) (cfg : Option MicroEndpointConfig) :
    Option String → State
  | none =>
      let ctx := cfg.bind (·.state)
      { s.setPc i c (.added ctx) with endpoints := s.endpoints ++ ctx.toList }
  | some text =>
      s.setPc i c (.failed (cfg.bind (·.state)) (natsError "NATS-MICRO-ERROR" c.failure text))

/-- The part of `registerHandler()` under the lock. -/
def registerHandler (s : State) (i : ℕ) (c : Call) (ctx : ℕ) : State :=
  if s.done then s.setPc i c (.releasing ctx)
  else { s.returnCall i c none with handlers := s.handlers ++ [ctx] }

/-- A failed call cleans up its context. -/
def cleanUp (s : State) (i : ℕ) (c : Call) (ctx : Option ℕ) (err : ExceptionInfo) : State :=
  match ctx with
  | some id => (s.releaseObjects (MicroEndpointCallbackContext.discard { id := id })).returnCall i c
      (some err)
  | none => s.returnCall i c (some err)

/-- Objects of a context are used by a request handler. -/
def useContext (s : State) (ctx : ℕ) : State :=
  { s with log := ((parts ctx).map .use).reverse ++ s.log }

end State

open State

def step (s : State) : Action → Option State
  | .construct config =>
      match s.service with
      | .none => some (s.construct config)
      | _ => none
  | .addEndpoint via config =>
      match via with
      | .constructor => none
      | .service =>
          match s.service with
          | .live => some (s.addEndpoint .service config)
          | .failed | .destroyed => some (s.refuse .service "microservice has been destroyed")
          | _ => none
      | .group =>
          if 0 < s.groups then some (s.addEndpoint .group config)
          else some (s.refuse .group "group has been destroyed")
  | .answer i error =>
      match s.calls[i]? with
      | some c =>
          match c.pc with
          | .adding cfg => some (s.answer i c cfg error)
          | _ => none
      | none => none
  | .finish i =>
      match s.calls[i]? with
      | some c =>
          match c.pc with
          | .added (some ctx) => some (s.registerHandler i c ctx)
          | .added none => some (s.returnCall i c none)
          | .failed ctx err => some (s.cleanUp i c ctx err)
          | _ => none
      | none => none
  | .release i =>
      match s.calls[i]? with
      | some c =>
          match c.pc with
          | .releasing ctx =>
              let objects := MicroEndpointCallbackContext.release { id := ctx }
              some ((s.releaseObjects objects).returnCall i c none)
          | _ => none
      | none => none
  | .addGroup via =>
      if (via = .service ∧ s.service = .live) ∨ (via = .group ∧ 0 < s.groups) then
        some { s with groups := s.groups + 1 }
      else none
  | .dropGroup => if 0 < s.groups then some { s with groups := s.groups - 1 } else none
  | .stop => if s.service = .live then some s else none
  | .destroy =>
      -- the groups and the running calls keep a reference to the service
      if s.service = .live ∧ s.groups = 0 ∧ (∀ c ∈ s.calls, c.pc.isReturned) then
        some { s with service := .destroyed }
      else none
  | .deliver ctx =>
      if ctx ∈ s.endpoints ∧ s.doneHandler = .waiting then
        some { s.useContext ctx with running := s.running ++ [ctx] }
      else none
  | .respond k =>
      match s.running[k]? with
      | some ctx => some { s.useContext ctx with running := s.running.eraseIdx k }
      | none => none
  | .serviceDone =>
      if s.doneHandler = .waiting ∧ s.running = [] ∧ s.service ≠ .none then
        some { s with done := true, doneHandler := .releasing s.handlers, handlers := [] }
      else none
  | .releaseNext =>
      match s.doneHandler with
      | .releasing (ctx :: handlers) =>
          let objects := MicroEndpointCallbackContext.release { id := ctx }
          some { s.releaseObjects objects with doneHandler := .releasing handlers }
      | .releasing [] => some { s with doneHandler := .finished }
      | _ => none

def system : TransitionSystem State Action := ⟨{}, step⟩

end ModuleNats.MicroService
