import ModuleNats.DateTime
import ModuleNats.JetStream.Values
import ModuleNats.Lib.Custody
import ModuleNats.NatsHelper

set_option autoImplicit false

/-! # What a micro service reports about itself

`getInfo()` and `getStats()` ask the C client for an object with a list of the endpoints, make a
hash of it, and destroy it; where a call of the Qore library raises an exception, in the hash or in
the loop over the endpoints, it is destroyed there. A failure is an object as well: `stop()`,
`getInfo()` and `getStats()` hand it to `nats_micro_error()`, which reads and destroys it.

`micro_reports_settle` says that on every way out of each of them the object is destroyed once. -/

namespace ModuleNats.QoreNatsMicroService

open Custody Custody.Prog

variable {α β : Type}

/-! ## The answers of the C client -/

/-- `microEndpointInfo` -/
structure MicroEndpointInfo where
  name : Option CString
  subject : Option CString
deriving DecidableEq

/-- `microServiceInfo`; an array of endpoints that is `NULL` has none. -/
structure MicroServiceInfo where
  name : Option CString
  version : Option CString
  description : Option CString
  id : Option CString
  endpoints : List MicroEndpointInfo
deriving DecidableEq

/-- `microEndpointStats` -/
structure MicroEndpointStats where
  name : Option CString
  subject : Option CString
  numRequests : Int64
  numErrors : Int64
  processingTimeSeconds : Int64
  processingTimeNanoseconds : Int64
  averageProcessingTimeNanoseconds : Int64
  lastErrorString : CString
deriving DecidableEq

/-- `microServiceStats` -/
structure MicroServiceStats where
  name : Option CString
  version : Option CString
  id : Option CString
  /-- nanoseconds since the epoch -/
  started : Int64
  endpoints : List MicroEndpointStats
deriving DecidableEq

/-- What the C client answers for a service; a `microError` is what `microError_String()` makes of
    it. -/
structure MicroService where
  stop : Except String Unit
  getInfo : Except String MicroServiceInfo
  getStats : Except String MicroServiceStats

/-! ## The hashes -/

structure NatsMicroEndpointInfo where
  name : Option String
  subject : Option String
deriving DecidableEq

structure NatsMicroServiceInfo where
  name : Option String
  version : Option String
  description : Option String
  id : Option String
  endpoints : Option (List NatsMicroEndpointInfo)
deriving DecidableEq

structure NatsMicroEndpointStats where
  name : Option String
  subject : Option String
  numRequests : Int64
  numErrors : Int64
  processingTimeNs : Int64
  averageProcessingTimeNs : Int64
  lastError : Option String
deriving DecidableEq

structure NatsMicroServiceStats where
  name : Option String
  version : Option String
  id : Option String
  started : Option DateTimeNode
  endpoints : Option (List NatsMicroEndpointStats)
deriving DecidableEq

/-- The list of the endpoints is set if there is one. -/
def endpointList (endpoints : List β) (f : β → α) : Option (List α) :=
  if endpoints.isEmpty then none else some (endpoints.map f)

def endpointInfo (e : MicroEndpointInfo) : NatsMicroEndpointInfo :=
  ⟨e.name.map CString.text, e.subject.map CString.text⟩

def serviceInfo (info : MicroServiceInfo) : NatsMicroServiceInfo where
  name := info.name.map CString.text
  version := info.version.map CString.text
  description := info.description.map CString.text
  id := info.id.map CString.text
  endpoints := endpointList info.endpoints endpointInfo

def endpointStats (e : MicroEndpointStats) : NatsMicroEndpointStats where
  name := e.name.map CString.text
  subject := e.subject.map CString.text
  numRequests := e.numRequests
  numErrors := e.numErrors
  processingTimeNs := e.processingTimeSeconds * 1000000000 + e.processingTimeNanoseconds
  averageProcessingTimeNs := e.averageProcessingTimeNanoseconds
  lastError := if e.lastErrorString.text = "" then none else some e.lastErrorString.text

def serviceStats (stats : MicroServiceStats) : NatsMicroServiceStats where
  name := stats.name.map CString.text
  version := stats.version.map CString.text
  id := stats.id.map CString.text
  started := if h : 0 < stats.started.toInt then some (DateTimeNode.ofNs stats.started h) else none
  endpoints := endpointList stats.endpoints endpointStats

/-! ## The code -/

def destroyed : ExceptionInfo := ⟨"NATS-MICRO-ERROR", "microservice has been destroyed"⟩

def microError (desc statusText : String) : ExceptionInfo :=
  natsError "NATS-MICRO-ERROR" desc statusText

/-- `nats_micro_error()` -/
def natsMicroError (desc statusText : String) : Prog ExceptionInfo α := do
  let e ← acquire
  use e
  release e
  raise (microError desc statusText)

/-- An object of the C client, or a `microError`. -/
def takingMicro (desc : String) (answer : Except String β) (read : ℕ → β → Prog ExceptionInfo α) :
    Prog ExceptionInfo α :=
  match answer with
  | .error statusText => natsMicroError desc statusText
  | .ok b => do
      let i ← acquire
      read i b

/-- A key of the hash is set, if there is a value; the object is destroyed if that fails. -/
def setKey (i : ℕ) (there : Bool) : Prog ExceptionInfo Unit := do
  use i
  onRaise (callWhen there) (release i)

/-- The loop over the endpoints of the object `i`. -/
def pushEndpoints (i : ℕ) (p : β → Prog ExceptionInfo α) : List β → Prog ExceptionInfo (List α)
  | [] => pure []
  | e :: rest => do
      use i
      let ep ← onRaise (p e) (release i)
      onRaise call (release i)
      let eps ← pushEndpoints i p rest
      pure (ep :: eps)

/-- The list of the endpoints, and the end of `getInfo()` and `getStats()`. -/
def setEndpoints (i : ℕ) (p : β → Prog ExceptionInfo α) (endpoints : List β) :
    Prog ExceptionInfo (Option (List α)) := do
  let eps ← pushEndpoints i p endpoints
  setKey i !endpoints.isEmpty
  release i
  pure (if endpoints.isEmpty then none else some eps)

def readEndpointInfo (e : MicroEndpointInfo) : Prog ExceptionInfo NatsMicroEndpointInfo := do
  call
  callWhen e.name.isSome
  callWhen e.subject.isSome
  pure (endpointInfo e)

def readInfo (i : ℕ) (info : MicroServiceInfo) : Prog ExceptionInfo NatsMicroServiceInfo := do
  onRaise call (release i)
  setKey i info.name.isSome
  setKey i info.version.isSome
  setKey i info.description.isSome
  setKey i info.id.isSome
  let endpoints ← setEndpoints i readEndpointInfo info.endpoints
  pure { serviceInfo info with endpoints }

def readEndpointStats (e : MicroEndpointStats) : Prog ExceptionInfo NatsMicroEndpointStats := do
  call
  callWhen e.name.isSome
  callWhen e.subject.isSome
  -- from `num_requests` to `average_processing_time_ns`
  callTimes 4
  callWhen (e.lastErrorString.text != "")
  pure (endpointStats e)

def readStats (i : ℕ) (stats : MicroServiceStats) : Prog ExceptionInfo NatsMicroServiceStats := do
  onRaise call (release i)
  setKey i stats.name.isSome
  setKey i stats.version.isSome
  setKey i stats.id.isSome
  setKey i (0 < stats.started.toInt)
  let endpoints ← setEndpoints i readEndpointStats stats.endpoints
  pure { serviceStats stats with endpoints }

section Functions

variable (svc : Bool) (m : MicroService)

def stop : Prog ExceptionInfo Unit := do
  ensure svc destroyed
  match m.stop with
  | .error statusText => natsMicroError "failed to stop microservice" statusText
  | .ok () => pure ()

def getInfo : Prog ExceptionInfo NatsMicroServiceInfo := do
  ensure svc destroyed
  takingMicro "failed to get microservice info" m.getInfo readInfo

def getStats : Prog ExceptionInfo NatsMicroServiceStats := do
  ensure svc destroyed
  takingMicro "failed to get microservice stats" m.getStats readStats

end Functions

/-! ## What is destroyed -/

section Custody

variable {raises : ℕ → Option ExceptionInfo} {own : ExceptionInfo → Prop}

theorem natsMicroError_spec {desc statusText : String} {Q : α → Prop}
    (h : own (microError desc statusText)) :
    Triple raises [] (natsMicroError desc statusText) (fun _ => []) Q [] own :=
  Triple.acquire fun _ => Triple.use List.mem_cons_self (Triple.release (Triple.raise (.inr h)))

theorem setKey_spec (i : ℕ) (there : Bool) :
    Triple raises [i] (setKey i there) (fun _ => [i]) (fun _ => True) [] own :=
  Triple.use List.mem_cons_self (triple_callWhen there).onRaise_release

theorem pushEndpoints_spec {p : β → Prog ExceptionInfo α} {f : β → α} (i : ℕ)
    (h : ∀ b, Triple raises [i] (p b) (fun _ => [i]) (· = f b) [i] own) (endpoints : List β) :
    Triple raises [i] (pushEndpoints i p endpoints) (fun _ => [i]) (· = endpoints.map f) []
      own := by
  induction endpoints with
  | nil => exact Triple.pure (fun _ => [i]) [] rfl
  | cons e rest ih =>
      refine Triple.use List.mem_cons_self ((h e).onRaise_release.bind fun ep hep => ?_)
      refine triple_call.onRaise_release.bind fun _ _ => ih.bind fun eps heps => ?_
      exact Triple.pure (fun _ => [i]) (ep :: eps) (by rw [hep, heps]; rfl)

theorem setEndpoints_spec {p : β → Prog ExceptionInfo α} {f : β → α} (i : ℕ)
    (h : ∀ b, Triple raises [i] (p b) (fun _ => [i]) (· = f b) [i] own) (endpoints : List β) :
    Triple raises [i] (setEndpoints i p endpoints) (fun _ => []) (· = endpointList endpoints f) []
      own := by
  refine (pushEndpoints_spec i h endpoints).bind fun eps heps => ?_
  refine (setKey_spec i _).bind fun _ _ => Triple.release ?_
  exact Triple.pure (fun _ => []) _ (by rw [heps]; rfl)

theorem readEndpointInfo_spec (i : ℕ) (e : MicroEndpointInfo) :
    Triple raises [i] (readEndpointInfo e) (fun _ => [i]) (· = endpointInfo e) [i] own :=
  Triple.call (Triple.callWhen _ (Triple.callWhen _ (Triple.pure (fun _ => [i]) _ rfl)))

theorem readInfo_spec (i : ℕ) (info : MicroServiceInfo) :
    Triple raises [i] (readInfo i info) (fun _ => []) (· = serviceInfo info) [] own := by
  refine triple_call.onRaise_release.bind fun _ _ => ?_
  refine (setKey_spec i _).bind fun _ _ => (setKey_spec i _).bind fun _ _ => ?_
  refine (setKey_spec i _).bind fun _ _ => (setKey_spec i _).bind fun _ _ => ?_
  refine (setEndpoints_spec i (readEndpointInfo_spec i) _).bind fun endpoints heq => ?_
  exact Triple.pure (fun _ => []) _ (by rw [heq]; rfl)

theorem readEndpointStats_spec (i : ℕ) (e : MicroEndpointStats) :
    Triple raises [i] (readEndpointStats e) (fun _ => [i]) (· = endpointStats e) [i] own := by
  refine Triple.call (Triple.callWhen _ (Triple.callWhen _ (Triple.callTimes 4 ?_)))
  exact Triple.callWhen _ (Triple.pure (fun _ => [i]) _ rfl)

theorem readStats_spec (i : ℕ) (stats : MicroServiceStats) :
    Triple raises [i] (readStats i stats) (fun _ => []) (· = serviceStats stats) [] own := by
  refine triple_call.onRaise_release.bind fun _ _ => ?_
  refine (setKey_spec i _).bind fun _ _ => (setKey_spec i _).bind fun _ _ => ?_
  refine (setKey_spec i _).bind fun _ _ => (setKey_spec i _).bind fun _ _ => ?_
  refine (setEndpoints_spec i (readEndpointStats_spec i) _).bind fun endpoints heq => ?_
  exact Triple.pure (fun _ => []) _ (by rw [heq]; rfl)

/-- The result of a call that needs the service. -/
def reported (svc : Bool) (desc : String) (answer : Except String β) (f : β → α) :
    Except ExceptionInfo α :=
  if svc then (answer.mapError (microError desc)).map f else .error destroyed

theorem takingMicro_spec {svc : Bool} {desc : String} {answer : Except String β}
    {read : ℕ → β → Prog ExceptionInfo α} {f : β → α}
    (hread : ∀ i b {own : ExceptionInfo → Prop},
      Triple raises [i] (read i b) (fun _ => []) (· = f b) [] own) :
    Yields raises (do ensure svc destroyed; takingMicro desc answer read)
      (reported svc desc answer f) := by
  refine Triple.ensure (fun hsvc => ?_) fun hsvc => ?_
  · rw [hsvc]
    rfl
  · rw [hsvc]
    cases answer with
    | error statusText => exact natsMicroError_spec rfl
    | ok b =>
        refine Triple.acquire fun i => (hread i b).mono (fun a ha => ?_) fun _ hx => hx
        rw [ha]
        rfl

theorem stop_spec (svc : Bool) (m : MicroService) :
    Yields raises (stop svc m) (reported svc "failed to stop microservice" m.stop id) := by
  refine Triple.ensure (fun hsvc => ?_) fun hsvc => ?_
  · rw [hsvc]
    rfl
  · rw [hsvc]
    cases m.stop with
    | error statusText => exact natsMicroError_spec rfl
    | ok u => exact Triple.pure (fun _ => []) u rfl

end Custody

/-- The reports of a micro service: the info, the statistics or the `microError` is destroyed once,
    whatever the C client answers and whichever call of the Qore library raises an exception, and
    the result has every endpoint in its order. -/
theorem micro_reports_settle (raises : ℕ → Option ExceptionInfo) (svc : Bool) (m : MicroService) :
    Implements raises (stop svc m) (reported svc "failed to stop microservice" m.stop id) ∧
      Implements raises (getInfo svc m)
        (reported svc "failed to get microservice info" m.getInfo serviceInfo) ∧
      Implements raises (getStats svc m)
        (reported svc "failed to get microservice stats" m.getStats serviceStats) := by
  refine ⟨(stop_spec svc m).implements, ?_, ?_⟩
  · exact (takingMicro_spec fun i info {_} => readInfo_spec i info).implements
  · exact (takingMicro_spec fun i stats {_} => readStats_spec i stats).implements

end ModuleNats.QoreNatsMicroService
