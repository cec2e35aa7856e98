import ModuleNats.JetStream.ConsumerConfig
import ModuleNats.JetStream.Pause
import ModuleNats.JetStream.StreamConfig
import ModuleNats.Messages

set_option autoImplicit false

/-! # The calls of a JetStream context

Most functions of `QoreNatsJetStream` ask the C client for an object (the info of a stream or of a
consumer, a list of them, a message, an acknowledgement, an account), make a hash or a list of it,
and destroy it; a configuration has arrays besides, which are allocated for the call and freed after
it. In between, each new hash and each value that is set or pushed can raise an exception.

On every way out of each of them all of this is released once: `configured_calls_settle` for the
calls with a configuration, `jetstream_reads_settle` for those that read, and
`jetstream_answers_settle` for those that the server answers with an acknowledgement or a response.
-/

namespace ModuleNats.QoreNatsJetStream

open Custody Custody.Prog JetStream
open DataProvider (Bytes)

variable {α β : Type}

/-! ## The answers of the C client -/

/-- The text of a status that is not `NATS_OK`, and the JetStream error code. -/
abbrev JsFailure := String × ℕ

/-- `jsAccountLimits` -/
structure JsAccountLimits where
  maxMemory : Int64
  maxStore : Int64
  maxStreams : Int64
  maxConsumers : Int64
  maxAckPending : Int64
  memoryMaxStreamBytes : Int64
  storeMaxStreamBytes : Int64
  maxBytesRequired : Bool
deriving DecidableEq, Repr

/-- `jsAccountInfo`, as far as the wrapper uses it. -/
structure JsAccountInfo where
  memory : UInt64
  store : UInt64
  streams : Int64
  consumers : Int64
  domain : Option CString
  apiTotal : UInt64
  apiErrors : UInt64
  limits : JsAccountLimits
deriving DecidableEq

/-- `jsPubAck` -/
structure JsPubAck where
  stream : Option CString
  sequence : UInt64
  duplicate : Bool
deriving DecidableEq

/-- `jsPubOptions`, as far as the wrapper uses it. -/
structure JsPubOptions where
  maxWait : Int64
  msgId : Option CString
  expectStream : Option CString
  expectLastMsgId : Option CString
  expectLastSeq : UInt64
  expectLastSubjectSeq : UInt64
  expectNoMessage : Bool
deriving DecidableEq

/-- The functions of the C client for one context. -/
structure JsCtx where
  getStreamInfo : CString → Except JsFailure JsStreamInfo
  getConsumerInfo : CString → CString → Except JsFailure JsConsumerInfo
  streams : Except JsFailure (List JsStreamInfo)
  streamNames : Except JsFailure (List CString)
  consumers : CString → Except JsFailure (List JsConsumerInfo)
  consumerNames : CString → Except JsFailure (List CString)
  getAccountInfo : Except JsFailure JsAccountInfo
  /-- `js_GetMsg()`; nothing for `NATS_NOT_FOUND` -/
  getMsg : CString → UInt64 → Except JsFailure (Option NatsMsgView)
  /-- `js_GetLastMsg()`; nothing for `NATS_NOT_FOUND` -/
  getLastMsg : CString → CString → Except JsFailure (Option NatsMsgView)
  /-- `js_Publish()`, with the data and its length -/
  publish : CString → Bytes → Int32 → Option JsPubOptions → Except JsFailure JsPubAck
  pauseConsumer : CString → CString → UInt64 → Except JsFailure JsConsumerPauseResponse

/-! ## The hashes -/

structure NatsJSAccountLimits where
  maxMemory : Int64
  maxStorage : Int64
  maxStreams : Int64
  maxConsumers : Int64
  maxAckPending : Int64
  memoryMaxStreamBytes : Int64
  storageMaxStreamBytes : Int64
  maxBytesRequired : Bool
deriving DecidableEq, Repr

structure NatsJSAccountInfo where
  memory : Int64
  storage : Int64
  streams : Int64
  consumers : Int64
  domain : Option String
  apiTotal : Int64
  apiErrors : Int64
  limits : NatsJSAccountLimits
deriving DecidableEq

structure NatsPubAck where
  stream : Option String
  sequence : Int64
  duplicate : Bool
deriving DecidableEq

def accountInfoToHash (ai : JsAccountInfo) : NatsJSAccountInfo where
  memory := ai.memory.toInt64
  storage := ai.store.toInt64
  streams := ai.streams
  consumers := ai.consumers
  domain := ai.domain.map CString.text
  apiTotal := ai.apiTotal.toInt64
  apiErrors := ai.apiErrors.toInt64
  limits := {
    maxMemory := ai.limits.maxMemory
    maxStorage := ai.limits.maxStore
    maxStreams := ai.limits.maxStreams
    maxConsumers := ai.limits.maxConsumers
    maxAckPending := ai.limits.maxAckPending
    memoryMaxStreamBytes := ai.limits.memoryMaxStreamBytes
    storageMaxStreamBytes := ai.limits.storeMaxStreamBytes
    maxBytesRequired := ai.limits.maxBytesRequired }

def pubAckToHash (pa : JsPubAck) : NatsPubAck where
  stream := pa.stream.map CString.text
  sequence := pa.sequence.toInt64
  duplicate := pa.duplicate

/-! ## The code -/

def notValid : ExceptionInfo := ⟨"NATS-JETSTREAM-ERROR", "JetStream context is not valid"⟩

def jsError (desc : String) (failure : JsFailure) : ExceptionInfo :=
  natsJsError "NATS-JETSTREAM-ERROR" desc failure.1 failure.2

/-- An answer of the C client: the exception is raised, or the object is read and destroyed. -/
def answered (desc : String) (answer : Except JsFailure β)
    (read : ℕ → β → Prog ExceptionInfo α) : Prog ExceptionInfo α :=
  taking (answer.mapError (jsError desc)) read

/-- The keys of the configuration in `streamInfoToHash()`, in their order. -/
def setStreamConfig (info : ℕ) (cfg : JsStreamConfig) : Prog ExceptionInfo Unit := do
  use info
  callWhen cfg.name.isSome
  callWhen cfg.description.isSome
  -- from `retention` to `discard_new_per_subject`
  callTimes 19
  use info
  -- an entry for each subject, and `subjects`
  callTimes (cfg.subjects.read.elim 0 List.length)
  callWhen cfg.subjects.read.isSome

/-- `streamInfoToHash()`: its calls, and the hash. -/
def streamInfoToHash (info : ℕ) (i : JsStreamInfo) : Prog ExceptionInfo NatsStreamInfo := do
  -- the hash and the one of the configuration
  callTimes 2
  use info
  i.config.elim (pure ()) (setStreamConfig info)
  use info
  -- `config`, and from `messages` to `consumer_count`
  callTimes 6
  pure (JetStream.streamInfoToHash i)

/-- The keys of the configuration in `consumerInfoToHash()`, in their order. -/
def setConsumerConfig (info : ℕ) (cfg : JsConsumerConfig) : Prog ExceptionInfo Unit := do
  use info
  callWhen cfg.durable.isSome
  callWhen cfg.deliverSubject.isSome
  callWhen cfg.deliverGroup.isSome
  callWhen cfg.description.isSome
  -- from `ack_policy` to `replay_policy`
  callTimes 4
  callWhen cfg.filterSubject.isSome
  -- `max_deliver` and `max_ack_pending`
  callTimes 2
  callWhen cfg.name.isSome
  -- from `rate_limit_bps` to `memory_storage`
  callTimes 10
  callWhen cfg.sampleFrequency.isSome

/-- `consumerInfoToHash()`: its calls, and the hash. -/
def consumerInfoToHash (info : ℕ) (i : JsConsumerInfo) : Prog ExceptionInfo NatsConsumerInfo := do
  callTimes 2
  use info
  i.config.elim (pure ()) (setConsumerConfig info)
  use info
  -- `config`, and from `delivered` to `waiting`
  callTimes 6
  pure (JetStream.consumerInfoToHash i)

/-- `rv = streamInfoToHash(info, xsink); jsStreamInfo_Destroy(info); return rv;` -/
def readStreamInfo (info : ℕ) (i : JsStreamInfo) : Prog ExceptionInfo NatsStreamInfo :=
  releasing info (streamInfoToHash info i)

def readConsumerInfo (info : ℕ) (i : JsConsumerInfo) : Prog ExceptionInfo NatsConsumerInfo :=
  releasing info (consumerInfoToHash info i)

/-! ### Lists and other objects -/

def readStreamInfos (list : ℕ) (infos : List JsStreamInfo) :
    Prog ExceptionInfo (List NatsStreamInfo) :=
  pushAll list (streamInfoToHash list) infos

def readConsumerInfos (list : ℕ) (infos : List JsConsumerInfo) :
    Prog ExceptionInfo (List NatsConsumerInfo) :=
  pushAll list (consumerInfoToHash list) infos

def readNames (list : ℕ) (names : List CString) : Prog ExceptionInfo (List String) :=
  pushAll list (fun name => pure name.text) names

/-- The end of `getAccountInfo()`. -/
def readAccountInfo (info : ℕ) (ai : JsAccountInfo) : Prog ExceptionInfo NatsJSAccountInfo := do
  onRaise call (release info)
  releasing info do
    use info
    -- from `memory` to `consumers`
    callTimes 4
    callWhen ai.domain.isSome
    -- `api_total` and `api_errors`
    callTimes 2
    use info
    -- the hash of the limits, its keys, and `limits`
    callTimes 10
  pure (accountInfoToHash ai)

/-- The end of `pauseConsumer()`. -/
def readPauseResponse (response : ℕ) (cpr : JsConsumerPauseResponse) :
    Prog ExceptionInfo NatsJSConsumerPauseResponse := do
  onRaise call (release response)
  releasing response do
    use response
    call
    callWhen (0 < cpr.pauseUntil.toInt)
    callWhen (0 < cpr.pauseRemaining.toInt)
  pure (pauseResponseToHash cpr)

/-- The end of `publish()`: every key is set, also when an exception is pending. -/
def readPubAck (ack : ℕ) (pa : JsPubAck) : Prog ExceptionInfo NatsPubAck := do
  let newHash ← attempt
  use ack
  let stream ← attemptWhen pa.stream.isSome
  let sequence ← attempt
  let duplicate ← attempt
  release ack
  check (((newHash.or stream).or sequence).or duplicate)
  pure (pubAckToHash pa)

/-- The end of `publishWithOptions()`, which sets `sequence` and `duplicate` only if no exception is
    pending. -/
def readPubAckChecked (ack : ℕ) (pa : JsPubAck) : Prog ExceptionInfo NatsPubAck := do
  let newHash ← attempt
  use ack
  let stream ← attemptWhen pa.stream.isSome
  let sequence ← attemptUnless (newHash.or stream)
  let duplicate ← attemptUnless sequence
  release ack
  check duplicate
  pure (pubAckToHash pa)

/-- A message that may not be there; that is no error. -/
def readMsg (desc : String) (answer : Except JsFailure (Option NatsMsgView)) :
    Prog ExceptionInfo (Option NatsMsgInfo) :=
  match answer with
  | .ok none => pure none
  | .error failure => raise (jsError desc failure)
  | .ok (some m) => do
      let msg ← acquire
      releasing msg do
        use msg
        let info ← natsMsgToHash m
        pure (some info)

/-! ### Configurations -/

/-- The array that `malloc()` returns, for a list of at least one entry. -/
def arraysFor (l : Option (List β)) : ℕ :=
  if 0 < (Int32.ofNat (l.elim 0 List.length)).toInt then 1 else 0

/-- `configureStreamConfig()`: the arrays that `cfg` points to at the end, and `cfg`, or the
    exception that is pending then. An array is allocated for every list of subjects. -/
def configureStreamConfig (C : StreamClient) (config : NatsStreamConfig) :
    Prog ExceptionInfo (List ℕ × Except ExceptionInfo JsStreamConfig) :=
  match JetStream.configureStreamConfig C config with
  | .error ex => pure ([], .error ex)
  | .ok cfg => do
      let subjects ← acquireTimes (if (config .subjects).isSome then 1 else 0)
      pure (subjects, .ok cfg)

/-- `configureConsumerConfig()`, with up to two arrays. -/
def configureConsumerConfig (C : ConsumerClient) (config : NatsConsumerConfig) :
    Prog ExceptionInfo (List ℕ × Except ExceptionInfo JsConsumerConfig) :=
  if C.allocates (config .backOff) = false then
    pure ([], .error (allocationFailed (config .backOff) "back_off entries"))
  else do
    let backOff ← acquireTimes (arraysFor (config .backOff))
    if C.allocates (config .filterSubjects) = false then
      pure (backOff, .error (allocationFailed (config .filterSubjects) "filter subjects"))
    else do
      let filterSubjects ← acquireTimes (arraysFor (config .filterSubjects))
      pure (filterSubjects ++ backOff, .ok (fillConsumerConfig C.init.cfg config))

/-- A call with a configuration, which frees the arrays. -/
def withConfig {γ : Type}
    (configure : Prog ExceptionInfo (List ℕ × Except ExceptionInfo γ)) (desc : String)
    (js : γ → Except JsFailure β) (read : ℕ → β → Prog ExceptionInfo α) : Prog ExceptionInfo α := do
  let (arrays, cfg) ← configure
  match cfg with
  | .error ex => do
      releaseAll arrays
      raise ex
  | .ok cfg => do
      useAll arrays
      releaseAll arrays
      answered desc (js cfg) read

/-! ### The descriptions of the exceptions -/

section Descriptions

variable (stream consumer subject : CString)

def failedToAddConsumer : String := "failed to add consumer to stream '" ++ stream.text ++ "'"

def failedToUpdateConsumer : String := "failed to update consumer on stream '" ++ stream.text ++ "'"

def failedToGetStreamInfo : String := "failed to get stream info for '" ++ stream.text ++ "'"

def failedToGetConsumerInfo : String :=
  "failed to get consumer info for '" ++ consumer.text ++ "' on stream '" ++ stream.text ++ "'"

def failedToListConsumers : String :=
  "failed to list consumers for stream '" ++ stream.text ++ "'"

def failedToListConsumerNames : String :=
  "failed to list consumer names for stream '" ++ stream.text ++ "'"

def failedToGetMsg (seq : UInt64) : String :=
  "failed to get message " ++ toString seq.toNat ++ " from stream '" ++ stream.text ++ "'"

def failedToGetLastMsg : String :=
  "failed to get last message for subject '" ++ subject.text ++ "' from stream '" ++ stream.text ++
    "'"

def failedToPublish : String := "failed to publish to subject '" ++ subject.text ++ "'"

def failedToPauseConsumer : String :=
  "failed to pause consumer '" ++ consumer.text ++ "' on stream '" ++ stream.text ++ "'"

end Descriptions

/-! ### The functions -/

section Functions

variable (c : JsCtx) (valid : Bool) (stream consumer subject : CString)

/-- `addStream()`, for which the client's update is `js_AddStream()`. -/
def addStream (C : StreamClient) (config : NatsStreamConfig) : Prog ExceptionInfo NatsStreamInfo :=
  entering valid notValid
    (withConfig (configureStreamConfig C config) "failed to add stream" C.update readStreamInfo)

def updateStream (C : StreamClient) (config : NatsStreamConfig) :
    Prog ExceptionInfo NatsStreamInfo :=
  entering valid notValid
    (withConfig (configureStreamConfig C config) "failed to update stream" C.update readStreamInfo)

/-- `addConsumer()`, with `js_AddConsumer()`. -/
def addConsumer (C : ConsumerClient) (add : UpdateConsumer) (config : NatsConsumerConfig) :
    Prog ExceptionInfo NatsConsumerInfo :=
  entering valid notValid
    (withConfig (configureConsumerConfig C config) (failedToAddConsumer stream) (add stream.text)
      readConsumerInfo)

def updateConsumer (C : ConsumerClient) (update : UpdateConsumer) (config : NatsConsumerConfig) :
    Prog ExceptionInfo NatsConsumerInfo :=
  entering valid notValid
    (withConfig (configureConsumerConfig C config) (failedToUpdateConsumer stream)
      (update stream.text) readConsumerInfo)

def getStreamInfo : Prog ExceptionInfo NatsStreamInfo :=
  entering valid notValid
    (answered (failedToGetStreamInfo stream) (c.getStreamInfo stream) readStreamInfo)

def getConsumerInfo : Prog ExceptionInfo NatsConsumerInfo :=
  entering valid notValid
    (answered (failedToGetConsumerInfo stream consumer) (c.getConsumerInfo stream consumer)
      readConsumerInfo)

def listStreams : Prog ExceptionInfo (List NatsStreamInfo) :=
  entering valid notValid (answered "failed to list streams" c.streams readStreamInfos)

def listStreamNames : Prog ExceptionInfo (List String) :=
  entering valid notValid (answered "failed to list stream names" c.streamNames readNames)

def listConsumers : Prog ExceptionInfo (List NatsConsumerInfo) :=
  entering valid notValid
    (answered (failedToListConsumers stream) (c.consumers stream) readConsumerInfos)

def listConsumerNames : Prog ExceptionInfo (List String) :=
  entering valid notValid
    (answered (failedToListConsumerNames stream) (c.consumerNames stream) readNames)

def getAccountInfo : Prog ExceptionInfo NatsJSAccountInfo :=
  entering valid notValid (answered "failed to get account info" c.getAccountInfo readAccountInfo)

def getMsg (seq : UInt64) : Prog ExceptionInfo (Option NatsMsgInfo) :=
  entering valid notValid (readMsg (failedToGetMsg stream seq) (c.getMsg stream seq))

def getLastMsg : Prog ExceptionInfo (Option NatsMsgInfo) :=
  entering valid notValid
    (readMsg (failedToGetLastMsg stream subject) (c.getLastMsg stream subject))

/-- `js_Publish()` of the data, with `(int)data->size()`. -/
def JsCtx.publishData (data : Option Bytes) (po : Option JsPubOptions) :
    Except JsFailure JsPubAck :=
  c.publish subject (data.getD []) (Int32.ofNat (data.getD []).length) po

def publish (data : Option Bytes) : Prog ExceptionInfo NatsPubAck :=
  entering valid notValid
    (answered (failedToPublish subject) (c.publishData subject data none) readPubAck)

/-- `publishWithOptions()`, with the options that it has filled. -/
def publishWithOptions (data : Option Bytes) (po : JsPubOptions) : Prog ExceptionInfo NatsPubAck :=
  entering valid notValid
    (answered (failedToPublish subject) (c.publishData subject data (some po)) readPubAckChecked)

def pauseConsumer (pauseUntilEpochNs : Int64) : Prog ExceptionInfo NatsJSConsumerPauseResponse :=
  entering valid notValid
    (answered (failedToPauseConsumer stream consumer)
      (c.pauseConsumer stream consumer pauseUntilEpochNs.toUInt64) readPauseResponse)

end Functions

/-! ## The results

What the functions come to if no call of the Qore library raises an exception. -/

/-- What is made of an answer. -/
def result (desc : String) (answer : Except JsFailure β) (f : β → α) : Except ExceptionInfo α :=
  (answer.mapError (jsError desc)).map f

/-- The result of a call with a configuration, if there is one. -/
def resultWith {γ : Type} (cfg : Except ExceptionInfo γ) (desc : String)
    (js : γ → Except JsFailure β) (f : β → α) : Except ExceptionInfo α :=
  cfg.bind fun cfg => result desc (js cfg) f

/-! ## What is released -/

section Custody

variable {raises : ℕ → Option ExceptionInfo} {own : ExceptionInfo → Prop}

theorem answered_spec {desc : String} {answer : Except JsFailure β}
    {read : ℕ → β → Prog ExceptionInfo α} {f : β → α}
    (hread : ∀ i b {own : ExceptionInfo → Prop},
      Triple raises [i] (read i b) (fun _ => []) (· = f b) [] own) :
    Yields raises (answered desc answer read) (result desc answer f) :=
  Yields.taking hread

theorem setStreamConfig_spec (info : ℕ) (cfg : JsStreamConfig) :
    Triple raises [info] (setStreamConfig info cfg) (fun _ => [info]) (fun _ => True) [info]
      own := by
  refine Triple.use List.mem_cons_self (Triple.callWhen _ (Triple.callWhen _ ?_))
  refine Triple.callTimes 19 (Triple.use List.mem_cons_self (Triple.callTimes _ ?_))
  exact triple_callWhen _

theorem setConsumerConfig_spec (info : ℕ) (cfg : JsConsumerConfig) :
    Triple raises [info] (setConsumerConfig info cfg) (fun _ => [info]) (fun _ => True) [info]
      own := by
  refine Triple.use List.mem_cons_self (Triple.callWhen _ (Triple.callWhen _ ?_))
  refine Triple.callWhen _ (Triple.callWhen _ (Triple.callTimes 4 (Triple.callWhen _ ?_)))
  refine Triple.callTimes 2 (Triple.callWhen _ (Triple.callTimes 10 ?_))
  exact triple_callWhen _

/-- The configuration of an info can be `NULL`. -/
theorem elim_spec {γ : Type} {held : List ℕ} (cfg : Option γ) {set : γ → Prog ExceptionInfo Unit}
    (h : ∀ c, Triple raises held (set c) (fun _ => held) (fun _ => True) held own) :
    Triple raises held (cfg.elim (pure ()) set) (fun _ => held) (fun _ => True) held own := by
  cases cfg with
  | none => exact Triple.pure (fun _ => held) () trivial
  | some c => exact h c

theorem streamInfoToHash_spec (info : ℕ) (i : JsStreamInfo) :
    Triple raises [info] (streamInfoToHash info i) (fun _ => [info])
      (· = JetStream.streamInfoToHash i) [info] own := by
  refine Triple.callTimes 2 (Triple.use List.mem_cons_self ?_)
  refine (elim_spec i.config (setStreamConfig_spec info)).bind fun _ _ => ?_
  refine Triple.use List.mem_cons_self (Triple.callTimes 6 ?_)
  exact Triple.pure (fun _ => [info]) _ rfl

theorem consumerInfoToHash_spec (info : ℕ) (i : JsConsumerInfo) :
    Triple raises [info] (consumerInfoToHash info i) (fun _ => [info])
      (· = JetStream.consumerInfoToHash i) [info] own := by
  refine Triple.callTimes 2 (Triple.use List.mem_cons_self ?_)
  refine (elim_spec i.config (setConsumerConfig_spec info)).bind fun _ _ => ?_
  refine Triple.use List.mem_cons_self (Triple.callTimes 6 ?_)
  exact Triple.pure (fun _ => [info]) _ rfl

theorem readStreamInfo_spec (info : ℕ) (i : JsStreamInfo) :
    Triple raises [info] (readStreamInfo info i) (fun _ => [])
      (· = JetStream.streamInfoToHash i) [] own :=
  Triple.releasing (streamInfoToHash_spec info i)

theorem readConsumerInfo_spec (info : ℕ) (i : JsConsumerInfo) :
    Triple raises [info] (readConsumerInfo info i) (fun _ => [])
      (· = JetStream.consumerInfoToHash i) [] own :=
  Triple.releasing (consumerInfoToHash_spec info i)

theorem readStreamInfos_spec (list : ℕ) (infos : List JsStreamInfo) :
    Triple raises [list] (readStreamInfos list infos) (fun _ => [])
      (· = infos.map JetStream.streamInfoToHash) [] own :=
  Triple.pushAll infos (streamInfoToHash_spec list)

theorem readConsumerInfos_spec (list : ℕ) (infos : List JsConsumerInfo) :
    Triple raises [list] (readConsumerInfos list infos) (fun _ => [])
      (· = infos.map JetStream.consumerInfoToHash) [] own :=
  Triple.pushAll infos (consumerInfoToHash_spec list)

theorem readNames_spec (list : ℕ) (names : List CString) :
    Triple raises [list] (readNames list names) (fun _ => []) (· = names.map CString.text) []
      own :=
  Triple.pushAll names fun _ => Triple.pure (fun _ => [list]) _ rfl

theorem readAccountInfo_spec (info : ℕ) (ai : JsAccountInfo) :
    Triple raises [info] (readAccountInfo info ai) (fun _ => []) (· = accountInfoToHash ai) []
      own := by
  refine triple_call.onRaise_release.bind fun _ _ => ?_
  refine (Triple.releasing (Q := fun _ => True) ?_).bind fun _ _ => ?_
  · refine Triple.use List.mem_cons_self (Triple.callTimes 4 (Triple.callWhen _ ?_))
    exact Triple.callTimes 2 (Triple.use List.mem_cons_self (triple_callTimes 10))
  · exact Triple.pure (fun _ => []) _ rfl

theorem readPauseResponse_spec (response : ℕ) (cpr : JsConsumerPauseResponse) :
    Triple raises [response] (readPauseResponse response cpr) (fun _ => [])
      (· = pauseResponseToHash cpr) [] own := by
  refine triple_call.onRaise_release.bind fun _ _ => ?_
  refine (Triple.releasing (Q := fun _ => True) ?_).bind fun _ _ => ?_
  · refine Triple.use List.mem_cons_self (Triple.call (Triple.callWhen _ ?_))
    exact triple_callWhen _
  · exact Triple.pure (fun _ => []) _ rfl

theorem readPubAck_spec (ack : ℕ) (pa : JsPubAck) :
    Triple raises [ack] (readPubAck ack pa) (fun _ => []) (· = pubAckToHash pa) [] own := by
  refine Triple.attempt fun newHash hnew => Triple.use List.mem_cons_self ?_
  refine Triple.attemptWhen _ fun stream hstream => ?_
  refine Triple.attempt fun sequence hsequence => Triple.attempt fun duplicate hduplicate => ?_
  have hpending := ((hnew.or hstream).or hsequence).or hduplicate
  exact Triple.release (Triple.check hpending (Triple.pure (fun _ => []) _ rfl))

theorem readPubAckChecked_spec (ack : ℕ) (pa : JsPubAck) :
    Triple raises [ack] (readPubAckChecked ack pa) (fun _ => []) (· = pubAckToHash pa) [] own := by
  refine Triple.attempt fun newHash hnew => Triple.use List.mem_cons_self ?_
  refine Triple.attemptWhen _ fun stream hstream => ?_
  refine Triple.attemptUnless (hnew.or hstream) fun sequence hsequence => ?_
  refine Triple.attemptUnless hsequence fun duplicate hduplicate => ?_
  exact Triple.release (Triple.check hduplicate (Triple.pure (fun _ => []) _ rfl))

theorem readMsg_spec (desc : String) (answer : Except JsFailure (Option NatsMsgView)) :
    Yields raises (readMsg desc answer) (result desc answer (Option.map NatsMsgView.info)) := by
  unfold readMsg
  rcases answer with failure | _ | m
  · exact Triple.raise (.inr rfl)
  · exact Triple.pure (fun _ => []) none rfl
  · refine Triple.acquire fun msg => Triple.releasing (Triple.use List.mem_cons_self ?_)
    refine (natsMsgToHash_spec m [msg]).bind fun info hinfo => ?_
    exact Triple.pure (fun _ => [msg]) (some info) (by rw [hinfo]; rfl)

/-- What is held after a configuration: its arrays. -/
def arraysOf {γ : Type} (a : List ℕ × Except ExceptionInfo γ) : List ℕ := a.1 ++ []

abbrev Configures {γ : Type} (raises : ℕ → Option ExceptionInfo)
    (configure : Prog ExceptionInfo (List ℕ × Except ExceptionInfo γ))
    (cfg : Except ExceptionInfo γ) (own : ExceptionInfo → Prop) : Prop :=
  Triple raises [] configure arraysOf (fun a => a.2 = cfg) [] own

theorem configureStreamConfig_spec (C : StreamClient) (config : NatsStreamConfig) :
    Configures raises (configureStreamConfig C config) (JetStream.configureStreamConfig C config)
      own := by
  unfold configureStreamConfig
  cases JetStream.configureStreamConfig C config with
  | error ex => exact Triple.pure arraysOf ([], .error ex) rfl
  | ok cfg =>
      refine Triple.acquireTimes _ fun subjects _ => ?_
      exact Triple.pure arraysOf (subjects, .ok cfg) rfl

theorem configureConsumerConfig_spec (C : ConsumerClient) (config : NatsConsumerConfig) :
    Configures raises (configureConsumerConfig C config)
      (JetStream.configureConsumerConfig C config) own := by
  unfold configureConsumerConfig JetStream.configureConsumerConfig
  split
  · exact Triple.pure arraysOf ([], _) rfl
  · refine Triple.acquireTimes _ fun backOff _ => ?_
    split
    · exact Triple.pure arraysOf (backOff, _) rfl
    · refine Triple.acquireTimes _ fun filterSubjects _ => ?_
      rw [← List.append_assoc]
      exact Triple.pure arraysOf (filterSubjects ++ backOff, _) rfl

theorem withConfig_spec {γ : Type}
    {configure : Prog ExceptionInfo (List ℕ × Except ExceptionInfo γ)} {desc : String}
    {cfg : Except ExceptionInfo γ} {js : γ → Except JsFailure β}
    {read : ℕ → β → Prog ExceptionInfo α} {f : β → α}
    (hconfigure : ∀ own, Configures raises configure cfg own)
    (hread : ∀ i b {own : ExceptionInfo → Prop},
      Triple raises [i] (read i b) (fun _ => []) (· = f b) [] own) :
    Yields raises (withConfig configure desc js read) (resultWith cfg desc js f) := by
  refine (hconfigure _).bind fun a ha => ?_
  obtain ⟨arrays, configured⟩ := a
  obtain rfl : configured = cfg := ha
  cases configured with
  | error ex => exact Triple.releaseAll arrays (Triple.raise (.inr rfl))
  | ok cfg =>
      refine Triple.useAll (fun i hi => List.mem_append_left [] hi) ?_
      exact Triple.releaseAll arrays (answered_spec hread)

end Custody

/-! ## The calls with a configuration -/

theorem saveStream_spec {raises : ℕ → Option ExceptionInfo} (C : StreamClient)
    (config : NatsStreamConfig) (desc : String) :
    Yields raises (withConfig (configureStreamConfig C config) desc C.update readStreamInfo)
      (resultWith (JetStream.configureStreamConfig C config) desc C.update
        JetStream.streamInfoToHash) :=
  withConfig_spec (fun _ => configureStreamConfig_spec C config) fun i b {_} =>
    readStreamInfo_spec i b

theorem saveConsumer_spec {raises : ℕ → Option ExceptionInfo} (C : ConsumerClient)
    (js : UpdateConsumer) (stream : CString) (config : NatsConsumerConfig) (desc : String) :
    Yields raises
      (withConfig (configureConsumerConfig C config) desc (js stream.text) readConsumerInfo)
      (resultWith (JetStream.configureConsumerConfig C config) desc (js stream.text)
        JetStream.consumerInfoToHash) :=
  withConfig_spec (fun _ => configureConsumerConfig_spec C config) fun i b {_} =>
    readConsumerInfo_spec i b

theorem updateStream_eq (C : StreamClient) (valid : Bool) (config : NatsStreamConfig) :
    JetStream.updateStream C valid none config =
      entered valid notValid (resultWith (JetStream.configureStreamConfig C config)
        "failed to update stream" C.update JetStream.streamInfoToHash) := by
  cases valid with
  | false => rfl
  | true =>
      unfold JetStream.updateStream entered resultWith result
      cases JetStream.configureStreamConfig C config with
      | error ex => rfl
      | ok cfg =>
          simp only [Bool.true_eq_false, if_false, if_true, bind, Except.bind]
          cases C.update cfg <;> rfl

theorem updateConsumer_eq (C : ConsumerClient) (update : UpdateConsumer) (valid : Bool)
    (stream : CString) (config : NatsConsumerConfig) :
    JetStream.updateConsumer C update valid none stream.text config =
      entered valid notValid (resultWith (JetStream.configureConsumerConfig C config)
        (failedToUpdateConsumer stream) (update stream.text) JetStream.consumerInfoToHash) := by
  cases valid with
  | false => rfl
  | true =>
      unfold JetStream.updateConsumer entered resultWith result
      cases JetStream.configureConsumerConfig C config with
      | error ex => rfl
      | ok cfg =>
          simp only [Bool.true_eq_false, if_false, if_true, bind, Except.bind]
          cases update stream.text cfg <;> rfl

/-- The calls with a configuration: whatever arrays can be allocated, whatever the C client answers
    and whichever call of the Qore library raises an exception, the arrays are freed once, the info
    is destroyed once, and the result is the one that the answer stands for. -/
theorem configured_calls_settle (raises : ℕ → Option ExceptionInfo) (valid : Bool)
    (S : StreamClient) (C : ConsumerClient) (js : UpdateConsumer) (stream : CString)
    (streamConfig : NatsStreamConfig) (consumerConfig : NatsConsumerConfig) :
    Implements raises (addStream valid S streamConfig) (entered valid notValid
        (resultWith (JetStream.configureStreamConfig S streamConfig) "failed to add stream" S.update
          JetStream.streamInfoToHash)) ∧
      Implements raises (updateStream valid S streamConfig)
        (JetStream.updateStream S valid none streamConfig) ∧
      Implements raises (addConsumer valid stream C js consumerConfig) (entered valid notValid
        (resultWith (JetStream.configureConsumerConfig C consumerConfig)
          (failedToAddConsumer stream) (js stream.text) JetStream.consumerInfoToHash)) ∧
      Implements raises (updateConsumer valid stream C js consumerConfig)
        (JetStream.updateConsumer C js valid none stream.text consumerConfig) := by
  rw [updateStream_eq, updateConsumer_eq]
  refine ⟨?_, ?_, ?_, ?_⟩
  · exact (saveStream_spec S streamConfig _).entering.implements
  · exact (saveStream_spec S streamConfig _).entering.implements
  · exact (saveConsumer_spec C js stream consumerConfig _).entering.implements
  · exact (saveConsumer_spec C js stream consumerConfig _).entering.implements

/-! ## The other calls -/

theorem pauseConsumerNs_eq (c : JsCtx) (valid : Bool) (stream consumer : CString) (ns : Int64) :
    pauseConsumerNs ⟨valid, none, c.pauseConsumer, none⟩ stream consumer ns =
      entered valid notValid (result (failedToPauseConsumer stream consumer)
        (c.pauseConsumer stream consumer ns.toUInt64) pauseResponseToHash) := by
  cases valid with
  | false => rfl
  | true =>
      unfold pauseConsumerNs entered result
      dsimp only
      cases c.pauseConsumer stream consumer ns.toUInt64 <;> rfl

/-- The calls that read an object of the C client or a list of them: it is destroyed once, whatever
    the C client answers and whichever call of the Qore library raises an exception, and the result
    is made of every entry in its order. A message that is not there is no error. -/
theorem jetstream_reads_settle (raises : ℕ → Option ExceptionInfo) (c : JsCtx) (valid : Bool)
    (stream consumer subject : CString) (seq : UInt64) :
    Implements raises (getStreamInfo c valid stream)
        (entered valid notValid (result (failedToGetStreamInfo stream) (c.getStreamInfo stream)
          JetStream.streamInfoToHash)) ∧
      Implements raises (getConsumerInfo c valid stream consumer)
        (entered valid notValid (result (failedToGetConsumerInfo stream consumer)
          (c.getConsumerInfo stream consumer) JetStream.consumerInfoToHash)) ∧
      Implements raises (listStreams c valid)
        (entered valid notValid (result "failed to list streams" c.streams
          (List.map JetStream.streamInfoToHash))) ∧
      Implements raises (listStreamNames c valid)
        (entered valid notValid (result "failed to list stream names" c.streamNames
          (List.map CString.text))) ∧
      Implements raises (listConsumers c valid stream)
        (entered valid notValid (result (failedToListConsumers stream) (c.consumers stream)
          (List.map JetStream.consumerInfoToHash))) ∧
      Implements raises (listConsumerNames c valid stream)
        (entered valid notValid (result (failedToListConsumerNames stream)
          (c.consumerNames stream) (List.map CString.text))) ∧
      Implements raises (getAccountInfo c valid)
        (entered valid notValid (result "failed to get account info" c.getAccountInfo
          accountInfoToHash)) ∧
      Implements raises (getMsg c valid stream seq)
        (entered valid notValid (result (failedToGetMsg stream seq) (c.getMsg stream seq)
          (Option.map NatsMsgView.info))) ∧
      Implements raises (getLastMsg c valid stream subject)
        (entered valid notValid (result (failedToGetLastMsg stream subject)
          (c.getLastMsg stream subject) (Option.map NatsMsgView.info))) := by
  refine ⟨?_, ?_, ?_, ?_, ?_, ?_, ?_, ?_, ?_⟩
  · exact (answered_spec fun i b {_} => readStreamInfo_spec i b).entering.implements
  · exact (answered_spec fun i b {_} => readConsumerInfo_spec i b).entering.implements
  · exact (answered_spec fun i b {_} => readStreamInfos_spec i b).entering.implements
  · exact (answered_spec fun i b {_} => readNames_spec i b).entering.implements
  · exact (answered_spec fun i b {_} => readConsumerInfos_spec i b).entering.implements
  · exact (answered_spec fun i b {_} => readNames_spec i b).entering.implements
  · exact (answered_spec fun i b {_} => readAccountInfo_spec i b).entering.implements
  · exact (readMsg_spec _ _).entering.implements
  · exact (readMsg_spec _ _).entering.implements

/-- Publishing and pausing: the acknowledgement or the response is destroyed once, also by
    `publish()`, which goes on setting keys when an exception is pending. -/
theorem jetstream_answers_settle (raises : ℕ → Option ExceptionInfo) (c : JsCtx) (valid : Bool)
    (stream consumer subject : CString) (data : Option Bytes) (po : JsPubOptions)
    (pauseUntilEpochNs : Int64) :
    Implements raises (publish c valid subject data) (entered valid notValid (result
        (failedToPublish subject) (c.publishData subject data none) pubAckToHash)) ∧
      Implements raises (publishWithOptions c valid subject data po) (entered valid notValid (result
        (failedToPublish subject) (c.publishData subject data (some po)) pubAckToHash)) ∧
      Implements raises (pauseConsumer c valid stream consumer pauseUntilEpochNs)
        (pauseConsumerNs ⟨valid, none, c.pauseConsumer, none⟩ stream consumer
          pauseUntilEpochNs) := by
  rw [pauseConsumerNs_eq]
  refine ⟨?_, ?_, ?_⟩
  · exact (answered_spec fun i b {_} => readPubAck_spec i b).entering.implements
  · exact (answered_spec fun i b {_} => readPubAckChecked_spec i b).entering.implements
  · exact (answered_spec fun i b {_} => readPauseResponse_spec i b).entering.implements

end ModuleNats.QoreNatsJetStream
