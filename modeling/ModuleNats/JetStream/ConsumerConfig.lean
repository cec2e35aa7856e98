import ModuleNats.JetStream.Values
import ModuleNats.NatsHelper

set_option autoImplicit false

/-! # Consumer configurations

`configureConsumerConfig()` and `consumerInfoToHash()` do not cover the same keys: the back-off
times, the filter subjects and the start sequence are filled in and never read, and the start time
is neither filled in nor read. Two counts go through a cast to `int` on their way to fields of
64 bits. So a hash round trips if and only if it has none of these keys, and its counts fit in `int`
(`consumer_config_round_trip_iff`). -/

namespace ModuleNats.JetStream

open Record (assign assign_congr)

/-! ## The hash -/

/-- The keys of `NatsConsumerConfig`. -/
inductive ConsumerKey where
  | durableName
  | deliverSubject
  | deliverGroup
  | ackPolicy
  | ackWait
  | deliverPolicy
  | optStartSeq
  | optStartTime
  | replayPolicy
  | filterSubject
  | maxDeliver
  | maxAckPending
  | description
  | name
  | backOff
  | rateLimitBps
  | flowControl
  | heartbeatMs
  | headersOnly
  | maxRequestBatch
  | maxRequestExpiresMs
  | maxRequestMaxBytes
  | inactiveThresholdMs
  | numReplicas
  | memoryStorage
  | filterSubjects
  | sampleFrequency
deriving DecidableEq, Repr

/-- A date, in microseconds; the wrapper does not look at it. -/
abbrev QoreDate := ℤ

@[reducible] def ConsumerKey.Val : ConsumerKey → Type
  | .durableName | .deliverSubject | .deliverGroup | .filterSubject | .description | .name
  | .sampleFrequency => String
  | .ackPolicy | .ackWait | .deliverPolicy | .optStartSeq | .replayPolicy | .maxDeliver
  | .maxAckPending | .rateLimitBps | .heartbeatMs | .maxRequestBatch | .maxRequestExpiresMs
  | .maxRequestMaxBytes | .inactiveThresholdMs | .numReplicas => Int64
  | .flowControl | .headersOnly | .memoryStorage => Bool
  | .optStartTime => QoreDate
  | .backOff => List Int64
  | .filterSubjects => List String

abbrev NatsConsumerConfig := Record ConsumerKey.Val

/-- `NatsConsumerInfo`. -/
structure NatsConsumerInfo where
  config : NatsConsumerConfig
  delivered : Int64
  ackPending : Int64
  redelivered : Int64
  waiting : Int64
  numPending : Int64

/-! ## The structures of the C client -/

/-- `jsConsumerConfig`, as far as the wrapper uses it. -/
@[ext] structure JsConsumerConfig where
  durable : Option CString
  deliverSubject : Option CString
  deliverGroup : Option CString
  description : Option CString
  ackPolicy : UInt32
  ackWait : Int64
  deliverPolicy : UInt32
  optStartSeq : UInt64
  replayPolicy : UInt32
  filterSubject : Option CString
  maxDeliver : Int64
  maxAckPending : Int64
  name : Option CString
  /-- `BackOffLen` and `BackOff` -/
  backOff : CArray Int64
  rateLimit : UInt64
  flowControl : Bool
  heartbeat : Int64
  headersOnly : Bool
  maxRequestBatch : Int64
  maxRequestExpires : Int64
  maxRequestMaxBytes : Int64
  inactiveThreshold : Int64
  replicas : Int64
  memoryStorage : Bool
  /-- `FilterSubjectsLen` and `FilterSubjects` -/
  filterSubjects : CArray CString
  sampleFrequency : Option CString
deriving DecidableEq

/-- `jsConsumerInfo`; `delivered` and `ackFloor` are the consumer sequences of the fields of that
    name. -/
structure JsConsumerInfo where
  config : Option JsConsumerConfig
  delivered : UInt64
  ackFloor : UInt64
  numPending : UInt64
  numRedelivered : Int64
  numWaiting : Int64
deriving DecidableEq

/-! ## The converters -/

/-- A list whose array is allocated only if its length is positive. -/
def optionalArray {α : Type} (l : List α) : CArray α :=
  if 0 < (Int32.ofNat l.length).toInt then .ofList l else .unallocated (Int32.ofNat l.length)

/-- The assignments of `configureConsumerConfig()`, after `jsConsumerConfig_Init()`. -/
def fillConsumerConfig (init : JsConsumerConfig) (config : NatsConsumerConfig) :
    JsConsumerConfig where
  durable := assign (config .durableName) (fun s => some (CString.add s)) init.durable
  deliverSubject :=
    assign (config .deliverSubject) (fun s => some (CString.add s)) init.deliverSubject
  deliverGroup := assign (config .deliverGroup) (fun s => some (CString.add s)) init.deliverGroup
  description := assign (config .description) (fun s => some (CString.add s)) init.description
  ackPolicy := assign (config .ackPolicy) toEnum init.ackPolicy
  ackWait := assign (config .ackWait) msToNs init.ackWait
  deliverPolicy := assign (config .deliverPolicy) toEnum init.deliverPolicy
  optStartSeq := assign (config .optStartSeq) Int64.toUInt64 init.optStartSeq
  replayPolicy := assign (config .replayPolicy) toEnum init.replayPolicy
  filterSubject := assign (config .filterSubject) (fun s => some (CString.add s)) init.filterSubject
  -- `(int)`, into fields of 64 bits
  maxDeliver := assign (config .maxDeliver) (fun v => v.toInt32.toInt64) init.maxDeliver
  maxAckPending := assign (config .maxAckPending) (fun v => v.toInt32.toInt64) init.maxAckPending
  name := assign (config .name) (fun s => some (CString.add s)) init.name
  backOff := assign (config .backOff) (fun l => optionalArray (l.map msToNs)) init.backOff
  rateLimit := assign (config .rateLimitBps) Int64.toUInt64 init.rateLimit
  flowControl := assign (config .flowControl) id init.flowControl
  heartbeat := assign (config .heartbeatMs) msToNs init.heartbeat
  headersOnly := assign (config .headersOnly) id init.headersOnly
  maxRequestBatch := assign (config .maxRequestBatch) id init.maxRequestBatch
  maxRequestExpires := assign (config .maxRequestExpiresMs) msToNs init.maxRequestExpires
  maxRequestMaxBytes := assign (config .maxRequestMaxBytes) id init.maxRequestMaxBytes
  inactiveThreshold := assign (config .inactiveThresholdMs) msToNs init.inactiveThreshold
  replicas := assign (config .numReplicas) id init.replicas
  memoryStorage := assign (config .memoryStorage) id init.memoryStorage
  filterSubjects :=
    assign (config .filterSubjects) (fun l => optionalArray (l.map CString.add)) init.filterSubjects
  sampleFrequency :=
    assign (config .sampleFrequency) (fun s => some (CString.add s)) init.sampleFrequency

/-- The configuration part of `consumerInfoToHash()`. -/
def readConsumerConfig (cfg : JsConsumerConfig) : NatsConsumerConfig
  | .durableName => cfg.durable.map CString.text
  | .deliverSubject => cfg.deliverSubject.map CString.text
  | .deliverGroup => cfg.deliverGroup.map CString.text
  | .description => cfg.description.map CString.text
  | .ackPolicy => some (ofEnum cfg.ackPolicy)
  | .ackWait => some (nsToMs cfg.ackWait)
  | .deliverPolicy => some (ofEnum cfg.deliverPolicy)
  | .replayPolicy => some (ofEnum cfg.replayPolicy)
  | .filterSubject => cfg.filterSubject.map CString.text
  | .maxDeliver => some cfg.maxDeliver
  | .maxAckPending => some cfg.maxAckPending
  | .name => cfg.name.map CString.text
  | .rateLimitBps => some cfg.rateLimit.toInt64
  | .flowControl => some cfg.flowControl
  | .heartbeatMs => some (nsToMs cfg.heartbeat)
  | .headersOnly => some cfg.headersOnly
  | .maxRequestBatch => some cfg.maxRequestBatch
  | .maxRequestExpiresMs => some (nsToMs cfg.maxRequestExpires)
  | .maxRequestMaxBytes => some cfg.maxRequestMaxBytes
  | .inactiveThresholdMs => some (nsToMs cfg.inactiveThreshold)
  | .numReplicas => some cfg.replicas
  | .memoryStorage => some cfg.memoryStorage
  | .sampleFrequency => cfg.sampleFrequency.map CString.text
  | .optStartSeq | .optStartTime | .backOff | .filterSubjects => none

def consumerInfoToHash (info : JsConsumerInfo) : NatsConsumerInfo where
  config := match info.config with
    | some cfg => readConsumerConfig cfg
    | none => fun _ => none
  delivered := info.delivered.toInt64
  ackPending := info.ackFloor.toInt64
  redelivered := info.numRedelivered
  waiting := info.numWaiting
  numPending := info.numPending.toInt64

/-- The ranges of the fields of `jsConsumerConfig`. -/
def ConsumerKey.InRange : (k : ConsumerKey) → k.Val → Prop
  | .durableName, v => nul ∉ v.toList
  | .deliverSubject, v => nul ∉ v.toList
  | .deliverGroup, v => nul ∉ v.toList
  | .filterSubject, v => nul ∉ v.toList
  | .description, v => nul ∉ v.toList
  | .name, v => nul ∉ v.toList
  | .sampleFrequency, v => nul ∉ v.toList
  | .filterSubjects, v => CArray.FitsLength v ∧ ∀ s ∈ v, nul ∉ s.toList
  | .ackPolicy, v => FitsEnum v
  | .deliverPolicy, v => FitsEnum v
  | .replayPolicy, v => FitsEnum v
  | .ackWait, v => FitsNs v
  | .heartbeatMs, v => FitsNs v
  | .maxRequestExpiresMs, v => FitsNs v
  | .inactiveThresholdMs, v => FitsNs v
  | .backOff, v => CArray.FitsLength v ∧ ∀ ms ∈ v, FitsNs ms
  | _, _ => True

/-- No cast to a smaller type than that of the field cuts the value off. -/
def ConsumerKey.Uncut : (k : ConsumerKey) → k.Val → Prop
  | .maxDeliver, v => FitsInt v
  | .maxAckPending, v => FitsInt v
  | _, _ => True

/-- The value fits in its field, and in what it goes through on its way there. -/
def ConsumerKey.Converts (k : ConsumerKey) (v : k.Val) : Prop := k.InRange v ∧ k.Uncut v

/-- What the wrapper relies on of `jsConsumerConfig_Init()`: its default times are whole
    milliseconds, and its default counts fit in `int`. -/
structure ConsumerInit where
  cfg : JsConsumerConfig
  wholeMs : ∀ ns ∈ [cfg.ackWait, cfg.heartbeat, cfg.maxRequestExpires, cfg.inactiveThreshold],
    WholeMs ns
  fitsInt : ∀ n ∈ [cfg.maxDeliver, cfg.maxAckPending], FitsInt n

/-- The parts of the C client and of the system that the calls use. -/
structure ConsumerClient where
  init : ConsumerInit
  /-- an array of that many entries can be allocated -/
  malloc : Int32 → Bool

/-- `js_UpdateConsumer()` for a stream: the answer of the server, or the text of the status and the
    JetStream error code. -/
abbrev UpdateConsumer := String → JsConsumerConfig → Except (String × ℕ) JsConsumerInfo

/-- An array is allocated for a list that is not empty. -/
def ConsumerClient.allocates {α : Type} (C : ConsumerClient) (l : Option (List α)) : Bool :=
  l.all fun l => (Int32.ofNat l.length).toInt ≤ 0 || C.malloc (Int32.ofNat l.length)

/-- The exception for an array that cannot be allocated. -/
def allocationFailed {α : Type} (l : Option (List α)) (entries : String) : ExceptionInfo :=
  ⟨"NATS-JETSTREAM-ERROR", "memory allocation failed for " ++
    toString (Int32.ofNat (l.elim 0 List.length)).toInt ++ " " ++ entries⟩

def configureConsumerConfig (C : ConsumerClient) (config : NatsConsumerConfig) :
    Except ExceptionInfo JsConsumerConfig :=
  if C.allocates (config .backOff) = false then
    .error (allocationFailed (config .backOff) "back_off entries")
  else if C.allocates (config .filterSubjects) = false then
    .error (allocationFailed (config .filterSubjects) "filter subjects")
  else .ok (fillConsumerConfig C.init.cfg config)

/-- `updateConsumer()` of a context that may be invalid, in a thread that may be cancelled. -/
def updateConsumer (C : ConsumerClient) (update : UpdateConsumer) (valid : Bool)
    (cancelled : Option ExceptionInfo) (stream : String) (config : NatsConsumerConfig) :
    Except ExceptionInfo NatsConsumerInfo :=
  if valid = false then .error ⟨"NATS-JETSTREAM-ERROR", "JetStream context is not valid"⟩
  else match cancelled with
    | some ex => .error ex
    | none => do
        let cfg ← configureConsumerConfig C config
        match update stream cfg with
        | .error (statusText, jerr) => .error (natsJsError "NATS-JETSTREAM-ERROR"
            ("failed to update consumer on stream '" ++ stream ++ "'") statusText jerr)
        | .ok info => .ok (consumerInfoToHash info)

/-! ## What is read back -/

/-- The keys that `consumerInfoToHash()` leaves out. -/
def droppedKeys : List ConsumerKey := [.backOff, .filterSubjects, .optStartSeq, .optStartTime]

theorem readConsumerConfig_dropped (cfg : JsConsumerConfig) {k : ConsumerKey}
    (h : k ∈ droppedKeys) : readConsumerConfig cfg k = none := by
  simp only [droppedKeys, List.mem_cons, List.not_mem_nil, or_false] at h
  rcases h with rfl | rfl | rfl | rfl <;> rfl

/-- Every other key is read back, if its value fits. -/
theorem readsBack_consumer (init : JsConsumerConfig) {config : NatsConsumerConfig}
    (h : config.All ConsumerKey.Converts) (hdropped : ∀ k ∈ droppedKeys, config k = none) :
    Record.ReadsBack (fillConsumerConfig init) readConsumerConfig init config := by
  intro k
  have hk : ∀ v, config k = some v → k.InRange v := fun v hv => (h k v hv).1
  have huncut : ∀ v, config k = some v → k.Uncut v := fun v hv => (h k v hv).2
  cases k with
  | durableName | deliverSubject | deliverGroup | description => exact read_string hk
  | filterSubject | name | sampleFrequency => exact read_string hk
  | ackPolicy | deliverPolicy | replayPolicy => exact read_enum hk
  | ackWait | heartbeatMs | maxRequestExpiresMs | inactiveThresholdMs => exact read_duration hk
  | maxDeliver | maxAckPending => exact read_int huncut
  | rateLimitBps => exact read_uint64
  | optStartSeq | optStartTime | backOff | filterSubjects =>
      rw [hdropped _ (by decide)]
      rfl
  | _ => exact read_same

/-- A value that is read back was not cut off. -/
theorem ConsumerKey.uncut_of_read {init : JsConsumerConfig} {config : NatsConsumerConfig}
    {k : ConsumerKey} {v : k.Val} (hv : config k = some v)
    (h : readConsumerConfig (fillConsumerConfig init config) k = some v) : k.Uncut v := by
  cases k with
  | maxDeliver | maxAckPending => exact fitsInt_of_read_int hv h
  | _ => trivial

/-- To write a default explicitly fills in the same configuration. -/
theorem fillConsumerConfig_congr (init : ConsumerInit) {config config' : NatsConsumerConfig}
    (h : ∀ k, config' k = (config k).or (readConsumerConfig init.cfg k) ∨ config' k = config k)
    (hdropped : ∀ k ∈ droppedKeys, config' k = config k) :
    fillConsumerConfig init.cfg config' = fillConsumerConfig init.cfg config := by
  apply JsConsumerConfig.ext
  case durable | deliverSubject | deliverGroup | description =>
    exact assign_congr (write_string _) (h _)
  case filterSubject | name | sampleFrequency => exact assign_congr (write_string _) (h _)
  case ackPolicy | deliverPolicy | replayPolicy => exact assign_congr (write_enum _) (h _)
  case ackWait | heartbeat | maxRequestExpires | inactiveThreshold =>
    refine assign_congr (write_duration (init.wholeMs _ ?_)) (h _)
    simp
  case maxDeliver | maxAckPending =>
    refine assign_congr (write_int (init.fitsInt _ ?_)) (h _)
    simp
  case rateLimit => exact assign_congr (write_uint64 _) (h _)
  case flowControl | headersOnly | memoryStorage => exact assign_congr (write_same _) (h _)
  case maxRequestBatch | maxRequestMaxBytes | replicas => exact assign_congr (write_same _) (h _)
  case optStartSeq => rw [fillConsumerConfig, fillConsumerConfig, hdropped .optStartSeq (by decide)]
  case backOff => rw [fillConsumerConfig, fillConsumerConfig, hdropped .backOff (by decide)]
  case filterSubjects =>
    rw [fillConsumerConfig, fillConsumerConfig, hdropped .filterSubjects (by decide)]

/-! ## The condition -/

/-- Arrays of at least one entry can be allocated. -/
def ConsumerClient.Allocates (C : ConsumerClient) : Prop := ∀ n, 0 < n.toInt → C.malloc n = true

theorem ConsumerClient.Allocates.allocates {C : ConsumerClient} (h : C.Allocates) {α : Type}
    (l : Option (List α)) : C.allocates l = true := by
  cases l with
  | none => rfl
  | some l =>
      simp only [ConsumerClient.allocates, Option.all_some, Bool.or_eq_true, decide_eq_true_eq]
      by_cases hpos : 0 < (Int32.ofNat l.length).toInt
      · exact Or.inr (h _ hpos)
      · exact Or.inl (Int.not_lt.1 hpos)

theorem eq_fillConsumerConfig {C : ConsumerClient} {config : NatsConsumerConfig}
    {cfg : JsConsumerConfig} (h : configureConsumerConfig C config = .ok cfg) :
    cfg = fillConsumerConfig C.init.cfg config := by
  unfold configureConsumerConfig at h
  split at h
  · cases h
  · split at h
    · cases h
    · exact (Except.ok.inj h).symm

theorem configureConsumerConfig_ok {C : ConsumerClient} (hmalloc : C.Allocates)
    (config : NatsConsumerConfig) :
    configureConsumerConfig C config = .ok (fillConsumerConfig C.init.cfg config) := by
  rw [configureConsumerConfig, hmalloc.allocates, hmalloc.allocates]
  rfl

/-- The hash round trips: when the server has the configuration that is filled in from it, what is
    read has every key with the same value, and to change one key of what was read and update the
    consumer is to change that key of the hash itself. -/
def RoundTrips (C : ConsumerClient) (config : NatsConsumerConfig) : Prop :=
  ∃ cfg, configureConsumerConfig C config = .ok cfg ∧
    ∀ info : JsConsumerInfo, info.config = some cfg →
      let read := (consumerInfoToHash info).config
      Record.Kept config read ∧ ∀ k (v : k.Val), k.InRange v → ∀ update stream,
        updateConsumer C update true none stream (read.set k v)
          = updateConsumer C update true none stream (config.set k v)

/-- An update of what was read is an update of the hash: the keys that were not set come back with
    their defaults, which change nothing. -/
theorem updateConsumer_set {C : ConsumerClient} (hmalloc : C.Allocates)
    {config : NatsConsumerConfig} (h : config.All ConsumerKey.Converts)
    (hdropped : ∀ k ∈ droppedKeys, config k = none) (k : ConsumerKey) (v : k.Val)
    (update : UpdateConsumer) (stream : String) :
    updateConsumer C update true none stream
        ((readConsumerConfig (fillConsumerConfig C.init.cfg config)).set k v)
      = updateConsumer C update true none stream (config.set k v) := by
  have hread := readsBack_consumer C.init.cfg h hdropped
  have hfill : fillConsumerConfig C.init.cfg
        ((readConsumerConfig (fillConsumerConfig C.init.cfg config)).set k v)
      = fillConsumerConfig C.init.cfg (config.set k v) := by
    refine fillConsumerConfig_congr C.init (fun j => ?_) fun j hj => ?_
    · by_cases hjk : j = k
      · subst hjk
        exact Or.inr (by rw [Record.set_self, Record.set_self])
      · exact Or.inl (by rw [Record.set_of_ne _ v hjk, Record.set_of_ne _ v hjk, hread j])
    · by_cases hjk : j = k
      · subst hjk
        rw [Record.set_self, Record.set_self]
      · rw [Record.set_of_ne _ v hjk, Record.set_of_ne _ v hjk, readConsumerConfig_dropped _ hj,
          hdropped j hj]
  simp only [updateConsumer, configureConsumerConfig_ok hmalloc, hfill]

/-- With values in the ranges of their C fields, a hash round trips if and only if it sets none of
    the back-off times, the filter subjects, the start sequence and the start time, and the casts to
    `int` do not cut off its numbers of deliveries and of pending acknowledgements. -/
theorem consumer_config_round_trip_iff {C : ConsumerClient} (hmalloc : C.Allocates)
    {config : NatsConsumerConfig} (h : config.All ConsumerKey.InRange) :
    RoundTrips C config ↔
      (∀ k ∈ droppedKeys, config k = none) ∧ config.All ConsumerKey.Uncut := by
  constructor
  · rintro ⟨cfg, hcfg, hinfo⟩
    obtain ⟨hkept, -⟩ := hinfo ⟨some cfg, 0, 0, 0, 0, 0⟩ rfl
    obtain rfl := eq_fillConsumerConfig hcfg
    refine ⟨fun k hk => ?_, fun k v hv => ConsumerKey.uncut_of_read hv (hkept k v hv)⟩
    cases hv : config k with
    | none => rfl
    | some v =>
        have hread : readConsumerConfig (fillConsumerConfig C.init.cfg config) k = some v :=
          hkept k v hv
        rw [readConsumerConfig_dropped _ hk] at hread
        cases hread
  · rintro ⟨hdropped, huncut⟩
    have hconverts : config.All ConsumerKey.Converts := fun k v hv => ⟨h k v hv, huncut k v hv⟩
    refine ⟨_, configureConsumerConfig_ok hmalloc config, fun info hconfig => ?_⟩
    rw [consumerInfoToHash, hconfig]
    exact ⟨(readsBack_consumer C.init.cfg hconverts hdropped).kept,
      fun k v _ update stream => updateConsumer_set hmalloc hconverts hdropped k v update stream⟩

/-- The defaults of `jsConsumerConfig_Init()`: everything cleared, and the policies unset. -/
def consumerDefaults : ConsumerInit where
  cfg := {
    durable := none, deliverSubject := none, deliverGroup := none, description := none
    ackPolicy := 4294967295, ackWait := 0, deliverPolicy := 4294967295, optStartSeq := 0
    replayPolicy := 4294967295, filterSubject := none, maxDeliver := 0, maxAckPending := 0
    name := none, backOff := .unallocated 0, rateLimit := 0, flowControl := false, heartbeat := 0
    headersOnly := false, maxRequestBatch := 0, maxRequestExpires := 0, maxRequestMaxBytes := 0
    inactiveThreshold := 0, replicas := 0, memoryStorage := false
    filterSubjects := .unallocated 0, sampleFrequency := none }
  wholeMs := by simp [WholeMs, msToNs, nsToMs]
  fitsInt := by
    have hzero : FitsInt 0 := by constructor <;> decide
    simp [hzero]

/-- Memory for every array. -/
def consumerClient : ConsumerClient := ⟨consumerDefaults, fun _ => true⟩

def workerConfig : NatsConsumerConfig
  | .durableName => some "worker"
  | .ackWait => some 30000
  | _ => none

theorem workerConfig_inRange : workerConfig.All ConsumerKey.InRange := by
  intro k v hv
  cases k with
  | durableName =>
      rw [← Option.some.inj hv]
      have hnul : nul ∉ "worker".toList := by decide
      exact hnul
  | ackWait =>
      rw [← Option.some.inj hv]
      constructor <;> decide
  | _ => cases hv

theorem consumer_config_round_trip_iff_worker : RoundTrips consumerClient workerConfig := by
  refine (consumer_config_round_trip_iff (fun _ _ => rfl) workerConfig_inRange).2 ⟨?_, ?_⟩
  · decide
  · intro k v hv
    cases k with
    | maxDeliver | maxAckPending => cases hv
    | _ => trivial

/-- With back-off times the hash that is read has lost them, and a number of deliveries that fits in
    its field is read back as 1. -/
theorem back_off_and_max_deliver_lost :
    ¬ RoundTrips consumerClient (workerConfig.set .backOff [1000, 5000]) ∧
      ¬ RoundTrips consumerClient (workerConfig.set .maxDeliver 4294967297) := by
  constructor
  · rintro ⟨cfg, -, hinfo⟩
    obtain ⟨hkept, -⟩ := hinfo ⟨some cfg, 0, 0, 0, 0, 0⟩ rfl
    have hread : readConsumerConfig cfg .backOff = some [1000, 5000] :=
      hkept .backOff _ (Record.set_self _ _ _)
    cases hread
  · rintro ⟨cfg, hcfg, hinfo⟩
    obtain ⟨hkept, -⟩ := hinfo ⟨some cfg, 0, 0, 0, 0, 0⟩ rfl
    obtain rfl := eq_fillConsumerConfig hcfg
    have hread : some (1 : Int64) = some 4294967297 :=
      hkept .maxDeliver _ (Record.set_self _ _ _)
    exact absurd hread (by decide)

end ModuleNats.JetStream
