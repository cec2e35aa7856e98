import ModuleNats.JetStream.Values
import ModuleNats.Lib.Record
import ModuleNats.NatsHelper

set_option autoImplicit false

/-! # Stream configurations

`configureStreamConfig()` fills the configuration of the C client from a `NatsStreamConfig` hash,
and `streamInfoToHash()` makes the hash again from what the server answers. The two cover the same
keys, but the number of replicas goes through a cast to `int` on its way to a field of 64 bits. A
hash comes back with the same values, and an update of what was read changes one key, if and only if
this cast does not cut the number off (`stream_config_round_trip_iff`). -/

namespace ModuleNats.JetStream

open Record (assign)

/-! ## The hash -/

/-- The keys of `NatsStreamConfig`. -/
inductive StreamKey where
  | name
  | subjects
  | retention
  | maxMsgs
  | maxBytes
  | maxAge
  | maxMsgSize
  | storage
  | numReplicas
  | discard
  | description
  | maxMsgsPerSubject
  | maxConsumers
  | duplicateWindowMs
  | sealed
  | denyDelete
  | denyPurge
  | allowRollup
  | noAck
  | allowDirect
  | mirrorDirect
  | discardNewPerSubject
deriving DecidableEq, Repr

@[reducible] def StreamKey.Val : StreamKey → Type
  | .name | .description => String
  | .subjects => List String
  | .retention | .maxMsgs | .maxBytes | .maxAge | .maxMsgSize | .storage | .numReplicas | .discard
  | .maxMsgsPerSubject | .maxConsumers | .duplicateWindowMs => Int64
  | .sealed | .denyDelete | .denyPurge | .allowRollup | .noAck | .allowDirect | .mirrorDirect
  | .discardNewPerSubject => Bool

/-- The hash: its fields are typed, so a value that is set has the type that the code asks for. -/
abbrev NatsStreamConfig := Record StreamKey.Val

/-- `NatsStreamInfo`. -/
structure NatsStreamInfo where
  config : NatsStreamConfig
  messages : Int64
  bytes : Int64
  firstSeq : Int64
  lastSeq : Int64
  consumerCount : Int64

/-! ## The structures of the C client -/

/-- `jsStreamConfig`, as far as the wrapper uses it. -/
@[ext] structure JsStreamConfig where
  name : Option CString
  description : Option CString
  /-- `SubjectsLen` and `Subjects` -/
  subjects : CArray CString
  retention : UInt32
  maxMsgs : Int64
  maxBytes : Int64
  maxAge : Int64
  maxMsgSize : Int32
  storage : UInt32
  replicas : Int64
  discard : UInt32
  maxMsgsPerSubject : Int64
  maxConsumers : Int64
  duplicates : Int64
  sealed : Bool
  denyDelete : Bool
  denyPurge : Bool
  allowRollup : Bool
  noAck : Bool
  allowDirect : Bool
  mirrorDirect : Bool
  discardNewPerSubject : Bool
deriving DecidableEq

/-- `jsStreamState`. -/
structure JsStreamState where
  msgs : UInt64
  bytes : UInt64
  firstSeq : UInt64
  lastSeq : UInt64
  consumers : Int64
deriving DecidableEq, Repr

/-- `jsStreamInfo`; the configuration can be `NULL`. -/
structure JsStreamInfo where
  config : Option JsStreamConfig
  state : JsStreamState
deriving DecidableEq

/-! ## The converters -/

/-- The assignments of `configureStreamConfig()`, after `jsStreamConfig_Init()`. -/
def fillStreamConfig (init : JsStreamConfig) (config : NatsStreamConfig) : JsStreamConfig where
  name := assign (config .name) (fun s => some (CString.add s)) init.name
  description := assign (config .description) (fun s => some (CString.add s)) init.description
  subjects := assign (config .subjects) (fun l => CArray.ofList (l.map CString.add)) init.subjects
  retention := assign (config .retention) toEnum init.retention
  maxMsgs := assign (config .maxMsgs) id init.maxMsgs
  maxBytes := assign (config .maxBytes) id init.maxBytes
  maxAge := assign (config .maxAge) msToNs init.maxAge
  maxMsgSize := assign (config .maxMsgSize) Int64.toInt32 init.maxMsgSize
  storage := assign (config .storage) toEnum init.storage
  -- `(int)`, into a field of 64 bits
  replicas := assign (config .numReplicas) (fun v => v.toInt32.toInt64) init.replicas
  discard := assign (config .discard) toEnum init.discard
  maxMsgsPerSubject := assign (config .maxMsgsPerSubject) id init.maxMsgsPerSubject
  maxConsumers := assign (config .maxConsumers) id init.maxConsumers
  duplicates := assign (config .duplicateWindowMs) msToNs init.duplicates
  sealed := assign (config .sealed) id init.sealed
  denyDelete := assign (config .denyDelete) id init.denyDelete
  denyPurge := assign (config .denyPurge) id init.denyPurge
  allowRollup := assign (config .allowRollup) id init.allowRollup
  noAck := assign (config .noAck) id init.noAck
  allowDirect := assign (config .allowDirect) id init.allowDirect
  mirrorDirect := assign (config .mirrorDirect) id init.mirrorDirect
  discardNewPerSubject := assign (config .discardNewPerSubject) id init.discardNewPerSubject

/-- The configuration part of `streamInfoToHash()`. -/
def readStreamConfig (cfg : JsStreamConfig) : NatsStreamConfig
  | .name => cfg.name.map CString.text
  | .description => cfg.description.map CString.text
  | .retention => some (ofEnum cfg.retention)
  | .maxMsgs => some cfg.maxMsgs
  | .maxBytes => some cfg.maxBytes
  | .maxAge => some (nsToMs cfg.maxAge)
  | .maxMsgSize => some cfg.maxMsgSize.toInt64
  | .storage => some (ofEnum cfg.storage)
  | .numReplicas => some cfg.replicas
  | .discard => some (ofEnum cfg.discard)
  | .maxMsgsPerSubject => some cfg.maxMsgsPerSubject
  | .maxConsumers => some cfg.maxConsumers
  | .duplicateWindowMs => some (nsToMs cfg.duplicates)
  | .sealed => some cfg.sealed
  | .denyDelete => some cfg.denyDelete
  | .denyPurge => some cfg.denyPurge
  | .allowRollup => some cfg.allowRollup
  | .noAck => some cfg.noAck
  | .allowDirect => some cfg.allowDirect
  | .mirrorDirect => some cfg.mirrorDirect
  | .discardNewPerSubject => some cfg.discardNewPerSubject
  | .subjects => cfg.subjects.read.map fun l => l.map CString.text

def streamInfoToHash (info : JsStreamInfo) : NatsStreamInfo where
  config := match info.config with
    | some cfg => readStreamConfig cfg
    | none => fun _ => none
  messages := info.state.msgs.toInt64
  bytes := info.state.bytes.toInt64
  firstSeq := info.state.firstSeq.toInt64
  lastSeq := info.state.lastSeq.toInt64
  consumerCount := info.state.consumers

/-- The ranges of the fields of `jsStreamConfig`; a list of subjects is not empty. -/
def StreamKey.InRange : (k : StreamKey) → k.Val → Prop
  | .name, v => nul ∉ v.toList
  | .description, v => nul ∉ v.toList
  | .subjects, v => v ≠ [] ∧ CArray.FitsLength v ∧ ∀ s ∈ v, nul ∉ s.toList
  | .retention, v => FitsEnum v
  | .storage, v => FitsEnum v
  | .discard, v => FitsEnum v
  | .maxAge, v => FitsNs v
  | .duplicateWindowMs, v => FitsNs v
  | .maxMsgSize, v => FitsInt v
  | _, _ => True

/-- No cast to a smaller type than that of the field cuts the value off. -/
def StreamKey.Uncut : (k : StreamKey) → k.Val → Prop
  | .numReplicas, v => FitsInt v
  | _, _ => True

/-- The value fits in its field, and in what it goes through on its way there. -/
def StreamKey.Converts (k : StreamKey) (v : k.Val) : Prop := k.InRange v ∧ k.Uncut v

/-- What the wrapper relies on of `jsStreamConfig_Init()`: it clears the structure and sets defaults
    that fit, and that are whole milliseconds. -/
structure StreamInit where
  cfg : JsStreamConfig
  no_name : cfg.name = none
  no_description : cfg.description = none
  no_subjects : cfg.subjects.read = none
  converts : (readStreamConfig cfg).All StreamKey.Converts
  wholeMs : WholeMs cfg.maxAge

/-- The parts of the C client and of the system that the calls use. -/
structure StreamClient where
  init : StreamInit
  /-- an array of that many entries can be allocated -/
  malloc : Int32 → Bool
  /-- `js_UpdateStream()`: the answer of the server, or the text of the status and the JetStream
      error code -/
  update : JsStreamConfig → Except (String × ℕ) JsStreamInfo

def configureStreamConfig (C : StreamClient) (config : NatsStreamConfig) :
    Except ExceptionInfo JsStreamConfig :=
  let subjectsLen := (config .subjects).map fun l => Int32.ofNat l.length
  if subjectsLen.all C.malloc then .ok (fillStreamConfig C.init.cfg config)
  else .error ⟨"NATS-JETSTREAM-ERROR", "memory allocation failed for " ++
    toString (subjectsLen.getD 0).toInt ++ " subjects"⟩

/-- `updateStream()` of a context that may be invalid, in a thread that may be cancelled. -/
def updateStream (C : StreamClient) (valid : Bool) (cancelled : Option ExceptionInfo)
    (config : NatsStreamConfig) : Except ExceptionInfo NatsStreamInfo :=
  if valid = false then .error ⟨"NATS-JETSTREAM-ERROR", "JetStream context is not valid"⟩
  else match cancelled with
    | some ex => .error ex
    | none => do
        let cfg ← configureStreamConfig C config
        match C.update cfg with
        | .error (statusText, jerr) =>
            .error (natsJsError "NATS-JETSTREAM-ERROR" "failed to update stream" statusText jerr)
        | .ok info => .ok (streamInfoToHash info)

/-! ## The round trip -/

/-- Every key is read back, if its value fits: the two converters cover each other. -/
theorem readsBack_stream (init : JsStreamConfig) {config : NatsStreamConfig}
    (h : config.All StreamKey.Converts) :
    Record.ReadsBack (fillStreamConfig init) readStreamConfig init config := by
  intro k
  have hk : ∀ v, config k = some v → k.InRange v := fun v hv => (h k v hv).1
  have huncut : ∀ v, config k = some v → k.Uncut v := fun v hv => (h k v hv).2
  cases k with
  | name | description => exact read_string hk
  | subjects => exact read_strings hk
  | retention | storage | discard => exact read_enum hk
  | maxAge | duplicateWindowMs => exact read_duration hk
  | maxMsgSize => exact read_int32 hk
  | numReplicas => exact read_int huncut
  | _ => exact read_same

/-- A value that is read back was not cut off. -/
theorem StreamKey.uncut_of_read {init : JsStreamConfig} {config : NatsStreamConfig} {k : StreamKey}
    {v : k.Val} (hv : config k = some v)
    (h : readStreamConfig (fillStreamConfig init config) k = some v) : k.Uncut v := by
  cases k with
  | numReplicas => exact fitsInt_of_read_int hv h
  | _ => trivial

/-- The keys that need not be read have no value after `jsStreamConfig_Init()`. -/
theorem readStreamConfig_init (init : StreamInit) {cfg : JsStreamConfig} {k : StreamKey}
    (h : readStreamConfig cfg k = none) : readStreamConfig init.cfg k = none := by
  cases k with
  | name => rw [readStreamConfig, init.no_name]; rfl
  | description => rw [readStreamConfig, init.no_description]; rfl
  | subjects => rw [readStreamConfig, init.no_subjects]; rfl
  | _ => cases h

/-- Arrays of at least one entry can be allocated. -/
def StreamClient.Allocates (C : StreamClient) : Prop := ∀ n, 0 < n.toInt → C.malloc n = true

/-- The server answers with the configuration that it was given. -/
def StreamClient.Echoes (C : StreamClient) : Prop :=
  ∀ cfg, ∃ state, C.update cfg = .ok ⟨some cfg, state⟩

theorem eq_fillStreamConfig {C : StreamClient} {config : NatsStreamConfig} {cfg : JsStreamConfig}
    (h : configureStreamConfig C config = .ok cfg) : cfg = fillStreamConfig C.init.cfg config := by
  simp only [configureStreamConfig] at h
  split at h
  · exact (Except.ok.inj h).symm
  · cases h

/-- The answer to an update tells the configuration that was filled in. -/
theorem config_of_updateStream {C : StreamClient} (hecho : C.Echoes) {config : NatsStreamConfig}
    {info : NatsStreamInfo} (h : updateStream C true none config = .ok info) :
    info.config = readStreamConfig (fillStreamConfig C.init.cfg config) := by
  simp only [updateStream, Bool.true_eq_false, if_false, bind, Except.bind] at h
  split at h
  · cases h
  · next cfg hcfg =>
      obtain ⟨state, hstate⟩ := hecho cfg
      rw [hstate] at h
      rw [← Except.ok.inj h, eq_fillStreamConfig hcfg]
      rfl

theorem configureStreamConfig_ok {C : StreamClient} (hmalloc : C.Allocates)
    {config : NatsStreamConfig}
    (h : ∀ l, config .subjects = some l → l ≠ [] ∧ CArray.FitsLength l) :
    configureStreamConfig C config = .ok (fillStreamConfig C.init.cfg config) := by
  rw [configureStreamConfig, if_pos]
  cases hsubjects : config .subjects with
  | none => rfl
  | some l =>
      obtain ⟨hne, hlen⟩ := h l hsubjects
      refine hmalloc _ ?_
      rw [CArray.toInt_length hlen]
      exact Int.natCast_pos.2 (List.length_pos_iff.2 hne)

theorem subjects_of_inRange {config : NatsStreamConfig} (h : config.All StreamKey.InRange)
    (l : List String) (hl : config .subjects = some l) : l ≠ [] ∧ CArray.FitsLength l := by
  obtain ⟨hne, hlen, -⟩ : StreamKey.InRange .subjects l := h .subjects l hl
  exact ⟨hne, hlen⟩

/-- To read a configuration, change one key and update the stream changes that key and no other. -/
theorem updateStream_set {C : StreamClient} (hmalloc : C.Allocates) (hecho : C.Echoes)
    {cfg : JsStreamConfig} (h : (readStreamConfig cfg).All StreamKey.Converts) {k : StreamKey}
    {v : k.Val} (hv : k.Converts v) :
    ∃ info, updateStream C true none ((readStreamConfig cfg).set k v) = .ok info ∧
      info.config = (readStreamConfig cfg).set k v := by
  have hset : ((readStreamConfig cfg).set k v).All StreamKey.Converts := h.set hv
  have hrange : ((readStreamConfig cfg).set k v).All StreamKey.InRange :=
    fun j w hw => (hset j w hw).1
  obtain ⟨state, hstate⟩ := hecho (fillStreamConfig C.init.cfg ((readStreamConfig cfg).set k v))
  refine ⟨streamInfoToHash ⟨some (fillStreamConfig C.init.cfg ((readStreamConfig cfg).set k v)),
    state⟩, ?_, ?_⟩
  · simp only [updateStream, configureStreamConfig_ok hmalloc (subjects_of_inRange hrange), bind,
      Except.bind, hstate, Bool.true_eq_false, if_false]
  · exact (readsBack_stream C.init.cfg hset).update fun _ => readStreamConfig_init C.init

/-- The hash comes back with every key and the same value, and the update of the key `k` of what was
    read to `v` changes this key and no other. -/
def StreamRoundTrips (C : StreamClient) (config : NatsStreamConfig) (k : StreamKey) (v : k.Val) :
    Prop :=
  ∃ cfg, configureStreamConfig C config = .ok cfg ∧ ∀ state,
    let read := (streamInfoToHash ⟨some cfg, state⟩).config
    Record.Kept config read ∧ ∃ info, updateStream C true none (read.set k v) = .ok info ∧
      info.config = read.set k v

/-- With values in the ranges of their C fields, stream configurations round trip if and only if the
    cast to `int` cuts off no number of replicas, neither one of the hash nor one that it is
    changed to. -/
theorem stream_config_round_trip_iff {C : StreamClient} (hmalloc : C.Allocates) (hecho : C.Echoes)
    {config : NatsStreamConfig} (h : config.All StreamKey.InRange) {k : StreamKey} {v : k.Val}
    (hv : k.InRange v) :
    StreamRoundTrips C config k v ↔ config.All StreamKey.Uncut ∧ k.Uncut v := by
  constructor
  · rintro ⟨cfg, hcfg, hread⟩
    obtain ⟨hkept, info, hinfo, hset⟩ := hread ⟨0, 0, 0, 0, 0⟩
    obtain rfl := eq_fillStreamConfig hcfg
    refine ⟨fun j w hw => StreamKey.uncut_of_read hw (hkept j w hw), ?_⟩
    have hchanged := congrFun ((config_of_updateStream hecho hinfo).symm.trans hset) k
    rw [Record.set_self] at hchanged
    exact StreamKey.uncut_of_read (Record.set_self _ k v) hchanged
  · rintro ⟨huncut, hvuncut⟩
    have hconverts : config.All StreamKey.Converts := fun j w hw => ⟨h j w hw, huncut j w hw⟩
    have hread := readsBack_stream C.init.cfg hconverts
    refine ⟨_, configureStreamConfig_ok hmalloc (subjects_of_inRange h), fun state =>
      ⟨hread.kept, ?_⟩⟩
    exact updateStream_set hmalloc hecho (hread.all hconverts C.init.converts) ⟨hv, hvuncut⟩

/-- The defaults of `jsStreamConfig_Init()`. -/
def streamDefaults : StreamInit where
  cfg := {
    name := none, description := none, subjects := .unallocated 0, retention := 0, maxMsgs := -1
    maxBytes := -1, maxAge := 0, maxMsgSize := -1, storage := 0, replicas := 1, discard := 0
    maxMsgsPerSubject := 0, maxConsumers := -1, duplicates := 0, sealed := false
    denyDelete := false, denyPurge := false, allowRollup := false, noAck := false
    allowDirect := false, mirrorDirect := false, discardNewPerSubject := false }
  no_name := rfl
  no_description := rfl
  no_subjects := rfl
  converts := by
    intro k v hv
    cases k with
    | name | description | subjects => cases hv
    | retention | storage | discard | maxAge | duplicateWindowMs | maxMsgSize =>
        rw [← Option.some.inj hv]
        exact ⟨by constructor <;> decide, trivial⟩
    | numReplicas =>
        rw [← Option.some.inj hv]
        exact ⟨trivial, by constructor <;> decide⟩
    | _ => exact ⟨trivial, trivial⟩
  wholeMs := by simp [WholeMs, msToNs, nsToMs]

/-- A server that echoes, and memory for every array. -/
def echoingServer : StreamClient where
  init := streamDefaults
  malloc _ := true
  update cfg := .ok ⟨some cfg, ⟨0, 0, 0, 0, 0⟩⟩

def ordersConfig : NatsStreamConfig
  | .name => some "ORDERS"
  | .subjects => some ["orders.>", "audit"]
  | .retention => some 2
  | .maxAge => some 86400000
  | .numReplicas => some 3
  | .noAck => some true
  | _ => none

theorem ordersConfig_inRange : ordersConfig.All StreamKey.InRange := by
  intro k v hv
  cases k with
  | name =>
      rw [← Option.some.inj hv]
      have hnul : nul ∉ "ORDERS".toList := by decide
      exact hnul
  | subjects =>
      rw [← Option.some.inj hv]
      refine ⟨by decide, ?_, by decide⟩
      exact (by decide : (2 : ℤ) ≤ Int32.maxValue.toInt)
  | retention | maxAge => rw [← Option.some.inj hv]; constructor <;> decide
  | numReplicas | noAck => trivial
  | _ => cases hv

theorem ordersConfig_uncut : ordersConfig.All StreamKey.Uncut := by
  intro k v hv
  cases k with
  | numReplicas => rw [← Option.some.inj hv]; constructor <;> decide
  | _ => trivial

theorem stream_config_round_trip_iff_orders :
    StreamRoundTrips echoingServer ordersConfig .maxMsgs 1000 ∧
      ¬ StreamRoundTrips echoingServer ordersConfig .numReplicas 4294967297 := by
  constructor
  · exact (stream_config_round_trip_iff (fun _ _ => rfl) (fun _ => ⟨_, rfl⟩) ordersConfig_inRange
      (k := .maxMsgs) trivial).2 ⟨ordersConfig_uncut, trivial⟩
  · intro hround
    exact absurd ((stream_config_round_trip_iff (fun _ _ => rfl) (fun _ => ⟨_, rfl⟩)
      ordersConfig_inRange (k := .numReplicas) trivial).1 hround).2.2 (by decide)

/-- A number of replicas that fits in its field is read back as 1. -/
theorem replicas_cut_off :
    (ordersConfig.set .numReplicas 4294967297).All StreamKey.InRange ∧
      ∀ k v, ¬ StreamRoundTrips echoingServer (ordersConfig.set .numReplicas 4294967297) k v := by
  refine ⟨ordersConfig_inRange.set (k := .numReplicas) trivial, ?_⟩
  rintro k v ⟨cfg, hcfg, hread⟩
  obtain rfl := eq_fillStreamConfig hcfg
  have hreplicas : some (1 : Int64) = some 4294967297 :=
    (hread ⟨0, 0, 0, 0, 0⟩).1 .numReplicas _ (Record.set_self _ _ _)
  exact absurd hreplicas (by decide)

end ModuleNats.JetStream
