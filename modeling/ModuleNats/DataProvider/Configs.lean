import ModuleNats.JetStream.ConsumerConfig
import ModuleNats.JetStream.StreamConfig

set_option autoImplicit false

/-! # Configurations that go through a data provider

The data providers that create and update streams and consumers make the configuration from a
request that has half of its keys only: the other ones are `NOTHING` in the hash, also in that of an
update, which replaces the whole configuration. So to read a configuration, change a key of it and
update it through the data provider sets all other keys to their defaults, also those that the hash
does not tell.

Whoever configures a stream or a consumer through its data provider only does not notice: there the
other keys have their defaults anyway, and one update after the other changes its key and nothing
else. `provider_updates_keep_iff` says that this is the only case. -/

namespace ModuleNats.DataProvider

open JetStream
open Record (Fieldwise Restorable single assignAll assign_of_none assign_eq_assign)

/-! ## The requests -/

/-- The hash that `NatsJSStreamCreateDataProvider` and `NatsJSStreamUpdateDataProvider` make of a
    request; the fields of the request have the names and the types of the keys. -/
def streamConfig (req : NatsStreamConfig) : NatsStreamConfig
  | .name => req .name
  | .subjects => req .subjects
  | .retention => req .retention
  | .maxMsgs => req .maxMsgs
  | .maxBytes => req .maxBytes
  | .maxAge => req .maxAge
  | .maxMsgSize => req .maxMsgSize
  | .storage => req .storage
  | .numReplicas => req .numReplicas
  | .discard => req .discard
  | .description => req .description
  | _ => none

/-- The hash that `NatsJSConsumerCreateDataProvider` and `NatsJSConsumerUpdateDataProvider` make of
    a request, which has a field `stream` besides. -/
def consumerConfig (req : NatsConsumerConfig) : NatsConsumerConfig
  | .durableName => req .durableName
  | .deliverSubject => req .deliverSubject
  | .deliverGroup => req .deliverGroup
  | .ackPolicy => req .ackPolicy
  | .ackWait => req .ackWait
  | .deliverPolicy => req .deliverPolicy
  | .replayPolicy => req .replayPolicy
  | .filterSubject => req .filterSubject
  | .maxDeliver => req .maxDeliver
  | .maxAckPending => req .maxAckPending
  | .description => req .description
  | _ => none

/-- `NatsJSStreamUpdateDataProvider::doRequestImpl()` -/
def natsJSStreamUpdate (C : StreamClient) (req : NatsStreamConfig) :
    Except ExceptionInfo NatsStreamInfo :=
  updateStream C true none (streamConfig req)

/-- `NatsJSConsumerUpdateDataProvider::doRequestImpl()` -/
def natsJSConsumerUpdate (C : ConsumerClient) (update : UpdateConsumer) (stream : String)
    (req : NatsConsumerConfig) : Except ExceptionInfo NatsConsumerInfo :=
  updateConsumer C update true none stream (consumerConfig req)

/-! ## The keys of a request -/

/-- The fields of `NatsJSStreamConfigDataType`. -/
def streamRequestKeys : List StreamKey :=
  [.name, .subjects, .retention, .maxMsgs, .maxBytes, .maxAge, .maxMsgSize, .storage, .numReplicas,
    .discard, .description]

/-- The fields of `NatsJSConsumerConfigDataType`. -/
def consumerRequestKeys : List ConsumerKey :=
  [.durableName, .deliverSubject, .deliverGroup, .ackPolicy, .ackWait, .deliverPolicy,
    .replayPolicy, .filterSubject, .maxDeliver, .maxAckPending, .description]

theorem streamConfig_eq (req : NatsStreamConfig) :
    streamConfig req = Record.restrict (· ∈ streamRequestKeys) req := by
  funext k
  cases k <;> rfl

theorem consumerConfig_eq (req : NatsConsumerConfig) :
    consumerConfig req = Record.restrict (· ∈ consumerRequestKeys) req := by
  funext k
  cases k <;> rfl

/-! ## One update after the other -/

section Updates

variable {κ ι σ : Type} [DecidableEq κ] {τ φ : κ → Type}

/-- Each update is one of a key of the request, and its value meets the condition. -/
def Updates (keys : List κ) (Q : ∀ k, τ k → Prop) (updates : List (Σ k, τ k)) : Prop :=
  ∀ u ∈ updates, u.1 ∈ keys ∧ Q u.1 u.2

/-- What the requests have to do with the server: `given` is the configuration that a request gives
    to it, and `told` the one that its answer tells. -/
structure Exchange (τ : κ → Type) (ι σ : Type) where
  request : Record τ → Except ExceptionInfo ι
  given : Record τ → Except ExceptionInfo σ
  told : ι → Record τ

/-- Keys are changed one after the other: each request has the configuration that the last answer
    has told, with one key changed, and the server has the configuration it was given last. -/
def Exchange.updateAll (E : Exchange τ ι σ) :
    Record τ → σ → List (Σ k, τ k) → Except ExceptionInfo (Record τ × σ)
  | r, s, [] => .ok (r, s)
  | r, _, ⟨k, v⟩ :: updates => do
      let s ← E.given (r.set k v)
      let info ← E.request (r.set k v)
      E.updateAll (E.told info) s updates

variable {E : Exchange τ ι σ} {fill : σ → Record τ → σ} {read : σ → Record τ}
  {field : σ → ∀ k, φ k} {init : σ} {keys : List κ} {Q : ∀ k, τ k → Prop}

/-- The server gets what is filled from the keys of the request, and the answer tells it. -/
def Exchange.Fills (E : Exchange τ ι σ) (fill : σ → Record τ → σ) (read : σ → Record τ) (init : σ)
    (keys : List κ) (Q : ∀ k, τ k → Prop) : Prop :=
  ∀ s k (v : τ k), k ∈ keys → Q k v →
    E.given ((read s).set k v) = .ok (fill init (((read s).set k v).restrict (· ∈ keys))) ∧
    ∃ info, E.request ((read s).set k v) = .ok info ∧
      E.told info = read (fill init (((read s).set k v).restrict (· ∈ keys)))

theorem Exchange.Fills.updateAll_cons (h : E.Fills fill read init keys Q) {s : σ} {k : κ} {v : τ k}
    (hk : k ∈ keys) (hv : Q k v) (updates : List (Σ k, τ k)) :
    E.updateAll (read s) s (⟨k, v⟩ :: updates) =
      E.updateAll (read (fill init (((read s).set k v).restrict (· ∈ keys))))
        (fill init (((read s).set k v).restrict (· ∈ keys))) updates := by
  obtain ⟨hgiven, info, hinfo, htold⟩ := h s k v hk hv
  simp only [Exchange.updateAll, hgiven, hinfo, htold, bind, Except.bind]

/-- One update after the other changes its field of the server's configuration and nothing else, and
    tells so, if and only if this configuration can be restored from the keys of the request. -/
theorem Exchange.updateAll_iff (hf : Fieldwise fill read field)
    (hfills : E.Fills fill read init keys Q)
    (hback : ∀ s k (v : τ k), k ∈ keys → Q k v → read (fill s (single k v)) k = some v)
    {j k : κ} {w : τ j} {v : τ k} (hj : j ∈ keys ∧ Q j w) (hk : k ∈ keys ∧ Q k v) (hjk : j ≠ k)
    (s : σ) :
    (∀ updates, Updates keys Q updates →
      E.updateAll (read s) s updates = .ok ((read s).setAll updates, assignAll fill s updates)) ↔
        Restorable fill read field (· ∈ keys) init s := by
  constructor
  · intro hall
    have hone : ∀ i (x : τ i), i ∈ keys ∧ Q i x →
        fill init (((read s).set i x).restrict (· ∈ keys)) = fill s (single i x) := by
      intro i x hi
      have hi' := hall [⟨i, x⟩] fun u hu => by rwa [List.mem_singleton.1 hu]
      rw [hfills.updateAll_cons hi.1 hi.2] at hi'
      exact congrArg Prod.snd (Except.ok.inj hi')
    exact Record.restorable_of_fill_set hf hjk (hone j w hj) (hone k v hk)
  · intro hrestorable updates hupdates
    induction updates generalizing s with
    | nil => rfl
    | cons u updates ih =>
        obtain ⟨⟨hkey, hQ⟩, hrest⟩ := List.forall_mem_cons.1 hupdates
        have hread := hback s u.1 u.2 hkey hQ
        rw [hfills.updateAll_cons hkey hQ, hrestorable.fill_set hf hkey,
          ih _ (hrestorable.fill_single hf hkey hread) hrest, Record.read_fill_single hf hread]
        rfl

end Updates

/-! ## Streams -/

section Streams

variable {C : StreamClient}

/-- The type of the field of `jsStreamConfig` for a key. -/
@[reducible] def StreamField : StreamKey → Type
  | .name | .description => Option CString
  | .subjects => CArray CString
  | .retention | .storage | .discard => UInt32
  | .maxMsgSize => Int32
  | .maxMsgs | .maxBytes | .maxAge | .numReplicas | .maxMsgsPerSubject | .maxConsumers
  | .duplicateWindowMs => Int64
  | .sealed | .denyDelete | .denyPurge | .allowRollup | .noAck | .allowDirect | .mirrorDirect
  | .discardNewPerSubject => Bool

def streamField (cfg : JsStreamConfig) : (k : StreamKey) → StreamField k
  | .name => cfg.name
  | .subjects => cfg.subjects
  | .retention => cfg.retention
  | .maxMsgs => cfg.maxMsgs
  | .maxBytes => cfg.maxBytes
  | .maxAge => cfg.maxAge
  | .maxMsgSize => cfg.maxMsgSize
  | .storage => cfg.storage
  | .numReplicas => cfg.replicas
  | .discard => cfg.discard
  | .description => cfg.description
  | .maxMsgsPerSubject => cfg.maxMsgsPerSubject
  | .maxConsumers => cfg.maxConsumers
  | .duplicateWindowMs => cfg.duplicates
  | .sealed => cfg.sealed
  | .denyDelete => cfg.denyDelete
  | .denyPurge => cfg.denyPurge
  | .allowRollup => cfg.allowRollup
  | .noAck => cfg.noAck
  | .allowDirect => cfg.allowDirect
  | .mirrorDirect => cfg.mirrorDirect
  | .discardNewPerSubject => cfg.discardNewPerSubject

theorem fieldwise_stream : Fieldwise fillStreamConfig readStreamConfig streamField where
  of_none {s r k} h := by cases k <;> exact assign_of_none h _ _
  of_some {s s' r r' k v} h h' := by
    cases k <;> exact assign_eq_assign h h' _ _ _
  read {s s' k} h := by
    cases k <;> simp only [streamField] at h <;> simp only [readStreamConfig, h]
  ext {s s'} h := by
    apply JsStreamConfig.ext
    case name => exact h .name
    case description => exact h .description
    case subjects => exact h .subjects
    case retention => exact h .retention
    case maxMsgs => exact h .maxMsgs
    case maxBytes => exact h .maxBytes
    case maxAge => exact h .maxAge
    case maxMsgSize => exact h .maxMsgSize
    case storage => exact h .storage
    case replicas => exact h .numReplicas
    case discard => exact h .discard
    case maxMsgsPerSubject => exact h .maxMsgsPerSubject
    case maxConsumers => exact h .maxConsumers
    case duplicates => exact h .duplicateWindowMs
    case sealed => exact h .sealed
    case denyDelete => exact h .denyDelete
    case denyPurge => exact h .denyPurge
    case allowRollup => exact h .allowRollup
    case noAck => exact h .noAck
    case allowDirect => exact h .allowDirect
    case mirrorDirect => exact h .mirrorDirect
    case discardNewPerSubject => exact h .discardNewPerSubject

/-- Updates of a stream through its data provider. -/
def streamExchange (C : StreamClient) : Exchange StreamKey.Val NatsStreamInfo JsStreamConfig where
  request := natsJSStreamUpdate C
  given req := configureStreamConfig C (streamConfig req)
  told := NatsStreamInfo.config

/-- The configuration of a stream can be made by its data provider. -/
def StreamProvided (C : StreamClient) (cfg : JsStreamConfig) : Prop :=
  Restorable fillStreamConfig readStreamConfig streamField (· ∈ streamRequestKeys) C.init.cfg cfg

/-- The subjects that are read of a configuration, or set, have an array. -/
theorem subjects_set (cfg : JsStreamConfig) {k : StreamKey} {v : k.Val} (hv : k.Converts v)
    (l : List String) (hl : streamConfig ((readStreamConfig cfg).set k v) .subjects = some l) :
    l ≠ [] ∧ CArray.FitsLength l := by
  replace hl : (readStreamConfig cfg).set k v .subjects = some l := hl
  by_cases hk : .subjects = k
  · subst hk
    rw [Record.set_self] at hl
    obtain ⟨hne, hlen, -⟩ : StreamKey.InRange .subjects v := hv.1
    exact Option.some.inj hl ▸ ⟨hne, hlen⟩
  · rw [Record.set_of_ne _ v hk] at hl
    obtain ⟨texts, htexts, rfl⟩ := Option.map_eq_some_iff.1 hl
    have hlength : (texts.map CString.text).length = texts.length := List.length_map _
    refine ⟨fun hnil => CArray.ne_nil_of_read htexts (List.map_eq_nil_iff.1 hnil), ?_⟩
    rw [CArray.FitsLength, hlength]
    exact CArray.length_read_le htexts

theorem stream_fills (hmalloc : C.Allocates) (hecho : C.Echoes) :
    (streamExchange C).Fills fillStreamConfig readStreamConfig C.init.cfg streamRequestKeys
      StreamKey.Converts := by
  intro cfg k v hk hv
  have hgiven := configureStreamConfig_ok hmalloc (subjects_set cfg hv)
  rw [← streamConfig_eq]
  obtain ⟨state, hstate⟩ := hecho
    (fillStreamConfig C.init.cfg (streamConfig ((readStreamConfig cfg).set k v)))
  refine ⟨hgiven, streamInfoToHash ⟨some _, state⟩, ?_, rfl⟩
  simp only [streamExchange, natsJSStreamUpdate, updateStream, hgiven, bind, Except.bind, hstate,
    Bool.true_eq_false, if_false]

theorem read_stream_single (cfg : JsStreamConfig) {k : StreamKey} {v : k.Val} (hv : k.Converts v) :
    readStreamConfig (fillStreamConfig cfg (single k v)) k = some v := by
  rw [readsBack_stream cfg (Record.all_single hv) k, Record.single_self]
  rfl

/-- The defaults of these keys are told and converted without a loss. -/
theorem streamDefaults_restored (init : StreamInit) (k : StreamKey) (hk : k ∈ streamRequestKeys) :
    streamField (fillStreamConfig init.cfg (readStreamConfig init.cfg)) k =
      streamField init.cfg k := by
  cases k with
  | name | description => exact write_string _
  | subjects =>
      have hnone : readStreamConfig init.cfg .subjects = none := by
        rw [readStreamConfig, init.no_subjects]
        rfl
      exact assign_of_none hnone _ _
  | retention | storage | discard => exact write_enum _
  | maxMsgs | maxBytes => exact write_same _
  | maxAge => exact write_duration init.wholeMs
  | maxMsgSize => exact write_int32 _
  | numReplicas => exact write_int (init.converts .numReplicas _ rfl).2
  | _ => exact absurd hk (by decide)

end Streams

/-! ## Consumers -/

section Consumers

variable {C : ConsumerClient} {update : UpdateConsumer} {stream : String}

/-- The type of the field of `jsConsumerConfig` for a key; there is none for the start time. -/
@[reducible] def ConsumerField : ConsumerKey → Type
  | .durableName | .deliverSubject | .deliverGroup | .filterSubject | .description | .name
  | .sampleFrequency => Option CString
  | .ackPolicy | .deliverPolicy | .replayPolicy => UInt32
  | .ackWait | .maxDeliver | .maxAckPending | .heartbeatMs | .maxRequestBatch
  | .maxRequestExpiresMs | .maxRequestMaxBytes | .inactiveThresholdMs | .numReplicas => Int64
  | .optStartSeq | .rateLimitBps => UInt64
  | .flowControl | .headersOnly | .memoryStorage => Bool
  | .backOff => CArray Int64
  | .filterSubjects => CArray CString
  | .optStartTime => Unit

def consumerField (cfg : JsConsumerConfig) : (k : ConsumerKey) → ConsumerField k
  | .durableName => cfg.durable
  | .deliverSubject => cfg.deliverSubject
  | .deliverGroup => cfg.deliverGroup
  | .ackPolicy => cfg.ackPolicy
  | .ackWait => cfg.ackWait
  | .deliverPolicy => cfg.deliverPolicy
  | .optStartSeq => cfg.optStartSeq
  | .optStartTime => ()
  | .replayPolicy => cfg.replayPolicy
  | .filterSubject => cfg.filterSubject
  | .maxDeliver => cfg.maxDeliver
  | .maxAckPending => cfg.maxAckPending
  | .description => cfg.description
  | .name => cfg.name
  | .backOff => cfg.backOff
  | .rateLimitBps => cfg.rateLimit
  | .flowControl => cfg.flowControl
  | .heartbeatMs => cfg.heartbeat
  | .headersOnly => cfg.headersOnly
  | .maxRequestBatch => cfg.maxRequestBatch
  | .maxRequestExpiresMs => cfg.maxRequestExpires
  | .maxRequestMaxBytes => cfg.maxRequestMaxBytes
  | .inactiveThresholdMs => cfg.inactiveThreshold
  | .numReplicas => cfg.replicas
  | .memoryStorage => cfg.memoryStorage
  | .filterSubjects => cfg.filterSubjects
  | .sampleFrequency => cfg.sampleFrequency

theorem fieldwise_consumer : Fieldwise fillConsumerConfig readConsumerConfig consumerField where
  of_none {s r k} h := by
    cases k with
    | optStartTime => rfl
    | _ => exact assign_of_none h _ _
  of_some {s s' r r' k v} h h' := by
    cases k with
    | optStartTime => rfl
    | _ => exact assign_eq_assign h h' _ _ _
  read {s s' k} h := by
    cases k <;> simp only [consumerField] at h <;> simp only [readConsumerConfig, h]
  ext {s s'} h := by
    apply JsConsumerConfig.ext
    case durable => exact h .durableName
    case deliverSubject => exact h .deliverSubject
    case deliverGroup => exact h .deliverGroup
    case description => exact h .description
    case ackPolicy => exact h .ackPolicy
    case ackWait => exact h .ackWait
    case deliverPolicy => exact h .deliverPolicy
    case optStartSeq => exact h .optStartSeq
    case replayPolicy => exact h .replayPolicy
    case filterSubject => exact h .filterSubject
    case maxDeliver => exact h .maxDeliver
    case maxAckPending => exact h .maxAckPending
    case name => exact h .name
    case backOff => exact h .backOff
    case rateLimit => exact h .rateLimitBps
    case flowControl => exact h .flowControl
    case heartbeat => exact h .heartbeatMs
    case headersOnly => exact h .headersOnly
    case maxRequestBatch => exact h .maxRequestBatch
    case maxRequestExpires => exact h .maxRequestExpiresMs
    case maxRequestMaxBytes => exact h .maxRequestMaxBytes
    case inactiveThreshold => exact h .inactiveThresholdMs
    case replicas => exact h .numReplicas
    case memoryStorage => exact h .memoryStorage
    case filterSubjects => exact h .filterSubjects
    case sampleFrequency => exact h .sampleFrequency

/-- The server answers with the configuration that it was given. -/
def Echoes (update : UpdateConsumer) : Prop :=
  ∀ stream cfg, ∃ info, update stream cfg = .ok info ∧ info.config = some cfg

/-- Updates of a consumer through its data provider. -/
def consumerExchange (C : ConsumerClient) (update : UpdateConsumer) (stream : String) :
    Exchange ConsumerKey.Val NatsConsumerInfo JsConsumerConfig where
  request := natsJSConsumerUpdate C update stream
  given req := configureConsumerConfig C (consumerConfig req)
  told := NatsConsumerInfo.config

/-- The configuration of a consumer can be made by its data provider. -/
def ConsumerProvided (C : ConsumerClient) (cfg : JsConsumerConfig) : Prop :=
  Restorable fillConsumerConfig readConsumerConfig consumerField (· ∈ consumerRequestKeys)
    C.init.cfg cfg

theorem consumer_fills (hmalloc : C.Allocates) (hecho : Echoes update) :
    (consumerExchange C update stream).Fills fillConsumerConfig readConsumerConfig C.init.cfg
      consumerRequestKeys ConsumerKey.Converts := by
  intro cfg k v hk hv
  have hgiven := configureConsumerConfig_ok hmalloc
    (consumerConfig ((readConsumerConfig cfg).set k v))
  rw [← consumerConfig_eq]
  obtain ⟨info, hinfo, hconfig⟩ := hecho stream
    (fillConsumerConfig C.init.cfg (consumerConfig ((readConsumerConfig cfg).set k v)))
  refine ⟨hgiven, consumerInfoToHash info, ?_, ?_⟩
  · simp only [consumerExchange, natsJSConsumerUpdate, updateConsumer, hgiven, bind, Except.bind,
      hinfo, Bool.true_eq_false, if_false]
  · simp only [consumerExchange, consumerInfoToHash, hconfig]

theorem read_consumer_single (cfg : JsConsumerConfig) {k : ConsumerKey} {v : k.Val}
    (hk : k ∈ consumerRequestKeys) (hv : k.Converts v) :
    readConsumerConfig (fillConsumerConfig cfg (single k v)) k = some v := by
  have hdropped : ∀ j ∈ droppedKeys, single k v j = none := by
    intro j hj
    refine Record.single_of_ne v ?_
    rintro rfl
    revert hk
    simp only [droppedKeys, List.mem_cons, List.not_mem_nil, or_false] at hj
    rcases hj with rfl | rfl | rfl | rfl <;> decide
  rw [readsBack_consumer cfg (Record.all_single hv) hdropped k, Record.single_self]
  rfl

/-- The defaults of these keys are told and converted without a loss. -/
theorem consumerDefaults_restored (init : ConsumerInit) (k : ConsumerKey)
    (hk : k ∈ consumerRequestKeys) :
    consumerField (fillConsumerConfig init.cfg (readConsumerConfig init.cfg)) k =
      consumerField init.cfg k := by
  cases k with
  | durableName | deliverSubject | deliverGroup | filterSubject | description =>
      exact write_string _
  | ackPolicy | deliverPolicy | replayPolicy => exact write_enum _
  | ackWait => exact write_duration (init.wholeMs _ (by simp))
  | maxDeliver | maxAckPending => exact write_int (init.fitsInt _ (by simp))
  | _ => exact absurd hk (by decide)

end Consumers

/-! ## Both -/

/-- Let the server accept every configuration and answer with it. Updates of a stream or a consumer
    through its data provider, each of a key of the request to a value that fits, change the fields
    of these keys in the configuration that the server has, and no other field, if and only if the
    other fields have their defaults and the ones of these keys are told without a loss. That is so
    when the data provider has configured the stream or the consumer. -/
theorem provider_updates_keep_iff :
    (∀ C : StreamClient, C.Allocates → C.Echoes →
      (∀ cfg, (∀ updates, Updates streamRequestKeys StreamKey.Converts updates →
        (streamExchange C).updateAll (readStreamConfig cfg) cfg updates =
          .ok ((readStreamConfig cfg).setAll updates, assignAll fillStreamConfig cfg updates)) ↔
        StreamProvided C cfg) ∧
      ∀ req : NatsStreamConfig, req.All StreamKey.Converts →
        StreamProvided C (fillStreamConfig C.init.cfg (streamConfig req))) ∧
    ∀ (C : ConsumerClient) (update : UpdateConsumer) (stream : String), C.Allocates →
      Echoes update →
      (∀ cfg, (∀ updates, Updates consumerRequestKeys ConsumerKey.Converts updates →
        (consumerExchange C update stream).updateAll (readConsumerConfig cfg) cfg updates =
          .ok ((readConsumerConfig cfg).setAll updates,
            assignAll fillConsumerConfig cfg updates)) ↔ ConsumerProvided C cfg) ∧
      ∀ req : NatsConsumerConfig, req.All ConsumerKey.Converts →
        ConsumerProvided C (fillConsumerConfig C.init.cfg (consumerConfig req)) := by
  constructor
  · intro C hmalloc hecho
    refine ⟨fun cfg => ?_, fun req hreq => ?_⟩
    · exact Exchange.updateAll_iff fieldwise_stream (stream_fills hmalloc hecho)
        (fun s k v _ hv => read_stream_single s hv) (j := .maxMsgs) (k := .maxBytes) (w := 0)
        (v := 0) ⟨by decide, trivial, trivial⟩ ⟨by decide, trivial, trivial⟩ (by decide) cfg
    · rw [streamConfig_eq]
      exact Record.restorable_fill fieldwise_stream (streamDefaults_restored C.init)
        fun k v _ hv => read_stream_single _ (hreq k v hv)
  · intro C update stream hmalloc hecho
    have hzero : FitsEnum 0 := by constructor <;> decide
    refine ⟨fun cfg => ?_, fun req hreq => ?_⟩
    · exact Exchange.updateAll_iff fieldwise_consumer (consumer_fills hmalloc hecho)
        (fun s k v hk hv => read_consumer_single s hk hv) (j := .ackPolicy) (k := .replayPolicy)
        (w := 0) (v := 0) ⟨by decide, hzero, trivial⟩ ⟨by decide, hzero, trivial⟩ (by decide) cfg
    · rw [consumerConfig_eq]
      exact Record.restorable_fill fieldwise_consumer (consumerDefaults_restored C.init)
        fun k v hk hv => read_consumer_single _ hk (hreq k v hv)

/-- A server that echoes. -/
def echoingConsumers : UpdateConsumer := fun _ cfg => .ok ⟨some cfg, 0, 0, 0, 0, 0⟩

/-- A consumer with back-off times, which its hash does not tell, was not configured through its
    data provider: some updates of it do not only change their keys. -/
theorem provider_updates_keep_iff_backOff :
    ¬ ∀ updates, Updates consumerRequestKeys ConsumerKey.Converts updates →
      (consumerExchange consumerClient echoingConsumers "ORDERS").updateAll
          (readConsumerConfig (fillConsumerConfig consumerDefaults.cfg
            (workerConfig.set .backOff [1000, 5000])))
          (fillConsumerConfig consumerDefaults.cfg (workerConfig.set .backOff [1000, 5000]))
          updates =
        .ok ((readConsumerConfig (fillConsumerConfig consumerDefaults.cfg
            (workerConfig.set .backOff [1000, 5000]))).setAll updates,
          assignAll fillConsumerConfig (fillConsumerConfig consumerDefaults.cfg
            (workerConfig.set .backOff [1000, 5000])) updates) := by
  intro hall
  have hprovided := ((provider_updates_keep_iff.2 consumerClient echoingConsumers "ORDERS"
    (fun _ _ => rfl) (fun _ _ => ⟨_, rfl, rfl⟩)).1 _).1 hall
  exact absurd (hprovided.others .backOff (by decide)) (by decide)

end ModuleNats.DataProvider
