import ModuleNats.Connection.FileAccess
import ModuleNats.JetStream.ConsumerConfig
import ModuleNats.JetStream.KeyValueConfig
import ModuleNats.JetStream.StreamConfig

set_option autoImplicit false

/-! # Integer options

The C client takes a duration in nanoseconds, and many of the other integers in smaller types than
the hashes have. The conversions check nothing: what the C client is given is the value of the
option if and only if the value fits (`integers_intact_iff`). -/

namespace ModuleNats

namespace JetStream

/-! ## Streams -/

/-- The C client is given the value of the option. -/
def StreamKey.Intact (cfg : JsStreamConfig) : (k : StreamKey) → k.Val → Prop
  | .maxAge, ms => cfg.maxAge.toInt = ms.toInt * 1000000
  | .duplicateWindowMs, ms => cfg.duplicates.toInt = ms.toInt * 1000000
  | .maxMsgSize, n => cfg.maxMsgSize.toInt = n.toInt
  | .numReplicas, n => cfg.replicas.toInt = n.toInt
  | _, _ => True

/-- The value fits in what the C client takes. -/
def StreamKey.Fits : (k : StreamKey) → k.Val → Prop
  | .maxAge, ms => FitsNs ms
  | .duplicateWindowMs, ms => FitsNs ms
  | .maxMsgSize, n => FitsInt n
  | .numReplicas, n => FitsInt n
  | _, _ => True

theorem StreamKey.intact_iff (init : JsStreamConfig) {config : NatsStreamConfig} {k : StreamKey}
    {v : k.Val} (hv : config k = some v) :
    k.Intact (fillStreamConfig init config) v ↔ k.Fits v := by
  cases k with
  | maxAge | duplicateWindowMs => exact assign_duration_iff hv
  | maxMsgSize => exact assign_int32_iff hv
  | numReplicas => exact assign_int_iff hv
  | _ => exact Iff.rfl

theorem stream_intact_iff (config : NatsStreamConfig) :
    (∀ C cfg, configureStreamConfig C config = .ok cfg → config.All (StreamKey.Intact cfg)) ↔
      config.All StreamKey.Fits := by
  constructor
  · intro h
    have hok : configureStreamConfig echoingServer config =
        .ok (fillStreamConfig streamDefaults.cfg config) := by
      rw [configureStreamConfig, if_pos]
      · rfl
      · cases config .subjects <;> rfl
    exact (Record.all_congr fun k v => StreamKey.intact_iff _).1 (h _ _ hok)
  · intro h C cfg hok
    rw [eq_fillStreamConfig hok]
    exact (Record.all_congr fun k v => StreamKey.intact_iff _).2 h

/-! ## Consumers -/

/-- The C client is given the value of the option. -/
def ConsumerKey.Intact (cfg : JsConsumerConfig) : (k : ConsumerKey) → k.Val → Prop
  | .ackWait, ms => cfg.ackWait.toInt = ms.toInt * 1000000
  | .heartbeatMs, ms => cfg.heartbeat.toInt = ms.toInt * 1000000
  | .maxRequestExpiresMs, ms => cfg.maxRequestExpires.toInt = ms.toInt * 1000000
  | .inactiveThresholdMs, ms => cfg.inactiveThreshold.toInt = ms.toInt * 1000000
  | .backOff, l =>
      (cfg.backOff.read.getD []).map Int64.toInt = l.map fun ms => ms.toInt * 1000000
  | .maxDeliver, n => cfg.maxDeliver.toInt = n.toInt
  | .maxAckPending, n => cfg.maxAckPending.toInt = n.toInt
  | .numReplicas, n => cfg.replicas.toInt = n.toInt
  | .optStartSeq, n => (cfg.optStartSeq.toNat : ℤ) = n.toInt
  | .rateLimitBps, n => (cfg.rateLimit.toNat : ℤ) = n.toInt
  | _, _ => True

/-- The value fits in what the C client takes. -/
def ConsumerKey.Fits : (k : ConsumerKey) → k.Val → Prop
  | .ackWait, ms => FitsNs ms
  | .heartbeatMs, ms => FitsNs ms
  | .maxRequestExpiresMs, ms => FitsNs ms
  | .inactiveThresholdMs, ms => FitsNs ms
  | .backOff, l => CArray.FitsLength l ∧ ∀ ms ∈ l, FitsNs ms
  | .maxDeliver, n => FitsInt n
  | .maxAckPending, n => FitsInt n
  | .optStartSeq, n => 0 ≤ n.toInt
  | .rateLimitBps, n => 0 ≤ n.toInt
  | _, _ => True

theorem read_optionalArray {α : Type} {l : List α} (h : CArray.FitsLength l) :
    (optionalArray l).read.getD [] = l := by
  have hint : (Int32.ofNat l.length).toInt = l.length := CArray.toInt_length h
  cases l with
  | nil => rfl
  | cons a rest =>
      have hpos : 0 < (Int32.ofNat (a :: rest).length).toInt := by
        rw [hint]
        exact Int.natCast_pos.2 (Nat.succ_pos _)
      rw [optionalArray, if_pos hpos, CArray.read_ofList (List.cons_ne_nil a rest) h,
        Option.getD_some]

/-- The back-off times are kept if and only if there are not too many of them, and each fits. -/
theorem assign_durations_iff {v : Option (List Int64)} {old : CArray Int64} {l : List Int64}
    (hv : v = some l) :
    ((Record.assign v (fun l => optionalArray (l.map msToNs)) old).read.getD []).map Int64.toInt =
        (l.map fun ms => ms.toInt * 1000000) ↔
      CArray.FitsLength l ∧ ∀ ms ∈ l, FitsNs ms := by
  rw [Record.assign_of_some hv]
  by_cases hlen : CArray.FitsLength l
  · have hmap : CArray.FitsLength (l.map msToNs) := by
      rw [CArray.FitsLength, List.length_map]
      exact hlen
    rw [read_optionalArray hmap, List.map_map, List.map_inj_left, and_iff_right hlen]
    refine forall₂_congr fun ms _ => ?_
    rw [Function.comp_apply]
    exact toInt_msToNs_iff
  · refine iff_of_false (fun h => hlen ?_) fun h => hlen h.1
    -- an array is never longer than an `int` can say
    have hlength := congrArg List.length h
    rw [List.length_map, List.length_map] at hlength
    rw [CArray.FitsLength, ← hlength]
    cases hread : (optionalArray (l.map msToNs)).read with
    | none => exact (by decide : (0 : ℤ) ≤ Int32.maxValue.toInt)
    | some entries => exact CArray.length_read_le hread

theorem ConsumerKey.intact_iff (init : JsConsumerConfig) {config : NatsConsumerConfig}
    {k : ConsumerKey} {v : k.Val} (hv : config k = some v) :
    k.Intact (fillConsumerConfig init config) v ↔ k.Fits v := by
  cases k with
  | ackWait | heartbeatMs | maxRequestExpiresMs | inactiveThresholdMs =>
      exact assign_duration_iff hv
  | backOff => exact assign_durations_iff hv
  | maxDeliver | maxAckPending => exact assign_int_iff hv
  | numReplicas => exact assign_same_iff hv
  | optStartSeq | rateLimitBps => exact assign_uint64_iff hv
  | _ => exact Iff.rfl

theorem consumer_intact_iff (config : NatsConsumerConfig) :
    (∀ C cfg, configureConsumerConfig C config = .ok cfg →
      config.All (ConsumerKey.Intact cfg)) ↔ config.All ConsumerKey.Fits := by
  constructor
  · intro h
    have hok := configureConsumerConfig_ok (C := consumerClient) (fun _ _ => rfl) config
    exact (Record.all_congr fun k v => ConsumerKey.intact_iff _).1 (h _ _ hok)
  · intro h C cfg hok
    rw [eq_fillConsumerConfig hok]
    exact (Record.all_congr fun k v => ConsumerKey.intact_iff _).2 h

/-! ## Buckets -/

/-- The C client is given the value of the option. -/
def KVKey.Intact (kvc : KvConfig) : (k : KVKey) → k.Val → Prop
  | .ttl, ms => kvc.ttl.toInt = ms.toInt * 1000000
  | .maxValueSize, n => kvc.maxValueSize.toInt = n.toInt
  | .numReplicas, n => kvc.replicas.toInt = n.toInt
  | .history, n => (kvc.history.toNat : ℤ) = n.toInt
  | _, _ => True

/-- The value fits in what the C client takes. -/
def KVKey.Fits : (k : KVKey) → k.Val → Prop
  | .ttl, ms => FitsNs ms
  | .maxValueSize, n => FitsInt n
  | .numReplicas, n => FitsInt n
  | .history, n => FitsByte n
  | _, _ => True

theorem KVKey.intact_iff {config : NatsKVConfig} {k : KVKey} {v : k.Val} (hv : config k = some v) :
    k.Intact (fillKvConfig config) v ↔ k.Fits v := by
  cases k with
  | ttl => exact assign_duration_iff hv
  | maxValueSize | numReplicas => exact assign_int32_iff hv
  | history => exact assign_byte_iff hv
  | _ => exact Iff.rfl

theorem kv_intact_iff (config : NatsKVConfig) :
    (∀ (create : KvConfig → Except String Unit) valid cancelled kv,
      (createKeyValue create valid cancelled config).result = .ok kv →
        ∃ kvc, (createKeyValue create valid cancelled config).events = [kvc] ∧
          config.All (KVKey.Intact kvc)) ↔ config.All KVKey.Fits := by
  constructor
  · intro h
    obtain ⟨kvc, hevents, hall⟩ := h (fun _ => .ok ()) true none () rfl
    obtain rfl : fillKvConfig config = kvc := List.singleton_inj.1 hevents
    exact (Record.all_congr fun k v => KVKey.intact_iff).1 hall
  · intro h create valid cancelled kv hok
    exact ⟨_, createKeyValue_ok hok, (Record.all_congr fun k v => KVKey.intact_iff).2 h⟩

end JetStream

namespace Connection

open Logged

/-! ## Connections -/

/-- A call is made for a count that is given, with the same count. -/
def HandsOver (call : Int32 → OptionCall) (given : Option Int64) (events : List Event) : Prop :=
  ∀ v, given = some v → (∃ n, .option (call n) ∈ events) ∧
    ∀ n, .option (call n) ∈ events → n.toInt = v.toInt

theorem handsOver_iff {call : Int32 → OptionCall} {given : Option Int64} {events : List Event}
    (hmem : ∀ v, given = some v → .option (call v.toInt32) ∈ events)
    (honly : ∀ n, .option (call n) ∈ events → ∃ v, given = some v ∧ n = v.toInt32) :
    HandsOver call given events ↔ ∀ v, given = some v → FitsInt v := by
  refine forall₂_congr fun v hv => ?_
  constructor
  · intro h
    exact toInt_toInt32_iff.1 (h.2 _ (hmem v hv))
  · intro h
    refine ⟨⟨_, hmem v hv⟩, ?_⟩
    intro n hn
    obtain ⟨w, hw, rfl⟩ := honly n hn
    obtain rfl : v = w := Option.some.inj (hv.symm.trans hw)
    exact toInt_toInt32_iff.2 h

theorem mem_whenSome_callOption {env : OptionsEnv} {given : Option Int64} {v : Int64}
    (hv : given = some v) (call : Int32 → OptionCall) (desc : String) :
    .option (call v.toInt32) ∈
      (whenSome given fun n => connectionOption env (call n.toInt32) desc).events := by
  subst hv
  rw [whenSome, connectionOption, callOption_events]
  exact List.mem_cons_self

/-- The counts that are given are handed over, each as an `int`. -/
theorem mem_configureOptions {env : OptionsEnv} {o : NatsConnectionOptions} {dialer : DialerOptions}
    (h : (configureOptions env o).result = .ok dialer) :
    (∀ v, o.maxReconnect = some v →
      .option (.setMaxReconnect v.toInt32) ∈ (configureOptions env o).events) ∧
    ∀ v, o.maxPingsOut = some v →
      .option (.setMaxPingsOut v.toInt32) ∈ (configureOptions env o).events := by
  obtain ⟨_, hauth, h⟩ := ok_of_bind_ok h
  obtain ⟨_, hconnection, -⟩ := ok_of_bind_ok h
  obtain ⟨_, hname, hconnection⟩ := ok_of_bind_ok hconnection
  obtain ⟨_, htimeout, hconnection⟩ := ok_of_bind_ok hconnection
  obtain ⟨_, hwait, hconnection⟩ := ok_of_bind_ok hconnection
  obtain ⟨_, hreconnect, hconnection⟩ := ok_of_bind_ok hconnection
  obtain ⟨_, hping, -⟩ := ok_of_bind_ok hconnection
  constructor <;> intro v hv <;> refine mem_bind_right hauth (mem_bind_left _ ?_)
  · refine mem_bind_right hname (mem_bind_right htimeout (mem_bind_right hwait ?_))
    exact mem_bind_left _ (mem_whenSome_callOption hv .setMaxReconnect _)
  · refine mem_bind_right hname (mem_bind_right htimeout (mem_bind_right hwait ?_))
    refine mem_bind_right hreconnect (mem_bind_right hping ?_)
    exact mem_bind_left _ (mem_whenSome_callOption hv .setMaxPingsOut _)

theorem counts_iff {env : OptionsEnv} {o : NatsConnectionOptions} {dialer : DialerOptions}
    (h : (configureOptions env o).result = .ok dialer) :
    HandsOver .setMaxReconnect o.maxReconnect (configureOptions env o).events ∧
        HandsOver .setMaxPingsOut o.maxPingsOut (configureOptions env o).events ↔
      (∀ v, o.maxReconnect = some v → FitsInt v) ∧ ∀ v, o.maxPingsOut = some v → FitsInt v := by
  obtain ⟨hreconnect, hpings⟩ := mem_configureOptions h
  have hkeeps : KeepsTo (mediation env o False) [] (configureOptions env o) :=
    keepsTo_configureOptions
  exact and_congr (handsOver_iff hreconnect fun n hn => hkeeps.may _ hn)
    (handsOver_iff hpings fun n hn => hkeeps.may _ hn)

/-- No sandbox, and every call succeeds. -/
def permissive : OptionsEnv where
  smh := none
  sandboxed := false
  getaddrinfo _ _ _ := .ok []
  status _ := none
  connect := none

/-- With nothing to fail on, the options are configured. -/
theorem configureOptions_permissive (o : NatsConnectionOptions) :
    ∃ dialer, (configureOptions permissive o).result = .ok dialer := by
  cases h : (configureOptions permissive o).result with
  | ok dialer => exact ⟨dialer, rfl⟩
  | error ex =>
      have hkeeps : KeepsTo (mediation permissive o False) [] (configureOptions permissive o) :=
        keepsTo_configureOptions
      obtain ⟨e, -, hcause⟩ := hkeeps.cause ex h
      cases e with
      | checkFile path allowed => exact absurd rfl hcause.2
      | checkNetwork url allowed => cases hcause.2
      | option call => exact absurd rfl hcause
      | connect dialer => exact absurd rfl hcause

theorem connection_intact_iff (o : NatsConnectionOptions) :
    (∀ env dialer, (configureOptions env o).result = .ok dialer →
      HandsOver .setMaxReconnect o.maxReconnect (configureOptions env o).events ∧
        HandsOver .setMaxPingsOut o.maxPingsOut (configureOptions env o).events) ↔
      (∀ v, o.maxReconnect = some v → FitsInt v) ∧ ∀ v, o.maxPingsOut = some v → FitsInt v := by
  constructor
  · intro h
    obtain ⟨dialer, hok⟩ := configureOptions_permissive o
    exact (counts_iff hok).1 (h permissive dialer hok)
  · exact fun h env dialer hok => (counts_iff hok).2 h

end Connection

open JetStream Connection

/-- An integer reaches the C client unchanged, unless an error is raised, if and only if it fits:
    durations in 64 bits of nanoseconds, counts in `int` or, for the history, in 8 bits, and the
    unsigned values are not negative. -/
theorem integers_intact_iff (stream : NatsStreamConfig) (consumer : NatsConsumerConfig)
    (bucket : NatsKVConfig) (o : NatsConnectionOptions) :
    ((∀ C cfg, configureStreamConfig C stream = .ok cfg → stream.All (StreamKey.Intact cfg)) ↔
      stream.All StreamKey.Fits) ∧
    ((∀ C cfg, configureConsumerConfig C consumer = .ok cfg →
      consumer.All (ConsumerKey.Intact cfg)) ↔ consumer.All ConsumerKey.Fits) ∧
    ((∀ (create : KvConfig → Except String Unit) valid cancelled kv,
      (createKeyValue create valid cancelled bucket).result = .ok kv →
        ∃ kvc, (createKeyValue create valid cancelled bucket).events = [kvc] ∧
          bucket.All (KVKey.Intact kvc)) ↔ bucket.All KVKey.Fits) ∧
    ((∀ env dialer, (configureOptions env o).result = .ok dialer →
      HandsOver .setMaxReconnect o.maxReconnect (configureOptions env o).events ∧
        HandsOver .setMaxPingsOut o.maxPingsOut (configureOptions env o).events) ↔
      (∀ v, o.maxReconnect = some v → FitsInt v) ∧ ∀ v, o.maxPingsOut = some v → FitsInt v) :=
  ⟨stream_intact_iff stream, consumer_intact_iff consumer, kv_intact_iff bucket,
    connection_intact_iff o⟩

/-- Messages are kept for 293 years. -/
def longAge : NatsStreamConfig
  | .maxAge => some 9223372036855
  | _ => none

def negativeStart : NatsConsumerConfig
  | .optStartSeq => some (-1)
  | _ => none

/-- The product wraps, the cast to `int` cuts off, and the cast to `uint64_t` changes the sign. -/
theorem integers_wrap :
    (∃ cfg, configureStreamConfig echoingServer longAge = .ok cfg ∧
      cfg.maxAge.toInt = -9223372036854551616 ∧ ¬ longAge.All (StreamKey.Intact cfg)) ∧
    (∃ cfg, configureConsumerConfig consumerClient negativeStart = .ok cfg ∧
      cfg.optStartSeq.toNat = 18446744073709551615 ∧
        ¬ negativeStart.All (ConsumerKey.Intact cfg)) ∧
    ¬ HandsOver .setMaxReconnect (some 4294967295)
      (configureOptions permissive { maxReconnect := some 4294967295 }).events := by
  have hage : ¬ ((-9223372036854551616 : ℤ) = (9223372036855 : Int64).toInt * 1000000) := by decide
  have hstart : ¬ ((18446744073709551615 : ℕ) : ℤ) = (-1 : Int64).toInt := by decide
  have hreconnect : ¬ (-1 : Int32).toInt = (4294967295 : Int64).toInt := by decide
  refine ⟨⟨_, rfl, by decide, fun h => hage (h .maxAge _ rfl)⟩,
    ⟨_, rfl, by decide, fun h => hstart (h .optStartSeq _ rfl)⟩, fun h => hreconnect ?_⟩
  exact (h 4294967295 rfl).2 (-1) List.mem_cons_self

end ModuleNats
