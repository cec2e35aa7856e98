import ModuleNats.JetStream.Values
import ModuleNats.Lib.Logged
import ModuleNats.Lib.Record
import ModuleNats.NatsHelper

set_option autoImplicit false

/-! # Buckets

`createKeyValue()` fills the configuration of the C client from a `NatsKVConfig` hash and creates
the bucket. -/

namespace ModuleNats.JetStream

open Record (assign)

/-- The keys of `NatsKVConfig`. -/
inductive KVKey where
  | bucket
  | description
  | maxValueSize
  | history
  | ttl
  | maxBytes
  | storage
  | numReplicas
deriving DecidableEq, Repr

@[reducible] def KVKey.Val : KVKey → Type
  | .bucket | .description => String
  | .maxValueSize | .history | .ttl | .maxBytes | .storage | .numReplicas => Int64

abbrev NatsKVConfig := Record KVKey.Val

/-- `kvConfig`, as far as the wrapper uses it. -/
structure KvConfig where
  bucket : Option CString
  description : Option CString
  maxValueSize : Int32
  history : UInt8
  ttl : Int64
  maxBytes : Int64
  storageType : UInt32
  replicas : Int32
deriving DecidableEq

/-- The assignments of `createKeyValue()`, after the structure has been cleared. -/
def fillKvConfig (config : NatsKVConfig) : KvConfig where
  bucket := assign (config .bucket) (fun s => some (CString.add s)) none
  description := assign (config .description) (fun s => some (CString.add s)) none
  maxValueSize := assign (config .maxValueSize) Int64.toInt32 0
  -- `(int)`, into a field of 8 bits
  history := assign (config .history) toByte 0
  ttl := assign (config .ttl) msToNs 0
  maxBytes := assign (config .maxBytes) id 0
  storageType := assign (config .storage) toEnum 0
  replicas := assign (config .numReplicas) Int64.toInt32 0

/-- `createKeyValue()` of a context that may be invalid, in a thread that may be cancelled, with
    what it passes to `js_CreateKeyValue()`. -/
def createKeyValue {κ : Type} (create : KvConfig → Except String κ) (valid : Bool)
    (cancelled : Option ExceptionInfo) (config : NatsKVConfig) :
    Logged KvConfig ExceptionInfo κ :=
  if valid = false then .raise ⟨"NATS-KV-ERROR", "JetStream context is not valid"⟩
  else match cancelled with
    | some ex => .raise ex
    | none => do
        Logged.log (fillKvConfig config)
        match create (fillKvConfig config) with
        | .error statusText =>
            .raise (natsError "NATS-KV-ERROR" "failed to create KV bucket" statusText)
        | .ok kv => pure kv

/-- A bucket is created from the configuration that was filled in. -/
theorem createKeyValue_ok {κ : Type} {create : KvConfig → Except String κ} {valid : Bool}
    {cancelled : Option ExceptionInfo} {config : NatsKVConfig} {kv : κ}
    (h : (createKeyValue create valid cancelled config).result = .ok kv) :
    (createKeyValue create valid cancelled config).events = [fillKvConfig config] := by
  unfold createKeyValue at h ⊢
  split at h
  · cases h
  · next hvalid =>
      rw [if_neg hvalid]
      cases cancelled with
      | some ex => cases h
      | none =>
          dsimp only at h ⊢
          rw [Logged.bind_of_ok (a := ⟨⟩) rfl] at h ⊢
          cases hcreate : create (fillKvConfig config) with
          | error statusText => rw [hcreate] at h; cases h
          | ok kv' => rfl

end ModuleNats.JetStream
