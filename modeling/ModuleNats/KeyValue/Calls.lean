import ModuleNats.KeyValue.Store
import ModuleNats.Lib.Custody

set_option autoImplicit false

/-! # What a bucket is read with

`get()`, `keys()`, `history()` and `status()` ask the C client for an entry, a list of keys or of
entries, or the status of the bucket, and destroy it after they have made a hash or a list of it.
An exception of `push()` in `history()` is noticed only at the next entry, or by the caller.

`kv_reads_settle` says that on every way out of each of them the object is destroyed once. -/

namespace ModuleNats.QoreNatsKVStore

open Custody Custody.Prog KVStore

variable {α β σ : Type}

/-! ## The answers of the C client -/

/-- What `kvStatus` answers. -/
structure KvStatus where
  bucket : Option CString
  values : UInt64
  history : Int64
  /-- nanoseconds -/
  ttl : Int64
  replicas : Int64
  bytes : UInt64
deriving DecidableEq

structure NatsKVBucketStatus where
  bucket : Option String
  values : Int64
  history : Int64
  ttlMs : Int64
  replicas : Int64
  bytes : Int64
deriving DecidableEq

def statusToHash (s : KvStatus) : NatsKVBucketStatus where
  bucket := s.bucket.map CString.text
  values := s.values.toInt64
  history := s.history
  ttlMs := nsToMs s.ttl
  replicas := s.replicas
  bytes := s.bytes.toInt64

/-- What the other functions of the C client answer for a bucket; `NATS_NOT_FOUND` is a failure of
    its own. -/
structure KvBucket where
  keys : Except GetFailure (List CString)
  history : CString → Except GetFailure (List KvEntry)
  status : Except String KvStatus

/-! ## The code -/

def notValid : ExceptionInfo := ⟨"NATS-KV-ERROR", "KV store is not valid"⟩

def kvError (desc statusText : String) : ExceptionInfo := natsError "NATS-KV-ERROR" desc statusText

/-- What is not found is no error. -/
def reading (desc : String) (answer : Except GetFailure β) (notFound : α)
    (read : ℕ → β → Prog ExceptionInfo α) : Prog ExceptionInfo α :=
  match answer with
  | .error .notFound => pure notFound
  | .error (.failed statusText) => raise (kvError desc statusText)
  | .ok b => do
      let i ← acquire
      read i b

/-- The keys that `nats_kv_entry_to_hash()` sets in its new hash. -/
def setEntry (entry : ℕ) (e : KvEntry) : Prog ExceptionInfo NatsKVEntry := do
  use entry
  callWhen e.bucket.isSome
  callWhen e.key.isSome
  callWhen e.readValue.isSome
  -- `revision`
  call
  callWhen (0 < e.created.toInt)
  use entry
  -- `operation`
  call
  pure (kvEntryToHash e)

/-- `nats_kv_entry_to_hash()` -/
def natsKvEntryToHash (entry : ℕ) (e : KvEntry) : Prog ExceptionInfo NatsKVEntry := do
  call
  setEntry entry e

def failedToGet (key : CString) : String := "failed to get key '" ++ key.text ++ "'"

def failedToGetHistory (key : CString) : String :=
  "failed to get history for key '" ++ key.text ++ "'"

/-- The loop of `history()`, with the exception that the last `push()` has raised. The next entry
    gets a new hash all the same. -/
def pushEntries (list : ℕ) :
    List KvEntry → Option ExceptionInfo → Prog ExceptionInfo (List NatsKVEntry)
  | [], pending => do
      release list
      check pending
      pure []
  | e :: rest, pending => do
      let newHash ← attempt
      match pending.or newHash with
      | some ex => do
          release list
          raise ex
      | none => do
          let hash ← onRaise (setEntry list e) (release list)
          let pushed ← attempt
          let hashes ← pushEntries list rest pushed
          pure (hash :: hashes)

/-- The end of `get()`. -/
def readEntry (entry : ℕ) (e : KvEntry) : Prog ExceptionInfo (Option NatsKVEntry) :=
  releasing entry do
    let hash ← natsKvEntryToHash entry e
    pure (some hash)

/-- The loop of `keys()`. -/
def readKeys (kl : ℕ) (keys : List CString) : Prog ExceptionInfo (List String) :=
  pushAll kl (fun key => pure key.text) keys

/-- The end of `status()`. -/
def readStatus (sts : ℕ) (s : KvStatus) : Prog ExceptionInfo NatsKVBucketStatus := do
  onRaise call (release sts)
  use sts
  onRaise (callWhen s.bucket.isSome) (release sts)
  releasing sts do
    use sts
    -- from `values` to `bytes`
    callTimes 5
  pure (statusToHash s)

section Functions

variable (valid : Bool) (b : KvBucket) (key : String)

def get (c : KvClient σ) (s : σ) : Prog ExceptionInfo (Option NatsKVEntry) :=
  entering valid notValid
    (reading (failedToGet (CString.add key)) (c.get (CString.add key) s) none readEntry)

def keys : Prog ExceptionInfo (List String) :=
  entering valid notValid (reading "failed to list keys" b.keys [] readKeys)

def history : Prog ExceptionInfo (List NatsKVEntry) :=
  entering valid notValid
    (reading (failedToGetHistory (CString.add key)) (b.history (CString.add key)) []
      fun el entries => pushEntries el entries none)

def status : Prog ExceptionInfo NatsKVBucketStatus :=
  entering valid notValid
    (taking (b.status.mapError (kvError "failed to get bucket status")) readStatus)

end Functions

/-! ## The results

What the functions come to if no call of the Qore library raises an exception. -/

def result (desc : String) (answer : Except GetFailure β) (notFound : α) (f : β → α) :
    Except ExceptionInfo α :=
  match answer with
  | .error .notFound => .ok notFound
  | .error (.failed statusText) => .error (kvError desc statusText)
  | .ok b => .ok (f b)

/-! ## What is released -/

section Custody

variable {raises : ℕ → Option ExceptionInfo} {own : ExceptionInfo → Prop}

theorem reading_spec {desc : String} {answer : Except GetFailure β} {notFound : α}
    {read : ℕ → β → Prog ExceptionInfo α} {f : β → α}
    (hread : ∀ i b {own : ExceptionInfo → Prop},
      Triple raises [i] (read i b) (fun _ => []) (· = f b) [] own) :
    Yields raises (reading desc answer notFound read) (result desc answer notFound f) := by
  unfold reading result
  rcases answer with (_ | statusText) | b
  · exact Triple.pure (fun _ => []) notFound rfl
  · exact Triple.raise (.inr rfl)
  · refine Triple.acquire fun i => (hread i b).mono (fun a ha => ?_) fun _ hx => hx
    rw [ha]

theorem setEntry_spec (entry : ℕ) (e : KvEntry) :
    Triple raises [entry] (setEntry entry e) (fun _ => [entry]) (· = kvEntryToHash e) [entry]
      own := by
  refine Triple.use List.mem_cons_self (Triple.callWhen _ (Triple.callWhen _ ?_))
  refine Triple.callWhen _ (Triple.call (Triple.callWhen _ ?_))
  exact Triple.use List.mem_cons_self (Triple.call (Triple.pure (fun _ => [entry]) _ rfl))

theorem natsKvEntryToHash_spec (entry : ℕ) (e : KvEntry) :
    Triple raises [entry] (natsKvEntryToHash entry e) (fun _ => [entry]) (· = kvEntryToHash e)
      [entry] own :=
  Triple.call (setEntry_spec entry e)

theorem readEntry_spec (entry : ℕ) (e : KvEntry) :
    Triple raises [entry] (readEntry entry e) (fun _ => []) (· = some (kvEntryToHash e)) []
      own := by
  refine Triple.releasing ((natsKvEntryToHash_spec entry e).bind fun hash hhash => ?_)
  exact Triple.pure (fun _ => [entry]) (some hash) (congrArg some hhash)

theorem readKeys_spec (kl : ℕ) (keys : List CString) :
    Triple raises [kl] (readKeys kl keys) (fun _ => []) (· = keys.map CString.text) [] own :=
  Triple.pushAll keys fun _ => Triple.pure (fun _ => [kl]) _ rfl

/-- The exception that is pending was raised by the `push()` of the entry before. -/
theorem pushEntries_spec (list : ℕ) (entries : List KvEntry) {pending : Option ExceptionInfo}
    (h : Pending raises pending) :
    Triple raises [list] (pushEntries list entries pending) (fun _ => [])
      (· = entries.map kvEntryToHash) [] own := by
  induction entries generalizing pending with
  | nil => exact Triple.release (Triple.check h (Triple.pure (fun _ => []) [] rfl))
  | cons e rest ih =>
      refine Triple.attempt fun newHash hnew => ?_
      cases hpending : pending.or newHash with
      | some ex => exact Triple.release (Triple.raise (.inl (h.or hnew ex hpending)))
      | none =>
          refine (setEntry_spec list e).onRaise_release.bind fun hash hhash => ?_
          refine Triple.attempt fun pushed hpushed => (ih hpushed).bind fun hashes hhashes => ?_
          exact Triple.pure (fun _ => []) (hash :: hashes) (by rw [hhash, hhashes]; rfl)

theorem readHistory_spec (el : ℕ) (entries : List KvEntry) :
    Triple raises [el] (pushEntries el entries none) (fun _ => [])
      (· = entries.map kvEntryToHash) [] own :=
  pushEntries_spec el entries (by simp [Pending])

theorem readStatus_spec (sts : ℕ) (s : KvStatus) :
    Triple raises [sts] (readStatus sts s) (fun _ => []) (· = statusToHash s) [] own := by
  refine triple_call.onRaise_release.bind fun _ _ => Triple.use List.mem_cons_self ?_
  refine (triple_callWhen _).onRaise_release.bind fun _ _ => ?_
  refine (Triple.releasing (Q := fun _ => True) ?_).bind fun _ _ => ?_
  · exact Triple.use List.mem_cons_self (triple_callTimes 5)
  · exact Triple.pure (fun _ => []) _ rfl

end Custody

theorem get_eq (c : KvClient σ) (valid : Bool) (key : String) (s : σ) :
    KVStore.get c ⟨valid, none, none⟩ key s = entered valid notValid
      (result (failedToGet (CString.add key)) (c.get (CString.add key) s) none
        fun e => some (kvEntryToHash e)) := by
  cases valid with
  | false => rfl
  | true =>
      unfold KVStore.get entered result
      simp only [KvEnv.refuses, Bool.not_true, if_true]
      rcases c.get (CString.add key) s with (_ | _) | _ <;> rfl

/-- The reads of a bucket: the entry, the list or the status is destroyed once, whatever the C
    client answers and whichever call of the Qore library raises an exception, and the result is
    made of every entry in its order. A key or a history that is not found is no error. -/
theorem kv_reads_settle (raises : ℕ → Option ExceptionInfo) (valid : Bool) (b : KvBucket)
    (c : KvClient σ) (key : String) (s : σ) :
    Implements raises (get valid key c s) (KVStore.get c ⟨valid, none, none⟩ key s) ∧
      Implements raises (keys valid b)
        (entered valid notValid (result "failed to list keys" b.keys []
          (List.map CString.text))) ∧
      Implements raises (history valid b key)
        (entered valid notValid (result (failedToGetHistory (CString.add key))
          (b.history (CString.add key)) [] (List.map kvEntryToHash))) ∧
      Implements raises (status valid b)
        (entered valid notValid
          ((b.status.mapError (kvError "failed to get bucket status")).map statusToHash)) := by
  rw [get_eq]
  refine ⟨?_, ?_, ?_, ?_⟩
  · exact (reading_spec fun i e {_} => readEntry_spec i e).entering.implements
  · exact (reading_spec fun i keys {_} => readKeys_spec i keys).entering.implements
  · exact (reading_spec fun i entries {_} => readHistory_spec i entries).entering.implements
  · exact (Yields.taking fun i s {_} => readStatus_spec i s).entering.implements

end ModuleNats.QoreNatsKVStore
