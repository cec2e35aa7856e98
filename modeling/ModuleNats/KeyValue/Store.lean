import Mathlib.Logic.Function.Basic
import ModuleNats.DataProvider.Payload
import ModuleNats.DateTime
import ModuleNats.JetStream.Values

set_option autoImplicit false

/-! # Two ways to put a value

`put()` hands the C client the bytes of a binary value with their number, `putString()` a C string,
which ends at its first NUL. A string is stored as its own bytes, and read back, if and only if it
has no NUL and its length is one of an `int` (`putString_agrees_iff`). The store is that of the C
client; a Qore string is its bytes here. -/

namespace ModuleNats.KVStore

open DataProvider (Bytes takeWhile_ne_zero_iff)
open CArray (FitsLength)

variable {σ : Type}

/-! ## The C client -/

/-- A `kvEntry`. -/
structure KvEntry where
  bucket : Option String
  key : Option String
  value : Bytes
  revision : UInt64
  created : Int64
  operation : Int64
deriving DecidableEq

/-- `kvEntry_ValueLen()` is an `int`. -/
def KvEntry.valueLen (e : KvEntry) : Int32 := Int32.ofNat e.value.length

/-- How `kvStore_Get()` fails. -/
inductive GetFailure where
  | notFound
  | failed (statusText : String)
deriving DecidableEq, Repr

/-- The functions of the C client over the states `σ` of its store; a status that is not `NATS_OK`
    is its text. -/
structure KvClient (σ : Type) where
  /-- `kvStore_Put()`, with the data and its length -/
  put : CString → Bytes → Int32 → σ → Except String UInt64 × σ
  /-- `kvStore_PutString()`, with the memory that the `char*` points to, up to the NUL after the
      string -/
  putString : CString → Bytes → σ → Except String UInt64 × σ
  get : CString → σ → Except GetFailure KvEntry

/-- The value of a key. -/
def KvClient.Stored (c : KvClient σ) (key : String) (s : σ) (value : Bytes) : Prop :=
  ∃ e, c.get (CString.add key) s = .ok e ∧ e.value = value

/-- The documented behaviour: `kvStore_Put()` stores the given number of bytes, and
    `kvStore_PutString()` the bytes of its C string. -/
structure KvClient.Documented (c : KvClient σ) : Prop where
  put : ∀ key data len s rev s', c.put (CString.add key) data len s = (.ok rev, s') →
    0 ≤ len.toInt ∧ c.Stored key s' (data.take len.toInt.toNat)
  putString : ∀ key data s rev s', c.putString (CString.add key) data s = (.ok rev, s') →
    c.Stored key s' (data.takeWhile (· != 0))

/-! ## The wrapper -/

/-- What a call meets: whether there is a `kvStore`, a cancellation of its thread, and an exception
    of `new QoreHashNode()`. -/
structure KvEnv where
  valid : Bool
  cancelled : Option ExceptionInfo
  newHash : Option ExceptionInfo

/-- Nothing keeps the call from its work. -/
def KvEnv.Quiet (env : KvEnv) : Prop :=
  env.valid = true ∧ env.cancelled = none ∧ env.newHash = none

structure NatsKVEntry where
  bucket : Option String
  key : Option String
  value : Option Bytes
  revision : Int64
  created : Option DateTimeNode
  operation : Int64
deriving DecidableEq

/-- The binary value that is made of a value: an empty one is left out. -/
def KvEntry.readValue (e : KvEntry) : Option Bytes :=
  if 0 < e.valueLen.toInt then some (e.value.take e.valueLen.toInt.toNat) else none

/-- `nats_kv_entry_to_hash()` -/
def kvEntryToHash (e : KvEntry) : NatsKVEntry where
  bucket := e.bucket
  key := e.key
  value := e.readValue
  revision := e.revision.toInt64
  created := if h : 0 < e.created.toInt then some (DateTimeNode.ofNs e.created h) else none
  operation := e.operation

theorem value_kvEntryToHash (e : KvEntry) : (kvEntryToHash e).value = e.readValue := rfl

/-- The exception of a call, before it asks the C client. -/
def KvEnv.refuses (env : KvEnv) : Option ExceptionInfo :=
  if !env.valid then some ⟨"NATS-KV-ERROR", "KV store is not valid"⟩ else env.cancelled

/-- A call that stores a value: the revision, or an exception. -/
def storeValue (env : KvEnv) (desc : String) (call : σ → Except String UInt64 × σ) (s : σ) :
    Except ExceptionInfo Int64 × σ :=
  match env.refuses with
  | some ex => (.error ex, s)
  | none =>
      match call s with
      | (.ok rev, s') => (.ok rev.toInt64, s')
      | (.error statusText, s') => (.error (natsError "NATS-KV-ERROR" desc statusText), s')

/-- `NatsKeyValueStore::put()` and `QoreNatsKVStore::put()`, with `(int)data->size()` -/
def put (c : KvClient σ) (env : KvEnv) (key : String) (data : Bytes) :
    σ → Except ExceptionInfo Int64 × σ :=
  storeValue env ("failed to put key '" ++ (CString.add key).text ++ "'")
    (c.put (CString.add key) data (Int32.ofNat data.length))

/-- `NatsKeyValueStore::putString()` and `QoreNatsKVStore::putString()` -/
def putString (c : KvClient σ) (env : KvEnv) (key : String) (data : Bytes) :
    σ → Except ExceptionInfo Int64 × σ :=
  storeValue env ("failed to put string key '" ++ (CString.add key).text ++ "'")
    (c.putString (CString.add key) data)

/-- `QoreNatsKVStore::get()` -/
def get (c : KvClient σ) (env : KvEnv) (key : String) (s : σ) :
    Except ExceptionInfo (Option NatsKVEntry) :=
  match env.refuses with
  | some ex => .error ex
  | none =>
      match c.get (CString.add key) s with
      | .error .notFound => .ok none
      | .error (.failed statusText) => .error (natsError "NATS-KV-ERROR"
          ("failed to get key '" ++ (CString.add key).text ++ "'") statusText)
      | .ok e =>
          match env.newHash with
          | some ex => .error ex
          | none => .ok (some (kvEntryToHash e))

/-! ## What a call stores -/

theorem storeValue_ok {env : KvEnv} {desc : String} {call : σ → Except String UInt64 × σ} {s s' : σ}
    {rev : Int64} (h : storeValue env desc call s = (.ok rev, s')) :
    ∃ rev', call s = (.ok rev', s') := by
  unfold storeValue at h
  split at h
  · cases h
  · split at h
    · next rev' s'' hcall => cases h; exact ⟨rev', hcall⟩
    · cases h

theorem stored_unique {c : KvClient σ} {key : String} {s : σ} {v v' : Bytes}
    (h : c.Stored key s v) (h' : c.Stored key s v') : v = v' := by
  obtain ⟨e, hget, rfl⟩ := h
  obtain ⟨e', hget', rfl⟩ := h'
  rw [hget] at hget'
  cases hget'
  rfl

/-- What `put()` has stored of a value with a length that fits. -/
theorem stored_put {c : KvClient σ} (hc : c.Documented) {env : KvEnv} {key : String} {data : Bytes}
    {s s' : σ} {rev : Int64} (h : put c env key data s = (.ok rev, s')) (hfits : FitsLength data) :
    c.Stored key s' data := by
  obtain ⟨rev', hcall⟩ := storeValue_ok h
  have hstored := (hc.put _ _ _ _ _ _ hcall).2
  rw [CArray.toInt_length hfits, Int.toNat_natCast, List.take_length] at hstored
  exact hstored

theorem stored_putString {c : KvClient σ} (hc : c.Documented) {env : KvEnv} {key : String}
    {data : Bytes} {s s' : σ} {rev : Int64} (h : putString c env key data s = (.ok rev, s')) :
    c.Stored key s' (data.takeWhile (· != 0)) := by
  obtain ⟨rev', hcall⟩ := storeValue_ok h
  exact hc.putString _ _ _ _ _ hcall

theorem getD_readValue (e : KvEntry) :
    e.readValue.getD [] = e.value.take e.valueLen.toInt.toNat := by
  unfold KvEntry.readValue
  by_cases hlen : 0 < e.valueLen.toInt
  · rw [if_pos hlen, Option.getD_some]
  · have hzero : e.valueLen.toInt.toNat = 0 := by omega
    rw [if_neg hlen, hzero, List.take_zero, Option.getD_none]

/-- The bytes in the hash of an entry are all of its value if and only if the length fits. -/
theorem readValue_iff {e : KvEntry} : e.readValue.getD [] = e.value ↔ FitsLength e.value := by
  rw [getD_readValue]
  constructor
  · intro h
    have hlength := congrArg List.length h
    have hle : e.valueLen.toInt ≤ Int32.maxValue.toInt := Int32.toInt_le _
    rw [List.length_take] at hlength
    rw [Int32.toInt_maxValue] at hle
    rw [FitsLength, Int32.toInt_maxValue]
    omega
  · intro h
    rw [KvEntry.valueLen, CArray.toInt_length h, Int.toNat_natCast, List.take_length]

theorem get_of_stored {c : KvClient σ} {env : KvEnv} (henv : env.Quiet) {key : String} {s : σ}
    {value : Bytes} (h : c.Stored key s value) :
    ∃ e, get c env key s = .ok (some (kvEntryToHash e)) ∧ e.value = value := by
  obtain ⟨hvalid, hcancelled, hhash⟩ := henv
  obtain ⟨e, hget, hvalue⟩ := h
  exact ⟨e, by simp [get, KvEnv.refuses, hvalid, hcancelled, hhash, hget], hvalue⟩

/-! ## When the two agree -/

/-- After a `putString()` the value of the key is the string itself, the one that `put()` stores for
    its bytes, and the one that `get()` returns. -/
structure StoresString (c : KvClient σ) (key : String) (str : Bytes) (s s' : σ) : Prop where
  stored : c.Stored key s' str
  asPut : ∀ env rev s'', put c env key str s = (.ok rev, s'') → c.Stored key s'' str
  read : ∀ env : KvEnv, env.Quiet →
    ∃ entry, get c env key s' = .ok (some entry) ∧ entry.value.getD [] = str

/-- Over every store that behaves as documented, in every state of it. -/
def PutStringAgrees (key : String) (str : Bytes) : Prop :=
  ∀ (σ : Type) (c : KvClient σ), c.Documented → ∀ env s rev s',
    putString c env key str s = (.ok rev, s') → StoresString c key str s s'

/-- A store in memory. -/
def memory : KvClient (CString → Option Bytes) where
  put key data len s :=
    if 0 ≤ len.toInt then (.ok 1, Function.update s key (some (data.take len.toInt.toNat)))
    else (.error "Invalid Argument", s)
  putString key data s := (.ok 1, Function.update s key (some (data.takeWhile (· != 0))))
  get key s :=
    match s key with
    | some value => .ok ⟨some "bucket", some key.text, value, 1, 0, 0⟩
    | none => .error .notFound

theorem stored_memory_update (key : String) (value : Bytes) (s : CString → Option Bytes) :
    memory.Stored key (Function.update s (CString.add key) (some value)) value := by
  simp [KvClient.Stored, memory]

theorem memory_documented : memory.Documented where
  put key data len s rev s' h := by
    simp only [memory] at h
    split at h
    · next hlen => cases h; exact ⟨hlen, stored_memory_update key _ s⟩
    · cases h
  putString key data s rev s' h := by
    cases h
    exact stored_memory_update key _ s

def quietEnv : KvEnv := ⟨true, none, none⟩

/-- For every key: a string is stored as its own bytes, as `put()` stores them, and `get()` returns
    all of them, if and only if it has no NUL and its length fits in an `int`. -/
theorem putString_agrees_iff (key : String) (str : Bytes) :
    PutStringAgrees key str ↔ 0 ∉ str ∧ FitsLength str := by
  constructor
  · intro h
    have hputs : putString memory quietEnv key str (fun _ => none) = (.ok 1, Function.update
        (fun _ => none) (CString.add key) (some (str.takeWhile (· != 0)))) := rfl
    have hstores := h _ memory memory_documented _ _ _ _ hputs
    have hcut : str.takeWhile (· != 0) = str :=
      stored_unique (stored_memory_update key _ _) hstores.stored
    refine ⟨(takeWhile_ne_zero_iff str).1 hcut, ?_⟩
    have hquiet : quietEnv.Quiet := ⟨rfl, rfl, rfl⟩
    obtain ⟨e, hget, hvalue⟩ := get_of_stored hquiet hstores.stored
    obtain ⟨entry, hentry, hread⟩ := hstores.read quietEnv hquiet
    rw [hget] at hentry
    cases hentry
    rw [value_kvEntryToHash, ← hvalue] at hread
    exact hvalue ▸ readValue_iff.1 hread
  · rintro ⟨hnul, hfits⟩ σ c hc env s rev s' hputs
    have hstored : c.Stored key s' str := by
      have hcut := stored_putString hc hputs
      rwa [(takeWhile_ne_zero_iff str).2 hnul] at hcut
    refine ⟨hstored, fun env' rev' s'' hput => stored_put hc hput hfits, fun env' henv => ?_⟩
    obtain ⟨e, hget, hvalue⟩ := get_of_stored henv hstored
    refine ⟨_, hget, ?_⟩
    rw [value_kvEntryToHash, ← hvalue]
    exact readValue_iff.2 (hvalue ▸ hfits)

/-- Of the string `a\0b` only the first character is stored. -/
theorem putString_cut_at_nul : ¬ ∀ key str, PutStringAgrees key str := by
  intro hclaim
  have hputs : putString memory quietEnv "key" [97, 0, 98] (fun _ => none) = (.ok 1, Function.update
      (fun _ => none) (CString.add "key") (some [97])) := rfl
  have hstores := hclaim "key" [97, 0, 98] _ memory memory_documented _ _ _ _ hputs
  have hsame := stored_unique (stored_memory_update "key" [97] _) hstores.stored
  exact absurd hsame (by decide)

end ModuleNats.KVStore
