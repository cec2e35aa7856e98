import ModuleNats.KeyValue.Store
import ModuleNats.Lib.Versions

set_option autoImplicit false

/-! # No update of a key is lost

Threads, and other clients, update a key at the same time: each one gets the entry, computes a new
value from the old one, and writes it with `create()` if there was no entry, else with `update()`
and the revision of the entry. An entry may be out of date when it is got, and a call that raises an
exception may have written its value.

The entry that a Qore program sees has the revision as an `int` and the value cut at the length of
an `int`; `Reading.ofEntry` says that nothing is lost by that. So the writes that go through are
those of a register that reads and writes in one step (`refinement`): every one is computed from the
value that it replaces, a call that returns has written once, and one that raises an exception at
most once (`key_updates_are_atomic`). -/

namespace ModuleNats.KVStore

open DataProvider (Bytes)
open CArray (FitsLength)
open Versions

variable {σ : Type}

/-! ## The writing calls -/

/-- The C client, with `kvStore_Create()` and `kvStore_Update()`. -/
structure KvWriter (σ : Type) extends KvClient σ where
  create : CString → Bytes → Int32 → σ → Except String UInt64 × σ
  update : CString → Bytes → Int32 → UInt64 → σ → Except String UInt64 × σ

/-- `NatsKeyValueStore::create()` and `QoreNatsKVStore::create()` -/
def create (c : KvWriter σ) (env : KvEnv) (key : String) (data : Bytes) :
    σ → Except ExceptionInfo Int64 × σ :=
  storeValue env ("failed to create key '" ++ (CString.add key).text ++ "'")
    (c.create (CString.add key) data (Int32.ofNat data.length))

/-- `NatsKeyValueStore::update()` and `QoreNatsKVStore::update()`, with `(uint64_t)revision` -/
def update (c : KvWriter σ) (env : KvEnv) (key : String) (data : Bytes) (revision : Int64) :
    σ → Except ExceptionInfo Int64 × σ :=
  storeValue env ("failed to update key '" ++ (CString.add key).text ++ "' at revision " ++
      toString revision.toUInt64)
    (c.update (CString.add key) data (Int32.ofNat data.length) revision.toUInt64)

/-! ## The server -/

/-- What a call that writes `len` bytes of `data` does to the versions of its key: nothing, or it
    appends a version, which only goes through where the write is admitted. It may fail though the
    version is there. -/
inductive Stores (before after : History UInt64 Bytes) (admitted : Prop) (data : Bytes)
    (len : Int32) : Except String UInt64 → Prop where
  | refused {text} (h : after = before) : Stores before after admitted data len (.error text)
  | stored {rev res} (hadmitted : admitted) (hlen : 0 ≤ len.toInt)
      (h : after = before ++ [⟨some rev, some (data.take len.toInt.toNat)⟩])
      (hres : ∀ rev', res = .ok rev' → rev' = rev) : Stores before after admitted data len res

/-- The versions that the server has had of each key, from the first one, with the documented
    behaviour of the C client: every version has a revision of its own; `kvStore_Get()` answers with
    a version, which may be an old one; `kvStore_Create()` goes through if there is no value, and
    `kvStore_Update()` if the last version has the revision, or if there is none and it is 0. The
    length of a value is an `int`. -/
structure KvHistory (c : KvWriter σ) where
  versions : σ → CString → History UInt64 Bytes
  distinct : ∀ s key, Distinct (versions s key)
  fits : ∀ s key rev value, ⟨rev, some value⟩ ∈ versions s key → FitsLength value
  get : ∀ s key e, c.get key s = .ok e → ⟨some e.revision, some e.value⟩ ∈ versions s key
  create : ∀ s key data len res s', c.create key data len s = (res, s') →
    Stores (versions s key) (versions s' key) (current (versions s key) = none) data len res
  update : ∀ s key data len rev res s', c.update key data len rev s = (res, s') →
    Stores (versions s key) (versions s' key)
      ((versions s key).getLast?.bind Version.rev = some rev ∨ versions s key = [] ∧ rev = 0)
      data len res

/-- The versions of a key of the bucket. -/
def KvHistory.ofKey {c : KvWriter σ} (H : KvHistory c) (key : String) (s : σ) :
    History UInt64 Bytes := H.versions s (CString.add key)

/-! ## Readers and writers -/

/-- The value that a program finds in an entry. -/
def NatsKVEntry.bytes (entry : NatsKVEntry) : Bytes := entry.value.getD []

/-- The write that follows a `get()`. -/
def writeBack (c : KvWriter σ) (env : KvEnv) (key : String) (entry : Option NatsKVEntry)
    (data : Bytes) : σ → Except ExceptionInfo Int64 × σ :=
  match entry with
  | none => create c env key data
  | some entry => update c env key data entry.revision

namespace Writers

structure State (σ : Type) where
  store : σ
  /-- what each writer has got last -/
  got : ℕ → Option (Option NatsKVEntry) := fun _ => none
  /-- the writes, with whether they have returned -/
  calls : List (ℕ × Bool) := []
  /-- the writes that went through -/
  done : List (ℕ × Bool) := []

inductive Action (σ : Type) where
  | get (i : ℕ) (env : KvEnv)
  | write (i : ℕ) (env : KvEnv)
  /-- anything else that happens at the server: versions may be appended -/
  | server (store : σ)

section

variable {c : KvWriter σ} (H : KvHistory c) (key : String) (f : ℕ → Option Bytes → Bytes)

/-- A write of the writer `i`, which computes `f i value`. -/
def State.write (s : State σ) (i : ℕ) (env : KvEnv) (entry : Option NatsKVEntry) : State σ :=
  let (res, store) := writeBack c env key entry (f i (entry.map NatsKVEntry.bytes)) s.store
  { s with
    store
    calls := s.calls ++ [(i, res.isOk)]
    done :=
      if H.ofKey key store = H.ofKey key s.store then s.done else s.done ++ [(i, res.isOk)] }

def step (s : State σ) : Action σ → Option (State σ)
  | .get i env =>
      match get c.toKvClient env key s.store with
      | .ok entry => some { s with got := Function.update s.got i (some entry) }
      | .error _ => some s
  | .write i env => (s.got i).map (s.write H key f i env)
  | .server store =>
      if H.ofKey key s.store <+: H.ofKey key store then some { s with store } else none

def system (store : σ) : TransitionSystem (State σ) (Action σ) := ⟨{ store }, step H key f⟩

end

/-! ## What an entry tells -/

/-- The reading that an entry is, after the conversions of `nats_kv_entry_to_hash()` and of the
    arguments of `update()`. -/
def readingOf : Option NatsKVEntry → Reading UInt64 Bytes
  | none => .absent
  | some entry => .found entry.revision.toUInt64 entry.bytes

@[simp] theorem seen_readingOf (entry : Option NatsKVEntry) :
    (readingOf entry).seen = entry.map NatsKVEntry.bytes := by
  cases entry <;> rfl

section

variable {c : KvWriter σ} {H : KvHistory c} {key : String}

/-- `get()` hands out the version that the C client has answered with. -/
theorem readingOf_get {env : KvEnv} {s : σ} {entry : Option NatsKVEntry}
    (h : get c.toKvClient env key s = .ok entry) : (readingOf entry).Of (H.ofKey key s) := by
  unfold get at h
  split at h
  · cases h
  · split at h
    · cases h; trivial
    · cases h
    · next e hget =>
        split at h
        · cases h
        · cases h
          have hversion := H.get s (CString.add key) e hget
          have hvalue : (kvEntryToHash e).bytes = e.value := by
            rw [NatsKVEntry.bytes, value_kvEntryToHash]
            exact readValue_iff.2 (H.fits _ _ _ _ hversion)
          have hrev : (kvEntryToHash e).revision.toUInt64 = e.revision :=
            UInt64.toUInt64_toInt64 e.revision
          rw [readingOf, Reading.Of, hvalue, hrev]
          exact hversion

/-! ## What a write does -/

/-- A write does nothing, and the call raises an exception, or it replaces the value that the entry
    showed. -/
inductive Writes (H : KvHistory c) (key : String) (entry : Option NatsKVEntry) (data : Bytes)
    (s s' : σ) : Bool → Prop where
  | nothing (h : H.ofKey key s' = H.ofKey key s) : Writes H key entry data s s' false
  | value {rev told} (hadmits : (readingOf entry).Admits (H.ofKey key s))
      (h : H.ofKey key s' = H.ofKey key s ++ [⟨some rev, some data⟩]) :
      Writes H key entry data s s' told

theorem writes_of_stores {entry : Option NatsKVEntry} {data : Bytes} {s s' : σ} {admitted : Prop}
    {res : Except String UInt64} (hfits : FitsLength data)
    (hadmits : admitted → (readingOf entry).Admits (H.ofKey key s))
    (h : Stores (H.ofKey key s) (H.ofKey key s') admitted data (Int32.ofNat data.length) res) :
    Writes H key entry data s s' res.isOk := by
  cases h with
  | refused h => exact .nothing h
  | stored hadmitted _ h =>
      rw [CArray.toInt_length hfits, Int.toNat_natCast, List.take_length] at h
      exact .value (hadmits hadmitted) h

/-- A call that stores a value does what it has the C client do, or nothing. -/
theorem writes_storeValue {env : KvEnv} {desc : String} {call : σ → Except String UInt64 × σ}
    {entry : Option NatsKVEntry} {data : Bytes} {s : σ}
    (h : Writes H key entry data s (call s).2 (call s).1.isOk) :
    Writes H key entry data s (storeValue env desc call s).2
      (storeValue env desc call s).1.isOk := by
  unfold storeValue
  split
  · exact .nothing rfl
  · rcases hcall : call s with ⟨rev | text, s'⟩
    · rwa [hcall] at h
    · rwa [hcall] at h

theorem writes_writeBack (env : KvEnv) {entry : Option NatsKVEntry} {data : Bytes} {s : σ}
    (hof : (readingOf entry).Of (H.ofKey key s)) (hfits : FitsLength data) :
    Writes H key entry data s (writeBack c env key entry data s).2
      (writeBack c env key entry data s).1.isOk := by
  cases entry with
  | none =>
      refine writes_storeValue (writes_of_stores hfits (fun hnone => ?_)
        (H.create s (CString.add key) data _ _ _ rfl))
      exact hnone
  | some entry =>
      refine writes_storeValue (writes_of_stores hfits (fun hadmitted => ?_)
        (H.update s (CString.add key) data _ entry.revision.toUInt64 _ _ rfl))
      -- the version that was got is there
      refine hadmitted.resolve_right fun hnone => ?_
      have hmem : _ ∈ H.versions s (CString.add key) := hof
      rw [hnone.1] at hmem
      cases hmem

/-! ## The writes are those of a register -/

/-- Every entry that a writer has got is a version of the key. -/
def GotVersions (H : KvHistory c) (key : String) (s : State σ) : Prop :=
  ∀ i entry, s.got i = some entry → (readingOf entry).Of (H.ofKey key s.store)

theorem GotVersions.of_isPrefix {s s' : State σ} (h : GotVersions H key s) (hgot : s'.got = s.got)
    (hle : H.ofKey key s.store <+: H.ofKey key s'.store) : GotVersions H key s' :=
  fun i entry hi => (h i entry (hgot ▸ hi)).of_isPrefix hle

/-- What a write leaves of the state `s`. -/
inductive WriteStep (H : KvHistory c) (key : String) (f : ℕ → Option Bytes → Bytes) (s : State σ)
    (i : ℕ) (entry : Option NatsKVEntry) (s' : State σ) : Prop where
  | nothing (h : H.ofKey key s'.store = H.ofKey key s.store) (hgot : s'.got = s.got)
      (hcalls : s'.calls = s.calls ++ [(i, false)]) (hdone : s'.done = s.done)
  | through {rev told} (hadmits : (readingOf entry).Admits (H.ofKey key s.store))
      (h : H.ofKey key s'.store =
        H.ofKey key s.store ++ [⟨some rev, some (f i (entry.map NatsKVEntry.bytes))⟩])
      (hgot : s'.got = s.got) (hcalls : s'.calls = s.calls ++ [(i, told)])
      (hdone : s'.done = s.done ++ [(i, told)])

theorem writeStep {f : ℕ → Option Bytes → Bytes} (hfits : ∀ i value, FitsLength (f i value))
    {s : State σ} {i : ℕ} (env : KvEnv) {entry : Option NatsKVEntry}
    (hof : (readingOf entry).Of (H.ofKey key s.store)) :
    WriteStep H key f s i entry (s.write H key f i env entry) := by
  have h := writes_writeBack env hof (hfits i (entry.map NatsKVEntry.bytes))
  generalize htold : (writeBack c env key entry (f i (entry.map NatsKVEntry.bytes))
    s.store).1.isOk = told at h
  cases h with
  | nothing h => exact .nothing h rfl (by simp [State.write, htold]) (by simp [State.write, h])
  | value hadmits h =>
      have hcalls : (s.write H key f i env entry).calls = s.calls ++ [(i, told)] := by
        simp [State.write, htold]
      exact .through hadmits h rfl hcalls (by simp [State.write, h, htold])

theorem WriteStep.grows {f : ℕ → Option Bytes → Bytes} {s s' : State σ} {i : ℕ}
    {entry : Option NatsKVEntry} (h : WriteStep H key f s i entry s') :
    s'.got = s.got ∧ H.ofKey key s.store <+: H.ofKey key s'.store := by
  cases h with
  | nothing h hgot => exact ⟨hgot, h ▸ List.prefix_refl _⟩
  | through _ h hgot => exact ⟨hgot, h ▸ List.prefix_append _ _⟩

/-- The steps of the system. -/
inductive Step (H : KvHistory c) (key : String) (f : ℕ → Option Bytes → Bytes) (s : State σ) :
    Action σ → State σ → Prop where
  | get {i env entry} (hof : (readingOf entry).Of (H.ofKey key s.store)) :
      Step H key f s (.get i env) { s with got := Function.update s.got i (some entry) }
  | getFails {i env} : Step H key f s (.get i env) s
  | write {i env entry} (hgot : s.got i = some entry) :
      Step H key f s (.write i env) (s.write H key f i env entry)
  | server {store} (hle : H.ofKey key s.store <+: H.ofKey key store) :
      Step H key f s (.server store) { s with store }

theorem step_cases {f : ℕ → Option Bytes → Bytes} {s s' : State σ} {a : Action σ}
    (h : step H key f s a = some s') : Step H key f s a s' := by
  cases a with
  | get i env =>
      simp only [step] at h
      split at h
      · next entry hget =>
          obtain rfl := Option.some.inj h
          exact .get (readingOf_get hget)
      · obtain rfl := Option.some.inj h
        exact .getFails
  | write i env =>
      obtain ⟨entry, hgot, rfl⟩ := Option.map_eq_some_iff.1 h
      exact .write hgot
  | server store =>
      simp only [step] at h
      split at h
      · next hle =>
          obtain rfl := Option.some.inj h
          exact .server hle
      · cases h

theorem gotVersions_step {f : ℕ → Option Bytes → Bytes} (hfits : ∀ i value, FitsLength (f i value))
    {s s' : State σ} {a : Action σ} (h : GotVersions H key s) (hs : Step H key f s a s') :
    GotVersions H key s' := by
  cases hs with
  | getFails => exact h
  | server hle => exact h.of_isPrefix rfl hle
  | write hgot =>
      obtain ⟨hsame, hle⟩ := (writeStep hfits _ (h _ _ hgot)).grows
      exact h.of_isPrefix hsame hle
  | @get i env entry hof =>
      intro j entry' hj
      replace hj : Function.update s.got i (some entry) j = some entry' := hj
      by_cases hij : j = i
      · rw [hij, Function.update_self] at hj
        cases hj
        exact hof
      · rw [Function.update_of_ne hij] at hj
        exact h j entry' hj

/-- What happens to the register. -/
def changes (H : KvHistory c) (key : String) (f : ℕ → Option Bytes → Bytes) (s : State σ) :
    Action σ → List (Change Bytes)
  | .get _ _ => []
  | .write i env =>
      (s.got i).elim [] fun entry =>
        ((s.write H key f i env entry).done.drop s.done.length).map fun call =>
          .modify call.1 call.2
  | .server store => [.overwrite (current (H.ofKey key store))]

/-- What the key is, with its concurrent writers: a register that reads and writes in one step. -/
def refinement (H : KvHistory c) (key : String) (f : ℕ → Option Bytes → Bytes)
    (hfits : ∀ i value, FitsLength (f i value)) (store : σ) :
    (system H key f store).Refinement (register f (current (H.ofKey key store))) where
  inv := GotVersions H key
  abs s := ⟨current (H.ofKey key s.store), s.done⟩
  acts := changes H key f
  inv_init i entry h := by cases h
  inv_step _ _ _ h hs := gotVersions_step hfits h (step_cases hs)
  init := rfl
  step s a s' h hs := by
    cases step_cases hs with
    | get | getFails | server => rfl
    | @write i env entry hgot =>
        have hof := h i entry hgot
        simp only [changes, hgot, Option.elim_some]
        cases writeStep hfits env hof with
        | nothing hsame _ _ hdone =>
            rw [hdone, List.drop_length, hsame]
            rfl
        | through hadmits happend _ _ hdone =>
            have hcurrent := current_eq_of_admits (H.distinct _ _) hof hadmits
            rw [seen_readingOf] at hcurrent
            rw [hdone, List.drop_left, happend, current_append_singleton, ← hcurrent]
            rfl

/-! ## The calls and the writes -/

/-- The writes that went through are among the calls, and all of them that have returned. -/
structure Accounted (s : State σ) : Prop where
  sublist : s.done.Sublist s.calls
  told : s.done.filter Prod.snd = s.calls.filter Prod.snd

theorem accounted_step {f : ℕ → Option Bytes → Bytes} (hfits : ∀ i value, FitsLength (f i value))
    {s s' : State σ} {a : Action σ} (hgot : GotVersions H key s) (h : Accounted s)
    (hs : Step H key f s a s') : Accounted s' := by
  cases hs with
  | get | getFails | server => exact ⟨h.sublist, h.told⟩
  | @write i env entry hentry =>
      cases writeStep hfits env (hgot _ _ hentry) with
      | nothing _ _ hcalls hdone =>
          refine ⟨?_, ?_⟩
          · rw [hcalls, hdone]
            exact h.sublist.trans (List.sublist_append_left _ _)
          · rw [hcalls, hdone, List.filter_append, h.told]
            simp
      | through _ _ _ hcalls hdone =>
          refine ⟨?_, ?_⟩
          · rw [hcalls, hdone]
            exact h.sublist.append (List.Sublist.refl _)
          · rw [hcalls, hdone, List.filter_append, List.filter_append, h.told]

/-- The step changes no version of the key other than by a write. -/
def Undisturbed (H : KvHistory c) (key : String) (s : State σ) : Action σ → Prop
  | .server store => H.ofKey key store = H.ofKey key s.store
  | _ => True

theorem foldWrites_step {f : ℕ → Option Bytes → Bytes} (hfits : ∀ i value, FitsLength (f i value))
    {s s' : State σ} {a : Action σ} {first : Option Bytes} (hgot : GotVersions H key s)
    (h : current (H.ofKey key s.store) = foldWrites f first s.done)
    (halone : Undisturbed H key s a) (hs : Step H key f s a s') :
    current (H.ofKey key s'.store) = foldWrites f first s'.done := by
  cases hs with
  | get | getFails => exact h
  | server =>
      show current _ = _
      rw [halone, h]
  | @write i env entry hentry =>
      have hof := hgot _ _ hentry
      cases writeStep hfits env hof with
      | nothing hsame _ _ hdone => rw [hsame, hdone, h]
      | through hadmits happend _ _ hdone =>
          have hcurrent := current_eq_of_admits (H.distinct _ _) hof hadmits
          rw [seen_readingOf] at hcurrent
          rw [happend, current_append_singleton, hdone, foldWrites_append_singleton, ← h,
            ← hcurrent]
          rfl

/-- Whatever the order of the calls, and however old the entries are: the value of the key is that
    of a register that each write which goes through reads and changes in one step. A call that
    returns has written once, and one that raises an exception at most once. Unless another party
    changes the key, its value is the one that these writes make of the first value. -/
theorem key_updates_are_atomic (H : KvHistory c) (key : String) (f : ℕ → Option Bytes → Bytes)
    (hfits : ∀ i value, FitsLength (f i value)) (store : σ)
    (run : (system H key f store).Run) :
    (∃ q : (register f (current (H.ofKey key store))).Run,
      q.final = ⟨current (H.ofKey key run.final.store), run.final.done⟩) ∧
    run.final.done.Sublist run.final.calls ∧
    run.final.done.filter Prod.snd = run.final.calls.filter Prod.snd ∧
    (run.All (Undisturbed H key) → current (H.ofKey key run.final.store) =
      foldWrites f (current (H.ofKey key store)) run.final.done) := by
  have haccounted := (run.invariant (I := fun s => GotVersions H key s ∧ Accounted s)
    ⟨(refinement H key f hfits store).inv_init, List.Sublist.refl _, rfl⟩
    fun _ _ _ ⟨hgot, h⟩ hs => ⟨gotVersions_step hfits hgot (step_cases hs),
      accounted_step hfits hgot h (step_cases hs)⟩).2
  refine ⟨(refinement H key f hfits store).exists_run run, haccounted.sublist, haccounted.told, ?_⟩
  intro halone
  exact (run.invariant_of_all (I := fun s => GotVersions H key s ∧
      current (H.ofKey key s.store) = foldWrites f (current (H.ofKey key store)) s.done)
    ⟨(refinement H key f hfits store).inv_init, rfl⟩
    (fun _ _ _ ⟨hgot, h⟩ halone hs => ⟨gotVersions_step hfits hgot (step_cases hs),
      foldWrites_step hfits hgot h halone (step_cases hs)⟩) halone).2

end

/-! ## A bucket in memory -/

/-- The versions of the keys. -/
structure Bucket where
  versions : CString → History UInt64 Bytes
  distinct : ∀ key, Distinct (versions key)
  fits : ∀ key rev value, ⟨rev, some value⟩ ∈ versions key → FitsLength value

namespace Bucket

instance (h : History UInt64 Bytes) : Decidable (Distinct h) :=
  inferInstanceAs (Decidable (List.Nodup _))

def empty : Bucket where
  versions _ := []
  distinct _ := List.nodup_nil
  fits _ _ _ h := by cases h

/-- The versions of a key with one more. -/
def append (b : Bucket) (key : CString) (rev : UInt64) (value : Bytes)
    (hdistinct : Distinct (b.versions key ++ [⟨some rev, some value⟩]))
    (hfits : FitsLength value) : Bucket where
  versions := Function.update b.versions key (b.versions key ++ [⟨some rev, some value⟩])
  distinct key' := by
    by_cases hkey : key' = key
    · subst hkey
      rwa [Function.update_self]
    · rw [Function.update_of_ne hkey]
      exact b.distinct key'
  fits key' rev' value' hmem := by
    by_cases hkey : key' = key
    · subst hkey
      rw [Function.update_self] at hmem
      rcases List.mem_append.1 hmem with hold | hnew
      · exact b.fits key' rev' value' hold
      · obtain ⟨-, hvalue⟩ := Version.mk.inj (List.mem_singleton.1 hnew)
        rwa [Option.some.inj hvalue]
    · rw [Function.update_of_ne hkey] at hmem
      exact b.fits key' rev' value' hmem

theorem fitsLength_take (data : Bytes) (len : Int32) :
    FitsLength (data.take len.toInt.toNat) := by
  have hle : len.toInt ≤ Int32.maxValue.toInt := Int32.toInt_le _
  have hlength := List.length_take_le len.toInt.toNat data
  rw [Int32.toInt_maxValue] at hle
  rw [FitsLength, Int32.toInt_maxValue]
  omega

/-- A write of a message, if it is admitted. -/
def write (admitted : Bool) (key : CString) (data : Bytes) (len : Int32) (b : Bucket) :
    Except String UInt64 × Bucket :=
  let rev := UInt64.ofNat ((b.versions key).length + 1)
  if h : Distinct (b.versions key ++ [⟨some rev, some (data.take len.toInt.toNat)⟩]) then
    if admitted = true ∧ 0 ≤ len.toInt then
      (.ok rev, b.append key rev (data.take len.toInt.toNat) h (fitsLength_take data len))
    else (.error "Error", b)
  else (.error "Error", b)

theorem stores_write {admitted : Bool} {key : CString} {data : Bytes} {len : Int32} {b b' : Bucket}
    {res : Except String UInt64} (h : write admitted key data len b = (res, b')) :
    Stores (b.versions key) (b'.versions key) (admitted = true) data len res := by
  unfold write at h
  dsimp only at h
  split at h
  · split at h
    · next hdistinct hadmitted =>
        cases h
        refine .stored hadmitted.1 hadmitted.2 (Function.update_self _ _ _) fun rev' hrev => ?_
        exact (Except.ok.inj hrev).symm
    · cases h
      exact .refused rfl
  · cases h
    exact .refused rfl

/-- The newest version of a key. -/
def read (key : CString) (b : Bucket) : Except GetFailure KvEntry :=
  match (b.versions key).getLast? with
  | some ⟨some rev, some value⟩ => .ok ⟨some "bucket", some key.text, value, rev, 0, 0⟩
  | _ => .error .notFound

/-- The revision of the last version, or 0. -/
def lastRev (key : CString) (b : Bucket) : Option UInt64 :=
  if b.versions key = [] then some 0 else (b.versions key).getLast?.bind Version.rev

def writer : KvWriter Bucket where
  put key data len := write true key data len
  putString key data := write true key (data.takeWhile (· != 0))
    (Int32.ofNat (data.takeWhile (· != 0)).length)
  get := read
  create key data len b := write (current (b.versions key) == none) key data len b
  update key data len rev b := write (b.lastRev key == some rev) key data len b

def history : KvHistory writer where
  versions := versions
  distinct := distinct
  fits := fits
  get b key e h := by
    simp only [writer, read] at h
    split at h
    · next rev value hlast =>
        cases h
        exact List.mem_of_getLast? hlast
    · cases h
  create b key data len res b' h := by
    have hstores := stores_write h
    rwa [beq_iff_eq] at hstores
  update b key data len rev res b' h := by
    cases stores_write h with
    | refused hsame => exact .refused hsame
    | stored hadmitted hlen happend hres =>
        refine .stored ?_ hlen happend hres
        rw [beq_iff_eq, lastRev] at hadmitted
        split at hadmitted
        · next hnone => exact .inr ⟨hnone, (Option.some.inj hadmitted).symm⟩
        · exact .inl hadmitted

end Bucket

/-- A counter of one byte. -/
def count (_ : ℕ) (value : Option Bytes) : Bytes := [(value.bind List.head?).elim 0 id + 1]

/-- Two threads count at the same time: the second one has to get the entry again. -/
def countActs : List (Action Bucket) :=
  [.get 0 quietEnv, .get 1 quietEnv, .write 0 quietEnv, .write 1 quietEnv, .get 1 quietEnv,
    .write 1 quietEnv]

def countRun : (system Bucket.history "key" count Bucket.empty).Run :=
  (system Bucket.history "key" count Bucket.empty).runOf countActs (by decide +kernel)

theorem key_updates_are_atomic_count :
    current (Bucket.history.ofKey "key" countRun.final.store) =
        foldWrites count none countRun.final.done ∧
      countRun.final.calls = [(0, true), (1, false), (1, true)] ∧
      countRun.final.done = [(0, true), (1, true)] := by
  have hfits : ∀ i value, FitsLength (count i value) := fun _ _ => show (1 : ℤ) ≤ _ by decide
  have hatomic := key_updates_are_atomic Bucket.history "key" count hfits Bucket.empty countRun
  refine ⟨hatomic.2.2.2 ?_, by decide +kernel, by decide +kernel⟩
  rintro s a s' ⟨before, after, hacts, -, -⟩
  have hmem : a ∈ countActs := by
    have hall : a ∈ before ++ a :: after := by simp
    rwa [← hacts] at hall
  cases a with
  | server store => simp [countActs] at hmem
  | _ => trivial

end Writers

end ModuleNats.KVStore
