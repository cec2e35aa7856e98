import Mathlib.Data.List.AList
import ModuleNats.DataProvider.Payload
import ModuleNats.JetStream.Values
import ModuleNats.Lib.Custody

set_option autoImplicit false

/-! # Messages on both sides of the C client

`publishMsg()` makes a message of the C client from a subject, binary data and a hash of headers;
`nats_msg_to_hash()` makes a hash of a received message. Both hold an object that has to be
released on every way out: the message, and the array of the header keys.

`publishMsg_round_trip` says that they do, and for which messages the hash that a receiver gets is
what the sender has published. -/

namespace ModuleNats

open Custody Custody.Prog
open DataProvider (Bytes)
open CArray (FitsLength)

/-! ## Maps -/

section Maps

variable {κ ν : Type} [DecidableEq κ]

/-- Every entry is set, one after the other. -/
def setAll (entries : List (κ × ν)) (m : AList fun _ : κ => ν) : AList fun _ : κ => ν :=
  entries.foldl (fun m e => m.insert e.1 e.2) m

theorem mem_of_lookup_setAll {entries : List (κ × ν)} {m : AList fun _ : κ => ν} {k : κ} {v : ν}
    (h : (setAll entries m).lookup k = some v) : (k, v) ∈ entries ∨ m.lookup k = some v := by
  induction entries generalizing m with
  | nil => exact .inr h
  | cons e rest ih =>
      rcases ih h with hrest | hinsert
      · exact .inl (List.mem_cons_of_mem _ hrest)
      · by_cases hk : k = e.1
        · subst hk
          rw [AList.lookup_insert] at hinsert
          exact .inl (by simp [← Option.some.inj hinsert])
        · rw [AList.lookup_insert_ne hk] at hinsert
          exact .inr hinsert

theorem lookup_setAll_of_not_mem {entries : List (κ × ν)} {m : AList fun _ : κ => ν} {k : κ}
    (h : k ∉ entries.map Prod.fst) : (setAll entries m).lookup k = m.lookup k := by
  induction entries generalizing m with
  | nil => rfl
  | cons e rest ih =>
      rw [List.map_cons, List.mem_cons, not_or] at h
      exact (ih h.2).trans (AList.lookup_insert_ne h.1)

theorem lookup_setAll_of_mem {entries : List (κ × ν)} (hnodup : (entries.map Prod.fst).Nodup)
    {m : AList fun _ : κ => ν} {k : κ} {v : ν} (h : (k, v) ∈ entries) :
    (setAll entries m).lookup k = some v := by
  induction entries generalizing m with
  | nil => cases h
  | cons e rest ih =>
      obtain ⟨hnot, hrest⟩ := List.nodup_cons.1 hnodup
      rcases List.mem_cons.1 h with rfl | h
      · exact (lookup_setAll_of_not_mem hnot).trans (AList.lookup_insert m)
      · exact ih hrest h

theorem lookup_setAll_empty {entries : List (κ × ν)} (hnodup : (entries.map Prod.fst).Nodup)
    {k : κ} {v : ν} :
    (setAll entries (∅ : AList fun _ : κ => ν)).lookup k = some v ↔ (k, v) ∈ entries := by
  refine ⟨fun h => ?_, lookup_setAll_of_mem hnodup⟩
  rcases mem_of_lookup_setAll h with hmem | hempty
  · exact hmem
  · rw [AList.lookup_empty] at hempty
    cases hempty

theorem mem_setAll {entries : List (κ × ν)} {m : AList fun _ : κ => ν} {k : κ} (h : k ∈ m) :
    k ∈ setAll entries m := by
  induction entries generalizing m with
  | nil => exact h
  | cons e rest ih => exact ih ((AList.mem_insert m).2 (.inr h))

theorem keys_setAll_eq_nil {entries : List (κ × ν)} :
    (setAll entries (∅ : AList fun _ : κ => ν)).keys = [] ↔ entries = [] := by
  cases entries with
  | nil => exact iff_of_true rfl rfl
  | cons e rest =>
      refine iff_of_false (fun h => ?_) (List.cons_ne_nil _ _)
      have hmem : e.1 ∈ setAll rest ((∅ : AList fun _ : κ => ν).insert e.1 e.2) :=
        mem_setAll ((AList.mem_insert _).2 (.inl rfl))
      have hkeys : e.1 ∈ (setAll (e :: rest) (∅ : AList fun _ : κ => ν)).keys := hmem
      rw [h] at hkeys
      cases hkeys

end Maps

/-! ## Messages -/

/-- A Qore hash of strings. -/
abbrev StringHash := AList fun _ : String => String

/-- The headers of a message; a key has one value. -/
abbrev MsgHeaders := AList fun _ : CString => CString

/-- What a `natsMsg` consists of. -/
structure MsgContent where
  subject : CString
  reply : Option CString
  data : Bytes
  headers : MsgHeaders

/-- `NatsMsgInfo`. -/
structure NatsMsgInfo where
  subject : Option String
  data : Option Bytes
  reply : Option String
  headers : Option StringHash

/-! ## Publishing -/

/-- The functions of the C client that `publishMsg()` calls; a status that is not `NATS_OK` is its
    text. -/
structure PublishClient where
  /-- `natsMsg_Create()`, without a reply subject -/
  create : CString → Bytes → Int32 → Except String MsgContent
  /-- `natsMsgHeader_Set()` -/
  headerSet : MsgContent → CString → CString → Except String MsgContent
  /-- `natsConnection_PublishMsg()` -/
  publishMsg : MsgContent → Except String Unit

/-- The documented behaviour: a new message has the given number of bytes, and no headers; a header
    that is set replaces the one with its key. -/
structure PublishClient.Documented (c : PublishClient) : Prop where
  create : ∀ subject data len m, c.create subject data len = .ok m →
    m = ⟨subject, none, data.take len.toInt.toNat, ∅⟩
  headerSet : ∀ m key value m', c.headerSet m key value = .ok m' →
    m' = { m with headers := m.headers.insert key value }

def publishError (desc statusText : String) : ExceptionInfo :=
  natsError "NATS-PUBLISH-ERROR" desc statusText

/-- The loop over the headers, from the message with the headers that are set already. -/
def setHeaders (c : PublishClient) (msg : ℕ) :
    List (String × String) → MsgContent → Prog ExceptionInfo MsgContent
  | [], m => pure m
  | (key, value) :: rest, m => do
      use msg
      match c.headerSet m (CString.add key) (CString.add value) with
      | .error statusText =>
          raise (publishError ("failed to set header '" ++ (CString.add key).text ++ "'")
            statusText)
      | .ok m' => setHeaders c msg rest m'

/-- The entries of a hash, in its order. -/
def StringHash.toPairs (h : StringHash) : List (String × String) :=
  h.entries.map fun e => (e.1, e.2)

/-- `NatsConnection::publishMsg()` and `QoreNatsConnection::publishMsg()`; the value is the message
    that the C client has taken. -/
def publishMsg (c : PublishClient) (connected : Bool) (subject : String) (data : Option Bytes)
    (headers : Option StringHash) : Prog ExceptionInfo MsgContent :=
  if !connected then raise ⟨"NATS-PUBLISH-ERROR", "not connected"⟩
  else do
    call
    let payload := data.getD []
    match c.create (CString.add subject) payload (Int32.ofNat payload.length) with
    | .error statusText => raise (publishError "failed to create message" statusText)
    | .ok m =>
        let msg ← acquire
        releasing msg do
          let m ← setHeaders c msg ((headers.map StringHash.toPairs).getD []) m
          use msg
          match c.publishMsg m with
          | .error statusText => raise (publishError
              ("failed to publish message to subject '" ++ (CString.add subject).text ++ "'")
              statusText)
          | .ok () => pure m

/-! ## Receiving -/

/-- What the C client answers about a message. -/
structure NatsMsgView where
  subject : Option CString
  /-- `natsMsg_GetData()`, which can be `NULL` -/
  data : Option Bytes
  dataLength : Int32
  reply : Option CString
  /-- `natsMsgHeader_Keys()`: whether the status is `NATS_OK`, and the array, if there is one -/
  headerKeys : Bool × Option (List CString)
  /-- `natsMsgHeader_Get()`: the value, if the status is `NATS_OK` and there is one -/
  headerGet : CString → Option CString

/-- `data && data_len > 0` -/
def NatsMsgView.readData (m : NatsMsgView) : Option Bytes :=
  if 0 < m.dataLength.toInt then m.data.map (·.take m.dataLength.toInt.toNat) else none

/-- The loop over the header keys. -/
def readHeaders (m : NatsMsgView) (keys : ℕ) :
    List CString → StringHash → Prog ExceptionInfo StringHash
  | [], headers => do
      release keys
      pure headers
  | key :: rest, headers => do
      use keys
      match m.headerGet key with
      | none => readHeaders m keys rest headers
      | some value => do
          let raised ← attempt
          match raised with
          | some ex => do
              release keys
              raise ex
          | none => readHeaders m keys rest (headers.insert key.text value.text)

def headersToHash (m : NatsMsgView) : Prog ExceptionInfo (Option StringHash) :=
  match m.headerKeys with
  | (true, some (key :: rest)) => do
      let keys ← acquire
      let headers ← readHeaders m keys (key :: rest) ∅
      call
      pure (some headers)
  | (_, some _) => do
      let keys ← acquire
      release keys
      pure none
  | (_, none) => pure none

/-- `nats_msg_to_hash()` -/
def natsMsgToHash (m : NatsMsgView) : Prog ExceptionInfo NatsMsgInfo := do
  call
  callWhen m.subject.isSome
  callWhen m.readData.isSome
  callWhen m.reply.isSome
  let headers ← headersToHash m
  pure ⟨m.subject.map CString.text, m.readData, m.reply.map CString.text, headers⟩

/-- The answers of the C client about a message with this content; the order of the keys is not
    documented. -/
structure NatsMsgView.Shows (v : NatsMsgView) (m : MsgContent) : Prop where
  subject : v.subject = some m.subject
  data : v.data = some m.data
  dataLength : v.dataLength = Int32.ofNat m.data.length
  reply : v.reply = m.reply
  headerKeys : if m.headers.keys = [] then v.headerKeys = (false, none)
    else ∃ keys, v.headerKeys = (true, some keys) ∧ keys.Perm m.headers.keys
  headerGet : ∀ key, v.headerGet key = m.headers.lookup key

/-! ## What is released -/

section Custody

variable {raises : ℕ → Option ExceptionInfo}

/-- The headers that the loop comes to. -/
def headerEntries (m : NatsMsgView) (keys : List CString) : List (String × String) :=
  keys.filterMap fun key => (m.headerGet key).map fun value => (key.text, value.text)

theorem readHeaders_spec (m : NatsMsgView) (keys : ℕ) (rest : List CString) (headers : StringHash)
    {own : ExceptionInfo → Prop} :
    Triple raises [keys] (readHeaders m keys rest headers) (fun _ => [])
      (fun h => h = setAll (headerEntries m rest) headers) [] own := by
  induction rest generalizing headers with
  | nil => exact Triple.release (Triple.pure (fun _ => []) headers rfl)
  | cons key rest ih =>
      refine Triple.use (by simp) ?_
      cases hget : m.headerGet key with
      | none =>
          exact (ih headers).mono (fun h hh => by simp [hh, headerEntries, hget]) fun _ hx => hx
      | some value =>
          refine Triple.attempt fun raised hraised => ?_
          cases raised with
          | some ex => exact Triple.release (Triple.raise (.inl (hraised ex rfl)))
          | none =>
              refine (ih _).mono (fun h hh => ?_) fun _ hx => hx
              simp [hh, headerEntries, hget, setAll]

/-- The headers in the hash of a message: none without an array of keys, or with an empty one. -/
def NatsMsgView.readKeys (m : NatsMsgView) : Option (List CString) :=
  match m.headerKeys with
  | (true, some (key :: rest)) => some (key :: rest)
  | _ => none

theorem headersToHash_spec (m : NatsMsgView) {own : ExceptionInfo → Prop} :
    Triple raises [] (headersToHash m) (fun _ => [])
      (fun h => h = m.readKeys.map fun keys => setAll (headerEntries m keys) ∅) [] own := by
  unfold headersToHash NatsMsgView.readKeys
  have hempty : Triple raises [] (do
      let keys ← acquire
      release keys
      pure none) (fun _ => []) (fun h : Option StringHash => h = none) [] own :=
    Triple.acquire fun keys => Triple.release (Triple.pure (fun _ => []) none rfl)
  rcases m.headerKeys with ⟨_ | _, _ | _ | ⟨key, rest⟩⟩
  · exact Triple.pure (fun _ => []) none rfl
  · exact hempty
  · exact hempty
  · exact Triple.pure (fun _ => []) none rfl
  · exact hempty
  · refine Triple.acquire fun keys => (readHeaders_spec m keys (key :: rest) ∅).bind fun h hh => ?_
    exact Triple.call (Triple.pure (fun _ => []) (some h) (by rw [hh]; rfl))

/-- The hash that is made of the answers. -/
def NatsMsgView.info (m : NatsMsgView) : NatsMsgInfo where
  subject := m.subject.map CString.text
  data := m.readData
  reply := m.reply.map CString.text
  headers := m.readKeys.map fun keys => setAll (headerEntries m keys) ∅

theorem natsMsgToHash_spec (m : NatsMsgView) (held : List ℕ) {own : ExceptionInfo → Prop} :
    Triple raises held (natsMsgToHash m) (fun _ => held) (fun info => info = m.info) held own := by
  refine Triple.call (Triple.callWhen _ (Triple.callWhen _ (Triple.callWhen _ ?_)))
  refine (headersToHash_spec m).frame.bind fun headers hheaders => ?_
  exact Triple.pure (fun _ => held) _ (by rw [hheaders]; rfl)

/-- The headers of a message that has the entries of a hash. -/
def cHeaders (pairs : List (String × String)) : List (CString × CString) :=
  pairs.map fun e => (CString.add e.1, CString.add e.2)

theorem setHeaders_spec {c : PublishClient} (hdoc : c.Documented) (msg : ℕ)
    (pairs : List (String × String)) (m : MsgContent) :
    Triple raises [msg] (setHeaders c msg pairs m) (fun _ => [msg])
      (fun m' => m' = { m with headers := setAll (cHeaders pairs) m.headers }) [msg]
      (fun ex => ex.err = "NATS-PUBLISH-ERROR") := by
  induction pairs generalizing m with
  | nil => exact Triple.pure (fun _ => [msg]) m rfl
  | cons pair rest ih =>
      obtain ⟨key, value⟩ := pair
      refine Triple.use (by simp) ?_
      cases hset : c.headerSet m (CString.add key) (CString.add value) with
      | error statusText => exact Triple.raise (.inr rfl)
      | ok m' =>
          obtain rfl := hdoc.headerSet _ _ _ _ hset
          exact ih _

/-- The message of the C client for a subject, data and headers. -/
def published (subject : String) (data : Option Bytes) (headers : Option StringHash) :
    MsgContent where
  subject := CString.add subject
  reply := none
  data := (data.getD []).take (Int32.ofNat (data.getD []).length).toInt.toNat
  headers := setAll (cHeaders ((headers.map StringHash.toPairs).getD [])) ∅

theorem publishMsg_spec {c : PublishClient} (hdoc : c.Documented) (connected : Bool)
    (subject : String) (data : Option Bytes) (headers : Option StringHash) :
    Triple raises [] (publishMsg c connected subject data headers) (fun _ => [])
      (fun m => m = published subject data headers) []
      (fun ex => ex.err = "NATS-PUBLISH-ERROR") := by
  unfold publishMsg
  cases connected with
  | false => exact Triple.raise (.inr rfl)
  | true =>
      refine Triple.call ?_
      dsimp only
      split
      · exact Triple.raise (.inr rfl)
      · next m hcreate =>
          obtain rfl := hdoc.create _ _ _ _ hcreate
          refine Triple.acquire fun msg => Triple.releasing ?_
          refine (setHeaders_spec hdoc msg _ _).bind fun m hm => Triple.use (by simp) ?_
          split
          · exact Triple.raise (.inr rfl)
          · exact Triple.pure (fun _ => [msg]) m hm

end Custody

/-! ## The round trip -/

/-- The hash has the subject, the data and the headers that were published, and no reply subject. -/
structure SameMessage (subject : String) (data : Option Bytes) (headers : Option StringHash)
    (info : NatsMsgInfo) : Prop where
  subject : info.subject = some subject
  data : info.data = data
  reply : info.reply = none
  headers : ∀ k, info.headers.map (·.lookup k) = headers.map (·.lookup k)

/-- Messages that are carried as they are: nothing is cut off at a NUL, the length of the data is an
    `int`, and there are no empty data and no empty hash of headers, which are dropped. -/
structure Carried (subject : String) (data : Option Bytes) (headers : Option StringHash) :
    Prop where
  subject : nul ∉ subject.toList
  data : ∀ d, data = some d → d ≠ [] ∧ FitsLength d
  headers : ∀ h, headers = some h → h.keys ≠ [] ∧
    ∀ k v, h.lookup k = some v → nul ∉ k.toList ∧ nul ∉ v.toList

theorem text_add_iff {s : String} : (CString.add s).text = s ↔ nul ∉ s.toList := by
  constructor
  · intro h
    rw [← h]
    exact (CString.add s).no_nul
  · exact CString.text_add

/-- The data of the hash, from the data that was published. -/
theorem readData_eq {view : NatsMsgView} {subject : String} {data : Option Bytes}
    {headers : Option StringHash} (hview : view.Shows (published subject data headers)) :
    view.readData = (let n := (Int32.ofNat (data.getD []).length).toInt.toNat
      if 0 < n then some ((data.getD []).take n) else none) := by
  have hlen : (published subject data headers).data.length =
      (Int32.ofNat (data.getD []).length).toInt.toNat := by
    rw [published, List.length_take]
    exact Nat.min_eq_left (CArray.toInt_ofNat_le _)
  have hmax := Int32.toInt_le (Int32.ofNat (data.getD []).length)
  have hint : view.dataLength.toInt = (Int32.ofNat (data.getD []).length).toInt.toNat := by
    rw [hview.dataLength, CArray.toInt_length, hlen]
    rw [FitsLength, hlen]
    have hpos : (0 : ℤ) ≤ Int32.maxValue.toInt := by decide
    omega
  rw [NatsMsgView.readData, hint, hview.data, Int.toNat_natCast]
  simp only [Int.natCast_pos, Option.map_some, published, List.take_take, Nat.min_self]

theorem data_iff {view : NatsMsgView} {subject : String} {data : Option Bytes}
    {headers : Option StringHash} (hview : view.Shows (published subject data headers)) :
    view.readData = data ↔ ∀ d, data = some d → d ≠ [] ∧ FitsLength d := by
  rw [readData_eq hview]
  cases data with
  | none => simp
  | some d =>
      have hle : (Int32.ofNat d.length).toInt.toNat ≤ d.length := CArray.toInt_ofNat_le _
      simp only [Option.getD_some, Option.some.injEq, forall_eq']
      constructor
      · intro h
        split at h
        · next hpos =>
            have htake : d.take (Int32.ofNat d.length).toInt.toNat = d := Option.some.inj h
            have hlength := congrArg List.length htake
            rw [List.length_take] at hlength
            have hmax := Int32.toInt_le (Int32.ofNat d.length)
            refine ⟨List.length_pos_iff.1 (by omega), ?_⟩
            rw [FitsLength]
            omega
        · cases h
      · rintro ⟨hne, hfits⟩
        have hlength : (Int32.ofNat d.length).toInt.toNat = d.length := by
          rw [CArray.toInt_length hfits, Int.toNat_natCast]
        rw [hlength, if_pos (List.length_pos_iff.2 hne), List.take_length]

/-- The keys that are read are the ones of the message. -/
theorem readKeys_eq {view : NatsMsgView} {m : MsgContent} (hview : view.Shows m) :
    if m.headers.keys = [] then view.readKeys = none
    else ∃ keys, view.readKeys = some keys ∧ keys.Perm m.headers.keys := by
  have hkeys := hview.headerKeys
  by_cases hempty : m.headers.keys = []
  · rw [if_pos hempty] at hkeys ⊢
    simp [NatsMsgView.readKeys, hkeys]
  · rw [if_neg hempty] at hkeys ⊢
    obtain ⟨keys, hanswer, hperm⟩ := hkeys
    refine ⟨keys, ?_, hperm⟩
    cases keys with
    | nil => exact absurd hperm.symm.eq_nil hempty
    | cons key rest => simp [NatsMsgView.readKeys, hanswer]

theorem mem_headerEntries {view : NatsMsgView} {m : MsgContent} (hview : view.Shows m)
    {keys : List CString} (hperm : keys.Perm m.headers.keys) {k v : String} :
    (k, v) ∈ headerEntries view keys ↔
      ∃ key value, m.headers.lookup key = some value ∧ key.text = k ∧ value.text = v := by
  simp only [headerEntries, List.mem_filterMap, hview.headerGet, Option.map_eq_some_iff,
    Prod.mk.injEq]
  constructor
  · rintro ⟨key, -, value, hlookup, hk, hv⟩
    exact ⟨key, value, hlookup, hk, hv⟩
  · rintro ⟨key, value, hlookup, hk, hv⟩
    have hmem : key ∈ m.headers := AList.lookup_isSome.1 (by simp [hlookup])
    exact ⟨key, hperm.mem_iff.2 hmem, value, hlookup, hk, hv⟩

theorem nodup_headerEntries {view : NatsMsgView} {m : MsgContent} {keys : List CString}
    (hperm : keys.Perm m.headers.keys) : ((headerEntries view keys).map Prod.fst).Nodup := by
  rw [headerEntries, List.map_filterMap]
  refine List.Nodup.filterMap (fun a b k ha hb => ?_) (hperm.nodup_iff.2 m.headers.keys_nodup)
  obtain ⟨e, he, rfl⟩ := Option.map_eq_some_iff.1 ha
  obtain ⟨e', he', heq⟩ := Option.map_eq_some_iff.1 hb
  obtain ⟨value, -, rfl⟩ := Option.map_eq_some_iff.1 he
  obtain ⟨value', -, rfl⟩ := Option.map_eq_some_iff.1 he'
  exact CString.ext heq.symm

/-- The headers of the hash are the ones of the message. -/
theorem lookup_info {view : NatsMsgView} {m : MsgContent} (hview : view.Shows m)
    {keys : List CString} (hperm : keys.Perm m.headers.keys) {k v : String} :
    (setAll (headerEntries view keys) ∅).lookup k = some v ↔
      ∃ key value, m.headers.lookup key = some value ∧ key.text = k ∧ value.text = v := by
  rw [← mem_headerEntries hview hperm]
  exact lookup_setAll_empty (nodup_headerEntries hperm)

theorem StringHash.mem_toPairs {h : StringHash} {k v : String} :
    (k, v) ∈ h.toPairs ↔ h.lookup k = some v := by
  rw [← Option.mem_def, AList.mem_lookup_iff, StringHash.toPairs, List.mem_map]
  constructor
  · rintro ⟨⟨key, value⟩, hmem, heq⟩
    cases heq
    exact hmem
  · intro hmem
    exact ⟨_, hmem, rfl⟩

/-- Without a NUL the headers of the message are the ones of the hash. -/
theorem lookup_cHeaders {h : StringHash}
    (hnul : ∀ k v, h.lookup k = some v → nul ∉ k.toList ∧ nul ∉ v.toList) {key value : CString} :
    (setAll (cHeaders h.toPairs) ∅).lookup key = some value ↔
      h.lookup key.text = some value.text := by
  have hmem : (key, value) ∈ cHeaders h.toPairs ↔ h.lookup key.text = some value.text := by
    rw [← StringHash.mem_toPairs, cHeaders, List.mem_map]
    constructor
    · rintro ⟨⟨k, v⟩, hkv, heq⟩
      obtain ⟨hk, hv⟩ := hnul k v (StringHash.mem_toPairs.1 hkv)
      cases heq
      rwa [CString.text_add hk, CString.text_add hv]
    · intro hkv
      exact ⟨_, hkv, by rw [CString.add_text, CString.add_text]⟩
  have hnodup : ((cHeaders h.toPairs).map Prod.fst).Nodup := by
    have hkeys : (cHeaders h.toPairs).map Prod.fst = h.keys.map CString.add := by
      simp [cHeaders, StringHash.toPairs, AList.keys, List.keys]
    rw [hkeys]
    refine List.Nodup.map_on (fun k hk k' hk' heq => ?_) h.keys_nodup
    obtain ⟨v, hv⟩ := Option.isSome_iff_exists.1 (AList.lookup_isSome.2 hk)
    obtain ⟨v', hv'⟩ := Option.isSome_iff_exists.1 (AList.lookup_isSome.2 hk')
    rw [← CString.text_add (hnul k v hv).1, ← CString.text_add (hnul k' v' hv').1, heq]
  rw [← hmem]
  exact lookup_setAll_empty hnodup

theorem headers_iff {view : NatsMsgView} {subject : String} {data : Option Bytes}
    {headers : Option StringHash} (hview : view.Shows (published subject data headers)) :
    (∀ k, view.info.headers.map (·.lookup k) = headers.map (·.lookup k)) ↔
      ∀ h, headers = some h → h.keys ≠ [] ∧
        ∀ k v, h.lookup k = some v → nul ∉ k.toList ∧ nul ∉ v.toList := by
  have hread := readKeys_eq hview
  cases headers with
  | none =>
      rw [if_pos (by rfl)] at hread
      simp [NatsMsgView.info, hread]
  | some h =>
      have hkeys : (published subject data (some h)).headers.keys = [] ↔ h.keys = [] := by
        rw [published, keys_setAll_eq_nil]
        simp [cHeaders, StringHash.toPairs, AList.keys, List.keys]
      simp only [Option.some.injEq, forall_eq', Option.map_some, NatsMsgView.info]
      by_cases hempty : h.keys = []
      · rw [if_pos (hkeys.2 hempty)] at hread
        simp [hread, hempty]
      · rw [if_neg (hkeys.not.2 hempty)] at hread
        obtain ⟨keys, hsome, hperm⟩ := hread
        simp only [hsome, Option.map_some, Option.some.injEq]
        constructor
        · intro hsame
          refine ⟨hempty, fun k v hkv => ?_⟩
          obtain ⟨key, value, -, rfl, rfl⟩ :=
            (lookup_info hview hperm).1 ((hsame k).trans hkv)
          exact ⟨key.no_nul, value.no_nul⟩
        · rintro ⟨-, hnul⟩ k
          ext v
          rw [lookup_info hview hperm]
          constructor
          · rintro ⟨key, value, hlookup, rfl, rfl⟩
            exact (lookup_cHeaders hnul).1 hlookup
          · intro hkv
            obtain ⟨hk, hv⟩ := hnul k v hkv
            refine ⟨CString.add k, CString.add v, (lookup_cHeaders hnul).2 ?_,
              CString.text_add hk, CString.text_add hv⟩
            rwa [CString.text_add hk, CString.text_add hv]

/-- A message is published and received: on every way out of both functions the message, and the
    array of its header keys, have been released once; the hash that the receiver gets is the same
    as what was published if and only if nothing of it is cut off or dropped on the way. -/
theorem publishMsg_round_trip {c : PublishClient} (hdoc : c.Documented) (connected : Bool)
    (subject : String) (data : Option Bytes) (headers : Option StringHash)
    (raises : ℕ → Option ExceptionInfo) :
    Settles raises (publishMsg c connected subject data headers)
      (fun m => ∀ view : NatsMsgView, view.Shows m → ∀ raises' : ℕ → Option ExceptionInfo,
        Settles raises' (natsMsgToHash view)
          (fun info => SameMessage subject data headers info ↔ Carried subject data headers)
          (fun _ => False))
      (fun ex => ex.err = "NATS-PUBLISH-ERROR") := by
  refine ((publishMsg_spec hdoc connected subject data headers).mono (fun m hm => ?_)
    fun _ hx => hx).settles
  intro view hview raises'
  rw [hm] at hview
  refine ((natsMsgToHash_spec view []).mono (fun info hinfo => ?_) fun _ hx => hx).settles
  rw [hinfo]
  constructor
  · intro hsame
    refine ⟨text_add_iff.1 ?_, (data_iff hview).1 hsame.data, (headers_iff hview).1 hsame.headers⟩
    have hsubject := hsame.subject
    rw [NatsMsgView.info, hview.subject] at hsubject
    exact Option.some.inj hsubject
  · intro hcarried
    refine ⟨?_, (data_iff hview).2 hcarried.data, ?_, (headers_iff hview).2 hcarried.headers⟩
    · rw [NatsMsgView.info, hview.subject]
      exact congrArg some (text_add_iff.2 hcarried.subject)
    · rw [NatsMsgView.info, hview.reply]
      rfl

/-- A C client that takes every message. -/
def takingClient : PublishClient where
  create subject data len := .ok ⟨subject, none, data.take len.toInt.toNat, ∅⟩
  headerSet m key value := .ok { m with headers := m.headers.insert key value }
  publishMsg _ := .ok ()

theorem takingClient_documented : takingClient.Documented where
  create _ _ _ _ h := (Except.ok.inj h).symm
  headerSet _ _ _ _ h := (Except.ok.inj h).symm

theorem publishMsg_round_trip_order :
    Settles (fun _ => none)
      (publishMsg takingClient true "orders.new" (some [1, 2])
        (some ((∅ : StringHash).insert "Content-Type" "application/json")))
      (fun m => ∀ view : NatsMsgView, view.Shows m → ∀ raises' : ℕ → Option ExceptionInfo,
        Settles raises' (natsMsgToHash view)
          (fun info => SameMessage "orders.new" (some [1, 2])
              (some ((∅ : StringHash).insert "Content-Type" "application/json")) info ↔
            Carried "orders.new" (some [1, 2])
              (some ((∅ : StringHash).insert "Content-Type" "application/json")))
          (fun _ => False))
      (fun ex => ex.err = "NATS-PUBLISH-ERROR") :=
  publishMsg_round_trip takingClient_documented true "orders.new" (some [1, 2])
    (some ((∅ : StringHash).insert "Content-Type" "application/json")) fun _ => none

end ModuleNats
