import Mathlib.Data.List.TakeWhile
import Mathlib.Data.Int.Notation
import ModuleNats.NatsHelper

set_option autoImplicit false

/-! # The payload of the publishing data providers

Four data providers publish: `NatsPublishDataProvider`, `NatsRequestDataProvider`,
`NatsJSPublishDataProvider` and `NatsJSKVPutDataProvider`. Their requests have a `data` and a
`string_data` field, and each `doRequestImpl()` chooses between them in its own way. `payload_iff`
says for each of them for which requests the C client gets the payload that was meant: `data` when
it is given, otherwise `string_data`, otherwise nothing.

A Qore string is its bytes here. Binary values and hashes are true in a condition when they are not
empty; for strings see `truthy`. -/

namespace ModuleNats.DataProvider

abbrev Bytes := List UInt8

/-! ## What the C client gets -/

/-- The two ways in which a payload is handed to the C client. -/
inductive PayloadArg where
  /-- `const void* data, int data_len` -/
  | buffer (data : Bytes) (dataLen : ℤ)
  /-- `const char* data` -/
  | cString (data : Bytes)
deriving DecidableEq, Repr

namespace PayloadArg

/-- `data->getPtr(), (int)data->size()` -/
def ofBytes (data : Bytes) : PayloadArg := .buffer data (Int.bmod data.length 4294967296)

/-- `data ? data->getPtr() : nullptr, data ? (int)data->size() : 0` -/
def ofBinary : Option Bytes → PayloadArg
  | some data => ofBytes data
  | none => .buffer [] 0

/-- The C client reads exactly the bytes `payload`. -/
def Hands : PayloadArg → Bytes → Prop
  | .buffer data dataLen, payload => data = payload ∧ dataLen = payload.length
  | .cString data, payload => data.takeWhile (· != 0) = payload

end PayloadArg

/-- The options of `JetStreamContext::publishWithOptions()`. -/
structure NatsJSPubOptions where
  msgId : Option Bytes
  expectStream : Option Bytes
  expectLastMsgId : Option Bytes
  expectLastSeq : Option ℤ
  expectLastSubjectSeq : Option ℤ
  expectNoMessage : Option Bool
deriving DecidableEq, Repr

/-- The calls of the C client that send a payload. -/
inductive ClientCall where
  | publish (subject : Bytes) (arg : PayloadArg)
  | publishMsg (subject : Bytes) (arg : PayloadArg) (headers : List (Bytes × Bytes))
  | request (subject : Bytes) (arg : PayloadArg) (timeoutMs : ℤ)
  | jsPublish (subject : Bytes) (arg : PayloadArg) (options : Option NatsJSPubOptions)
  | kvPut (bucket key : Bytes) (arg : PayloadArg)
  | kvPutString (bucket key : Bytes) (arg : PayloadArg)
deriving DecidableEq, Repr

def ClientCall.arg : ClientCall → PayloadArg
  | .publish _ arg | .publishMsg _ arg _ | .request _ arg _ | .jsPublish _ arg _
  | .kvPut _ _ arg | .kvPutString _ _ arg => arg

/-! ## The requests -/

/-- The fields that all requests have. -/
structure Content where
  data : Option Bytes
  stringData : Option Bytes
deriving DecidableEq, Repr

/-- The payload that is meant. -/
def Content.payload (c : Content) : Bytes :=
  match c.data with
  | some data => data
  | none => c.stringData.getD []

structure NatsPublishRequest extends Content where
  subject : Option Bytes
  headers : Option (List (Bytes × Bytes))
deriving DecidableEq, Repr

structure NatsRequestRequest extends Content where
  subject : Option Bytes
  timeoutMs : Option ℤ
deriving DecidableEq, Repr

structure NatsJSPublishRequest extends Content, NatsJSPubOptions where
  subject : Option Bytes
deriving DecidableEq, Repr

structure NatsJSKVPutRequest extends Content where
  bucket : Bytes
  key : Bytes
deriving DecidableEq, Repr

/-! ## `doRequestImpl()` -/

/-- A string in a condition: the empty one is false. Whether `0` is true (`zero`) depends on the
    boolean evaluation that the Qore runtime uses. -/
def truthy (zero : Bool) (str : Bytes) : Bool := !str.isEmpty && (zero || str != [48])

section Providers

variable (zero : Bool)

/-- A string field in a condition: `NOTHING` is false. -/
def given (field : Option Bytes) : Bool := field.any (truthy zero)

/-- `if (!req.subject)` -/
def requireSubject (subject : Option Bytes) : Except ExceptionInfo Bytes :=
  match subject with
  | some subject =>
      if truthy zero subject then .ok subject
      else .error ⟨"INVALID-REQUEST", "missing required field 'subject'"⟩
  | none => .error ⟨"INVALID-REQUEST", "missing required field 'subject'"⟩

/-- `NatsPublishDataProvider::doRequestImpl()` -/
def natsPublish (req : NatsPublishRequest) : Except ExceptionInfo ClientCall := do
  let subject ← requireSubject zero req.subject
  let headers := req.headers.getD []
  return if !headers.isEmpty then
      .publishMsg subject (.ofBinary (some (req.data.getD (req.stringData.getD [])))) headers
    else if given zero req.stringData then
      -- publishString()
      .publish subject (.ofBytes (req.stringData.getD []))
    else
      .publish subject (.ofBinary req.data)

/-- The choice of `NatsRequestDataProvider` and `NatsJSPublishDataProvider`. -/
def choosePayload (c : Content) : Bytes :=
  if !(c.data.getD []).isEmpty then c.data.getD []
  else if given zero c.stringData then c.stringData.getD []
  else []

/-- `NatsRequestDataProvider::doRequestImpl()` -/
def natsRequest (req : NatsRequestRequest) : Except ExceptionInfo ClientCall := do
  let subject ← requireSubject zero req.subject
  let payload := choosePayload zero req.toContent
  return .request subject (.ofBytes payload) (req.timeoutMs.getD 5000)

/-- `NatsJSPublishDataProvider::doRequestImpl()` -/
def natsJSPublish (req : NatsJSPublishRequest) : Except ExceptionInfo ClientCall := do
  let subject ← requireSubject zero req.subject
  let payload := choosePayload zero req.toContent
  let options := given zero req.msgId || given zero req.expectStream
    || given zero req.expectLastMsgId || req.expectLastSeq.isSome
    || req.expectLastSubjectSeq.isSome || req.expectNoMessage.isSome
  return if options then .jsPublish subject (.ofBytes payload) (some req.toNatsJSPubOptions)
    else .jsPublish subject (.ofBytes payload) none

/-- `NatsJSKVPutDataProvider::doRequestImpl()` -/
def natsJSKVPut (req : NatsJSKVPutRequest) : ClientCall :=
  if given zero req.stringData then
    .kvPutString req.bucket req.key (.cString (req.stringData.getD []))
  else
    .kvPut req.bucket req.key (.ofBytes (req.data.getD []))

end Providers

/-! ## When the payload is the one that is meant -/

/-- The length is one of an `int`. -/
def FitsLength (data : Bytes) : Prop := data.length < 2147483648

theorem bmod_length_iff (n : ℕ) : Int.bmod n 4294967296 = n ↔ n < 2147483648 := by
  constructor
  · intro h
    have hlt : Int.bmod n 4294967296 < (4294967296 + 1) / 2 := Int.bmod_lt (by decide)
    omega
  · intro h
    exact Int.bmod_eq_of_le (by omega) (by omega)

namespace PayloadArg

theorem hands_ofBytes {data payload : Bytes} :
    (ofBytes data).Hands payload ↔ data = payload ∧ FitsLength payload := by
  constructor
  · rintro ⟨rfl, hlen⟩
    exact ⟨rfl, (bmod_length_iff _).1 hlen⟩
  · rintro ⟨rfl, hfits⟩
    exact ⟨rfl, (bmod_length_iff _).2 hfits⟩

theorem hands_ofBinary {data : Option Bytes} {payload : Bytes} :
    (ofBinary data).Hands payload ↔ data.getD [] = payload ∧ FitsLength payload := by
  cases data with
  | some data => exact hands_ofBytes
  | none =>
      constructor
      · rintro ⟨rfl, -⟩
        exact ⟨rfl, Nat.zero_lt_succ _⟩
      · rintro ⟨rfl, -⟩
        exact ⟨rfl, rfl⟩

end PayloadArg

section Providers

variable (zero : Bool)

/-- A request to one of the publishing providers. -/
inductive Request where
  | natsPublish (req : NatsPublishRequest)
  | natsRequest (req : NatsRequestRequest)
  | natsJSPublish (req : NatsJSPublishRequest)
  | natsJSKVPut (req : NatsJSKVPutRequest)
deriving DecidableEq, Repr

namespace Request

def content : Request → Content
  | .natsPublish req => req.toContent
  | .natsRequest req => req.toContent
  | .natsJSPublish req => req.toContent
  | .natsJSKVPut req => req.toContent

def doRequest : Request → Except ExceptionInfo ClientCall
  | .natsPublish req => DataProvider.natsPublish zero req
  | .natsRequest req => DataProvider.natsRequest zero req
  | .natsJSPublish req => DataProvider.natsJSPublish zero req
  | .natsJSKVPut req => .ok (DataProvider.natsJSKVPut zero req)

/-- Whether the request is refused for its subject. -/
def refused : Request → Bool
  | .natsPublish req => !given zero req.subject
  | .natsRequest req => !given zero req.subject
  | .natsJSPublish req => !given zero req.subject
  | .natsJSKVPut _ => false

end Request

/-- Without headers a true `string_data` is published whether or not there is `data`, and a false
    one is not published. -/
def publishKeeps (c : Content) : Prop :=
  FitsLength c.payload ∧ ∀ str, c.stringData = some str →
    if truthy zero str then ∀ data, c.data = some data → str = data else c.data = none → str = []

/-- An empty `data` gives way to a true `string_data`, and a false `string_data` is not
    published. -/
def chooseKeeps (c : Content) : Prop :=
  FitsLength c.payload ∧ ∀ str, c.stringData = some str →
    if truthy zero str then c.data = some [] → str = [] else c.data = none → str = []

/-- A true `string_data` is stored whether or not there is `data`, and only up to its first NUL; a
    false one is not stored. -/
def putKeeps (c : Content) : Prop :=
  if given zero c.stringData then
    ∀ str, c.stringData = some str →
      (∀ data, c.data = some data → str.takeWhile (· != 0) = data) ∧ (c.data = none → 0 ∉ str)
  else FitsLength c.payload ∧ ∀ str, c.stringData = some str → c.data = none → str = []

/-- When a request keeps its payload. -/
def Request.Keeps : Request → Prop
  | .natsPublish req =>
      if (req.headers.getD []).isEmpty then publishKeeps zero req.toContent
      else FitsLength req.toContent.payload
  | .natsRequest req => chooseKeeps zero req.toContent
  | .natsJSPublish req => chooseKeeps zero req.toContent
  | .natsJSKVPut req => putKeeps zero req.toContent

theorem requireSubject_eq (subject : Option Bytes) :
    requireSubject zero subject =
      if given zero subject then .ok (subject.getD [])
      else .error ⟨"INVALID-REQUEST", "missing required field 'subject'"⟩ := by
  cases subject <;> rfl

/-- After the check of the subject a provider makes one call. -/
theorem forall_ok_iff {subject : Option Bytes} {call : Bytes → ClientCall} {payload : Bytes}
    {P : Prop} (h : ∀ subject, (call subject).arg.Hands payload ↔ P) :
    (∀ c, (do return call (← requireSubject zero subject)) = .ok c → c.arg.Hands payload) ↔
      ((!given zero subject) = false → P) := by
  rw [requireSubject_eq]
  cases given zero subject with
  | false => simp [bind, Except.bind]
  | true => simp [bind, Except.bind, pure, Except.pure, h]

/-- Without headers: `publish()` or `publishString()`. -/
theorem hands_publish_iff (c : Content) :
    (if given zero c.stringData then PayloadArg.ofBytes (c.stringData.getD [])
      else .ofBinary c.data).Hands c.payload ↔ publishKeeps zero c := by
  obtain ⟨data, str⟩ := c
  rw [publishKeeps, and_comm]
  cases str with
  | none => cases data <;> simp [given, PayloadArg.hands_ofBinary, Content.payload]
  | some str =>
      by_cases hstr : truthy zero str
      · cases data <;> simp [given, hstr, PayloadArg.hands_ofBytes, Content.payload]
      · cases data <;> simp [given, hstr, PayloadArg.hands_ofBinary, Content.payload]

theorem hands_choosePayload_iff (c : Content) :
    (PayloadArg.ofBytes (choosePayload zero c)).Hands c.payload ↔ chooseKeeps zero c := by
  rw [PayloadArg.hands_ofBytes, chooseKeeps, and_comm, and_congr_right_iff]
  intro _
  obtain ⟨data, str⟩ := c
  cases str with
  | none => rcases data with _ | _ | _ <;> simp [choosePayload, given, Content.payload]
  | some str =>
      by_cases hstr : truthy zero str <;> rcases data with _ | _ | _ <;>
        simp [choosePayload, given, hstr, Content.payload]

theorem takeWhile_ne_zero_iff (str : Bytes) : str.takeWhile (· != 0) = str ↔ 0 ∉ str := by
  rw [List.takeWhile_eq_self_iff]
  constructor
  · intro h hmem
    exact absurd (h 0 hmem) (by decide)
  · intro h b hb
    exact bne_iff_ne.2 fun hzero => h (hzero ▸ hb)

theorem hands_natsJSKVPut_iff (req : NatsJSKVPutRequest) :
    (natsJSKVPut zero req).arg.Hands req.toContent.payload ↔ putKeeps zero req.toContent := by
  obtain ⟨⟨data, str⟩, bucket, key⟩ := req
  rw [putKeeps, natsJSKVPut]
  by_cases hgiven : given zero str
  · rw [if_pos hgiven, if_pos hgiven]
    cases str with
    | none => cases hgiven
    | some str =>
        have hwhole := takeWhile_ne_zero_iff str
        cases data <;> simp [ClientCall.arg, PayloadArg.Hands, Content.payload, hwhole]
  · rw [if_neg hgiven, if_neg hgiven, ClientCall.arg, PayloadArg.hands_ofBytes, and_comm]
    cases str <;> cases data <;> simp [Content.payload]

/-- The headers path of `NatsPublishDataProvider` takes the payload that is meant. -/
theorem hands_publishMsg_iff (c : Content) :
    (PayloadArg.ofBinary (some (c.data.getD (c.stringData.getD [])))).Hands c.payload ↔
      FitsLength c.payload := by
  have hsame : c.data.getD (c.stringData.getD []) = c.payload := by
    rw [Content.payload]
    cases c.data <;> rfl
  rw [PayloadArg.hands_ofBinary, Option.getD_some, hsame, and_iff_right rfl]

/-- Every publishing provider hands over the payload that is meant, for exactly these requests. -/
theorem payload_iff (req : Request) :
    (∀ call, req.doRequest zero = .ok call → call.arg.Hands req.content.payload) ↔
      (req.refused zero = false → req.Keeps zero) := by
  cases req with
  | natsPublish req =>
      refine forall_ok_iff zero fun subject => ?_
      cases hheaders : (req.headers.getD []).isEmpty with
      | false =>
          rw [Request.Keeps, hheaders]
          exact hands_publishMsg_iff req.toContent
      | true =>
          have hpublish := hands_publish_iff zero req.toContent
          rw [Request.Keeps, hheaders]
          cases hstr : given zero req.stringData with
          | false => rwa [hstr] at hpublish
          | true => rwa [hstr] at hpublish
  | natsRequest req =>
      exact forall_ok_iff zero fun _ => hands_choosePayload_iff zero req.toContent
  | natsJSPublish req =>
      refine forall_ok_iff zero fun subject => ?_
      split <;> exact hands_choosePayload_iff zero req.toContent
  | natsJSKVPut req =>
      constructor
      · exact fun h _ => (hands_natsJSKVPut_iff zero req).1 (h _ rfl)
      · rintro h call hcall
        cases hcall
        exact (hands_natsJSKVPut_iff zero req).2 (h rfl)

end Providers

/-- With both fields given, `NatsPublishDataProvider` publishes `string_data`, not `data`. -/
theorem publish_prefers_string_data :
    ¬ ∀ (zero : Bool) (req : Request) (call : ClientCall),
      req.doRequest zero = .ok call → call.arg.Hands req.content.payload := by
  intro hall
  have h := hall true (.natsPublish ⟨⟨some [1], some [2]⟩, some [115], none⟩) _
    rfl
  exact absurd h.1 (by decide)

end ModuleNats.DataProvider
