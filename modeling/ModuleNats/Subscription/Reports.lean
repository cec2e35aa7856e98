import ModuleNats.DateTime
import ModuleNats.Lib.Custody
import ModuleNats.NatsHelper
import ModuleNats.JetStream.Values

set_option autoImplicit false

/-! # What a subscription tells about itself and its last message

`getMetadata()` makes a hash of the JetStream metadata of the last message, which the C client
allocates for it. A message without metadata is no error, and so is no message at all. The other
functions ask the C client for numbers.

`subscription_reports_settle` says that the metadata is destroyed once on every way out, and what
the answers are. -/

namespace ModuleNats.QoreNatsSubscription

open Custody Custody.Prog

/-! ## The answers of the C client -/

/-- `jsMsgMetaData` -/
structure JsMsgMetaData where
  domain : Option CString
  stream : Option CString
  consumer : Option CString
  numDelivered : UInt64
  streamSeq : UInt64
  consumerSeq : UInt64
  numPending : UInt64
  /-- nanoseconds since the epoch -/
  timestamp : Int64
deriving DecidableEq

structure NatsJSMsgMetadata where
  domain : Option String
  stream : Option String
  consumer : Option String
  numDelivered : Int64
  streamSeq : Int64
  consumerSeq : Int64
  numPending : Int64
  timestamp : Option DateTimeNode
deriving DecidableEq

def metadataToHash (metaData : JsMsgMetaData) : NatsJSMsgMetadata where
  domain := metaData.domain.map CString.text
  stream := metaData.stream.map CString.text
  consumer := metaData.consumer.map CString.text
  numDelivered := metaData.numDelivered.toInt64
  streamSeq := metaData.streamSeq.toInt64
  consumerSeq := metaData.consumerSeq.toInt64
  numPending := metaData.numPending.toInt64
  timestamp := if h : 0 < metaData.timestamp.toInt then some (.ofNs metaData.timestamp h) else none

/-- What `natsSubscription_GetStats()` answers, as far as it is read. -/
structure SubscriptionCounts where
  pendingMsgs : Int32
  pendingBytes : Int32
  deliveredMsgs : Int64
  droppedMsgs : Int64
deriving DecidableEq

structure NatsSubscriptionStats where
  subject : Option String
  id : Int64
  pendingMsgs : Int64
  pendingBytes : Int64
  deliveredMsgs : Int64
  droppedMsgs : Int64
deriving DecidableEq

/-- The hash of `getPending()`. -/
structure NatsPending where
  msgs : Int64
  bytes : Int64
deriving DecidableEq

/-- What the C client answers for a subscription; a failure is the text of its status. -/
structure NatsSub where
  subject : Option CString
  id : Int64
  pending : Except String (Int32 × Int32)
  stats : Except String SubscriptionCounts
  /-- `natsMsg_GetMetaData()` for the last message -/
  metaData : Except String JsMsgMetaData

def statsToHash (sub : NatsSub) (counts : SubscriptionCounts) : NatsSubscriptionStats where
  subject := sub.subject.map CString.text
  id := sub.id
  pendingMsgs := counts.pendingMsgs.toInt64
  pendingBytes := counts.pendingBytes.toInt64
  deliveredMsgs := counts.deliveredMsgs
  droppedMsgs := counts.droppedMsgs

/-! ## The code -/

def notValid : ExceptionInfo := ⟨"NATS-SUBSCRIBE-ERROR", "subscription is not valid"⟩

def subscribeError (desc statusText : String) : ExceptionInfo :=
  natsError "NATS-SUBSCRIBE-ERROR" desc statusText

/-- The keys of the hash of the metadata. -/
def readMetaData (i : ℕ) (metaData : JsMsgMetaData) :
    Prog ExceptionInfo (Option NatsJSMsgMetadata) := do
  onRaise call (release i)
  releasing i do
    use i
    callWhen metaData.domain.isSome
    callWhen metaData.stream.isSome
    callWhen metaData.consumer.isSome
    -- from `num_delivered` to `num_pending`
    callTimes 4
    callWhen (0 < metaData.timestamp.toInt)
  pure (some (metadataToHash metaData))

section Functions

variable (valid : Bool) (sub : NatsSub)

/-- `QoreNatsSubscription::getMetadata()`, with a last message or without one. -/
def getMetadata (hasLastMsg : Bool) : Prog ExceptionInfo (Option NatsJSMsgMetadata) :=
  if hasLastMsg then
    match sub.metaData with
    | .error _ => pure none
    | .ok metaData => do
        let i ← acquire
        readMetaData i metaData
  else pure none

/-- `QoreNatsSubscription::getPending()` -/
def getPending : Prog ExceptionInfo NatsPending := do
  ensure valid notValid
  match sub.pending with
  | .error statusText => raise (subscribeError "failed to get pending counts" statusText)
  | .ok (msgs, bytes) => do
      callTimes 2
      pure ⟨msgs.toInt64, bytes.toInt64⟩

/-- `QoreNatsSubscription::getSubscriptionStats()` -/
def getSubscriptionStats : Prog ExceptionInfo NatsSubscriptionStats := do
  ensure valid notValid
  match sub.stats with
  | .error statusText => raise (subscribeError "failed to get subscription stats" statusText)
  | .ok counts => do
      call
      callWhen sub.subject.isSome
      -- from `id` to `dropped_msgs`
      callTimes 5
      pure (statsToHash sub counts)

end Functions

/-! ## What is released -/

section Custody

variable {raises : ℕ → Option ExceptionInfo} {own : ExceptionInfo → Prop} {valid : Bool}
  {sub : NatsSub}

theorem readMetaData_spec (i : ℕ) (metaData : JsMsgMetaData) :
    Triple raises [i] (readMetaData i metaData) (fun _ => [])
      (· = some (metadataToHash metaData)) [] own := by
  refine triple_call.onRaise_release.bind fun _ _ => ?_
  refine (Triple.releasing (Q := fun _ => True) ?_).bind fun _ _ => ?_
  · refine Triple.use List.mem_cons_self (Triple.callWhen _ (Triple.callWhen _ ?_))
    exact Triple.callWhen _ (Triple.callTimes 4 (triple_callWhen _))
  · exact Triple.pure (fun _ => []) _ rfl

/-- The metadata of the last message, if there is a message and it has metadata. -/
def metadata (sub : NatsSub) (hasLastMsg : Bool) : Option NatsJSMsgMetadata :=
  if hasLastMsg then sub.metaData.toOption.map metadataToHash else none

theorem getMetadata_yields (hasLastMsg : Bool) :
    Yields raises (getMetadata sub hasLastMsg) (.ok (metadata sub hasLastMsg)) := by
  unfold getMetadata metadata
  cases hasLastMsg with
  | false => exact Triple.pure (fun _ => []) none rfl
  | true =>
      cases hmeta : sub.metaData with
      | error statusText => exact Triple.pure (fun _ => []) none rfl
      | ok metaData =>
          refine Triple.acquire fun i => (readMetaData_spec i metaData).mono (fun a ha => ?_)
            fun _ hx => hx
          rw [ha]
          rfl

theorem getPending_yields :
    Yields raises (getPending valid sub) (entered valid notValid
      ((sub.pending.mapError (subscribeError "failed to get pending counts")).map fun a =>
        ⟨a.1.toInt64, a.2.toInt64⟩)) := by
  refine Triple.ensure (fun hvalid => ?_) fun hvalid => ?_
  · rw [hvalid]
    rfl
  · rw [hvalid]
    cases hpending : sub.pending with
    | error statusText => exact Triple.raise (.inr rfl)
    | ok counts => exact Triple.callTimes 2 (Triple.pure (fun _ => []) _ rfl)

theorem getSubscriptionStats_yields :
    Yields raises (getSubscriptionStats valid sub) (entered valid notValid
      ((sub.stats.mapError (subscribeError "failed to get subscription stats")).map
        (statsToHash sub))) := by
  refine Triple.ensure (fun hvalid => ?_) fun hvalid => ?_
  · rw [hvalid]
    rfl
  · rw [hvalid]
    cases hstats : sub.stats with
    | error statusText => exact Triple.raise (.inr rfl)
    | ok counts =>
        refine Triple.call (Triple.callWhen _ (Triple.callTimes 5 ?_))
        exact Triple.pure (fun _ => []) _ rfl

end Custody

/-- The date of a message is the one whose microsecond the time stamp is in; there is none for a
    time stamp before the epoch or at it. -/
theorem timestamp_eq_some_iff {metaData : JsMsgMetaData} {d : DateTimeNode} :
    (metadataToHash metaData).timestamp = some d ↔
      0 < metaData.timestamp.toInt ∧ d.exactNs ≤ metaData.timestamp.toInt ∧
        metaData.timestamp.toInt < d.exactNs + 1000 := by
  unfold metadataToHash
  split
  · next h => rw [Option.some.injEq, DateTimeNode.ofNs_eq_iff, and_iff_right h]
  · next h => exact iff_of_false (by simp) fun hpos => h hpos.1

/-- The metadata of the last message is destroyed once, whatever the C client answers and whichever
    call of the Qore library raises an exception; without a message and without metadata there is
    nothing, and no exception. The counts are those of the C client. The date is that of the
    microsecond of the time stamp. -/
theorem subscription_reports_settle (raises : ℕ → Option ExceptionInfo) (valid hasLastMsg : Bool)
    (sub : NatsSub) :
    Implements raises (getMetadata sub hasLastMsg) (.ok (metadata sub hasLastMsg)) ∧
      Implements raises (getPending valid sub) (entered valid notValid
        ((sub.pending.mapError (subscribeError "failed to get pending counts")).map fun a =>
          ⟨a.1.toInt64, a.2.toInt64⟩)) ∧
      Implements raises (getSubscriptionStats valid sub) (entered valid notValid
        ((sub.stats.mapError (subscribeError "failed to get subscription stats")).map
          (statsToHash sub))) ∧
      ∀ hash d, metadata sub hasLastMsg = some hash → (hash.timestamp = some d ↔
        ∃ metaData, sub.metaData = .ok metaData ∧ 0 < metaData.timestamp.toInt ∧
          d.exactNs ≤ metaData.timestamp.toInt ∧ metaData.timestamp.toInt < d.exactNs + 1000) := by
  refine ⟨(getMetadata_yields hasLastMsg).implements, getPending_yields.implements,
    getSubscriptionStats_yields.implements, ?_⟩
  intro hash d hsome
  unfold metadata at hsome
  split at hsome
  · obtain ⟨metaData, hmeta, rfl⟩ := Option.map_eq_some_iff.1 hsome
    have hok : sub.metaData = .ok metaData := by
      cases h : sub.metaData with
      | error statusText => rw [h] at hmeta; cases hmeta
      | ok m => rw [h] at hmeta; cases hmeta; rfl
    rw [timestamp_eq_some_iff, hok]
    simp
  · cases hsome

end ModuleNats.QoreNatsSubscription
