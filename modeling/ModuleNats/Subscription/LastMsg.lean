import ModuleNats.JetStream.Values
import ModuleNats.Lib.Ownership
import ModuleNats.Lib.Transition
import ModuleNats.Subscription.Fetch
import ModuleNats.Subscription.NextMsg

set_option autoImplicit false

/-! # The last message of a subscription

The messages that `nextMsg()` and `fetch()` receive belong to the wrapper, which keeps the one that
it has received last, for the acknowledgement calls, and destroys the others. The machine below has
these calls in any order; a message is a number that the C client has not handed out before, and the
log says what is done with it. -/

namespace ModuleNats.LastMsg

open Ownership SlicedWait

variable {μ : Type}

/-! ## The acknowledgement calls -/

/-- The functions of the C client that acknowledge a message. -/
inductive AckRequest where
  | ack
  | nak
  | nakWithDelay (delayNs : Int64)
  | inProgress
  | term
deriving DecidableEq, Repr

/-- What an acknowledgement call does: its result, and what it asks the C client to do with which
    message. -/
structure Acknowledged (μ : Type) where
  result : Except ExceptionInfo Unit
  request : Option (AckRequest × μ)

/-- The acknowledgement calls: they act on `lastMsg`. `failure` is the text of the status of the C
    client, if it is not `NATS_OK`. -/
def acknowledge (request : AckRequest) (err missing failed : String) (lastMsg : Option μ)
    (failure : Option String) : Acknowledged μ :=
  match lastMsg with
  | none => ⟨.error ⟨err, missing⟩, none⟩
  | some m =>
      match failure with
      | some statusText => ⟨.error (natsError err failed statusText), some (request, m)⟩
      | none => ⟨.ok (), some (request, m)⟩

def ack : Option μ → Option String → Acknowledged μ :=
  acknowledge .ack "NATS-JETSTREAM-ERROR" "no message to acknowledge"
    "failed to acknowledge message"

def nak : Option μ → Option String → Acknowledged μ :=
  acknowledge .nak "NATS-JETSTREAM-ERROR" "no message to negative-acknowledge"
    "failed to negative-acknowledge message"

def inProgress : Option μ → Option String → Acknowledged μ :=
  acknowledge .inProgress "NATS-JETSTREAM-ERROR" "no message to mark as in-progress"
    "failed to mark message as in-progress"

def term : Option μ → Option String → Acknowledged μ :=
  acknowledge .term "NATS-JETSTREAM-ERROR" "no message to terminate"
    "failed to terminate message delivery"

def nakWithDelay (delayMs : Int64) : Option μ → Option String → Acknowledged μ :=
  acknowledge (.nakWithDelay (msToNs delayMs)) "NATS-SUBSCRIBE-ERROR"
    "no message to negative-acknowledge with delay"
    "failed to negative-acknowledge message with delay"

/-- The call is that of the model of a subscription with its queue. -/
theorem ack_result (s : Subscription μ) (failure : Option String) :
    (ack s.lastMsg failure).result = (s.ack failure).map fun _ => () := by
  unfold ack acknowledge Subscription.ack
  cases s.lastMsg <;> cases failure <;> rfl

/-- One of the acknowledgement calls. -/
inductive AckCall where
  | ack
  | nak
  | nakWithDelay (delayMs : Int64)
  | inProgress
  | term
deriving DecidableEq, Repr

namespace AckCall

def run : AckCall → Option μ → Option String → Acknowledged μ
  | ack => LastMsg.ack
  | nak => LastMsg.nak
  | nakWithDelay delayMs => LastMsg.nakWithDelay delayMs
  | inProgress => LastMsg.inProgress
  | term => LastMsg.term

/-- What a call asks the C client to do. -/
def request : AckCall → AckRequest
  | ack => .ack
  | nak => .nak
  | nakWithDelay delayMs => .nakWithDelay (msToNs delayMs)
  | inProgress => .inProgress
  | term => .term

theorem run_some (call : AckCall) (m : μ) (failure : Option String) :
    (call.run (some m) failure).request = some (call.request, m) := by
  cases call <;> cases failure <;> rfl

theorem run_none (call : AckCall) (failure : Option String) :
    ∃ ex, call.run (none : Option μ) failure = ⟨.error ex, none⟩ := by
  cases call <;> exact ⟨_, rfl⟩

end AckCall

/-! ## The machine -/

/-- The wrapper. -/
structure State where
  lastMsg : Option ℕ := none
  /-- what has been done with the messages, the last operation first -/
  log : List (Op ℕ) := []
  /-- the destructor has run -/
  destroyed : Bool := false

/-- The calls, with what the C client and `nats_msg_to_hash()` do in them. -/
inductive Action where
  | nextMsg (outcome : Outcome ExceptionInfo (NextMsgStatus ℕ))
  | fetch (answer : Fetch.FetchAnswer ℕ) (conversion : ℕ → Option ExceptionInfo)
  | acknowledge (call : AckCall) (failure : Option String)
  | getMetadata
  | destroy

namespace State

/-- The C client hands out new messages. -/
def receive (s : State) (msgs : List ℕ) : State :=
  { s with log := (msgs.map Op.acquire).reverse ++ s.log }

/-- The old last message is destroyed, and the new one kept. -/
def store (s : State) (m : ℕ) : State :=
  { s with lastMsg := some m, log := s.lastMsg.toList.map Op.release ++ s.log }

/-- The last message is read, or handed to the C client. -/
def use (s : State) : State := { s with log := s.lastMsg.toList.map Op.use ++ s.log }

/-- `natsMsgList_Destroy()` -/
def destroyList (s : State) (msgs : List ℕ) : State :=
  { s with log := (msgs.map Op.release).reverse ++ s.log }

/-- The loop over the messages of a list. -/
def storeAll (conversion : ℕ → Option ExceptionInfo) (s : State) : List ℕ → State
  | [] => s.destroyList []
  | m :: rest =>
      match conversion m with
      | some _ => (s.store m).use.destroyList rest
      | none => storeAll conversion (s.store m).use rest

/-- `~QoreNatsSubscription()`, in the process that has created the subscription. -/
def destroy (s : State) : State :=
  { s with lastMsg := none, log := s.lastMsg.toList.map Op.release ++ s.log, destroyed := true }

/-- The C client hands out messages that are new and distinct. -/
def Fresh (s : State) (msgs : List ℕ) : Prop := (∀ m ∈ msgs, Op.acquire m ∉ s.log) ∧ msgs.Nodup

instance (s : State) (msgs : List ℕ) : Decidable (s.Fresh msgs) :=
  inferInstanceAs (Decidable (_ ∧ _))

end State

/-- One call on a wrapper that has not been destroyed. -/
def step (s : State) (a : Action) : Option State :=
  if s.destroyed then none
  else match a with
    | .nextMsg (.done (.ok m)) => if s.Fresh [m] then some ((s.receive [m]).store m).use else none
    | .nextMsg _ => some s
    | .fetch answer conversion =>
        if s.Fresh answer.messages then
          some ((s.receive answer.messages).storeAll conversion answer.messages)
        else none
    | .acknowledge call failure =>
        some (if (call.run s.lastMsg failure).request.isSome then s.use else s)
    | .getMetadata => some s.use
    | .destroy => some s.destroy

/-- The wrapper, from its construction on. -/
def machine : TransitionSystem State Action where
  init := {}
  step := step

/-- What a call can do. -/
inductive Step (s : State) : Action → State → Prop where
  | message {m : ℕ} (hfresh : s.Fresh [m]) :
      Step s (.nextMsg (.done (.ok m))) ((s.receive [m]).store m).use
  | noMessage {outcome} (hnone : ∀ m, outcome ≠ .done (.ok m)) : Step s (.nextMsg outcome) s
  | fetch {answer : Fetch.FetchAnswer ℕ} {conversion} (hfresh : s.Fresh answer.messages) :
      Step s (.fetch answer conversion)
        ((s.receive answer.messages).storeAll conversion answer.messages)
  | acknowledge {call failure} : Step s (.acknowledge call failure) s.use
  | getMetadata : Step s .getMetadata s.use
  | destroy : Step s .destroy s.destroy

/-- Without a last message nothing is used. -/
theorem State.use_of_none {s : State} (h : s.lastMsg = none) : s.use = s := by
  obtain ⟨lastMsg, log, destroyed⟩ := s
  obtain rfl : lastMsg = none := h
  rfl

theorem step_cases {s s' : State} {a : Action} (h : machine.step s a = some s') :
    s.destroyed = false ∧ Step s a s' := by
  simp only [machine, step] at h
  split at h
  · cases h
  · next halive =>
      refine ⟨by simpa using halive, ?_⟩
      split at h
      · split at h
        · next hfresh => cases h; exact .message hfresh
        · cases h
      · next hnone => cases h; exact .noMessage fun m hm => hnone m (hm ▸ rfl)
      · split at h
        · next hfresh => cases h; exact .fetch hfresh
        · cases h
      · next call failure =>
          cases hlast : s.lastMsg with
          | none =>
              obtain ⟨ex, hrun⟩ := call.run_none (μ := ℕ) failure
              rw [hlast, hrun] at h
              cases h
              have hstep : Step s (.acknowledge call failure) s.use := .acknowledge
              rwa [State.use_of_none hlast] at hstep
          | some m =>
              rw [hlast, call.run_some] at h
              cases h
              exact .acknowledge
      · cases h; exact .getMetadata
      · cases h; exact .destroy

/-- The call keeps the message that `nextMsg()` keeps. -/
theorem nextMsg_lastMsg {η : Type} (toHash : ℕ → Except ExceptionInfo η) {s s' : State}
    {outcome : Outcome ExceptionInfo (NextMsgStatus ℕ)} (h : Step s (.nextMsg outcome) s') :
    s'.lastMsg = (slicedResult (fun ex => (.error ex, s.lastMsg))
      (NextMsgStatus.returns toHash s.lastMsg) .timeout outcome).2 := by
  cases h with
  | message => rfl
  | noMessage hnone =>
      rcases outcome with ex | (m | _ | _ | _ | statusText) | _
      · rfl
      · exact absurd rfl (hnone m)
      all_goals rfl

/-! ## Ownership -/

/-- The wrapper holds its last message and the messages of a list, and no others. -/
structure Holds (s : State) (rest : List ℕ) : Prop where
  owns : Owns s.log (rest ++ s.lastMsg.toList)
  nothingLost : NothingLost s.log (rest ++ s.lastMsg.toList)

theorem Holds.receive {s : State} (h : Holds s []) {msgs : List ℕ} (hfresh : s.Fresh msgs) :
    Holds (s.receive msgs) msgs :=
  ⟨h.owns.acquireAll msgs hfresh.1 hfresh.2, h.nothingLost.acquireAll msgs⟩

theorem Holds.store {s : State} {m : ℕ} {rest : List ℕ} (h : Holds s (m :: rest)) :
    Holds (s.store m) rest := by
  have hnew : (rest ++ [m]).Perm (m :: rest) := List.perm_append_singleton m rest
  cases hlast : s.lastMsg with
  | none =>
      obtain ⟨howns, hlost⟩ := h
      rw [hlast, Option.toList_none, List.append_nil] at howns hlost
      simp only [State.store, hlast]
      exact ⟨howns.perm hnew, hlost.perm hnew⟩
  | some old =>
      obtain ⟨howns, hlost⟩ := h
      rw [hlast] at howns hlost
      have hold : (old :: m :: rest).Perm (m :: rest ++ [old]) :=
        (List.perm_append_singleton old (m :: rest)).symm
      simp only [State.store, hlast]
      exact ⟨(howns.perm hold).release.perm hnew, (hlost.perm hold).release.perm hnew⟩

theorem Holds.use {s : State} {rest : List ℕ} (h : Holds s rest) : Holds s.use rest := by
  cases hlast : s.lastMsg with
  | none => rwa [State.use_of_none hlast]
  | some m =>
      obtain ⟨howns, hlost⟩ := h
      rw [hlast] at howns hlost
      simp only [State.use, hlast]
      exact ⟨howns.use (by simp), hlost.use m⟩

theorem Holds.destroyList {s : State} {rest : List ℕ} (h : Holds s rest) :
    Holds (s.destroyList rest) [] :=
  ⟨h.owns.releaseAll rest, h.nothingLost.releaseAll rest⟩

theorem Holds.storeAll (conversion : ℕ → Option ExceptionInfo) {s : State} {msgs : List ℕ}
    (h : Holds s msgs) : Holds (s.storeAll conversion msgs) [] := by
  induction msgs generalizing s with
  | nil => exact h.destroyList
  | cons m rest ih =>
      rw [State.storeAll]
      cases conversion m with
      | some ex => exact h.store.use.destroyList
      | none => exact ih h.store.use

theorem Holds.destroy {s : State} (h : Holds s []) : Holds s.destroy [] := by
  cases hlast : s.lastMsg with
  | none =>
      obtain ⟨howns, hlost⟩ := h
      rw [hlast] at howns hlost
      simp only [State.destroy, hlast]
      exact ⟨howns, hlost⟩
  | some m =>
      obtain ⟨howns, hlost⟩ := h
      rw [hlast] at howns hlost
      simp only [State.destroy, hlast]
      exact ⟨howns.release, hlost.release⟩

theorem holds_step {s s' : State} {a : Action} (h : Holds s []) (hs : Step s a s') :
    Holds s' [] := by
  cases hs with
  | message hfresh => exact (h.receive hfresh).store.use
  | noMessage => exact h
  | fetch hfresh => exact (h.receive hfresh).storeAll _
  | acknowledge | getMetadata => exact h.use
  | destroy => exact h.destroy

/-! ## The message stored last -/

/-- The messages that the loop over a list stores: those up to the first that cannot be
    converted. -/
def taken (conversion : ℕ → Option ExceptionInfo) : List ℕ → List ℕ
  | [] => []
  | m :: rest =>
      match conversion m with
      | some _ => [m]
      | none => m :: taken conversion rest

/-- The messages that a call stores. -/
def stored (_ : State) : Action → List ℕ
  | .nextMsg (.done (.ok m)) => [m]
  | .fetch answer conversion => taken conversion answer.messages
  | _ => []

theorem storeAll_lastMsg (conversion : ℕ → Option ExceptionInfo) (s : State) (msgs : List ℕ) :
    (s.storeAll conversion msgs).lastMsg = (taken conversion msgs).getLast?.or s.lastMsg := by
  induction msgs generalizing s with
  | nil => rfl
  | cons m rest ih =>
      rw [State.storeAll, taken]
      cases conversion m with
      | some ex => rfl
      | none =>
          have hlast : (s.store m).use.lastMsg = some m := rfl
          rw [ih, hlast, List.getLast?_cons]
          cases (taken conversion rest).getLast? <;> rfl

/-- The loop is that of `fetch()`. -/
theorem storeAll_eq_toHashes (conversion : ℕ → Option ExceptionInfo) (s : State) (msgs : List ℕ) :
    (s.storeAll conversion msgs).lastMsg = (Fetch.toHashes conversion s.lastMsg msgs).2 := by
  induction msgs generalizing s with
  | nil => rfl
  | cons m rest ih =>
      rw [State.storeAll, Fetch.toHashes]
      cases conversion m with
      | some ex => rfl
      | none => exact ih _

theorem storeAll_destroyed (conversion : ℕ → Option ExceptionInfo) (s : State) (msgs : List ℕ) :
    (s.storeAll conversion msgs).destroyed = s.destroyed := by
  induction msgs generalizing s with
  | nil => rfl
  | cons m rest ih =>
      rw [State.storeAll]
      cases conversion m with
      | some ex => rfl
      | none => exact ih _

theorem step_lastMsg {s s' : State} {a : Action} (hs : Step s a s') :
    s'.destroyed = true ∧ s'.lastMsg = none ∨
      s'.destroyed = s.destroyed ∧ s'.lastMsg = (stored s a).getLast?.or s.lastMsg := by
  cases hs with
  | message => exact .inr ⟨rfl, rfl⟩
  | @noMessage outcome hnone =>
      refine .inr ⟨rfl, ?_⟩
      rcases outcome with ex | status | _
      · rfl
      · cases status with
        | ok m => exact absurd rfl (hnone m)
        | timeout | maxDeliveredMsgs | invalidSubscription | failed => rfl
      · rfl
  | fetch => exact .inr ⟨storeAll_destroyed _ _ _, storeAll_lastMsg _ _ _⟩
  | acknowledge | getMetadata => exact .inr ⟨rfl, rfl⟩
  | destroy => exact .inl ⟨rfl, rfl⟩

/-- The last message is the one stored last, until the wrapper is destroyed. -/
def KeepsLast (r : machine.Run) : Prop :=
  r.final.lastMsg = if r.final.destroyed then none else (r.outputs stored).getLast?

theorem keepsLast (r : machine.Run) : KeepsLast r := by
  induction r using TransitionSystem.Run.induction with
  | nil => rfl
  | extend r a s' h ih =>
      obtain ⟨halive, hs⟩ := step_cases h
      rw [KeepsLast, halive] at ih
      have hih : r.final.lastMsg = (r.outputs stored).getLast? := by simpa using ih
      rw [KeepsLast, TransitionSystem.Run.outputs_extend]
      rcases step_lastMsg hs with ⟨hdestroyed, hlast⟩ | ⟨hdestroyed, hlast⟩
      · simpa [TransitionSystem.Run.extend, hdestroyed] using hlast
      · simp [TransitionSystem.Run.extend, hdestroyed, halive, hlast, hih, List.getLast?_append]

theorem holds (r : machine.Run) : Holds r.final [] :=
  r.invariant ⟨owns_nil, nothingLost_nil⟩ fun _ _ _ h hstep => holds_step h (step_cases hstep).2

/-- In every run each message is destroyed once, unless it is the last one of a wrapper that has not
    been destroyed; none is touched afterwards; and an acknowledgement call acts on the message
    stored last, which is alive, or raises an error if there is none. -/
theorem message_ownership (r : machine.Run) :
    (∀ m, Op.acquire m ∈ r.final.log →
      (r.final.log.count (.release m) = 1 ↔ r.final.lastMsg ≠ some m)) ∧
    (r.final.destroyed → r.final.lastMsg = none) ∧
    (∀ newer older m, r.final.log = newer ++ .release m :: older → ∀ op ∈ newer, op.object ≠ m) ∧
    (r.final.destroyed = false → ∀ (call : AckCall) (failure : Option String),
      match (r.outputs stored).getLast? with
      | some m => Live r.final.log m ∧
          (call.run r.final.lastMsg failure).request = some (call.request, m)
      | none => ∃ ex, call.run r.final.lastMsg failure = ⟨.error ex, none⟩) := by
  obtain ⟨howns, hlost⟩ := holds r
  have hlast : r.final.lastMsg = if r.final.destroyed then none else (r.outputs stored).getLast? :=
    keepsLast r
  refine ⟨?_, ?_, ?_, ?_⟩
  · intro m hm
    rw [howns.released_once_iff hlost hm]
    simp
  · intro hdestroyed
    simp [hlast, hdestroyed]
  · intro newer older m hlog
    exact (hlog ▸ howns.legal).untouched_after_release
  · intro halive call failure
    rw [halive] at hlast
    simp only [Bool.false_eq_true, if_false] at hlast
    split
    · next m hm =>
        rw [hm] at hlast
        exact ⟨howns.live m (by simp [hlast]), by rw [hlast, call.run_some]⟩
    · next hnone =>
        rw [hlast, hnone]
        exact call.run_none failure

/-- A message, a list whose second message cannot be converted, an acknowledgement, and the end. -/
def shortLife : List Action :=
  [.nextMsg (.done (.ok 1)),
    .fetch (.ok [2, 3, 4]) fun m => if m = 3 then some ⟨"ERROR", "no hash"⟩ else none,
    .acknowledge .ack none, .destroy]

theorem message_ownership_shortLife :
    (machine.runOf shortLife (by decide)).final.log.count (.release 4) = 1 :=
  ((message_ownership (machine.runOf shortLife (by decide))).1 4 (by decide)).2 (by decide)

/-! ## Acknowledging a list -/

/-- The documented loop over a fetched list: `ack()` is called once for each message. These are the
    messages that the C client acknowledges, if no request fails. -/
def ackEach (lastMsg : Option μ) (msgs : List μ) : List (AckRequest × μ) :=
  msgs.flatMap fun _ => (ack lastMsg none).request.toList

/-- Every call acts on the message stored last. -/
theorem ackEach_eq_replicate (m : μ) (msgs : List μ) :
    ackEach (some m) msgs = List.replicate msgs.length (.ack, m) := by
  induction msgs with
  | nil => rfl
  | cons m' rest ih =>
      rw [ackEach, List.flatMap_cons, List.length_cons, List.replicate_succ]
      exact congrArg _ ih

/-- The messages before the last one are not acknowledged at all. -/
theorem not_mem_ackEach {m last : μ} (h : m ≠ last) (msgs : List μ) :
    (AckRequest.ack, m) ∉ ackEach (some last) msgs := by
  rw [ackEach_eq_replicate]
  intro hmem
  exact h (congrArg Prod.snd (List.eq_of_mem_replicate hmem))

theorem exists_not_mem_ackEach {msgs : List μ} (hne : msgs ≠ []) (hnodup : msgs.Nodup)
    (hmany : msgs.length ≠ 1) :
    ∃ m ∈ msgs, (AckRequest.ack, m) ∉ ackEach (some (msgs.getLast hne)) msgs := by
  obtain ⟨m, rest, rfl⟩ := List.exists_cons_of_ne_nil hne
  have hrest : rest ≠ [] := by
    rintro rfl
    exact hmany rfl
  refine ⟨m, List.mem_cons_self, not_mem_ackEach ?_ _⟩
  rw [List.getLast_cons hrest]
  exact fun hm => (List.nodup_cons.1 hnodup).1 (hm ▸ List.getLast_mem hrest)

/-- Each message of a fetched list is acknowledged once if and only if there is one message; of
    more messages some are not acknowledged at all. -/
theorem fetch_acknowledged_iff [DecidableEq μ] {σ : Type} {env : Fetch.Env σ μ} {valid : Bool}
    {batch : ℕ} {timeoutMs : ℤ} {s : σ} {lastMsg : Option μ} {msgs : List μ} (hne : msgs ≠ [])
    (h : (Fetch.fetch env valid batch timeoutMs s lastMsg).1 = .ok msgs) :
    ((∀ m ∈ msgs, (ackEach (Fetch.fetch env valid batch timeoutMs s lastMsg).2.1 msgs).count
      (.ack, m) = 1) ↔ msgs.length = 1) ∧
    (msgs.Nodup → msgs.length ≠ 1 → ∃ m ∈ msgs,
      (AckRequest.ack, m) ∉
        ackEach (Fetch.fetch env valid batch timeoutMs s lastMsg).2.1 msgs) := by
  rw [Fetch.fetch_lastMsg hne h, List.getLast?_eq_some_getLast hne]
  refine ⟨?_, exists_not_mem_ackEach hne⟩
  rw [ackEach_eq_replicate]
  constructor
  · intro hall
    have hlast := hall _ (List.getLast_mem hne)
    rwa [List.count_replicate_self] at hlast
  · intro hone m hm
    obtain ⟨m', rfl⟩ := List.length_eq_one_iff.1 hone
    obtain rfl : m = m' := List.mem_singleton.1 hm
    simp

/-- What the client fetches when two messages arrive in the first slice. -/
theorem fetch_together {batch : ℕ} (hbatch : 1 ≤ batch) :
    (Fetch.fetch (Fetch.quietEnv Fetch.client) true batch 5000 ⟨0, Fetch.together⟩ none).1 =
      .ok ([1, 2].take batch) := by
  rw [Fetch.fetch_eq Fetch.client_documented hbatch (by decide)]
  norm_num [Fetch.lastSliceEnd, Fetch.sliceEnd, Fetch.Schedule.arrivedBy, Fetch.together,
    List.map_take]

theorem fetch_acknowledged_iff_one :
    (ackEach (Fetch.fetch (Fetch.quietEnv Fetch.client) true 1 5000
      ⟨0, Fetch.together⟩ none).2.1 [1]).count (.ack, 1) = 1 :=
  (fetch_acknowledged_iff (by decide) (fetch_together le_rfl)).1.2 rfl 1 List.mem_cons_self

/-- Of two fetched messages the first is not acknowledged, and the second twice. -/
theorem fetch_leaves_unacknowledged :
    ¬ ∀ (natsFetch : ℕ → ℤ → Fetch.Waiting ℕ → Fetch.FetchAnswer ℕ × Fetch.Waiting ℕ) (batch : ℕ)
      (timeoutMs : ℤ) (w : Fetch.Schedule ℕ) (lastMsg : Option ℕ) (msgs : List ℕ),
      Fetch.FetchDocumented natsFetch → msgs ≠ [] →
      (Fetch.fetch (Fetch.quietEnv natsFetch) true batch timeoutMs ⟨0, w⟩ lastMsg).1 = .ok msgs →
      ∀ m ∈ msgs, (ackEach (Fetch.fetch (Fetch.quietEnv natsFetch) true batch timeoutMs ⟨0, w⟩
        lastMsg).2.1 msgs).count (.ack, m) = 1 := by
  intro hall
  have hfetch := fetch_together (by decide : 1 ≤ 2)
  have hfirst := hall Fetch.client 2 5000 Fetch.together none [1, 2] Fetch.client_documented
    (by decide) hfetch 1 (by decide)
  rw [Fetch.fetch_lastMsg (by decide) hfetch] at hfirst
  revert hfirst
  decide

end ModuleNats.LastMsg
