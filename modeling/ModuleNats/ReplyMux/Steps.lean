import Mathlib.Data.List.Perm.Basic
import ModuleNats.ReplyMux.Model

set_option autoImplicit false

/-! # What a step of the reply mux can do

`step_cases` lists every possible step with its guard and its effect; the invariants of the other
files are proved from it, so that `step` is unfolded here only. Below it stand the facts about the
map and the request list that the effects are read with. -/

namespace ModuleNats.ReplyMux

open Ownership State

/-- Every step, one constructor for each branch of the code. -/
inductive Step (pre : String) (s : State) : Action → State → Prop where
  | noMux {subject timeoutMs inbox} (b : Bool) :
      Step pre s (.request subject timeoutMs inbox) { s with abandoned := b }
  | number {subject timeoutMs inbox} (c : Bool) :
      Step pre s (.request subject timeoutMs inbox)
        (State.number { s with replyMux := true, closure := c } subject timeoutMs)
  | register {i r} (hr : s.requests[i]? = some r) (hpc : r.pc = .numbered) :
      Step pre s (.register i) (s.registerRequest i r)
  | publish {i r failure} (hr : s.requests[i]? = some r) (hpc : r.pc = .registered) {pc}
      (h : pc = .polling ∨ ∃ text, pc = .leaving (.publishFailed text)) :
      Step pre s (.publish i failure) (s.setPc i r pc)
  | take {i r expired reply} (hr : s.requests[i]? = some r)
      (hpc : r.pc = .polling ∨ r.pc = .blocked)
      (h : s.replies.lookup r.token = some (some reply)) :
      Step pre s (.poll i expired)
        { s.setPc i r (.holding reply) with replies := s.replies.insert r.token none }
  | giveUp {i r} (hr : s.requests[i]? = some r) (hpc : r.pc = .polling ∨ r.pc = .blocked)
      (h : ∀ reply, s.replies.lookup r.token ≠ some (some reply)) :
      Step pre s (.poll i true)
        { s.setPc i r (.leaving .deadline) with replies := s.replies.index r.token }
  | block {i r} (hr : s.requests[i]? = some r) (hpc : r.pc = .polling ∨ r.pc = .blocked)
      (h : ∀ reply, s.replies.lookup r.token ≠ some (some reply)) :
      Step pre s (.poll i false)
        { s.setPc i r .blocked with replies := s.replies.index r.token }
  | interrupt {i r} (hr : s.requests[i]? = some r) (hpc : r.pc = .blocked) :
      Step pre s (.interrupt i) (s.setPc i r (.leaving .cancelled))
  | convert {i r reply ok} (hr : s.requests[i]? = some r) (hpc : r.pc = .holding reply) :
      Step pre s (.convert i ok) (s.convertReply i r reply ok)
  | leaveGone {i r o} (hr : s.requests[i]? = some r) (hpc : r.pc = .leaving o)
      (h : s.replies.lookup r.token = none) :
      Step pre s (.leave i) (s.setPc i r (.ended o)).dropRef
  | leaveEmpty {i r o} (hr : s.requests[i]? = some r) (hpc : r.pc = .leaving o)
      (h : s.replies.lookup r.token = some none) :
      Step pre s (.leave i)
        (dropRef { s.setPc i r (.ended o) with replies := s.replies.erase r.token })
  | leaveReply {i r o reply} (hr : s.requests[i]? = some r) (hpc : r.pc = .leaving o)
      (h : s.replies.lookup r.token = some (some reply)) :
      Step pre s (.leave i) (dropRef { ((s.setPc i r (.ended o)).destroyMsg reply.id) with
        replies := s.replies.erase r.token })
  | foreign {msg} (hfresh : Op.acquire msg.id ∉ s.log) :
      Step pre s (.arrive msg)
        { s with log := .release msg.id :: .use msg.id :: .acquire msg.id :: s.log }
  | arrive {msg tok} (hfresh : Op.acquire msg.id ∉ s.log)
      (htok : msg.subject = some (pre ++ tok)) :
      Step pre s (.arrive msg) { s with
        log := .use msg.id :: .acquire msg.id :: s.log
        callbacks := s.callbacks ++ [⟨msg, tok⟩] }
  | arriveAbandoned {msg} (hfresh : Op.acquire msg.id ∉ s.log) :
      Step pre s (.arriveAbandoned msg)
        { s with log := .release msg.id :: .use msg.id :: .acquire msg.id :: s.log }
  | store {k c} (hc : s.callbacks[k]? = some c) (h : s.replies.lookup c.token = some none) :
      Step pre s (.dispatch k) { s with
        callbacks := s.callbacks.eraseIdx k
        requests := s.requests.map (noteDelivery c)
        replies := s.replies.insert c.token (some c.msg) }
  | drop {k c} (hc : s.callbacks[k]? = some c) (h : s.replies.lookup c.token ≠ some none) :
      Step pre s (.dispatch k) { s with
        callbacks := s.callbacks.eraseIdx k
        requests := s.requests.map (noteDelivery c)
        log := .release c.msg.id :: s.log }
  | destroyConnection :
      Step pre s .destroyConnection (dropRef { s with connected := false, replyMux := false })
  | replyComplete : Step pre s .replyComplete (dropRef { s with closure := false })

/-- Every step that is possible is one of `Step`. -/
theorem step_cases {pre : String} {s s' : State} {a : Action} (h : step pre s a = some s') :
    Step pre s a s' := by
  cases a with
  | request subject timeoutMs inbox =>
      simp only [step, startRequest, getReplyMux] at h
      split at h
      · obtain rfl := Option.some.inj h
        by_cases hmux : s.replyMux = true
        · have hs : s = { s with replyMux := true, closure := s.closure } := by rw [← hmux]
          rw [if_pos hmux]
          conv => arg 4; rw [hs]
          exact .number s.closure
        · rw [if_neg hmux]
          cases inbox with
          | subscribed => exact .number true
          | inboxFailed => exact .noMux s.abandoned
          | subscribeFailed => exact .noMux s.abandoned
          | completeFailed => exact .noMux true
      · cases h
  | register i =>
      obtain ⟨r, hr, h⟩ := Option.bind_eq_some_iff.1 h
      cases hpc : r.pc <;> simp only [hpc, reduceCtorEq, Option.some.injEq] at h
      subst h
      exact .register hr hpc
  | publish i failure =>
      obtain ⟨r, hr, h⟩ := Option.bind_eq_some_iff.1 h
      cases hpc : r.pc <;> simp only [hpc, reduceCtorEq, Option.some.injEq] at h
      subst h
      cases failure with
      | none => exact .publish hr hpc (Or.inl rfl)
      | some text => exact .publish hr hpc (Or.inr ⟨text, rfl⟩)
  | poll i expired =>
      obtain ⟨r, hr, h⟩ := Option.bind_eq_some_iff.1 h
      have hpc : r.pc = .polling ∨ r.pc = .blocked := by
        cases hpc : r.pc <;> simp [hpc] at h <;> simp
      have hs' : s.pollReply i r expired = s' := by
        rcases hpc with hpc | hpc <;> simpa [hpc] using h
      subst hs'
      have hindex : ∀ reply, (s.replies.index r.token).lookup r.token = some (some reply) ↔
          s.replies.lookup r.token = some (some reply) := by
        intro reply
        simp only [Replies.index]
        split
        · rfl
        · next hnot => simp [AList.lookup_eq_none.2 hnot]
      simp only [pollReply]
      split
      · next reply hreply =>
          have hlook := (hindex reply).1 hreply
          have hmem : r.token ∈ s.replies := AList.lookup_isSome.1 (by simp [hlook])
          simp only [Replies.index, if_pos hmem]
          exact .take hr hpc hlook
      · next hnot =>
          have hno : ∀ reply, s.replies.lookup r.token ≠ some (some reply) :=
            fun reply hlook => hnot reply ((hindex reply).2 hlook)
          cases expired with
          | true => exact .giveUp hr hpc hno
          | false => exact .block hr hpc hno
  | interrupt i =>
      obtain ⟨r, hr, h⟩ := Option.bind_eq_some_iff.1 h
      cases hpc : r.pc <;> simp only [hpc, reduceCtorEq, Option.some.injEq] at h
      subst h
      exact .interrupt hr hpc
  | convert i ok =>
      obtain ⟨r, hr, h⟩ := Option.bind_eq_some_iff.1 h
      cases hpc : r.pc <;> simp only [hpc, reduceCtorEq, Option.some.injEq] at h
      subst h
      exact .convert hr hpc
  | leave i =>
      obtain ⟨r, hr, h⟩ := Option.bind_eq_some_iff.1 h
      cases hpc : r.pc <;> simp only [hpc, reduceCtorEq, Option.some.injEq] at h
      subst h
      simp only [leaveRequest]
      split
      · next hlook => exact .leaveGone hr hpc hlook
      · next hlook => exact .leaveEmpty hr hpc hlook
      · next hlook => exact .leaveReply hr hpc hlook
  | arrive msg =>
      simp only [step] at h
      split at h
      · next hguard =>
          obtain rfl := Option.some.inj h
          simp only [replyHandler]
          split
          · exact .foreign hguard.2
          · next tok htok => exact .arrive hguard.2 (replyToken_eq_some.1 htok)
      · cases h
  | arriveAbandoned msg =>
      simp only [step] at h
      split at h
      · next hguard =>
          obtain rfl := Option.some.inj h
          exact .arriveAbandoned hguard.2
      · cases h
  | dispatch k =>
      obtain ⟨c, hc, rfl⟩ := Option.map_eq_some_iff.1 h
      simp only [storeReply]
      split
      · next hlook => exact .store hc hlook
      · next hnot => exact .drop hc hnot
  | destroyConnection =>
      simp only [step] at h
      split at h
      · obtain rfl := Option.some.inj h; exact .destroyConnection
      · cases h
  | replyComplete =>
      simp only [step] at h
      split at h
      · obtain rfl := Option.some.inj h; exact .replyComplete
      · cases h

/-! ## Reading the map -/

@[simp] theorem Replies.stored_insert (replies : Replies) (tok : String) (v : Option NatsMsg) :
    Replies.stored (replies.insert tok v)
      = (v.map NatsMsg.id).toList ++ Replies.stored (replies.erase tok) := by
  have herase : (replies.erase tok).entries = replies.entries.kerase tok := rfl
  cases v <;> simp [Replies.stored, AList.entries_insert, herase]

@[simp] theorem Replies.stored_empty : Replies.stored ∅ = [] := rfl

/-- The stored messages are the one under a token and the others. -/
theorem Replies.stored_perm {replies : Replies} {tok : String} {v : Option NatsMsg}
    (h : replies.lookup tok = some v) : List.Perm replies.stored
      ((v.map NatsMsg.id).toList ++ Replies.stored (replies.erase tok)) := by
  rw [← Replies.stored_insert replies tok v]
  refine List.Perm.filterMap _ (List.lookup_ext replies.nodupKeys
    (replies.insert tok v).nodupKeys fun x y => ?_)
  show y ∈ replies.lookup x ↔ y ∈ (replies.insert tok v).lookup x
  by_cases hx : x = tok
  · subst hx; simp [h]
  · rw [AList.lookup_insert_ne hx]

theorem Replies.stored_erase_of_not_mem {replies : Replies} {tok : String} (h : tok ∉ replies) :
    Replies.stored (replies.erase tok) = replies.stored := by
  have hkeys : tok ∉ replies.entries.keys := h
  have herase : (replies.erase tok).entries = replies.entries :=
    List.kerase_of_notMem_keys hkeys
  rw [Replies.stored, Replies.stored, herase]

/-- `operator[]` stores no message. -/
theorem Replies.stored_index (replies : Replies) (tok : String) :
    (replies.index tok).stored = replies.stored := by
  simp only [Replies.index]
  split
  · rfl
  · next hnot => simp [Replies.stored_erase_of_not_mem hnot]

/-! ## Reading the request list -/

/-- The messages owned by the `NatsMsgHolder`s of the calls. -/
def holders (requests : List Request) : List ℕ :=
  requests.filterMap fun r => r.pc.held.map NatsMsg.id

/-- Changing one call exchanges what it holds. -/
theorem holders_set {requests : List Request} {i : ℕ} {r : Request}
    (hr : requests[i]? = some r) (r' : Request) :
    ∃ rest, (holders requests).Perm ((r.pc.held.map NatsMsg.id).toList ++ rest) ∧
      (holders (requests.set i r')).Perm ((r'.pc.held.map NatsMsg.id).toList ++ rest) :=
  Ownership.exists_perm_filterMap_set _ hr r'

theorem holders_noteDelivery (c : Callback) (requests : List Request) :
    holders (requests.map (noteDelivery c)) = holders requests := by
  simp only [holders, List.filterMap_map]
  congr 1
  funext r
  simp only [Function.comp_apply, noteDelivery]
  split <;> rfl

/-- The calls after one of them has changed. -/
theorem getElem?_set_cases {requests : List Request} {i j : ℕ} {r r' q : Request}
    (hr : requests[i]? = some r) (hq : (requests.set i r')[j]? = some q) :
    (j = i ∧ q = r') ∨ (j ≠ i ∧ requests[j]? = some q) := by
  by_cases hji : j = i
  · subst hji
    obtain ⟨hi, _⟩ := List.getElem?_eq_some_iff.1 hr
    rw [List.getElem?_set_self hi] at hq
    exact Or.inl ⟨rfl, (Option.some.inj hq).symm⟩
  · rw [List.getElem?_set_ne (Ne.symm hji)] at hq
    exact Or.inr ⟨hji, hq⟩

/-- `noteDelivery` changes nothing but the note. -/
@[simp] theorem noteDelivery_pc (c : Callback) (r : Request) : (noteDelivery c r).pc = r.pc := by
  simp only [noteDelivery]; split <;> rfl

@[simp] theorem noteDelivery_token (c : Callback) (r : Request) :
    (noteDelivery c r).token = r.token := by
  simp only [noteDelivery]; split <;> rfl

@[simp] theorem dropRef_requests (s : State) : s.dropRef.requests = s.requests := by
  simp only [dropRef]; split <;> rfl

@[simp] theorem dropRef_callbacks (s : State) : s.dropRef.callbacks = s.callbacks := by
  simp only [dropRef]; split <;> rfl

@[simp] theorem dropRef_replyCounter (s : State) : s.dropRef.replyCounter = s.replyCounter := by
  simp only [dropRef]; split <;> rfl

end ModuleNats.ReplyMux
