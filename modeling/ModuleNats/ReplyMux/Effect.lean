import ModuleNats.ReplyMux.Steps

set_option autoImplicit false

/-! # What a step does to the calls and the map

Correlation needs less of a step than `Step` says. `Effect` sums it up: nothing changes, a call
takes its number, one call moves (`CallMove`), or a callback delivers its message; a step may end
with the end of a reference to the mux on top. The inversions that the invariants use are proved
from it. -/

namespace ModuleNats.ReplyMux

open Ownership State

/-- The message that a call uses: the one it has taken, until and after its end. -/
def RequestPc.used (pc : RequestPc) : Option NatsMsg := pc.held.or pc.answer

theorem RequestPc.inScope_of_waiting {pc : RequestPc} (h : pc.waiting) : pc.inScope := by
  cases pc <;> first | rfl | cases h

theorem RequestPc.active_of_inScope {pc : RequestPc} (h : pc.inScope) : pc.active := by
  cases pc <;> first | rfl | cases h

/-! ## The effect of a step -/

/-- What a step of the call `r` does to its counter and to the map: other entries stay, its own
    entry is there while the call is in scope, and a reply can only leave it. -/
structure CallMove (r : Request) (replies : Replies) (pc : RequestPc) (replies' : Replies) :
    Prop where
  other : ∀ tok, tok ≠ r.token → replies'.lookup tok = replies.lookup tok
  stored : ∀ m, replies'.lookup r.token = some (some m) → replies.lookup r.token = some (some m)
  active : r.pc.active
  started : pc ≠ .numbered
  key : (r.pc.inScope → r.token ∈ replies) → (r.token ∈ replies' ↔ pc.inScope)
  entry : pc.waiting → (r.pc = .numbered ∧ replies'.lookup r.token = some none) ∨
    (r.pc.waiting ∧ (r.token ∈ replies → replies'.lookup r.token = replies.lookup r.token))

/-- What a step does to the calls and the map. -/
inductive Effect (s : State) (a : Action) (t : State) : Prop where
  | other (hrequests : t.requests = s.requests) (hreplies : t.replies = s.replies)
      (hcounter : t.replyCounter = s.replyCounter)
  | number {subject : String} {timeoutMs : Int64}
      (hrequests : t.requests = s.requests ++
        [⟨subject, timeoutMs, toString (s.replyCounter + 1).toInt, .numbered, []⟩])
      (hreplies : t.replies = s.replies) (hcounter : t.replyCounter = s.replyCounter + 1)
      (ha : ∃ subject timeoutMs inbox, a = .request subject timeoutMs inbox)
  | call {i : ℕ} {r : Request} {pc : RequestPc} (hr : s.requests[i]? = some r)
      (hrequests : t.requests = s.requests.set i { r with pc := pc })
      (hmove : CallMove r s.replies pc t.replies)
      (hused : ∀ m, pc.used = some m → r.pc.used = some m ∨
        (r.pc.waiting ∧ s.replies.lookup r.token = some (some m) ∧ ∃ expired, a = .poll i expired))
      (hanswer : ∀ m, pc.answer = some m → r.pc.answer = some m ∨ Op.release m.id ∈ t.log)
      (hdeadline : pc = .leaving .deadline →
        r.pc.waiting ∧ ∀ m, s.replies.lookup r.token ≠ some (some m))
      (hcounter : t.replyCounter = s.replyCounter)
  | deliver {c : Callback} (hc : c ∈ s.callbacks)
      (hrequests : t.requests = s.requests.map (noteDelivery c))
      (hreplies : (s.replies.lookup c.token = some none ∧
          t.replies = s.replies.insert c.token (some c.msg)) ∨
        (s.replies.lookup c.token ≠ some none ∧ t.replies = s.replies))
      (hcounter : t.replyCounter = s.replyCounter)

/-- A call that leaves the map alone and stays in scope. -/
theorem CallMove.stay {r : Request} {replies : Replies} {pc : RequestPc} (hold : r.pc.inScope)
    (hnew : pc.inScope) (hwait : pc.waiting → r.pc.waiting) : CallMove r replies pc replies where
  other _ _ := rfl
  stored _ h := h
  active := RequestPc.active_of_inScope hold
  started := by rintro rfl; cases hnew
  key h := ⟨fun _ => hnew, fun _ => h hold⟩
  entry h := Or.inr ⟨hwait h, fun _ => rfl⟩

/-- A call that waits on: `operator[]` finds its entry. -/
theorem CallMove.index {r : Request} {replies : Replies} {pc : RequestPc} (hold : r.pc.waiting)
    (hnew : pc.inScope) : CallMove r replies pc (replies.index r.token) where
  other tok htok := by
    simp only [Replies.index]
    split
    · rfl
    · exact AList.lookup_insert_ne htok
  stored m h := by
    simp only [Replies.index] at h
    split at h
    · exact h
    · simp at h
  active := RequestPc.active_of_inScope (RequestPc.inScope_of_waiting hold)
  started := by rintro rfl; cases hnew
  key _ := by
    refine ⟨fun _ => hnew, fun _ => ?_⟩
    simp only [Replies.index]
    split
    · assumption
    · simp
  entry _ := Or.inr ⟨hold, fun hmem => by rw [Replies.index, if_pos hmem]⟩

/-- The end of a call: its entry is erased, if it is there. -/
theorem CallMove.leave {r : Request} {replies replies' : Replies} {o : Outcome}
    (hpc : r.pc = .leaving o)
    (h : replies.lookup r.token = none ∧ replies' = replies ∨ replies' = replies.erase r.token) :
    CallMove r replies (.ended o) replies' where
  other tok htok := by
    rcases h with ⟨_, rfl⟩ | rfl
    · rfl
    · exact AList.lookup_erase_ne htok
  stored m hm := by
    rcases h with ⟨_, rfl⟩ | rfl
    · exact hm
    · simp at hm
  active := by rw [hpc]; rfl
  started := nofun
  key _ := by
    rcases h with ⟨hnone, rfl⟩ | rfl
    · simp [AList.lookup_eq_none.1 hnone, RequestPc.inScope]
    · simp [AList.mem_erase, RequestPc.inScope]
  entry hw := by cases hw

/-- The end of a call, before that of its reference. -/
theorem Effect.leave {s t : State} {a : Action} {i : ℕ} {r : Request} {o : Outcome}
    (hr : s.requests[i]? = some r) (hpc : r.pc = .leaving o)
    (hrequests : t.requests = s.requests.set i { r with pc := .ended o })
    (hreplies : s.replies.lookup r.token = none ∧ t.replies = s.replies ∨
      t.replies = s.replies.erase r.token)
    (hcounter : t.replyCounter = s.replyCounter) : Effect s a t := by
  have hused : r.pc.used = (RequestPc.ended o).used := by rw [hpc]; rfl
  have hanswer : r.pc.answer = (RequestPc.ended o).answer := by rw [hpc]; rfl
  refine .call hr hrequests (.leave hpc hreplies) ?_ ?_ nofun hcounter
  · intro m hm
    exact Or.inl (hused ▸ hm)
  · intro m hm
    exact Or.inl (hanswer ▸ hm)

/-- Every step is one of the four effects, possibly followed by the end of a reference. -/
theorem Step.effect {pre : String} {s s' : State} {a : Action} (h : Step pre s a s') :
    Effect s a s' ∨ ∃ t, Effect s a t ∧ s' = t.dropRef := by
  cases h with
  | noMux b => exact Or.inl (.other rfl rfl rfl)
  | number c => exact Or.inl (.number rfl rfl rfl ⟨_, _, _, rfl⟩)
  | @register i r hr hpc =>
      refine Or.inl (.call hr rfl ?_ nofun nofun nofun rfl)
      exact {
        other := fun tok htok => AList.lookup_insert_ne htok
        stored := fun m hm => by simp [registerRequest] at hm
        active := by rw [hpc]; rfl
        started := nofun
        key := fun _ => by simp [registerRequest, RequestPc.inScope]
        entry := fun _ => Or.inl ⟨hpc, by simp [registerRequest]⟩ }
  | publish hr hpc hnew =>
      refine Or.inl (.call hr rfl (.stay (by simp [hpc, RequestPc.inScope]) ?_ ?_) ?_ ?_ ?_ rfl)
      · rcases hnew with rfl | ⟨text, rfl⟩ <;> rfl
      · simp [hpc, RequestPc.waiting]
      · rcases hnew with rfl | ⟨text, rfl⟩ <;> nofun
      · rcases hnew with rfl | ⟨text, rfl⟩ <;> nofun
      · rcases hnew with rfl | ⟨text, rfl⟩ <;> nofun
  | @take i r expired reply hr hpc hlook =>
      refine Or.inl (.call hr rfl ?_ (fun m hm => ?_) nofun nofun rfl)
      · exact {
          other := fun tok htok => AList.lookup_insert_ne htok
          stored := fun m hm => by simp at hm
          active := by rcases hpc with hpc | hpc <;> rw [hpc] <;> rfl
          started := nofun
          key := fun _ => by simp [RequestPc.inScope]
          entry := nofun }
      · obtain rfl : reply = m := by simpa [RequestPc.used, RequestPc.held] using hm
        refine Or.inr ⟨?_, hlook, expired, rfl⟩
        rcases hpc with hpc | hpc <;> simp [hpc, RequestPc.waiting]
  | @giveUp i r hr hpc hno =>
      have hwait : r.pc.waiting := by
        rcases hpc with hpc | hpc <;> simp [hpc, RequestPc.waiting]
      exact Or.inl (.call hr rfl (.index hwait rfl) nofun nofun (fun _ => ⟨hwait, hno⟩) rfl)
  | block hr hpc hno =>
      refine Or.inl (.call hr rfl (.index ?_ rfl) nofun nofun nofun rfl)
      rcases hpc with hpc | hpc <;> simp [hpc, RequestPc.waiting]
  | interrupt hr hpc =>
      exact Or.inl (.call hr rfl (.stay (by simp [hpc, RequestPc.inScope]) rfl nofun)
        nofun nofun nofun rfl)
  | @convert i r reply ok hr hpc =>
      have hreply : (replyOutcome reply ok).reply = some reply := by
        simp only [replyOutcome]; split <;> [rfl; (split <;> rfl)]
      have hsame : (s.convertReply i r reply ok).replies = s.replies := by
        simp only [convertReply]; split <;> rfl
      have hrequests : (s.convertReply i r reply ok).requests =
          s.requests.set i { r with pc := .leaving (replyOutcome reply ok) } := by
        simp only [convertReply]; split <;> rfl
      refine Or.inl (.call hr hrequests ?_ (fun m hm => ?_) (fun m hm => ?_)
        (fun hdeadline => ?_) ?_)
      · rw [hsame]
        exact .stay (by simp [hpc, RequestPc.inScope]) rfl nofun
      · refine Or.inl ?_
        simpa [hpc, RequestPc.used, RequestPc.held, RequestPc.answer, hreply] using hm
      · obtain rfl : reply = m := by simpa [RequestPc.answer, hreply] using hm
        refine Or.inr ?_
        simp only [convertReply]; split <;> exact List.mem_cons_self
      · rw [RequestPc.leaving.inj hdeadline] at hreply
        cases hreply
      · simp only [convertReply]; split <;> rfl
  | leaveGone hr hpc hlook =>
      refine Or.inr ⟨_, ?_, rfl⟩
      exact .leave hr hpc rfl (Or.inl ⟨hlook, rfl⟩) rfl
  | leaveEmpty hr hpc hlook | leaveReply hr hpc hlook =>
      refine Or.inr ⟨_, ?_, rfl⟩
      exact .leave hr hpc rfl (Or.inr rfl) rfl
  | foreign hfresh => exact Or.inl (.other rfl rfl rfl)
  | arrive hfresh htok => exact Or.inl (.other rfl rfl rfl)
  | arriveAbandoned hfresh => exact Or.inl (.other rfl rfl rfl)
  | store hc hlook =>
      exact Or.inl (.deliver (List.mem_of_getElem? hc) rfl (Or.inl ⟨hlook, rfl⟩) rfl)
  | drop hc hlook =>
      exact Or.inl (.deliver (List.mem_of_getElem? hc) rfl (Or.inr ⟨hlook, rfl⟩) rfl)
  | destroyConnection =>
      exact Or.inr ⟨{ s with connected := false, replyMux := false }, .other rfl rfl rfl, rfl⟩
  | replyComplete => exact Or.inr ⟨{ s with closure := false }, .other rfl rfl rfl, rfl⟩

/-- The end of a reference keeps the map, or empties it when no call is left. -/
theorem dropRef_replies (s : State) : s.dropRef.replies = s.replies ∨
    (s.dropRef.replies = ∅ ∧ ∀ r ∈ s.requests, r.pc.active = false) := by
  simp only [dropRef]
  split
  · exact Or.inl rfl
  · next hnot =>
      simp only [referenced, Bool.or_eq_true, List.any_eq_true, not_or, not_exists, not_and,
        Bool.not_eq_true] at hnot
      exact Or.inr ⟨rfl, hnot.2⟩

theorem mem_dropRef_log (s : State) {op : Op ℕ} (h : op ∈ s.log) : op ∈ s.dropRef.log := by
  simp only [dropRef]
  split
  · exact h
  · exact List.mem_append_right _ h

/-- The callbacks that run are old, or carry the rest of a subject that starts with the prefix. -/
theorem Step.callbacks {pre : String} {s s' : State} {a : Action} (h : Step pre s a s') :
    ∀ c ∈ s'.callbacks, c ∈ s.callbacks ∨ c.msg.subject = some (pre ++ c.token) := by
  intro c hc
  cases h with
  | @convert i r reply ok hr hpc =>
      refine Or.inl ?_
      simp only [convertReply] at hc
      split at hc <;> exact hc
  | arrive hfresh htok =>
      rcases List.mem_append.1 hc with hc | hc
      · exact Or.inl hc
      · obtain rfl := List.mem_singleton.1 hc
        exact Or.inr htok
  | store hk hlook => exact Or.inl (List.mem_of_mem_eraseIdx hc)
  | drop hk hlook => exact Or.inl (List.mem_of_mem_eraseIdx hc)
  | leaveGone hr hpc hlook => exact Or.inl (by simpa [setPc] using hc)
  | leaveEmpty hr hpc hlook => exact Or.inl (by simpa [setPc] using hc)
  | leaveReply hr hpc hlook => exact Or.inl (by simpa [setPc, destroyMsg] using hc)
  | destroyConnection => exact Or.inl (by simpa using hc)
  | replyComplete => exact Or.inl (by simpa using hc)
  | _ => exact Or.inl hc

/-- Operations on messages are never taken back. -/
theorem Step.log {pre : String} {s s' : State} {a : Action} (h : Step pre s a s') :
    ∀ op ∈ s.log, op ∈ s'.log := by
  intro op hop
  cases h with
  | leaveGone hr hpc hlook => exact mem_dropRef_log _ hop
  | leaveEmpty hr hpc hlook => exact mem_dropRef_log _ hop
  | leaveReply hr hpc hlook => exact mem_dropRef_log _ (List.mem_cons_of_mem _ hop)
  | destroyConnection => exact mem_dropRef_log _ hop
  | replyComplete => exact mem_dropRef_log _ hop
  | convert hr hpc => simp only [convertReply]; split <;> simp [hop]
  | foreign hfresh => simp [hop]
  | arrive hfresh htok => simp [hop]
  | arriveAbandoned hfresh => simp [hop]
  | drop hc hlook => simp [hop]
  | _ => exact hop

/-- A message is in the map because it was there, or because a callback has stored it. -/
theorem Step.stored {pre : String} {s s' : State} {a : Action} (h : Step pre s a s')
    {tok : String} {m : NatsMsg} (hm : s'.replies.lookup tok = some (some m)) :
    s.replies.lookup tok = some (some m) ∨ ∃ c ∈ s.callbacks, c.token = tok ∧ c.msg = m := by
  have heffect : ∀ t, Effect s a t → t.replies.lookup tok = some (some m) →
      s.replies.lookup tok = some (some m) ∨ ∃ c ∈ s.callbacks, c.token = tok ∧ c.msg = m := by
    intro t ht hm
    cases ht with
    | other _ hreplies _ => exact Or.inl (hreplies ▸ hm)
    | number _ hreplies _ _ => exact Or.inl (hreplies ▸ hm)
    | @call i r pc hr hrequests hmove _ _ _ _ =>
        by_cases htok : tok = r.token
        · subst htok; exact Or.inl (hmove.stored m hm)
        · exact Or.inl (hmove.other tok htok ▸ hm)
    | @deliver c hc hrequests hreplies _ =>
        rcases hreplies with ⟨_, hreplies⟩ | ⟨_, hreplies⟩ <;> rw [hreplies] at hm
        · by_cases htok : tok = c.token
          · subst htok
            exact Or.inr ⟨c, hc, rfl, by simpa using hm⟩
          · exact Or.inl (by rwa [AList.lookup_insert_ne htok] at hm)
        · exact Or.inl hm
  rcases h.effect with ht | ⟨t, ht, rfl⟩
  · exact heffect s' ht hm
  · rcases dropRef_replies t with heq | ⟨hempty, _⟩
    · exact heffect t ht (heq ▸ hm)
    · simp [hempty] at hm

/-- How the call `q` with number `i` after the step `a` of `s` comes from one before: what it uses
    it used before or has just taken from its entry, and what has decided its end is destroyed. -/
structure CameFrom (s : State) (a : Action) (log : List (Op ℕ)) (i : ℕ) (q r : Request) :
    Prop where
  before : s.requests[i]? = some r
  token : r.token = q.token
  used : ∀ m, q.pc.used = some m → r.pc.used = some m ∨
    (r.pc.waiting ∧ s.replies.lookup r.token = some (some m) ∧ ∃ expired, a = .poll i expired)
  answer : ∀ m, q.pc.answer = some m → r.pc.answer = some m ∨ Op.release m.id ∈ log
  deadline : q.pc = .leaving .deadline → r.pc = .leaving .deadline ∨
    (r.pc.waiting ∧ ∀ m, s.replies.lookup r.token ≠ some (some m))

/-- A call after a step is new, or it was there before. -/
theorem Step.cameFrom {pre : String} {s s' : State} {a : Action} (h : Step pre s a s') {i : ℕ}
    {q : Request} (hq : s'.requests[i]? = some q) :
    q.pc = .numbered ∨ ∃ r, CameFrom s a s'.log i q r := by
  have heffect : ∀ t, Effect s a t → t.requests[i]? = some q →
      q.pc = .numbered ∨ ∃ r, CameFrom s a t.log i q r := by
    intro t ht hq
    have hkept : ∀ r, s.requests[i]? = some r → r.token = q.token → r.pc = q.pc →
        CameFrom s a t.log i q r := fun r hr htok hpc =>
      ⟨hr, htok, fun _ h => Or.inl (hpc ▸ h), fun _ h => Or.inl (hpc ▸ h),
        fun h => Or.inl (hpc.trans h)⟩
    cases ht with
    | other hrequests _ _ => exact Or.inr ⟨q, hkept q (hrequests ▸ hq) rfl rfl⟩
    | number hrequests _ _ _ =>
        rw [hrequests, List.getElem?_append] at hq
        split at hq
        · exact Or.inr ⟨q, hkept q hq rfl rfl⟩
        · obtain rfl := List.mem_singleton.1 (List.mem_of_getElem? hq)
          exact Or.inl rfl
    | @call j r pc hr hrequests hmove hused hanswer hdeadline _ =>
        rw [hrequests] at hq
        rcases getElem?_set_cases hr hq with ⟨rfl, rfl⟩ | ⟨_, hq⟩
        · exact Or.inr ⟨r, hr, rfl, hused, hanswer, fun h => Or.inr (hdeadline h)⟩
        · exact Or.inr ⟨q, hkept q hq rfl rfl⟩
    | deliver hc hrequests _ _ =>
        rw [hrequests, List.getElem?_map] at hq
        obtain ⟨r, hr, rfl⟩ := Option.map_eq_some_iff.1 hq
        exact Or.inr ⟨r, hkept r hr (by simp) (by simp)⟩
  rcases h.effect with ht | ⟨t, ht, rfl⟩
  · exact heffect s' ht hq
  · rw [dropRef_requests] at hq
    refine (heffect t ht hq).imp id fun ⟨r, hr⟩ => ⟨r, { hr with answer := fun m hm => ?_ }⟩
    exact (hr.answer m hm).imp id (mem_dropRef_log t)

end ModuleNats.ReplyMux
