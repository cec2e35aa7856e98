import ModuleNats.ReplyMux.Steps

set_option autoImplicit false

/-! # Who owns a received message

A message that the C client hands to `replyHandler()` is at every moment owned by one place: a
running callback, an entry of the map, or the `NatsMsgHolder` of a request. `held` lists these
places; every step only touches messages it finds there, and moves or destroys them. The one step
that can lose a message is a registration over an existing entry, so that case is kept apart
(`nothingLost_step`). -/

namespace ModuleNats.ReplyMux

open Ownership State

/-- The messages owned by callbacks, map entries and holders. -/
def State.held (s : State) : List ℕ :=
  s.callbacks.map (fun c => c.msg.id) ++ (s.replies.stored ++ holders s.requests)

/-! ## Moves between the places -/

theorem holders_set_of_none {requests : List Request} {i : ℕ} {r r' : Request}
    (hr : requests[i]? = some r) (hold : r.pc.held = none) (hnew : r'.pc.held = none) :
    (holders (requests.set i r')).Perm (holders requests) := by
  obtain ⟨rest, hbefore, hafter⟩ := holders_set hr r'
  simp only [hold, hnew, Option.map_none, Option.toList_none, List.nil_append] at hbefore hafter
  exact hafter.trans hbefore.symm

/-- A change of a call that holds nothing before and after moves no message. -/
theorem held_setPc {s : State} {i : ℕ} {r : Request} {pc : RequestPc}
    (hr : s.requests[i]? = some r) (hold : r.pc.held = none) (hnew : pc.held = none) :
    (s.setPc i r pc).held.Perm s.held :=
  ((holders_set_of_none hr hold hnew).append_left _).append_left _

/-- Replacing the map exchanges the stored messages. -/
theorem held_with_replies (s : State) (replies : Replies) :
    State.held { s with replies := replies }
      = s.callbacks.map (fun c => c.msg.id) ++ (replies.stored ++ holders s.requests) := rfl

/-- Taking one entry out of the map leaves the other places. -/
theorem held_erase_perm {s : State} {tok : String} {v : Option NatsMsg}
    (h : s.replies.lookup tok = some v) : s.held.Perm
      ((v.map NatsMsg.id).toList ++ State.held { s with replies := s.replies.erase tok }) := by
  rw [held_with_replies]
  refine List.perm_iff_count.2 fun x => ?_
  have hcount := (Replies.stored_perm h).count_eq x
  simp only [State.held, List.count_append] at hcount ⊢
  omega

/-- A callback under the lock gives its message to whatever comes next. -/
theorem held_eraseIdx_perm {s : State} {k : ℕ} {c : Callback} (hc : s.callbacks[k]? = some c) :
    s.held.Perm (c.msg.id :: State.held { s with
      callbacks := s.callbacks.eraseIdx k
      requests := s.requests.map (noteDelivery c) }) := by
  obtain ⟨hk, rfl⟩ := List.getElem?_eq_some_iff.1 hc
  have hperm := (List.getElem_cons_eraseIdx_perm hk).symm.map fun c : Callback => c.msg.id
  simpa only [State.held, holders_noteDelivery, List.map_cons, List.cons_append]
    using hperm.append_right (s.replies.stored ++ holders s.requests)

/-! ## Steps preserve ownership -/

theorem owns_dropRef {s : State} (h : Owns s.log s.held) : Owns s.dropRef.log s.dropRef.held := by
  simp only [dropRef]
  split
  · exact h
  · refine Owns.releaseAll s.replies.stored (h.perm (List.perm_iff_count.2 fun x => ?_))
    simp only [State.held, Replies.stored_empty, List.nil_append, List.count_append]
    omega

theorem nothingLost_dropRef {s : State} (h : NothingLost s.log s.held) :
    NothingLost s.dropRef.log s.dropRef.held := by
  simp only [dropRef]
  split
  · exact h
  · refine NothingLost.releaseAll s.replies.stored (h.perm (List.perm_iff_count.2 fun x => ?_))
    simp only [State.held, Replies.stored_empty, List.nil_append, List.count_append]
    omega

/-- A step explains its log by what happens to the held messages. -/
abbrev StepMoves (s s' : State) : Prop := Moves s.log s.held s'.log s'.held

/-- Every step but a registration is a move, possibly followed by the end of a reference. -/
theorem moves_of_step {pre : String} {s s' : State} {a : Action} (h : Step pre s a s') :
    (∃ i r, a = .register i ∧ s.requests[i]? = some r ∧ r.pc = .numbered ∧
      s' = s.registerRequest i r) ∨ StepMoves s s' ∨ ∃ t, StepMoves s t ∧ s' = t.dropRef := by
  cases h with
  | register hr hpc => exact Or.inl ⟨_, _, rfl, hr, hpc, rfl⟩
  | noMux b => exact Or.inr (Or.inl (.keep rfl (List.Perm.refl _)))
  | number c =>
      refine Or.inr (Or.inl (.keep rfl (List.Perm.of_eq ?_)))
      simp [State.held, State.number, holders, RequestPc.held]
  | publish hr hpc hnew =>
      refine Or.inr (Or.inl (.keep rfl (held_setPc hr (by simp [hpc, RequestPc.held]) ?_)))
      rcases hnew with rfl | ⟨text, rfl⟩ <;> rfl
  | @take i r expired reply hr hpc hlook =>
      refine Or.inr (Or.inl (.keep rfl ?_))
      have hnone : r.pc.held = none := by rcases hpc with hpc | hpc <;> simp [hpc, RequestPc.held]
      obtain ⟨rest, hbefore, hafter⟩ := holders_set hr { r with pc := .holding reply }
      rw [hnone] at hbefore
      -- the message leaves its entry and enters the holder
      refine List.perm_iff_count.2 fun x => ?_
      have hstored := (Replies.stored_perm hlook).count_eq x
      have hb := hbefore.count_eq x
      have ha := hafter.count_eq x
      simp only [RequestPc.held, Option.map_none, Option.map_some, Option.toList_none,
        Option.toList_some, List.nil_append, List.count_append] at hstored hb ha
      simp only [State.held, setPc, Replies.stored_insert, Option.map_none, Option.toList_none,
        List.nil_append, List.count_append]
      omega
  | @giveUp i r hr hpc hno | @block i r hr hpc hno =>
      have hnone : r.pc.held = none := by rcases hpc with hpc | hpc <;> simp [hpc, RequestPc.held]
      refine Or.inr (Or.inl (.keep rfl ?_))
      rw [held_with_replies, Replies.stored_index]
      exact held_setPc hr hnone rfl
  | interrupt hr hpc =>
      exact Or.inr (Or.inl (.keep rfl (held_setPc hr (by simp [hpc, RequestPc.held]) rfl)))
  | @convert i r reply ok hr hpc =>
      obtain ⟨rest, hbefore, hafter⟩ :=
        holders_set hr { r with pc := .leaving (replyOutcome reply ok) }
      have hp : s.held.Perm (reply.id :: (s.convertReply i r reply ok).held) := by
        have hheld : (s.convertReply i r reply ok).held
            = (s.setPc i r (.leaving (replyOutcome reply ok))).held := by
          simp only [convertReply]; split <;> rfl
        rw [hheld]
        refine List.perm_iff_count.2 fun x => ?_
        have hb := hbefore.count_eq x
        have ha := hafter.count_eq x
        simp only [hpc, RequestPc.held, Option.map_some, Option.map_none, Option.toList_some,
          Option.toList_none, List.nil_append, List.count_append, List.count_cons,
          List.count_nil] at hb ha
        simp only [State.held, setPc, List.count_append, List.count_cons]
        omega
      by_cases hnr : reply.noResponders = true
      · exact Or.inr (Or.inl (.consume reply.id [.use reply.id] (by simp)
          (by simp [convertReply, hnr]) hp))
      · exact Or.inr (Or.inl (.consume reply.id [.use reply.id, .use reply.id] (by simp)
          (by simp [convertReply, hnr]) hp))
  | leaveGone hr hpc hlook =>
      refine Or.inr (Or.inr ⟨_, ?_, rfl⟩)
      exact .keep rfl (held_setPc hr (by simp [hpc, RequestPc.held]) rfl)
  | @leaveEmpty i r o hr hpc hlook =>
      refine Or.inr (Or.inr ⟨_, ?_, rfl⟩)
      refine .keep rfl ?_
      have hset := held_setPc hr (by simp [hpc, RequestPc.held])
        (rfl : RequestPc.held (.ended o) = none)
      exact (held_erase_perm (s := s.setPc _ _ _) hlook).symm.trans hset
  | @leaveReply i r o reply hr hpc hlook =>
      refine Or.inr (Or.inr ⟨_, ?_, rfl⟩)
      refine .consume reply.id [] (by simp) rfl ?_
      have hset := held_setPc hr (by simp [hpc, RequestPc.held])
        (rfl : RequestPc.held (.ended o) = none)
      exact hset.symm.trans (held_erase_perm (s := s.setPc _ _ _) hlook)
  | foreign hfresh => exact Or.inr (Or.inl (.refuse _ hfresh rfl (List.Perm.refl _)))
  | @arrive msg tok hfresh htok =>
      refine Or.inr (Or.inl (.receive msg.id hfresh rfl (List.perm_iff_count.2 fun x => ?_)))
      simp only [State.held, List.map_append, List.map_cons, List.map_nil, List.count_append,
        List.count_cons, List.count_nil]
      omega
  | arriveAbandoned hfresh => exact Or.inr (Or.inl (.refuse _ hfresh rfl (List.Perm.refl _)))
  | @store k c hc hlook =>
      refine Or.inr (Or.inl (.keep rfl (List.Perm.trans ?_ (held_eraseIdx_perm hc).symm)))
      refine List.perm_iff_count.2 fun x => ?_
      have hstored := (Replies.stored_perm hlook).count_eq x
      simp only [Option.map_none, Option.toList_none, List.nil_append] at hstored
      simp only [State.held, Replies.stored_insert, Option.map_some, Option.toList_some,
        List.count_append, List.count_cons, List.count_nil, hstored]
      omega
  | drop hc hlook =>
      exact Or.inr (Or.inl (.consume _ [] (by simp) rfl (held_eraseIdx_perm hc)))
  | destroyConnection =>
      refine Or.inr (Or.inr ⟨_, ?_, rfl⟩)
      exact .keep rfl (List.Perm.refl _)
  | replyComplete =>
      refine Or.inr (Or.inr ⟨_, ?_, rfl⟩)
      exact .keep rfl (List.Perm.refl _)

/-- A registration drops at most the entry it overwrites. -/
theorem held_registerRequest {s : State} {i : ℕ} {r : Request} (hr : s.requests[i]? = some r)
    (hpc : r.pc = .numbered) : (s.registerRequest i r).held.Perm
      (State.held { s with replies := s.replies.erase r.token }) := by
  have hset : (holders (s.requests.set i { r with pc := .registered })).Perm
      (holders s.requests) := holders_set_of_none hr (by simp [hpc, RequestPc.held]) rfl
  simp only [State.held, registerRequest, setPc, Replies.stored_insert, Option.map_none,
    Option.toList_none, List.nil_append]
  exact (hset.append_left _).append_left _

theorem owns_step {pre : String} {s s' : State} {a : Action} (h : Owns s.log s.held)
    (hs : Step pre s a s') : Owns s'.log s'.held := by
  rcases moves_of_step hs with ⟨i, r, -, hr, hpc, rfl⟩ | hm | ⟨t, hm, rfl⟩
  · refine (Owns.sublist h ?_).perm (held_registerRequest hr hpc)
    refine ((List.Sublist.filterMap _ ?_).append_right _).append_left _
    exact List.kerase_sublist _ _
  · exact h.moves hm
  · exact owns_dropRef (h.moves hm)

/-- Nothing is lost as long as no registration finds an entry under its token. -/
theorem nothingLost_step {pre : String} {s s' : State} {a : Action} (howns : Owns s.log s.held)
    (h : NothingLost s.log s.held) (hs : Step pre s a s')
    (hfree : ∀ i r, a = .register i → s.requests[i]? = some r → r.pc = .numbered →
      r.token ∉ s.replies) : NothingLost s'.log s'.held := by
  rcases moves_of_step hs with ⟨i, r, ha, hr, hpc, rfl⟩ | hm | ⟨t, hm, rfl⟩
  · refine NothingLost.perm ?_ (held_registerRequest hr hpc)
    rw [held_with_replies, Replies.stored_erase_of_not_mem (hfree i r ha hr hpc)]
    exact h
  · exact h.moves howns hm
  · exact nothingLost_dropRef (h.moves howns hm)

theorem owns_run {pre : String} (r : (system pre).Run) : Owns r.final.log r.final.held :=
  r.invariant (I := fun s => Owns s.log s.held) owns_nil
    fun _ _ _ h hs => owns_step h (step_cases hs)

end ModuleNats.ReplyMux
