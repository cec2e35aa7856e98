import ModuleNats.ReplyMux.Correlation

set_option autoImplicit false

/-! # Every reply message is destroyed exactly once

That no message is destroyed twice or read after its end needs no condition (`owns_run`). That none
is lost rests on the map: a registration must find no entry under its token, which the agreement of
map and calls gives as long as the counter does not come round to a running call. -/

namespace ModuleNats.ReplyMux

open Ownership State

/-- A call that has only its number has no entry yet. -/
theorem token_not_mem_of_numbered {s : State} (h : InOrder s) {i : ℕ} {r : Request}
    (hr : s.requests[i]? = some r) (hpc : r.pc = .numbered) : r.token ∉ s.replies := by
  intro hmem
  obtain ⟨j, q, hq, hs, htok⟩ := (h.correlates.key _).1 hmem
  have hij : j = i := distinct_of_recent h.numbered h.recent j i q r hq hr
    (RequestPc.active_of_inScope hs) (by rw [hpc]; rfl) htok
  subst hij
  obtain rfl : r = q := Option.some.inj (hr.symm.trans hq)
  rw [hpc] at hs
  cases hs

theorem nothingLost_run {pre : String} (run : (system pre).Run) (hlap : run.All NoLap) :
    NothingLost run.final.log run.final.held := by
  induction run using TransitionSystem.Run.induction with
  | nil => exact nothingLost_nil
  | extend run a s' hstep ih =>
      have hbefore := (TransitionSystem.Run.all_extend.1 hlap).1
      refine nothingLost_step (owns_run run) (ih hbefore) (step_cases hstep) ?_
      exact fun i r _ hr hpc => token_not_mem_of_numbered (inOrder_run run hbefore) hr hpc

/-- Without callbacks and calls in scope no place holds a message. -/
theorem held_eq_nil {s : State} (h : InOrder s) (hcallbacks : s.callbacks = [])
    (hscope : ∀ r ∈ s.requests, ¬ r.pc.inScope) : s.held = [] := by
  have hstored : s.replies.stored = [] := by
    have hkeys : ∀ tok, tok ∉ s.replies := by
      intro tok hmem
      obtain ⟨i, r, hr, hs, _⟩ := (h.correlates.key tok).1 hmem
      exact hscope r (List.mem_of_getElem? hr) hs
    have hempty : s.replies.entries = [] := by
      refine List.eq_nil_iff_forall_not_mem.2 fun e he => hkeys e.1 ?_
      exact List.mem_keys_of_mem he
    simp [Replies.stored, hempty]
  have hholders : holders s.requests = [] := by
    refine List.filterMap_eq_nil_iff.2 fun r hr => ?_
    have hnot := hscope r hr
    cases hpc : r.pc <;> simp [hpc, RequestPc.inScope, RequestPc.held] at hnot ⊢
  simp [State.held, hcallbacks, hstored, hholders]

/-- Exactly-once release, for every interleaving. No operation on a message follows its
    destruction, and none is destroyed twice. As long as the counter does not come round to a
    running call, a message that was handed to the callback is destroyed once, or it is still in a
    callback, in the map or with a holder; when no callback runs and no call is in scope (so in
    particular after the teardown of the mux), every message has been destroyed exactly once. -/
theorem reply_messages_released_once (pre : String) (run : (system pre).Run) :
    (∀ newer older id, run.final.log = newer ++ Op.release id :: older →
      ∀ op ∈ newer, op.object ≠ id) ∧
    (∀ id, run.final.log.count (.release id) ≤ 1) ∧
    (run.All NoLap →
      (∀ id, Op.acquire id ∈ run.final.log →
        (run.final.log.count (.release id) = 1 ↔ id ∉ run.final.held)) ∧
      (run.final.callbacks = [] → (∀ r ∈ run.final.requests, ¬ r.pc.inScope) →
        ∀ id, Op.acquire id ∈ run.final.log → run.final.log.count (.release id) = 1)) := by
  have howns := owns_run run
  refine ⟨fun newer older id hlog => ?_, howns.legal.count_release_le_one, fun hlap => ?_⟩
  · exact (hlog ▸ howns.legal).untouched_after_release
  · have hlost := nothingLost_run run hlap
    refine ⟨fun id hid => howns.released_once_iff hlost hid, fun hcallbacks hscope id hid => ?_⟩
    rw [howns.released_once_iff hlost hid, held_eq_nil (inOrder_run run hlap) hcallbacks hscope]
    exact List.not_mem_nil

end ModuleNats.ReplyMux
