import ModuleNats.ChannelSubscription.Closing
import ModuleNats.EventProvider.Steps

set_option autoImplicit false

/-! # The protocol of the events

The events of a listening loop should be MESSAGE events, then one terminal event and nothing more;
the terminal event should come when the subscription is gone from the server; and few MESSAGE events
should come after `stopEvents()`. The last holds of every run (`messages_after_stop`). The others
depend on when the loops are left: `Orderly` is the condition on the steps, and
`protocol_of_orderly` what follows from it. -/

namespace ModuleNats.EventProvider

open State

variable {μ : Type}

/-! ## The protocol -/

def OnlyMessages (events : List (Event μ)) : Prop := ∀ e ∈ events, e.terminal = false

/-- MESSAGE events and one terminal event. -/
def Finished (events : List (Event μ)) : Prop :=
  ∃ before t, events = before ++ [t] ∧ OnlyMessages before ∧ t.terminal = true

/-- What the observers are promised. -/
structure Protocol (s : State μ) : Prop where
  events : OnlyMessages s.events ∨ Finished s.events
  terminated : s.loop.returned → Finished s.events
  removed : ∀ e ∈ s.events, e.terminal = true → s.removed

/-! ## The condition -/

/-- The steps that leave a loop for another reason than that the subscription has been removed: a
    stop flag that is seen, and an exception. -/
def LeavesEarly (s : State μ) : Action μ → Prop
  | .csub a => match s.csub with
      | some c => ChannelSubscription.LeavesEarly c a
      | none => False
  | .check => s.stopping = true
  | .iteratorFails _ | .observed (some _) => True
  | _ => False

/-- An observer raises an exception. -/
def Action.throws : Action μ → Bool
  | .observed (some _) => true
  | _ => false

/-- The loops are left after the removal of the subscription, and no observer raises an exception
    on the COMPLETE event. -/
def Orderly (s : State μ) (a : Action μ) : Prop :=
  (LeavesEarly s a → s.removed) ∧ (a.throws → s.loop ≠ .observing .complete)

instance decidableLeavesEarly (s : State μ) : ∀ a, Decidable (LeavesEarly s a)
  | .csub a =>
      match h : s.csub with
      | some c => decidable_of_iff (ChannelSubscription.LeavesEarly c a) (by simp [LeavesEarly, h])
      | none => isFalse (by simp [LeavesEarly, h])
  | .check => inferInstanceAs (Decidable (s.stopping = true))
  | .iteratorFails _ | .observed (some _) => isTrue trivial
  | .observersReady | .subscribe _ | .flush _ | .stopEvents | .closeCsub | .next | .notify
  | .observed none => isFalse id

instance [DecidableEq μ] (s : State μ) (a : Action μ) : Decidable (Orderly s a) :=
  inferInstanceAs (Decidable (_ ∧ _))

/-! ## The invariant -/

/-- The terminal event has been raised. -/
def LoopPc.told : LoopPc μ → Bool
  | .observing e => e.terminal
  | .ended | .died _ => true
  | .notStarted | .next | .check _ | .raising _ => false

/-- The events raised so far, by the place of the loop. -/
def Shape (loop : LoopPc μ) (events : List (Event μ)) : Prop :=
  if loop.told then Finished events else OnlyMessages events

structure ProtocolInv (s : State μ) : Prop where
  fresh : Fresh s
  shape : Shape s.loop s.events
  closed : ∀ c, s.csub = some c → ChannelSubscription.ClosedAfterRemoval c
  removed : s.loop.left → s.removed

theorem removed_iff {s : State μ} : s.removed ↔ ∃ c, s.csub = some c ∧ c.nsub.removed := by
  cases h : s.csub <;> simp [State.removed, h]

/-- The subscription of a provider stays removed. -/
theorem removed_step {p : Provider} {s s' : State μ} {a : Action μ} (hfresh : Fresh s)
    (h : s.removed) (hs : Step p s a s') : s'.removed :=
  removed_iff.2 (csub_keep (P := fun c => c.nsub.removed)
    (fun _ _ _ hremoved hstep => ChannelSubscription.removed_step hremoved hstep) hfresh
    (removed_iff.1 h) hs)

/-- What leaves a loop of the channel subscription early leaves a loop of the provider early. -/
theorem leavesEarly_of_csubActs {s : State μ} {a : Action μ} {c : ChannelSubscription.State μ}
    {b : ChannelSubscription.Action μ} (hc : s.csub = some c) (hb : b ∈ csubActs s a)
    (hearly : ChannelSubscription.LeavesEarly c b) : LeavesEarly s a := by
  cases a with
  | csub b' =>
      rw [List.mem_singleton.1 hb] at hearly
      simp only [LeavesEarly, hc]
      exact hearly
  | closeCsub =>
      simp only [csubActs, hc, Option.isSome_some, if_true, List.mem_singleton] at hb
      rw [hb] at hearly
      cases hearly
  | next =>
      simp only [csubActs, hc] at hb
      split at hb
      · cases hb
      · rw [List.mem_singleton.1 hb] at hearly
        cases hearly
  | _ => cases hb

/-- The channel of the provider is closed only after the removal. -/
theorem closed_step {p : Provider} {s s' : State μ} {a : Action μ}
    (h : ∀ c, s.csub = some c → ChannelSubscription.ClosedAfterRemoval c)
    (horderly : Orderly s a) (hs : Step p s a s') :
    ∀ c, s'.csub = some c → ChannelSubscription.ClosedAfterRemoval c := by
  refine csub_step (ChannelSubscription.closedAfterRemoval_start _ _)
    (fun c b c' hc hb hclosed hstep => ?_) h hs
  refine ChannelSubscription.closedAfterRemoval_step hclosed (fun hearly => ?_) hstep
  obtain ⟨d, hd, hremoved⟩ :=
    removed_iff.1 (horderly.1 (leavesEarly_of_csubActs hc hb hearly))
  obtain rfl : c = d := Option.some.inj (hc.symm.trans hd)
  exact hremoved

theorem shape_step {p : Provider} {s s' : State μ} {a : Action μ} (hfresh : Fresh s)
    (h : Shape s.loop s.events) (horderly : Orderly s a) (hs : Step p s a s') :
    Shape s'.loop s'.events := by
  cases hs with
  | subscribedStarts hready =>
      rw [hfresh.loop (Or.inr (Or.inl hready))] at h
      exact h
  | flushed hready =>
      rw [hfresh.loop (Or.inr (Or.inr hready))] at h
      exact h
  | received hloop | exhausted hloop | iteratorFails hloop => rw [hloop] at h; exact h
  | breaks hloop | goesOn hloop | observedMessage hloop => rw [hloop] at h; exact h
  | @notify e hloop =>
      rw [hloop] at h
      have hbefore : OnlyMessages s.events := h
      by_cases he : e.terminal = true
      · rw [Shape, if_pos (show (LoopPc.observing e).told from he)]
        exact ⟨s.events, e, rfl, hbefore, he⟩
      · rw [Shape, if_neg (show ¬ (LoopPc.observing e).told from he)]
        intro e' he'
        rcases List.mem_append.1 he' with he' | he'
        · exact hbefore e' he'
        · obtain rfl := List.mem_singleton.1 he'
          exact Bool.not_eq_true _ ▸ he
  | observedTerminal hloop he =>
      rw [hloop] at h
      simp only [Shape, LoopPc.told, he, if_true] at h ⊢
      exact h
  | observerThrows hloop he =>
      rcases he with rfl | ⟨m, rfl⟩
      · exact absurd hloop (horderly.2 rfl)
      · rw [hloop] at h; exact h
  | observerThrowsAtError hloop => rw [hloop] at h; exact h
  | _ => exact h

theorem left_step {p : Provider} {s s' : State μ} {a : Action μ} (h : ProtocolInv s)
    (horderly : Orderly s a) (hs : Step p s a s') : s'.loop.left → s'.removed := by
  intro hleft
  by_cases hbefore : s.loop.left
  · exact removed_step h.fresh (h.removed hbefore) hs
  cases hs with
  | subscribedStarts | flushed => cases hleft
  | received | goesOn | observedMessage => cases hleft
  | exhausted hloop hcsub hclosed =>
      exact removed_iff.2 ⟨_, hcsub, h.closed _ hcsub (Or.inr (Or.inr (Or.inr hclosed)))⟩
  | iteratorFails hloop => exact horderly.1 trivial
  | breaks hloop hstop => exact horderly.1 hstop
  | observerThrows hloop he => exact horderly.1 trivial
  | notify hloop => rw [hloop] at hbefore; exact absurd hleft hbefore
  | observedTerminal hloop he => rw [hloop] at hbefore; exact absurd he hbefore
  | observerThrowsAtError hloop => rw [hloop] at hbefore; exact absurd rfl hbefore
  | _ => exact absurd hleft hbefore

theorem protocolInv_run {p : Provider} (run : (system (μ := μ) p).Run) (h : run.All Orderly) :
    ProtocolInv run.final := by
  refine run.invariant_of_all (I := ProtocolInv) ?_ ?_ h
  · exact ⟨(refinement p).inv_init, nofun, csub_init, nofun⟩
  · intro s a s' hinv horderly hstep
    have hs := step_cases hstep
    exact ⟨fresh_step hinv.fresh hs, shape_step hinv.fresh hinv.shape horderly hs,
      closed_step hinv.closed horderly hs, left_step hinv horderly hs⟩

theorem LoopPc.left_of_told {loop : LoopPc μ} (h : loop.told) : loop.left := by
  cases loop <;> first | exact h | cases h

theorem LoopPc.told_of_returned {loop : LoopPc μ} (h : loop.returned) : loop.told := by
  cases loop <;> first | rfl | cases h

theorem protocol_of_inv {s : State μ} (h : ProtocolInv s) : Protocol s := by
  have hshape := h.shape
  simp only [Shape] at hshape
  by_cases htold : s.loop.told
  · rw [if_pos htold] at hshape
    exact ⟨Or.inr hshape, fun _ => hshape, fun _ _ _ => h.removed (LoopPc.left_of_told htold)⟩
  · rw [if_neg htold] at hshape
    refine ⟨Or.inl hshape, fun hreturned => absurd (LoopPc.told_of_returned hreturned) htold, ?_⟩
    intro e he hterminal
    rw [hshape e he] at hterminal
    cases hterminal

/-! ## After the stop flag -/

/-- The MESSAGE event that has passed the look at the stop flag. -/
def LoopPc.passed : LoopPc μ → ℕ
  | .raising (.message _) => 1
  | _ => 0

theorem passed_step {p : Provider} {s s' : State μ} {a : Action μ} (hstop : s.stopping = true)
    (hs : Step p s a s') : s'.stopping = true ∧
      s'.messages.length + s'.loop.passed ≤ s.messages.length + s.loop.passed := by
  cases hs with
  | stop => exact ⟨rfl, le_rfl⟩
  | goesOn hloop hgo => rw [hstop] at hgo; cases hgo
  | notify hloop =>
      refine ⟨hstop, ?_⟩
      rename_i e
      cases e <;> simp [State.messages, List.filterMap_append, hloop, LoopPc.passed]
  | received hloop => exact ⟨hstop, by simp [State.messages, LoopPc.passed]⟩
  | subscribedStarts | flushed => exact ⟨hstop, by simp [State.messages, startLoop, LoopPc.passed]⟩
  | exhausted | breaks => exact ⟨hstop, by simp [State.messages, endForeach, LoopPc.passed]⟩
  | iteratorFails | observerThrows =>
      exact ⟨hstop, by simp [State.messages, EventProvider.State.catchException, LoopPc.passed]⟩
  | observedMessage | observedTerminal | observerThrowsAtError =>
      exact ⟨hstop, by simp [State.messages, LoopPc.passed]⟩
  | _ => exact ⟨hstop, le_rfl⟩

/-- From any state with the stop flag set at most one more MESSAGE event is raised. -/
theorem messages_after_stop {p : Provider} {s s' : State μ} (hstop : s.stopping = true)
    {acts : List (Action μ)} (hexec : (system p).exec s acts = some s') :
    s'.messages.length ≤ s.messages.length + 1 := by
  have h : s'.stopping = true ∧
      s'.messages.length + s'.loop.passed ≤ s.messages.length + s.loop.passed :=
    TransitionSystem.exec_invariant (G := fun _ => True)
      (I := fun t => t.stopping = true ∧
        t.messages.length + t.loop.passed ≤ s.messages.length + s.loop.passed)
      (fun _ _ _ h _ hs => (passed_step h.1 (step_cases hs)).imp id fun hle => hle.trans h.2)
      ⟨hstop, le_rfl⟩ (fun _ _ => trivial) hexec
  have hpassed : s.loop.passed ≤ 1 := by
    simp only [LoopPc.passed]; split <;> omega
  omega

/-- For each of the four providers and every interleaving. If the loops are left only after the
    server has removed the subscription, and no observer raises an exception on COMPLETE, then the
    events are MESSAGE events and one terminal event, which comes when the subscription is removed.
    Without a condition: once the stop flag is set at most one more MESSAGE event is raised. -/
theorem protocol_of_orderly (p : Provider) (run : (system (μ := μ) p).Run) :
    (run.All Orderly → Protocol run.final) ∧
    (run.final.stopping = true → ∀ acts s', (system p).exec run.final acts = some s' →
      s'.messages.length ≤ run.final.messages.length + 1) :=
  ⟨fun h => protocol_of_inv (protocolInv_run run h),
    fun hstop _ _ hexec => messages_after_stop hstop hexec⟩

/-- A message is delivered, then `stopEvents()` unsubscribes before the loops look at their
    flags. -/
def orderlyRun : (system (μ := ℕ) (natsSubscribe ⟨none, none, none⟩)).Run :=
  (system (natsSubscribe ⟨none, none, none⟩)).runOf
    [.observersReady, .subscribe none, .flush none, .csub .check, .csub (.arrive 7),
      .csub (.poll .ok none), .csub .send, .next, .check, .notify, .observed none, .stopEvents,
      .closeCsub, .csub (.unsubscribe true), .csub .closeChannel, .csub .check, .csub .exit, .next,
      .notify]
    (by decide)

theorem protocol_of_orderly_stopped :
    orderlyRun.final.events = [.message 7, .complete] ∧ Protocol orderlyRun.final :=
  ⟨by decide, (protocol_of_orderly _ orderlyRun).1
    (TransitionSystem.Run.all_of_allFrom _ (by decide))⟩

/-- The COMPLETE event is raised inside the `try` block: an observer's exception there is followed
    by an ERROR event. -/
def completeThrowsRun : (system (μ := ℕ) (natsSubscribe ⟨none, none, none⟩)).Run :=
  (system (natsSubscribe ⟨none, none, none⟩)).runOf
    [.observersReady, .subscribe none, .flush none, .stopEvents, .closeCsub,
      .csub (.unsubscribe true), .csub .closeChannel, .next, .notify,
      .observed (some ⟨"OBSERVER-ERROR", "failed"⟩), .notify]
    (by decide)

theorem complete_followed_by_error :
    ¬ ∀ run : (system (μ := ℕ) (natsSubscribe ⟨none, none, none⟩)).Run, Protocol run.final := by
  intro hclaim
  have hevents : completeThrowsRun.final.events
      = [.complete, .error ⟨.observer, ⟨"OBSERVER-ERROR", "failed"⟩⟩] := by decide
  rw [← List.singleton_append] at hevents
  rcases (hclaim completeThrowsRun).events with honly | ⟨before, t, heq, honly, _⟩
  · cases honly .complete (by rw [hevents]; exact List.mem_cons_self)
  · obtain ⟨hbefore, -⟩ := List.append_inj' (hevents.symm.trans heq) rfl
    cases honly .complete (by rw [← hbefore]; exact List.mem_singleton_self _)

end ModuleNats.EventProvider
