import ModuleNats.ChannelSubscription.Closing
import ModuleNats.EventProvider.Steps

set_option autoImplicit false

/-! # Receive failures

`bgLoop()` catches an exception of `nextMsg()` and closes the channel, which is all that the
listening loop sees; it takes it for the end of the subscription. So as long as nobody calls
`stopEvents()` a receive failure never reaches an ERROR event (`failure_reported_iff`): the ERROR
events are made from exceptions of the iterator and the observers only. -/

namespace ModuleNats.EventProvider

open State

variable {μ : Type}

/-! ## The COMPLETE event -/

/-- COMPLETE is raised by the step that raises the event the loop is about to raise. -/
theorem complete_mem_step {p : Provider} {s s' : State μ} {a : Action μ} (hs : Step p s a s') :
    .complete ∈ s'.events ↔
      .complete ∈ s.events ∨ (a = .notify ∧ s.loop = .raising .complete) := by
  cases hs with
  | notify hloop => simp [hloop, eq_comm]
  | _ => exact ⟨Or.inl, fun h => h.resolve_right nofun⟩

/-- The run raises COMPLETE in the state `s`. -/
def CompletesIn {p : Provider} (run : (system (μ := μ) p).Run) (s : State μ) : Prop :=
  s.loop = .raising .complete ∧ ∃ s', run.Occurs s .notify s'

theorem not_completesIn_nil {p : Provider} (s : State μ) :
    ¬ CompletesIn (TransitionSystem.Run.nil : (system (μ := μ) p).Run) s := by
  rintro ⟨_, s', hocc⟩
  exact TransitionSystem.Run.not_occurs_nil _ _ _ hocc

theorem completesIn_extend {p : Provider} {run : (system (μ := μ) p).Run} {a : Action μ}
    {s' : State μ} {h : (system p).step run.final a = some s'} {s : State μ} :
    CompletesIn (run.extend a s' h) s ↔
      CompletesIn run s ∨ (s = run.final ∧ a = .notify ∧ run.final.loop = .raising .complete) := by
  constructor
  · rintro ⟨hloop, t, hocc⟩
    rcases TransitionSystem.Run.occurs_extend.1 hocc with hocc | ⟨rfl, rfl, rfl⟩
    · exact Or.inl ⟨hloop, t, hocc⟩
    · exact Or.inr ⟨rfl, rfl, hloop⟩
  · rintro (⟨hloop, t, hocc⟩ | ⟨rfl, rfl, hloop⟩)
    · exact ⟨hloop, t, TransitionSystem.Run.occurs_extend.2 (Or.inl hocc)⟩
    · exact ⟨hloop, s', TransitionSystem.Run.occurs_extend.2 (Or.inr ⟨rfl, rfl, rfl⟩)⟩

theorem complete_mem_iff {p : Provider} (run : (system (μ := μ) p).Run) :
    .complete ∈ run.final.events ↔ ∃ s, CompletesIn run s := by
  induction run using TransitionSystem.Run.induction with
  | nil => exact ⟨nofun, fun ⟨s, hs⟩ => absurd hs (not_completesIn_nil s)⟩
  | extend run a s' hstep ih =>
      refine (complete_mem_step (step_cases hstep)).trans ?_
      simp only [completesIn_extend, exists_or, exists_eq_left, ih]

/-- Once COMPLETE has been raised the loop is not about to raise it. -/
def PastComplete (s : State μ) : Prop :=
  .complete ∈ s.events → s.loop.left ∧ s.loop ≠ .raising .complete

theorem pastComplete_step {p : Provider} {s s' : State μ} {a : Action μ} (hfresh : Fresh s)
    (h : PastComplete s) (hs : Step p s a s') : PastComplete s' := by
  -- a step of a loop whose `foreach` has not been left: there is no COMPLETE event
  have hearly : ¬ s.loop.left → .complete ∉ s.events := fun hnot hmem => hnot (h hmem).1
  cases hs with
  | subscribedStarts hready =>
      have hloop := hfresh.loop (Or.inr (Or.inl hready))
      exact fun hmem => absurd hmem (hearly (by rw [hloop]; nofun))
  | flushed hready =>
      have hloop := hfresh.loop (Or.inr (Or.inr hready))
      exact fun hmem => absurd hmem (hearly (by rw [hloop]; nofun))
  | received hloop | exhausted hloop | iteratorFails hloop | breaks hloop | goesOn hloop
  | observedMessage hloop =>
      exact fun hmem => absurd hmem (hearly (by rw [hloop]; nofun))
  | @notify e hloop =>
      refine fun hmem => ⟨?_, nofun⟩
      rcases List.mem_append.1 hmem with hmem | hmem
      · have hleft := (h hmem).1
        rw [hloop] at hleft
        exact hleft
      · rw [← List.mem_singleton.1 hmem]
        rfl
  | observedTerminal | observerThrowsAtError => exact fun _ => ⟨rfl, nofun⟩
  | observerThrows => exact fun _ => ⟨rfl, nofun⟩
  | _ => exact h

theorem pastComplete_run {p : Provider} (run : (system (μ := μ) p).Run) :
    PastComplete run.final :=
  (run.invariant (I := fun s => Fresh s ∧ PastComplete s) ⟨(refinement p).inv_init, nofun⟩
    fun _ _ _ h hs => ⟨fresh_step h.1 (step_cases hs), pastComplete_step h.1 h.2 (step_cases hs)⟩).2

/-- COMPLETE is raised once. -/
theorem CompletesIn.unique {p : Provider} {run : (system (μ := μ) p).Run} {s t : State μ}
    (hs : CompletesIn run s) (ht : CompletesIn run t) : s = t := by
  induction run using TransitionSystem.Run.induction with
  | nil => exact absurd hs (not_completesIn_nil s)
  | extend run a s' hstep ih =>
      have hnot : ∀ {u}, CompletesIn run u → run.final.loop ≠ .raising .complete :=
        fun hu => (pastComplete_run run ((complete_mem_iff run).2 ⟨_, hu⟩)).2
      rcases completesIn_extend.1 hs with hs | ⟨rfl, -, hloop⟩ <;>
        rcases completesIn_extend.1 ht with ht | ⟨rfl, -, hloop'⟩
      · exact ih hs ht
      · exact absurd hloop' (hnot hs)
      · exact absurd hloop (hnot ht)
      · rfl

/-! ## What is to be reported -/

/-- A receive failure ends the events with the ERROR event that carries it, and COMPLETE is raised
    only when the subscription has been closed, drained or has ended by itself. -/
structure FailureReported {p : Provider} (run : (system (μ := μ) p).Run) : Prop where
  failure : ∀ c, run.final.csub = some c → ∀ ex ∈ c.caught, ex.source = .receive →
    (∃ before, run.final.events = before ++ [.error ex]) ∧ .complete ∉ run.final.events
  complete : ∀ s, CompletesIn run s → s.removed

/-- The `foreach` is left by an exception of the iterator, or of an observer of a MESSAGE event. -/
def Abandons (s : State μ) : Action μ → Prop
  | .iteratorFails _ => True
  | .observed (some _) => ∃ m, s.loop = .observing (.message m)
  | _ => False

/-- The `foreach` has been left in this way. -/
def Abandoned {p : Provider} (run : (system (μ := μ) p).Run) : Prop :=
  ∃ s a s', run.Occurs s a s' ∧ Abandons s a

theorem abandoned_extend {p : Provider} {run : (system (μ := μ) p).Run} {a : Action μ}
    {s' : State μ} {h : (system p).step run.final a = some s'} :
    Abandoned (run.extend a s' h) ↔ Abandoned run ∨ Abandons run.final a := by
  constructor
  · rintro ⟨s, b, t, hocc, hab⟩
    rcases TransitionSystem.Run.occurs_extend.1 hocc with hocc | ⟨rfl, rfl, rfl⟩
    · exact Or.inl ⟨s, b, t, hocc, hab⟩
    · exact Or.inr hab
  · rintro (⟨s, b, t, hocc, hab⟩ | hab)
    · exact ⟨s, b, t, TransitionSystem.Run.occurs_extend.2 (Or.inl hocc), hab⟩
    · exact ⟨_, _, _, TransitionSystem.Run.occurs_extend.2 (Or.inr ⟨rfl, rfl, rfl⟩), hab⟩

/-! ## Without a stop -/

/-- Nobody has asked the provider to stop. -/
structure Unstopped (s : State μ) : Prop where
  stopping : s.stopping = false
  stops : s.stops = 0
  csub : ∀ c, s.csub = some c → c.stopping = false

theorem csub_stopping {c c' : ChannelSubscription.State μ} {a : ChannelSubscription.Action μ}
    (ha : a ≠ .close ∧ a ≠ .drain) (hs : ChannelSubscription.Step c a c') :
    c'.stopping = c.stopping := by
  cases hs with
  | close | alreadyClosed => exact absurd rfl ha.1
  | drain | alreadyDrained => exact absurd rfl ha.2
  | _ => rfl

/-- The provider closes its channel subscription only for a `stopEvents()` call. -/
theorem ne_close_of_mem_csubActs {p : Provider} {s s' : State μ} {a : Action μ}
    (hstops : s.stops = 0) (hs : Step p s a s') {b : ChannelSubscription.Action μ}
    (hb : b ∈ csubActs s a) : b ≠ .close := by
  rintro rfl
  rcases mem_csubActs hb with rfl | ⟨rfl, -⟩ | ⟨-, h⟩
  · cases hs with
    | csub hof => cases hof
  · cases hs with
    | closeNothing h | closeCsub h => exact h hstops
  · cases h

theorem unstopped_step {p : Provider} {s s' : State μ} {a : Action μ} (h : Unstopped s)
    (ha : a ≠ .stopEvents) (hs : Step p s a s') : Unstopped s' := by
  have hcsub : ∀ c, s'.csub = some c → c.stopping = false :=
    csub_step (I := fun c => c.stopping = false) rfl (fun c b c' _ hb hc hstep =>
      (csub_stopping ⟨ne_close_of_mem_csubActs h.stops hs hb, ne_drain_of_mem_csubActs hs hb⟩
        hstep).trans hc) h.csub hs
  cases hs with
  | stop => exact absurd rfl ha
  | closeNothing hstops => exact absurd h.stops hstops
  | closeCsub hstops => exact absurd h.stops hstops
  | _ => exact ⟨h.stopping, h.stops, hcsub⟩

/-- What `bgLoop()` has caught stays on record. -/
theorem caught_step {c c' : ChannelSubscription.State μ} {a : ChannelSubscription.Action μ}
    (hs : ChannelSubscription.Step c a c') : c.caught <+: c'.caught := by
  cases hs with
  | unconverted | failed | cancel | sendClosed | sendFails => exact List.prefix_append _ _
  | _ => exact List.prefix_rfl

/-- An exception has been caught by `bgLoop()`. -/
def Caught (s : State μ) : Prop := ∃ c, s.csub = some c ∧ c.caught ≠ []

theorem caught_keep {p : Provider} {s s' : State μ} {a : Action μ} (hfresh : Fresh s)
    (h : Caught s) (hs : Step p s a s') : Caught s' := by
  refine csub_keep (P := fun c => c.caught ≠ []) (fun c b c' hcaught hstep hnil => ?_) hfresh h hs
  have hprefix := caught_step hstep
  rw [hnil, List.prefix_nil] at hprefix
  exact hcaught hprefix

/-! ## How the loop is left -/

/-- The COMPLETE event has been raised, or is about to be. -/
def Completed (s : State μ) : Prop := .complete ∈ s.events ∨ s.loop = .raising .complete

/-- Every raised event is on record, and the ERROR events are not made from receive failures. -/
structure Recorded (s : State μ) : Prop where
  observing : ∀ e, s.loop = .observing e → e ∈ s.events
  source : ∀ ex, .error ex ∈ s.events ∨ s.loop = .raising (.error ex) → ex.source ≠ .receive

theorem recorded_step {p : Provider} {s s' : State μ} {a : Action μ} (h : Recorded s)
    (hs : Step p s a s') : Recorded s' := by
  have hold : ∀ ex, .error ex ∈ s.events → ex.source ≠ .receive := fun ex hex =>
    h.source ex (Or.inl hex)
  cases hs with
  | notify hloop =>
      refine ⟨?_, ?_⟩
      · rintro e heq
        obtain rfl := LoopPc.observing.inj heq
        exact List.mem_append_right _ List.mem_cons_self
      · rintro ex (hex | hex)
        · rcases List.mem_append.1 hex with hex | hex
          · exact hold ex hex
          · exact h.source ex (Or.inr (List.mem_singleton.1 hex ▸ hloop))
        · cases hex
  | iteratorFails | observerThrows =>
      refine ⟨nofun, ?_⟩
      rintro ex (hex | hex)
      · exact hold ex hex
      · obtain rfl := Event.error.inj (LoopPc.raising.inj hex)
        nofun
  | goesOn | exhausted | breaks | received | subscribedStarts | flushed =>
      exact ⟨nofun, fun ex hex => hold ex (hex.resolve_right nofun)⟩
  | observedMessage | observedTerminal | observerThrowsAtError =>
      exact ⟨nofun, fun ex hex => hold ex (hex.resolve_right nofun)⟩
  | _ => exact ⟨h.observing, h.source⟩

/-- Once the `foreach` has been left, the way it was left does not change any more. -/
theorem stays_left_step {p : Provider} {s s' : State μ} {a : Action μ} (hfresh : Fresh s)
    (h : Recorded s) (hleft : s.loop.left) (hs : Step p s a s') :
    s'.loop.left ∧ (Completed s' ↔ Completed s) ∧ ¬ Abandons s a := by
  cases hs with
  | subscribedStarts hready => rw [hfresh.loop (Or.inr (Or.inl hready))] at hleft; cases hleft
  | flushed hready => rw [hfresh.loop (Or.inr (Or.inr hready))] at hleft; cases hleft
  | received hloop | exhausted hloop | iteratorFails hloop => rw [hloop] at hleft; cases hleft
  | breaks hloop | goesOn hloop | observedMessage hloop => rw [hloop] at hleft; cases hleft
  | @notify e hloop =>
      rw [hloop] at hleft
      exact ⟨hleft, by simp [Completed, hloop, eq_comm], nofun⟩
  | observedTerminal hloop he => exact ⟨rfl, by simp [Completed, hloop], nofun⟩
  | observerThrows hloop he =>
      rcases he with rfl | ⟨m, rfl⟩
      · refine ⟨rfl, ?_, ?_⟩
        · have hraised := h.observing _ hloop
          simp [Completed, catchException, hraised]
        · rintro ⟨m, hm⟩; rw [hloop] at hm; cases hm
      · rw [hloop] at hleft; cases hleft
  | observerThrowsAtError hloop =>
      refine ⟨rfl, by simp [Completed, hloop], ?_⟩
      rintro ⟨m, hm⟩; rw [hloop] at hm; cases hm
  | _ => exact ⟨hleft, Iff.rfl, nofun⟩

/-- How the `foreach` is left while nobody stops the provider: by the end of a channel that
    `bgLoop()` has closed after an exception, or by an exception of the iterator or an observer. -/
theorem enter_step {p : Provider} {s s' : State μ} {a : Action μ} (hunstopped : Unstopped s)
    (hcaused : ∀ c, s.csub = some c → ChannelSubscription.Caused c) (hnot : ¬ s.loop.left)
    (hcompleted : ¬ Completed s) (hs : Step p s a s') :
    (s'.loop.left → (Completed s' ∧ ¬ Abandons s a ∧ Caught s') ∨
      (¬ Completed s' ∧ Abandons s a)) ∧
    (¬ s'.loop.left → ¬ Completed s' ∧ ¬ Abandons s a) := by
  have hevents : .complete ∉ s.events := fun h => hcompleted (Or.inl h)
  cases hs with
  | @exhausted c hloop hcsub hclosed =>
      refine ⟨fun _ => Or.inl ⟨Or.inr rfl, nofun, c, hcsub, ?_⟩, fun h => absurd rfl h⟩
      have hcause := (hcaused c hcsub).closing (Or.inr (Or.inr (Or.inr hclosed)))
      refine hcause.resolve_left fun hstop => ?_
      rw [hunstopped.csub c hcsub] at hstop
      cases hstop
  | breaks hloop hstop => rw [hunstopped.stopping] at hstop; cases hstop
  | iteratorFails hloop =>
      refine ⟨fun _ => Or.inr ⟨?_, trivial⟩, fun h => absurd rfl h⟩
      simp [Completed, catchException, hevents]
  | observerThrows hloop he =>
      rcases he with rfl | ⟨m, rfl⟩
      · rw [hloop] at hnot; exact absurd rfl hnot
      · refine ⟨fun _ => Or.inr ⟨?_, m, hloop⟩, fun h => absurd rfl h⟩
        simp [Completed, catchException, hevents]
  | @notify e hloop =>
      rw [hloop] at hnot
      refine ⟨fun h => absurd h hnot, fun _ => ⟨?_, nofun⟩⟩
      have hne : e ≠ .complete := by rintro rfl; exact hnot rfl
      simp [Completed, hevents, hne.symm]
  | observedTerminal hloop he => rw [hloop] at hnot; exact absurd he hnot
  | observerThrowsAtError hloop => rw [hloop] at hnot; exact absurd rfl hnot
  | received hloop => exact ⟨nofun, fun _ => ⟨by simp [Completed, hevents], nofun⟩⟩
  | subscribedStarts | flushed =>
      exact ⟨nofun, fun _ => ⟨by simp [Completed, startLoop, hevents], nofun⟩⟩
  | goesOn hloop => exact ⟨nofun, fun _ => ⟨by simp [Completed, hevents], nofun⟩⟩
  | observedMessage hloop => exact ⟨nofun, fun _ => ⟨by simp [Completed, hevents], nofun⟩⟩
  | _ => exact ⟨fun h => absurd h hnot, fun _ => ⟨hcompleted, nofun⟩⟩

/-! ## Runs -/

/-- How the loop of a run without a stop stands. -/
structure Standing {p : Provider} (run : (system (μ := μ) p).Run) : Prop where
  unstopped : Unstopped run.final
  recorded : Recorded run.final
  completed : Completed run.final → run.final.loop.left ∧ Caught run.final ∧ ¬ Abandoned run
  abandoned : Abandoned run → run.final.loop.left
  left : run.final.loop.left → Completed run.final ∨ Abandoned run

theorem caused_of_run {p : Provider} (run : (system (μ := μ) p).Run) {c}
    (hc : run.final.csub = some c) : ChannelSubscription.Caused c := by
  have h := (refinement p).invariant ChannelSubscription.caused_run run
  simpa [refinement, csubOf, hc] using h

theorem standing_run {p : Provider} (run : (system (μ := μ) p).Run)
    (hstop : ∀ a ∈ run.acts, a ≠ .stopEvents) : Standing run := by
  induction run using TransitionSystem.Run.induction with
  | nil =>
      have hnever : ¬ Abandoned (TransitionSystem.Run.nil : (system (μ := μ) p).Run) := by
        rintro ⟨s, a, s', hocc, _⟩
        exact TransitionSystem.Run.not_occurs_nil _ _ _ hocc
      refine ⟨⟨rfl, rfl, csub_init⟩, ⟨nofun, ?_⟩, ?_, fun h => absurd h hnever, nofun⟩
      · rintro ex (h | h) <;> cases h
      · rintro (h | h) <;> cases h
  | extend run a s' hstep ih =>
      have hbefore := ih fun b hb => hstop b (List.mem_append_left _ hb)
      have ha : a ≠ .stopEvents := hstop a (List.mem_append_right _ List.mem_cons_self)
      have hs := step_cases hstep
      have hfresh := fresh_run run
      suffices hhow : (Completed s' → s'.loop.left ∧ Caught s' ∧
            ¬ Abandoned (run.extend a s' hstep)) ∧
          (Abandoned (run.extend a s' hstep) → s'.loop.left) ∧
          (s'.loop.left → Completed s' ∨ Abandoned (run.extend a s' hstep)) from
        ⟨unstopped_step hbefore.unstopped ha hs, recorded_step hbefore.recorded hs, hhow.1,
          hhow.2.1, hhow.2.2⟩
      rw [abandoned_extend]
      by_cases hleft : run.final.loop.left
      · obtain ⟨hleft', hiff, hab⟩ := stays_left_step hfresh hbefore.recorded hleft hs
        refine ⟨fun hc => ?_, fun _ => hleft', fun _ => ?_⟩
        · obtain ⟨_, hcaught, hnot⟩ := hbefore.completed (hiff.1 hc)
          exact ⟨hleft', caught_keep hfresh hcaught hs, not_or.2 ⟨hnot, hab⟩⟩
        · exact (hbefore.left hleft).imp hiff.2 Or.inl
      · have hnot : ¬ Abandoned run := fun h => hleft (hbefore.abandoned h)
        have hcompleted : ¬ Completed run.final := fun h => hleft (hbefore.completed h).1
        obtain ⟨henter, hstay⟩ := enter_step hbefore.unstopped
          (fun c hc => caused_of_run run hc) hleft hcompleted hs
        by_cases hleft' : s'.loop.left
        · rcases henter hleft' with ⟨hc, hab, hcaught⟩ | ⟨hc, hab⟩
          · exact ⟨fun _ => ⟨hleft', hcaught, not_or.2 ⟨hnot, hab⟩⟩, fun _ => hleft',
              fun _ => Or.inl hc⟩
          · exact ⟨fun h => absurd h hc, fun _ => hleft', fun _ => Or.inr (Or.inr hab)⟩
        · obtain ⟨hc, hab⟩ := hstay hleft'
          exact ⟨fun h => absurd h hc, fun h => absurd h (not_or.2 ⟨hnot, hab⟩),
            fun h => absurd h hleft'⟩

/-- In every run without a stop whose loop has ended: failures are reported as they should be if and
    only if no exception of `nextMsg()` was caught, and one of `chan.send()` at most in a run whose
    subscription had ended by itself when COMPLETE was raised, or whose `foreach` was left by an
    exception of the iterator or of an observer. -/
theorem failure_reported_iff {p : Provider} (run : (system (μ := μ) p).Run)
    (hstop : ∀ a ∈ run.acts, a ≠ .stopEvents) (hreturned : run.final.loop.returned) :
    FailureReported run ↔ ∀ c, run.final.csub = some c → ∀ ex ∈ c.caught,
      ex.source = .send ∧ ((∃ s, CompletesIn run s ∧ s.removed) ∨ Abandoned run) := by
  have hstanding := standing_run run hstop
  have hleft : run.final.loop.left := LoopPc.left_of_returned hreturned
  constructor
  · intro hreported c hc ex hex
    have hsend : ex.source = .send := by
      refine ((caused_of_run run hc).caught ex hex).resolve_left fun hreceive => ?_
      obtain ⟨⟨before, hevents⟩, _⟩ := hreported.failure c hc ex hex hreceive
      refine hstanding.recorded.source ex (Or.inl ?_) hreceive
      rw [hevents]
      exact List.mem_append_right _ List.mem_cons_self
    refine ⟨hsend, (hstanding.left hleft).imp (fun hcompleted => ?_) id⟩
    have hmem : .complete ∈ run.final.events := by
      refine hcompleted.resolve_right fun hraising => ?_
      rw [hraising] at hreturned
      cases hreturned
    obtain ⟨s, hs⟩ := (complete_mem_iff run).1 hmem
    exact ⟨s, hs, hreported.complete s hs⟩
  · intro hcond
    refine ⟨fun c hc ex hex hreceive => ?_, fun s hs => ?_⟩
    · rw [(hcond c hc ex hex).1] at hreceive
      cases hreceive
    · have hmem : .complete ∈ run.final.events := (complete_mem_iff run).2 ⟨s, hs⟩
      obtain ⟨_, ⟨c, hc, hcaught⟩, hnot⟩ := hstanding.completed (Or.inl hmem)
      obtain ⟨ex, hex⟩ := List.exists_mem_of_ne_nil _ hcaught
      obtain ⟨t, ht, hremoved⟩ := (hcond c hc ex hex).2.resolve_right hnot
      exact hs.unique ht ▸ hremoved

/-- The connection is lost while the provider is listening. -/
def receiveFailsRun : (system (μ := ℕ) (natsSubscribe ⟨none, none, none⟩)).Run :=
  (system (natsSubscribe ⟨none, none, none⟩)).runOf
    [.observersReady, .subscribe none, .flush none, .csub .check,
      .csub (.poll (.failed "Connection Closed") none), .csub .exit, .next, .notify,
      .observed none]
    (by decide)

/-- The failure is reported as COMPLETE. -/
theorem receive_failure_completes :
    ¬ ∀ run : (system (μ := ℕ) (natsSubscribe ⟨none, none, none⟩)).Run,
      (∀ a ∈ run.acts, a ≠ .stopEvents) → run.final.loop.returned → FailureReported run := by
  intro hclaim
  have hreported := hclaim receiveFailsRun (by decide) (by decide)
  have hcaught : receiveFailsRun.final.csub.map (fun c => c.caught) = some [⟨.receive,
      natsError "NATS-SUBSCRIBE-ERROR" "failed to get next message" "Connection Closed"⟩] := by
    decide
  obtain ⟨c, hc, hlist⟩ := Option.map_eq_some_iff.1 hcaught
  have hnot := (hreported.failure c hc _ (by rw [hlist]; exact List.mem_cons_self) rfl).2
  exact hnot (by decide)

theorem failure_reported_iff_connection_closed :
    FailureReported receiveFailsRun ↔ ∀ c, receiveFailsRun.final.csub = some c →
      ∀ ex ∈ c.caught, ex.source = .send ∧
        ((∃ s, CompletesIn receiveFailsRun s ∧ s.removed) ∨ Abandoned receiveFailsRun) :=
  failure_reported_iff receiveFailsRun (by decide) (by decide)

end ModuleNats.EventProvider
