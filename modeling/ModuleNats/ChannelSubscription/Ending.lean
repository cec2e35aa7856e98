import ModuleNats.ChannelSubscription.Steps
import ModuleNats.Lib.Behavior

set_option autoImplicit false

/-! # When the background loop ends

`nextMsg()` reports a finished subscription as `NOTHING`, which `bgLoop()` takes for a timeout and
asks again. So a subscription that ends by itself does not end the loop: only the stop flag and an
exception do (`ends_iff_interrupted`). -/

namespace ModuleNats.ChannelSubscription

open State

variable {μ : Type}

/-- The actions of the background thread. -/
def ByLoop : Action μ → Prop
  | .check | .poll _ _ | .cancel _ | .send | .sendFails _ | .handOver | .exit => True
  | _ => False

/-- The calls that set the stop flag, and what makes a call in the loop raise an exception. -/
def Interrupts : Action μ → Prop
  | .close | .drain | .cancel _ | .sendFails _ | .poll (.failed _) _ | .poll .ok (some _) => True
  | _ => False

/-- The loop is over: it makes no call any more and its channel is closed. -/
def Over (s : State μ) : Prop := s.bg = .exited ∧ s.chan.closed = true

/-- The loop will end: it has been told to stop, or it has been left. -/
def Ending (s : State μ) : Prop := s.stopping = true ∨ s.bg = .leaving ∨ s.bg = .exited

/-! ## An interruption ends the loop -/

theorem ending_of_interrupts {s s' : State μ} {a : Action μ} (hs : Step s a s')
    (ha : Interrupts a) : Ending s' := by
  cases hs with
  | unconverted | failed | cancel | sendFails => exact Or.inr (Or.inl rfl)
  | alreadyClosed hstop | alreadyDrained hstop => exact Or.inl hstop
  | close | drain => exact Or.inl rfl
  | @finished _ status conversion _ hstatus _ =>
      cases status <;> simp [NextStatus.finished, Interrupts] at hstatus ha
  | _ => cases ha

theorem ending_step {s s' : State μ} {a : Action μ} (h : Ending s) (hs : Step s a s') :
    Ending s' := by
  have hin : s.bg ≠ .leaving → s.bg ≠ .exited → s.stopping = true := fun hl he =>
    h.resolve_right fun hbg => hbg.elim hl he
  cases hs with
  | stop | unconverted | failed | cancel | sendClosed | sendFails => exact Or.inr (Or.inl rfl)
  | exit => exact Or.inr (Or.inr rfl)
  | close | drain => exact Or.inl rfl
  | goOn hbg | message hbg | timedOut hbg | again hbg | finished hbg =>
      exact Or.inl (hin (by simp [hbg]) (by simp [hbg]))
  | send hbg | handOver hbg => exact Or.inl (hin (by simp [hbg]) (by simp [hbg]))
  | _ => exact h

/-- How many steps the loop can still take once it is ending. -/
def rank (s : State μ) : ℕ :=
  match s.bg with
  | .exited => 0
  | .leaving => 1
  | .check => 2
  | .sending _ => 3
  | .receiving remainingMs => 4 + remainingMs.toNat

/-- A step of an ending loop lowers the rank, and no other step changes it. -/
theorem rank_step {s s' : State μ} {a : Action μ} (h : Ending s) (hs : Step s a s') :
    (ByLoop a → rank s' < rank s) ∧ rank s' ≤ rank s := by
  cases hs with
  | goOn hbg hstop =>
      rcases h with hstop' | hbg' | hbg'
      · rw [hstop] at hstop'; cases hstop'
      · rw [hbg] at hbg'; cases hbg'
      · rw [hbg] at hbg'; cases hbg'
  | again hbg hpend hless => simp only [rank, hbg]; omega
  | stop hbg | message hbg | unconverted hbg | timedOut hbg | finished hbg | failed hbg =>
      simp only [rank, hbg, catchException]; omega
  | cancel hbg | sendClosed hbg | send hbg | sendFails hbg | exit hbg | handOver hbg =>
      simp only [rank, hbg, catchException]; omega
  | _ => exact ⟨nofun, le_rfl⟩

/-- A loop that has exited has closed its channel. -/
theorem closed_of_exited {pull : Bool} {bufferSize : ℕ}
    (run : (system (μ := μ) pull bufferSize).Run) (h : run.final.bg = .exited) :
    run.final.chan.closed = true := by
  refine run.invariant (I := fun s => s.bg = .exited → s.chan.closed = true) ?_ ?_ h
  · simp [system, State.start]
  intro s a s' hclosed hstep hbg'
  cases step_cases hstep with
  | receive hreceive => exact (Channel.receive_spec hreceive).2 ▸ hclosed hbg'
  | exit | closeChannel => rfl
  | _ => first | exact hclosed hbg' | cases hbg'

theorem exited_step {s s' : State μ} {a : Action μ} (h : s.bg = .exited) (hs : Step s a s') :
    s'.bg = .exited := by
  cases hs with
  | stop hbg | goOn hbg | message hbg | unconverted hbg | timedOut hbg | again hbg =>
      rw [h] at hbg; cases hbg
  | finished hbg | failed hbg | cancel hbg | sendClosed hbg | send hbg | sendFails hbg =>
      rw [h] at hbg; cases hbg
  | handOver hbg => rw [h] at hbg; cases hbg
  | exit => rfl
  | _ => exact h

/-! ## Without an interruption it goes on -/

/-- Nothing has told the loop to end. -/
structure Unstopped (s : State μ) : Prop where
  stopping : s.stopping = false
  running : s.bg ≠ .leaving ∧ s.bg ≠ .exited
  closer : s.closer = .idle
  chan : s.chan.closed = false

theorem unstopped_start (pull : Bool) (bufferSize : ℕ) :
    Unstopped (State.start pull bufferSize : State μ) :=
  ⟨rfl, ⟨nofun, nofun⟩, rfl, rfl⟩

theorem unstopped_step {s s' : State μ} {a : Action μ} (h : Unstopped s) (hs : Step s a s')
    (ha : ¬ Interrupts a) : Unstopped s' := by
  cases hs with
  | stop hbg hstop => rw [h.stopping] at hstop; cases hstop
  | goOn hbg hstop => exact { h with running := ⟨nofun, nofun⟩ }
  | message hbg => exact { h with running := ⟨nofun, nofun⟩ }
  | timedOut hbg => exact { h with running := ⟨nofun, nofun⟩ }
  | again hbg => exact { h with running := ⟨nofun, nofun⟩ }
  | finished hbg => exact { h with running := ⟨nofun, nofun⟩ }
  | handOver hbg => exact { h with running := ⟨nofun, nofun⟩ }
  | send hbg hsend =>
      exact { h with running := ⟨nofun, nofun⟩, chan := (Channel.send_spec hsend).2.1 }
  | sendClosed hbg hclosed => rw [h.chan] at hclosed; cases hclosed
  | exit hbg => exact absurd hbg h.running.1
  | receive hreceive => exact { h with chan := (Channel.receive_spec hreceive).2.trans h.chan }
  | unsubscribe hc => rw [h.closer] at hc; cases hc
  | unsubscribeFails hc => rw [h.closer] at hc; cases hc
  | closeChannel hc => rw [h.closer] at hc; cases hc
  | drainSubscription hc => rw [h.closer] at hc; cases hc
  | unconverted | failed | cancel | sendFails | close | drain => exact absurd trivial ha
  | alreadyClosed | alreadyDrained => exact absurd trivial ha
  | arrive | offer | finish => exact { h with }

/-! ## The condition -/

/-- In every fair behavior, whatever the C client answers and also when from some point on it only
    reports that the subscription is finished: the loop ends, with no `nextMsg()` call after that
    and with its channel closed, if and only if `close()` or `drain()` is called at some time or an
    exception is raised in the loop. -/
theorem ends_iff_interrupted {pull : Bool} {bufferSize : ℕ}
    (b : (system (μ := μ) pull bufferSize).Behavior)
    (hfair : b.Progresses ByLoop fun s => s.bg = .exited) :
    (∃ n, ∀ k, n ≤ k → Over (b.state k) ∧
      ∀ status conversion, b.act k ≠ some (.poll status conversion)) ↔
      ∃ n a, b.act n = some a ∧ Interrupts a := by
  constructor
  · rintro ⟨n, hover⟩
    by_contra hnever
    push Not at hnever
    have hinv : Unstopped (b.state n) :=
      b.invariant_of_acts (I := Unstopped) (unstopped_start pull bufferSize)
        (fun _ _ _ h ha hs => unstopped_step h (step_cases hs) ha) hnever n
    exact hinv.running.2 (hover n le_rfl).1.1
  · rintro ⟨n, a, hact, ha⟩
    have hending : ∀ k, n + 1 ≤ k → Ending (b.state k) := fun k hk =>
      b.stable (I := Ending) (fun _ _ _ h hs => ending_step h (step_cases hs)) hk
        (ending_of_interrupts (step_cases (b.step_of_act hact)) ha)
    obtain ⟨m, hm, hexited⟩ := b.exists_goal_of_rank hfair rank (n + 1)
      (fun k hk _ => by
        rcases b.step_cases k with hidle | ⟨a, _, hstep⟩
        · rw [hidle]
        · exact (rank_step (hending k hk) (step_cases hstep)).2)
      (fun k a hk _ hact hloop =>
        Or.inr ((rank_step (hending k hk) (step_cases (b.step_of_act hact))).1 hloop))
    have hstays : ∀ k, m ≤ k → (b.state k).bg = .exited := fun k hk =>
      b.stable (I := fun s => s.bg = .exited) (fun _ _ _ h hs => exited_step h (step_cases hs))
        hk hexited
    refine ⟨m, fun k hk => ⟨⟨hstays k hk, ?_⟩, fun status conversion hact => ?_⟩⟩
    · exact closed_of_exited (b.take k) (hstays k hk)
    · have hpoll := b.step_of_act hact
      simp [system, step, hstays k hk] at hpoll

/-! ## A loop that does not end -/

/-- At the head of the loop, after the end of the subscription. -/
def finishedState : State ℕ := { State.start false 100 with nsub := { phase := .ended } }

/-- The subscription ends at once; after that the loop is scheduled all the time. -/
def finishedBehavior : (system (μ := ℕ) false 100).Behavior :=
  .ofCycle [.finish] [.check, .poll .invalidSubscription none] (fun _ => finishedState)
    (List.cons_ne_nil _ _) rfl fun _ => rfl

theorem finishedBehavior_progresses :
    finishedBehavior.Progresses ByLoop fun s => s.bg = .exited :=
  TransitionSystem.Behavior.ofCycle_progresses _ _ _ List.mem_cons_self trivial _

/-- From some point on the C client only says that the subscription is finished. -/
def FinishedFromSomePoint {pull : Bool} {bufferSize : ℕ}
    (b : (system (μ := μ) pull bufferSize).Behavior) : Prop :=
  ∃ n, ∀ k, n ≤ k → ∀ status conversion, b.act k = some (.poll status conversion) → status.finished

theorem finishedBehavior_finished : FinishedFromSomePoint finishedBehavior := by
  refine ⟨0, fun k _ status conversion hact => ?_⟩
  have hmem := TransitionSystem.Behavior.ofCycle_act _ _ _ hact
  simp only [List.mem_cons, List.not_mem_nil, or_false, reduceCtorEq, false_or,
    Action.poll.injEq] at hmem
  rw [hmem.1]
  rfl

/-- The loop goes on for ever after its subscription has ended. -/
theorem finished_subscription_polled_forever :
    ¬ ∀ b : (system (μ := ℕ) false 100).Behavior, b.Progresses ByLoop (fun s => s.bg = .exited) →
      FinishedFromSomePoint b → ∃ n, ∀ k, n ≤ k → Over (b.state k) ∧
        ∀ status conversion, b.act k ≠ some (.poll status conversion) := by
  intro hclaim
  obtain ⟨n, hover⟩ :=
    hclaim finishedBehavior finishedBehavior_progresses finishedBehavior_finished
  have hpoll : .poll .invalidSubscription none ∈
      [(.check : Action ℕ), .poll .invalidSubscription none] := by simp
  obtain ⟨k, hk, hact⟩ : ∃ k, n ≤ k ∧ finishedBehavior.act k = _ :=
    TransitionSystem.Behavior.ofCycle_again _ _ _ hpoll n
  exact (hover k hk).2 _ _ hact

theorem ends_iff_interrupted_finished :
    (∃ n, ∀ k, n ≤ k → Over (finishedBehavior.state k) ∧
      ∀ status conversion, finishedBehavior.act k ≠ some (.poll status conversion)) ↔
      ∃ n a, finishedBehavior.act n = some a ∧ Interrupts a :=
  ends_iff_interrupted finishedBehavior finishedBehavior_progresses

end ModuleNats.ChannelSubscription
