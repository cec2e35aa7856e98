import ModuleNats.EventProvider.Steps
import ModuleNats.Lib.Behavior

set_option autoImplicit false

/-! # `stopEvents()` against `observersReady()`

`observersReady()` sets its `started` flag first, and the member `csub` only after the subscribe
call; `stopEvents()` calls `csub.close()` whether or not there is a channel subscription.
`stopsCleanly_iff` says for every interleaving of one call of each when they leave nothing behind:
`stopEvents()` has to come to the `close()` after the subscription has been made, and
`observersReady()` must not fail. -/

namespace ModuleNats.EventProvider

open State
open TransitionSystem

variable {μ : Type}

/-! ## The two calls, and what they are to leave behind -/

/-- The steps of the listening loop; its waits are over as soon as they are possible. -/
def ByLoop : Action μ → Prop
  | .next | .check | .notify | .observed _ => True
  | _ => False

def LoopPc.running : LoopPc μ → Bool
  | .next | .check _ | .raising _ | .observing _ => true
  | .notStarted | .ended | .died _ => false

/-- `observersReady()` and `stopEvents()` have been called and have returned. -/
structure BothReturned (s : State μ) : Prop where
  ready : s.ready = .returned ∨ ∃ ex, s.ready = .failed ex
  stopping : s.stopping = true
  stops : s.stops = 0
  close : ∀ c, s.csub = some c → c.closer ≠ .unsubscribing ∧ c.closer ≠ .closingChannel

/-- What the two calls are to leave behind when both have returned, at the moment `n`. -/
structure StopsCleanly {p : Provider} (b : (system (μ := μ) p).Behavior) (n : ℕ) : Prop where
  /-- a subscription that was created is closed, and the C client has been told -/
  closed : ∀ c, (b.state n).csub = some c → c.closer = .done ∧ c.chan.closed = true ∧
    ((∀ k, b.act k ≠ some (.csub (.unsubscribe false))) → c.nsub.removed = true)
  /-- no listening loop keeps running -/
  loop : ∃ k, n ≤ k ∧ ∀ m, k ≤ m → (b.state m).loop.running = false
  /-- `csub.close()` was not called without a `csub`, which raises an exception -/
  quiet : ∀ k, b.act k = some .closeCsub → (b.state k).csub ≠ none
  /-- after a failed `observersReady()` a later call can start listening again -/
  again : ∀ ex, (b.state n).ready = .failed ex →
    ∃ s', step p (b.state n) .observersReady = some s' ∧ s'.ready = .subscribing

/-- The subscription has been made before `stopEvents()` closes it, and `observersReady()` does not
    fail after that. -/
def StoppedAfterStart {p : Provider} (b : (system (μ := μ) p).Behavior) : Prop :=
  (∃ j k, j < k ∧ b.act j = some (.subscribe none) ∧ b.act k = some .closeCsub) ∧
    ∀ k ex, b.act k ≠ some (.flush (some ex))

/-! ## The channel subscription while it is closed -/

/-- How far the `close()` of a channel subscription has come that nobody drains. -/
structure Closing (c : ChannelSubscription.State μ) : Prop where
  stopping : c.stopping = true ↔ c.closer ≠ .idle
  draining : c.closer ≠ .draining
  done : c.closer = .done → c.chan.closed = true

theorem closing_step {c c' : ChannelSubscription.State μ} {a : ChannelSubscription.Action μ}
    (ha : a ≠ .drain) (h : Closing c) (hs : ChannelSubscription.Step c a c') : Closing c' := by
  cases hs with
  | close hstop => exact ⟨by simp, nofun, nofun⟩
  | unsubscribe hcloser | unsubscribeFails hcloser =>
      exact ⟨by simp [h.stopping, hcloser], nofun, nofun⟩
  | closeChannel hcloser => exact ⟨by simp [h.stopping, hcloser], nofun, fun _ => rfl⟩
  | drain | alreadyDrained => exact absurd rfl ha
  | drainSubscription hcloser => exact absurd hcloser h.draining
  | exit => exact ⟨h.stopping, h.draining, fun _ => rfl⟩
  | send hbg hsend =>
      have hspec := Channel.send_spec hsend
      exact ⟨h.stopping, h.draining, fun hdone => absurd (h.done hdone) (by simp [hspec.1])⟩
  | receive hreceive =>
      exact ⟨h.stopping, h.draining, fun hdone =>
        (Channel.receive_spec hreceive).2.trans (h.done hdone)⟩
  | _ => exact ⟨h.stopping, h.draining, h.done⟩

/-- A `close()` that has begun is not undone. -/
theorem begun_step {c c' : ChannelSubscription.State μ} {a : ChannelSubscription.Action μ}
    (h : c.closer ≠ .idle) (hs : ChannelSubscription.Step c a c') : c'.closer ≠ .idle := by
  cases hs with
  | close | unsubscribe | unsubscribeFails | closeChannel | drain | drainSubscription => exact nofun
  | _ => exact h

/-- Past the call of the C client the server no longer has the subscription. -/
def ToldClient (c : ChannelSubscription.State μ) : Prop :=
  c.closer = .closingChannel ∨ c.closer = .done → c.nsub.removed = true

theorem toldClient_step {c c' : ChannelSubscription.State μ} {a : ChannelSubscription.Action μ}
    (ha : a ≠ .drain ∧ a ≠ .unsubscribe false) (hc : Closing c) (h : ToldClient c)
    (hs : ChannelSubscription.Step c a c') : ToldClient c' := by
  cases hs with
  | finish | unsubscribe => exact fun _ => rfl
  | close => rintro (h | h) <;> cases h
  | unsubscribeFails => exact absurd rfl ha.2
  | closeChannel hcloser => exact fun _ => h (Or.inl hcloser)
  | drain | alreadyDrained => exact absurd rfl ha.1
  | drainSubscription hcloser => exact absurd hcloser hc.draining
  | _ => exact h

theorem closing_of_run {p : Provider} (run : (system (μ := μ) p).Run) :
    ∀ c, run.final.csub = some c → Closing c := by
  refine run.invariant (I := fun s => ∀ c, s.csub = some c → Closing c) csub_init ?_
  intro s a s' h hs
  exact csub_step ⟨by simp [ChannelSubscription.State.start], nofun, nofun⟩
    (fun _ _ _ _ hb hc hstep =>
      closing_step (ne_drain_of_mem_csubActs (step_cases hs) hb) hc hstep) h (step_cases hs)

/-! ## The order of the calls -/

theorem csub_some_step {p : Provider} {s s' : State μ} {a : Action μ} (h : s.csub ≠ none)
    (hs : Step p s a s') : s'.csub ≠ none := by
  rcases csub_cases hs with hsame | ⟨-, hnew⟩ | ⟨c, b, c', -, hc', -, -⟩
  · rwa [hsame]
  · simp [hnew]
  · simp [hc']

theorem created_by {p : Provider} {s s' : State μ} {a : Action μ} (h : s.csub = none)
    (h' : s'.csub ≠ none) (hs : Step p s a s') : a = .subscribe none := by
  cases hs with
  | subscribed | subscribedStarts => rfl
  | closeCsub hstops hc | csub hof hc | received hloop hc => rw [h] at hc; cases hc
  | _ => exact absurd h h'

theorem stops_by {p : Provider} {s s' : State μ} {a : Action μ} {k : ℕ} (h : ¬ k < s.stops)
    (h' : k < s'.stops) (hs : Step p s a s') : a = .stopEvents ∧ s.stops = k := by
  cases hs with
  | stop => exact ⟨rfl, by simp only at h'; omega⟩
  | closeNothing | closeCsub => simp only at h'; omega
  | _ => exact absurd h' h

theorem stopped_by {p : Provider} {s s' : State μ} {a : Action μ}
    (h : ¬ (s.stopping = true ∧ s.stops = 0)) (h' : s'.stopping = true ∧ s'.stops = 0)
    (hs : Step p s a s') : a = .closeCsub := by
  cases hs with
  | closeNothing | closeCsub => rfl
  | stop => cases h'.2
  | _ => exact absurd h' h

section Order

variable {p : Provider} (b : (system (μ := μ) p).Behavior)

theorem fresh_at (n : ℕ) : Fresh (b.state n) := b.invariant fresh_run n

theorem closing_at (n : ℕ) : ∀ c, (b.state n).csub = some c → Closing c :=
  b.invariant (I := fun s => ∀ c, s.csub = some c → Closing c) closing_of_run n

theorem csub_stays {j k : ℕ} (hjk : j ≤ k) (h : (b.state j).csub ≠ none) :
    (b.state k).csub ≠ none :=
  b.stable (I := fun s => s.csub ≠ none) (fun _ _ _ h hs => csub_some_step h (step_cases hs)) hjk h

/-- The subscribe call that a channel subscription comes from. -/
theorem exists_subscribe {k : ℕ} (h : (b.state k).csub ≠ none) :
    ∃ j < k, b.act j = some (.subscribe none) := by
  obtain ⟨j, a, -, hj, hact, hnone, hsome⟩ := b.exists_step_into
    (P := fun s => s.csub ≠ none) (by rw [b.start]; exact fun h => h rfl) (Nat.zero_le k) h
  obtain rfl := created_by (not_not.1 hnone) hsome (step_cases (b.step_of_act hact))
  exact ⟨j, hj, hact⟩

theorem csub_after_subscribe {j : ℕ} (h : b.act j = some (.subscribe none)) :
    (b.state (j + 1)).csub ≠ none := by
  have hs := step_cases (b.step_of_act h)
  generalize b.state (j + 1) = s' at hs
  cases hs with
  | subscribed | subscribedStarts => exact nofun

/-- The call of `stopEvents()` that raises the number of calls on their way above `i`. -/
theorem exists_stop {m n i : ℕ} (hm : ¬ i < (b.state m).stops) (hmn : m ≤ n)
    (hn : i < (b.state n).stops) :
    ∃ j, m ≤ j ∧ j < n ∧ b.act j = some .stopEvents ∧ (b.state j).stops = i := by
  obtain ⟨j, a, hmj, hj, hact, hnot, hinto⟩ := b.exists_step_into
    (P := fun s => i < s.stops) hm hmn hn
  obtain ⟨rfl, hstops⟩ := stops_by hnot hinto (step_cases (b.step_of_act hact))
  exact ⟨j, hmj, hj, hact, hstops⟩

theorem stops_of_closeCsub {k : ℕ} (h : b.act k = some .closeCsub) :
    (b.state k).stops ≠ 0 ∧ (b.state (k + 1)).stops = (b.state k).stops - 1 := by
  have hs := step_cases (b.step_of_act h)
  generalize b.state (k + 1) = s' at hs
  cases hs with
  | closeNothing hstops | closeCsub hstops => exact ⟨hstops, rfl⟩

/-- With one call of `stopEvents()`, `csub.close()` is called once. -/
theorem closeCsub_unique (hstop : ∀ j k, b.act j = some .stopEvents → b.act k = some .stopEvents →
    j = k) {k k' : ℕ} (hk : b.act k = some .closeCsub) (hk' : b.act k' = some .closeCsub) :
    k = k' := by
  have hinit : ∀ i, ¬ i < (b.state 0).stops := fun i => by rw [b.start]; exact Nat.not_lt_zero i
  have hle : ∀ n, (b.state n).stops ≤ 1 := by
    intro n
    by_contra hgt
    obtain ⟨j, -, -, hj, hstops⟩ := exists_stop b (hinit 1) (Nat.zero_le n) (by omega)
    obtain ⟨j', -, hlt, hj', -⟩ := exists_stop b (hinit 0) (Nat.zero_le j) (by omega)
    exact hlt.ne (hstop j' j hj' hj)
  -- a second `close()` needs a call of `stopEvents()` after the first one
  have hnever : ∀ {k k'}, b.act k = some .closeCsub → b.act k' = some .closeCsub → ¬ k < k' := by
    intro k k' hk hk' hlt
    have hfirst := stops_of_closeCsub b hk
    have hsecond := stops_of_closeCsub b hk'
    have hone := hle k
    obtain ⟨j, -, hj, hact, -⟩ := exists_stop b (hinit 0) (Nat.zero_le k) (by omega)
    obtain ⟨j', hj', -, hact', -⟩ := exists_stop b (m := k + 1) (n := k') (i := 0) (by omega) hlt
      (by omega)
    have hsame := hstop j j' hact hact'
    omega
  exact Nat.le_antisymm (not_lt.1 (hnever hk' hk)) (not_lt.1 (hnever hk hk'))

/-- A call of `stopEvents()` that has returned has been at `csub.close()`. -/
theorem exists_closeCsub {n : ℕ} (h : (b.state n).stopping = true ∧ (b.state n).stops = 0) :
    ∃ k < n, b.act k = some .closeCsub := by
  obtain ⟨k, a, -, hk, hact, hnot, hinto⟩ := b.exists_step_into
    (P := fun s => s.stopping = true ∧ s.stops = 0) (by rw [b.start]; exact nofun)
    (Nat.zero_le n) h
  obtain rfl := stopped_by hnot hinto (step_cases (b.step_of_act hact))
  exact ⟨k, hk, hact⟩

end Order

/-! ## The loop ends -/

/-- How many steps the loop is from its end when the stop flag is set. -/
def LoopPc.rank : LoopPc μ → ℕ
  | .raising (.message _) => 8
  | .observing (.message _) => 7
  | .next => 6
  | .check _ => 5
  | .raising .complete => 4
  | .observing .complete => 3
  | .raising (.error _) => 2
  | .observing (.error _) => 1
  | .notStarted | .ended | .died _ => 0

theorem rank_step {p : Provider} {s s' : State μ} {a : Action μ} (hstop : s.stopping = true)
    (hready : s.ready = .returned) (hs : Step p s a s') :
    s'.loop.rank ≤ s.loop.rank ∧ (ByLoop a → s'.loop.rank < s.loop.rank) := by
  have hlower : s'.loop.rank < s.loop.rank → _ := fun h => And.intro h.le fun _ : ByLoop a => h
  cases hs with
  | received hloop | exhausted hloop | iteratorFails hloop | breaks hloop | observedMessage hloop
  | observerThrowsAtError hloop =>
      exact hlower (by simp [LoopPc.rank, endForeach, catchException, hloop])
  | goesOn hloop hgo => exact absurd (hgo.symm.trans hstop) Bool.false_ne_true
  | @notify e hloop => exact hlower (by rw [hloop]; cases e <;> simp [LoopPc.rank])
  | @observedTerminal e hloop he =>
      cases e with
      | message => cases he
      | complete | error => exact hlower (by simp [LoopPc.rank, hloop])
  | observerThrows hloop he =>
      rcases he with rfl | ⟨m, rfl⟩ <;> exact hlower (by simp [LoopPc.rank, catchException, hloop])
  | subscribed h | subscribedStarts h | subscribeFails h | flushed h | flushFails h =>
      rw [hready] at h
      cases h
  | _ => exact ⟨le_rfl, fun h => h.elim⟩

/-- A loop over a closed channel is never blocked. -/
theorem exists_step_of_running {p : Provider} {s : State μ} (hrun : s.loop.running = true)
    {c : ChannelSubscription.State μ} (hc : s.csub = some c) (hclosed : c.chan.closed = true) :
    ∃ a, ByLoop a ∧ (step p s a).isSome := by
  cases hloop : s.loop with
  | next =>
      refine ⟨.next, trivial, ?_⟩
      cases hbuffer : c.chan.buffer with
      | nil => simp [step, hloop, iterate, hc, hbuffer, hclosed]
      | cons m rest =>
          obtain ⟨x, chan, hreceive⟩ := c.chan.exists_receive (by simp [hbuffer])
          simp [step, hloop, iterate, stepCsub, hc, hbuffer, ChannelSubscription.step, hreceive]
  | check m => exact ⟨.check, trivial, by simp [step, hloop]⟩
  | raising e => exact ⟨.notify, trivial, by simp [step, hloop]⟩
  | observing e => exact ⟨.observed none, trivial, by simp [step, hloop]⟩
  | notStarted | ended | died => rw [hloop] at hrun; cases hrun

/-- A call of `observersReady()` that is over stays so. -/
theorem ready_over_step {p : Provider} {s s' : State μ} {a : Action μ} (hfresh : Fresh s)
    (h : s.ready = .returned ∨ ∃ ex, s.ready = .failed ex) (hs : Step p s a s') :
    s'.ready = s.ready := by
  have hnot : s.ready ≠ .idle ∧ s.ready ≠ .subscribing ∧ s.ready ≠ .flushing := by
    rcases h with h | ⟨ex, h⟩ <;> simp [h]
  cases hs with
  | start hstarted => exact absurd (hfresh.started hstarted) hnot.1
  | subscribed hready | subscribedStarts hready | subscribeFails hready =>
      exact absurd hready hnot.2.1
  | flushed hready | flushFails hready => exact absurd hready hnot.2.2
  | _ => rfl

/-- Both calls have been successful and have returned. -/
structure Stopped (s : State μ) : Prop where
  fresh : Fresh s
  stopping : s.stopping = true
  ready : s.ready = .returned
  closed : ∃ c, s.csub = some c ∧ c.chan.closed = true

theorem chan_closed_step {c c' : ChannelSubscription.State μ} {a : ChannelSubscription.Action μ}
    (h : c.chan.closed = true) (hs : ChannelSubscription.Step c a c') : c'.chan.closed = true := by
  cases hs with
  | send hbg hsend =>
      rw [(Channel.send_spec hsend).1] at h
      cases h
  | receive hreceive => exact (Channel.receive_spec hreceive).2.trans h
  | exit | closeChannel => rfl
  | _ => exact h

theorem stopped_step {p : Provider} {s s' : State μ} {a : Action μ} (h : Stopped s)
    (hs : Step p s a s') : Stopped s' := by
  have hfresh := fresh_step h.fresh hs
  have hready := (ready_over_step h.fresh (Or.inl h.ready) hs).trans h.ready
  have hclosed := csub_keep (P := fun c => c.chan.closed = true)
    (fun _ _ _ hc hstep => chan_closed_step hc hstep) h.fresh h.closed hs
  cases hs with
  | stop => exact ⟨hfresh, rfl, hready, hclosed⟩
  | _ => exact ⟨hfresh, h.stopping, hready, hclosed⟩

/-- A loop that is over stays so. -/
theorem not_running_step {p : Provider} {s s' : State μ} {a : Action μ} (hstopped : Stopped s)
    (h : s.loop.running = false) (hs : Step p s a s') : s'.loop.running = false := by
  cases hs with
  | received hloop | exhausted hloop | iteratorFails hloop | breaks hloop | goesOn hloop
  | notify hloop | observedMessage hloop | observedTerminal hloop | observerThrows hloop
  | observerThrowsAtError hloop => rw [hloop] at h; cases h
  | subscribedStarts hready | flushed hready => cases hstopped.ready.symm.trans hready
  | _ => exact h

/-- After both calls the loop comes to its end, whatever the observers throw. -/
theorem loop_ends {p : Provider} (b : (system (μ := μ) p).Behavior) (hfair : b.WeaklyFair ByLoop)
    {n : ℕ} (hstopped : Stopped (b.state n)) :
    ∃ k, n ≤ k ∧ ∀ m, k ≤ m → (b.state m).loop.running = false := by
  have hstays : ∀ k, n ≤ k → Stopped (b.state k) := fun k hk =>
    b.stable (I := Stopped) (fun _ _ _ h hs => stopped_step h (step_cases hs)) hk hstopped
  have hover : ∃ k, n ≤ k ∧ (b.state k).loop.running = false := by
    refine b.exists_goal_of_weaklyFair (G := fun s => s.loop.running = false) hfair
      (fun s => s.loop.rank) n ?_ ?_ ?_
    · intro k hk hrun
      obtain ⟨c, hc, hclosed⟩ := (hstays k hk).closed
      exact exists_step_of_running (Bool.not_eq_false _ ▸ hrun) hc hclosed
    · intro k hk _
      rcases b.step_cases k with hidle | ⟨a, -, hs⟩
      · rw [hidle]
      · exact (rank_step (hstays k hk).stopping (hstays k hk).ready (step_cases hs)).1
    · intro k a hk _ hact hloop
      have hs := step_cases (b.step_of_act hact)
      exact Or.inr ((rank_step (hstays k hk).stopping (hstays k hk).ready hs).2 hloop)
  obtain ⟨k, hk, hover⟩ := hover
  refine ⟨k, hk, fun m hm => ?_⟩
  have hboth : Stopped (b.state m) ∧ (b.state m).loop.running = false :=
    b.stable (I := fun s => Stopped s ∧ s.loop.running = false)
      (fun _ _ _ h hs => ⟨stopped_step h.1 (step_cases hs),
        not_running_step h.1 h.2 (step_cases hs)⟩) hm ⟨hstays k hk, hover⟩
  exact hboth.2

/-! ## When the two calls leave nothing behind -/

theorem failed_by {p : Provider} {s s' : State μ} {a : Action μ} (hfresh : Fresh s)
    (h : ¬ ((∃ ex, s.ready = .failed ex) ∧ s.csub ≠ none))
    (h' : (∃ ex, s'.ready = .failed ex) ∧ s'.csub ≠ none) (hs : Step p s a s') :
    ∃ ex, a = .flush (some ex) := by
  cases hs with
  | flushFails => exact ⟨_, rfl⟩
  | subscribeFails hready => exact absurd (hfresh.csub (Or.inr hready)) h'.2
  | start | subscribed | subscribedStarts | flushed =>
      obtain ⟨ex, hex⟩ := h'.1
      cases hex
  | closeCsub hstops hc | csub hof hc | received hloop hc =>
      exact absurd ⟨h'.1, by simp [hc]⟩ h
  | _ => exact absurd h' h

section Main

variable {p : Provider} (b : (system (μ := μ) p).Behavior)

theorem ready_of_flush {k : ℕ} {ex : ExceptionInfo} (h : b.act k = some (.flush (some ex))) :
    (b.state k).ready = .flushing ∧ (b.state (k + 1)).ready = .failed ex := by
  have hs := step_cases (b.step_of_act h)
  generalize b.state (k + 1) = s' at hs
  cases hs with
  | flushFails hready => exact ⟨hready, rfl⟩

theorem ready_stays {m n : ℕ} (hmn : m ≤ n)
    (h : (b.state m).ready = .returned ∨ ∃ ex, (b.state m).ready = .failed ex) :
    (b.state n).ready = (b.state m).ready := by
  have hboth := b.stable (I := fun s => Fresh s ∧ s.ready = (b.state m).ready)
    (fun s a s' hI hs => ⟨fresh_step hI.1 (step_cases hs),
      (ready_over_step hI.1 (by rwa [hI.2]) (step_cases hs)).trans hI.2⟩) hmn ⟨fresh_at b m, rfl⟩
  exact hboth.2

/-- The channel subscription that `stopEvents()` has closed. -/
theorem closed_of_bothReturned {n : ℕ} (hreturned : BothReturned (b.state n)) {k : ℕ} (hk : k < n)
    (hact : b.act k = some .closeCsub) (hcsub : (b.state k).csub ≠ none) :
    ∃ c, (b.state n).csub = some c ∧ c.closer = .done ∧ c.chan.closed = true := by
  have hbegun : ∃ c, (b.state (k + 1)).csub = some c ∧ c.closer ≠ .idle := by
    have hs := step_cases (b.step_of_act hact)
    have hclosing := closing_at b k
    generalize b.state (k + 1) = s' at hs
    cases hs with
    | closeNothing hstops hnone => exact absurd hnone hcsub
    | closeCsub hstops hc hstep =>
        refine ⟨_, rfl, ?_⟩
        cases ChannelSubscription.step_cases hstep with
        | alreadyClosed hstopping => exact (hclosing _ hc).stopping.1 hstopping
        | close => exact nofun
  have hstays : Fresh (b.state n) ∧ ∃ c, (b.state n).csub = some c ∧ c.closer ≠ .idle :=
    b.stable (I := fun s => Fresh s ∧ ∃ c, s.csub = some c ∧ c.closer ≠ .idle)
      (fun _ _ _ h hs => ⟨fresh_step h.1 (step_cases hs),
        csub_keep (fun _ _ _ hc hstep => begun_step hc hstep) h.1 h.2 (step_cases hs)⟩)
      hk ⟨fresh_at b (k + 1), hbegun⟩
  obtain ⟨c, hc, hidle⟩ := hstays.2
  have hclosing := closing_at b n c hc
  have hdone : c.closer = .done := by
    cases hcloser : c.closer with
    | idle => exact absurd hcloser hidle
    | unsubscribing => exact absurd hcloser (hreturned.close c hc).1
    | closingChannel => exact absurd hcloser (hreturned.close c hc).2
    | draining => exact absurd hcloser hclosing.draining
    | done => rfl
  exact ⟨c, hc, hdone, hclosing.done hdone⟩

theorem toldClient_at (htold : ∀ k, b.act k ≠ some (.csub (.unsubscribe false))) (n : ℕ) :
    ∀ c, (b.state n).csub = some c → Closing c ∧ ToldClient c := by
  refine b.invariant_of_acts (I := fun s => ∀ c, s.csub = some c → Closing c ∧ ToldClient c)
    (G := fun a => a ≠ .csub (.unsubscribe false)) csub_init ?_
    (fun k a hact ha => htold k (ha ▸ hact)) n
  intro s a s' h ha hs
  refine csub_step (I := fun c => Closing c ∧ ToldClient c)
    ⟨⟨by simp [ChannelSubscription.State.start], nofun, nofun⟩, ?_⟩ ?_ h (step_cases hs)
  · rintro (h | h) <;> cases h
  · intro c x c' _ hx hc hstep
    have hdrain := ne_drain_of_mem_csubActs (step_cases hs) hx
    refine ⟨closing_step hdrain hc.1 hstep, toldClient_step ⟨hdrain, ?_⟩ hc.1 hc.2 hstep⟩
    rintro rfl
    rcases mem_csubActs hx with h | ⟨-, h⟩ | ⟨-, h⟩
    · exact ha h
    · cases h
    · cases h

/-- One call of `stopEvents()` against `observersReady()`: they leave nothing behind if and only if
    the subscription has been made before `stopEvents()` closes it and `observersReady()` does not
    fail. -/
theorem stopsCleanly_iff (hstop : ∀ j k, b.act j = some .stopEvents →
      b.act k = some .stopEvents → j = k)
    (hfair : b.WeaklyFair ByLoop) {n : ℕ} (hreturned : BothReturned (b.state n)) :
    StopsCleanly b n ↔ StoppedAfterStart b := by
  obtain ⟨k, hk, hclose⟩ := exists_closeCsub b ⟨hreturned.stopping, hreturned.stops⟩
  constructor
  · intro h
    have hready : (b.state n).ready = .returned := by
      rcases hreturned.ready with hready | ⟨ex, hfailed⟩
      · exact hready
      · obtain ⟨s', hs', hagain⟩ := h.again ex hfailed
        cases step_cases hs' with
        | alreadyStarted => cases hfailed.symm.trans hagain
        | start hstarted => cases hfailed.symm.trans ((fresh_at b n).started hstarted)
    obtain ⟨j, hj, hsub⟩ := exists_subscribe b (h.quiet k hclose)
    refine ⟨⟨j, k, hj, hsub, hclose⟩, fun i ex hflush => ?_⟩
    obtain ⟨hflushing, hfailed⟩ := ready_of_flush b hflush
    rcases Nat.lt_or_ge i n with hi | hi
    · rw [ready_stays b hi (Or.inr ⟨ex, hfailed⟩), hfailed] at hready
      cases hready
    · rw [ready_stays b hi (Or.inl hready), hready] at hflushing
      cases hflushing
  · rintro ⟨⟨j, k', hjk, hsub, hclose'⟩, hflush⟩
    obtain rfl := closeCsub_unique b hstop hclose hclose'
    have hcsub : (b.state k).csub ≠ none := csub_stays b hjk (csub_after_subscribe b hsub)
    obtain ⟨c, hc, hdone, hclosed⟩ := closed_of_bothReturned b hreturned hk hclose hcsub
    have hnotFailed : ∀ ex, (b.state n).ready ≠ .failed ex := by
      intro ex hfailed
      obtain ⟨i, a, -, -, hact, hnot, hinto⟩ := b.exists_step_into
        (P := fun s => (∃ ex, s.ready = .failed ex) ∧ s.csub ≠ none)
        (by rw [b.start]; exact fun h => h.2 rfl) (Nat.zero_le n) ⟨⟨ex, hfailed⟩, by simp [hc]⟩
      obtain ⟨ex', rfl⟩ := failed_by (fresh_at b i) hnot hinto (step_cases (b.step_of_act hact))
      exact hflush i ex' hact
    have hready : (b.state n).ready = .returned :=
      hreturned.ready.resolve_right fun ⟨ex, hfailed⟩ => hnotFailed ex hfailed
    refine ⟨?_, loop_ends b hfair ⟨fresh_at b n, hreturned.stopping, hready, c, hc, hclosed⟩, ?_,
      fun ex hfailed => absurd hfailed (hnotFailed ex)⟩
    · intro c' hc'
      obtain rfl := Option.some.inj (hc'.symm.trans hc)
      exact ⟨hdone, hclosed, fun htold => (toldClient_at b htold n _ hc).2 (Or.inr hdone)⟩
    · intro i hact
      obtain rfl := closeCsub_unique b hstop hclose hact
      exact hcsub

end Main

/-- A provider that is started and then stopped. -/
def stoppedRun : (system (μ := ℕ) (natsSubscribe ⟨none, none, none⟩)).Run :=
  runOf _ [.observersReady, .subscribe none, .flush none, .stopEvents, .closeCsub,
    .csub (.unsubscribe true), .csub .closeChannel, .next, .notify, .observed none] (by decide)

theorem stopsCleanly_iff_stopped : StopsCleanly (Behavior.idleAfter stoppedRun) 10 := by
  have hend : (Behavior.idleAfter stoppedRun).state 10 = stoppedRun.final :=
    Behavior.idleAfter_state stoppedRun le_rfl
  refine (stopsCleanly_iff (Behavior.idleAfter stoppedRun) ?_ ?_ ?_).2 ?_
  · exact fun j k => Behavior.idleAfter_act_inj (by decide)
  · refine Behavior.idleAfter_weaklyFair stoppedRun fun a ha => ?_
    cases a with
    | next | check | notify | observed => rfl
    | _ => cases ha
  · rw [hend]
    exact ⟨Or.inl rfl, rfl, rfl, fun c hc => by cases hc; exact ⟨nofun, nofun⟩⟩
  · refine ⟨⟨1, 4, by decide, rfl, rfl⟩, fun k ex hk => ?_⟩
    have hmem : Action.flush (some ex) ∈ stoppedRun.acts := List.mem_of_getElem? hk
    simp [stoppedRun] at hmem

/-- `stopEvents()` before the subscription is made. -/
def stoppedEarlyRun : (system (μ := ℕ) (natsSubscribe ⟨none, none, none⟩)).Run :=
  runOf _ [.stopEvents, .closeCsub, .observersReady, .subscribe none, .flush none] (by decide)

/-- The subscription is made after `stopEvents()` has raised an exception, and stays open. -/
theorem stopped_early :
    ¬ ∀ (b : (system (μ := ℕ) (natsSubscribe ⟨none, none, none⟩)).Behavior) (n : ℕ),
      (∃! k, b.act k = some .observersReady) → (∃! k, b.act k = some .stopEvents) →
      b.WeaklyFair ByLoop → BothReturned (b.state n) → StopsCleanly b n := by
  intro hall
  have hend : (Behavior.idleAfter stoppedEarlyRun).state 5 = stoppedEarlyRun.final :=
    Behavior.idleAfter_state stoppedEarlyRun le_rfl
  have hclean := hall (Behavior.idleAfter stoppedEarlyRun) 5 ?_ ?_ ?_ ?_
  · have hopen : stoppedEarlyRun.final.csub.map (fun c => c.closer) = some .idle := rfl
    obtain ⟨c, hc, hidle⟩ := Option.map_eq_some_iff.1 hopen
    have hdone := (hclean.closed c (by rw [hend]; exact hc)).1
    rw [hidle] at hdone
    cases hdone
  · exact ⟨2, rfl, fun j hj => Behavior.idleAfter_act_inj (by decide) hj rfl⟩
  · exact ⟨0, rfl, fun j hj => Behavior.idleAfter_act_inj (by decide) hj rfl⟩
  · refine Behavior.idleAfter_weaklyFair stoppedEarlyRun fun a ha => ?_
    cases a with
    | next | check | notify | observed => rfl
    | _ => cases ha
  · rw [hend]
    exact ⟨Or.inl rfl, rfl, rfl, fun c hc => by cases hc; exact ⟨nofun, nofun⟩⟩

end ModuleNats.EventProvider
