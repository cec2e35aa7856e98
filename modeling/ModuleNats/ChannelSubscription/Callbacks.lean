import ModuleNats.ChannelSubscription.Delivery
import ModuleNats.ChannelSubscription.Ending

set_option autoImplicit false

/-! # Subscriptions with a callback

`NatsClient::subscribe()` makes a channel subscription, starts `callbackLoop()` over its iterator in
a second background thread, and returns the channel subscription, from which other consumers can
receive as well. The loop calls the callback with one message after the other and ignores what the
callback raises.

`callbackLoop_ends_iff` is about the two threads together: the callback loop ends if and only if the
channel subscription is interrupted or the iterator raises an exception, and without such an
exception nothing that was sent to the channel is left over then. Neither thread waits for ever for
the other one: every step of one of them lowers a quantity of the whole state, and until both have
ended one of them can go on. -/

namespace ModuleNats.NatsClient

open ChannelSubscription

variable {μ : Type}

/-! ## The model -/

/-- Where `callbackLoop()` is. -/
inductive CallbackPc (μ : Type) where
  /-- in `next()` of the iterator -/
  | iterating
  | calling (msg : μ)
  | ended
deriving DecidableEq

/-- `called` and `others` are not in the code; they record the messages that the callback has been
    called with, and the ones that other consumers have received. -/
structure State (μ : Type) where
  csub : ChannelSubscription.State μ
  loop : CallbackPc μ := .iterating
  called : List μ := []
  others : List μ := []

inductive Action (μ : Type) where
  /-- everything but the callback loop, with the other consumers -/
  | csub (a : ChannelSubscription.Action μ)
  /-- the iterator receives from the channel, or from the blocked sender -/
  | next (handOver : Bool)
  /-- the iterator finds the channel closed and empty -/
  | iterationEnds
  /-- the iterator raises an exception -/
  | iterationFails (ex : ExceptionInfo)
  /-- the callback returns, or raises an exception -/
  | callbackReturns (raised : Option ExceptionInfo)
deriving DecidableEq, Repr

/-- How a consumer receives. -/
def consume (handOver : Bool) : ChannelSubscription.Action μ :=
  if handOver then .handOver else .receive

/-- What a step has given to a consumer. -/
def delivered (s t : ChannelSubscription.State μ) : List μ := t.received.drop s.received.length

/-- `callbackLoop()` -/
def step (s : State μ) : Action μ → Option (State μ)
  | .csub a => (ChannelSubscription.step s.csub a).map fun t =>
      { s with csub := t, others := s.others ++ delivered s.csub t }
  | .next handOver =>
      match s.loop with
      | .iterating => (ChannelSubscription.step s.csub (consume handOver)).bind fun t =>
          match delivered s.csub t with
          | m :: _ => some { s with csub := t, loop := .calling m, called := s.called ++ [m] }
          | [] => none
      | _ => none
  | .iterationEnds =>
      match s.loop with
      | .iterating =>
          if s.csub.chan.closed ∧ s.csub.chan.buffer.isEmpty then some { s with loop := .ended }
          else none
      | _ => none
  | .iterationFails _ =>
      match s.loop with
      | .iterating => some { s with loop := .ended }
      | _ => none
  | .callbackReturns _ =>
      match s.loop with
      -- an exception is only logged
      | .calling _ => some { s with loop := .iterating }
      | _ => none

/-- `NatsClient::subscribe()` has returned. -/
def State.start (bufferSize : ℕ) : State μ :=
  { csub := ChannelSubscription.State.start false bufferSize }

def system (bufferSize : ℕ) : TransitionSystem (State μ) (Action μ) :=
  ⟨State.start bufferSize, step⟩

/-! ## What a step can do -/

/-- Every step. -/
inductive Step (s : State μ) : Action μ → State μ → Prop where
  | csub {a : ChannelSubscription.Action μ} {t : ChannelSubscription.State μ}
      (hstep : ChannelSubscription.step s.csub a = some t) :
      Step s (.csub a) { s with csub := t, others := s.others ++ delivered s.csub t }
  | next {handOver : Bool} {t : ChannelSubscription.State μ} {m : μ} {rest : List μ}
      (hloop : s.loop = .iterating)
      (hstep : ChannelSubscription.step s.csub (consume handOver) = some t)
      (hdelivered : delivered s.csub t = m :: rest) :
      Step s (.next handOver) { s with csub := t, loop := .calling m, called := s.called ++ [m] }
  | iterationEnds (hloop : s.loop = .iterating) (hclosed : s.csub.chan.closed = true)
      (hempty : s.csub.chan.buffer = []) : Step s .iterationEnds { s with loop := .ended }
  | iterationFails {ex : ExceptionInfo} : Step s (.iterationFails ex) { s with loop := .ended }
  | callbackReturns {m : μ} {raised : Option ExceptionInfo} (hloop : s.loop = .calling m) :
      Step s (.callbackReturns raised) { s with loop := .iterating }

theorem step_cases {s s' : State μ} {a : Action μ} (h : step s a = some s') : Step s a s' := by
  cases a with
  | csub a =>
      obtain ⟨t, ht, rfl⟩ := Option.map_eq_some_iff.1 h
      exact .csub ht
  | next handOver =>
      simp only [step] at h
      split at h
      · next hloop =>
          obtain ⟨t, ht, h⟩ := Option.bind_eq_some_iff.1 h
          split at h
          · next m rest hdelivered => cases h; exact .next hloop ht hdelivered
          · cases h
      · cases h
  | iterationEnds =>
      simp only [step] at h
      split at h
      · next hloop =>
          split at h
          · next hend => cases h; exact .iterationEnds hloop hend.1 (List.isEmpty_iff.1 hend.2)
          · cases h
      · cases h
  | iterationFails ex =>
      simp only [step] at h
      split at h
      · cases h; exact .iterationFails
      · cases h
  | callbackReturns raised =>
      simp only [step] at h
      split at h
      · next m hloop => cases h; exact .callbackReturns hloop
      · cases h

/-- What consumers have received only grows. -/
theorem received_step {s t : ChannelSubscription.State μ} {a : ChannelSubscription.Action μ}
    (h : ChannelSubscription.step s a = some t) : t.received = s.received ++ delivered s t := by
  have hprefix : s.received <+: t.received := by
    cases ChannelSubscription.step_cases h with
    | receive | handOver => exact List.prefix_append _ _
    | _ => exact List.prefix_rfl
  obtain ⟨rest, hrest⟩ := hprefix
  rw [delivered, ← hrest, List.drop_left]

/-- The iterator receives one message. -/
theorem delivered_consume {s t : ChannelSubscription.State μ} {handOver : Bool}
    (h : ChannelSubscription.step s (consume handOver) = some t) :
    ∃ m, delivered s t = [m] ∧ t.received = s.received ++ [m] := by
  cases handOver <;> cases ChannelSubscription.step_cases h
  all_goals exact ⟨_, by simp [delivered], rfl⟩

/-- The channel subscription is the one of `ChannelSubscription.system`. -/
def refinement (bufferSize : ℕ) :
    (system (μ := μ) bufferSize).Refinement
      (ChannelSubscription.system (μ := μ) false bufferSize) where
  inv _ := True
  abs := State.csub
  acts
    | _, .csub a => [a]
    | _, .next handOver => [consume handOver]
    | _, _ => []
  inv_init := trivial
  inv_step _ _ _ _ _ := trivial
  init := rfl
  step s a s' _ h := by
    cases step_cases h with
    | csub hstep => simpa [ChannelSubscription.system] using hstep
    | next hloop hstep => simpa [ChannelSubscription.system] using hstep
    | iterationEnds | iterationFails | callbackReturns => rfl

/-! ## Who has received what -/

/-- Each message that was received went to one consumer, and every consumer has its messages in the
    order in which they were received. -/
structure Shared (s : State μ) : Prop where
  all : (s.called ++ s.others).Perm s.csub.received
  called : s.called.Sublist s.csub.received
  others : s.others.Sublist s.csub.received

theorem shared_step {s s' : State μ} {a : Action μ} (h : Shared s) (hs : Step s a s') :
    Shared s' := by
  cases hs with
  | csub hstep =>
      have hreceived := received_step hstep
      refine ⟨?_, ?_, ?_⟩
      · rw [hreceived, ← List.append_assoc]
        exact h.all.append_right _
      · rw [hreceived]
        exact h.called.trans (List.sublist_append_left _ _)
      · rw [hreceived]
        exact h.others.append (List.Sublist.refl _)
  | @next handOver t m rest hloop hstep hdelivered =>
      obtain ⟨m', hm', hreceived⟩ := delivered_consume hstep
      obtain rfl : m = m' := (List.cons.inj (hdelivered.symm.trans hm')).1
      refine ⟨?_, ?_, ?_⟩
      · rw [hreceived, List.append_assoc]
        exact (List.perm_append_comm.append_left _).trans
          (by rw [← List.append_assoc]; exact h.all.append_right _)
      · rw [hreceived]
        exact h.called.append (List.Sublist.refl _)
      · rw [hreceived]
        exact h.others.trans (List.sublist_append_left _ _)
  | iterationEnds | iterationFails | callbackReturns => exact ⟨h.all, h.called, h.others⟩

theorem shared_run {bufferSize : ℕ} (run : (system (μ := μ) bufferSize).Run) : Shared run.final :=
  run.invariant (I := Shared) ⟨List.Perm.refl _, List.Sublist.refl _, List.Sublist.refl _⟩
    fun _ _ _ h hs => shared_step h (step_cases hs)

/-- What was sent to the channel has been received, or is in its buffer. -/
theorem queue_run {bufferSize : ℕ} (run : (system (μ := μ) bufferSize).Run) :
    run.final.csub.sent = run.final.csub.received ++ run.final.csub.chan.buffer :=
  (refinement bufferSize).invariant (I := fun t : ChannelSubscription.State μ =>
    t.sent = t.received ++ t.chan.buffer) (fun q => (delivered_run q).queue) run

/-! ## A closed channel -/

/-- A closed and empty channel stays so, and nothing is sent to it. -/
theorem drained_step {s t : ChannelSubscription.State μ} {a : ChannelSubscription.Action μ}
    (hclosed : s.chan.closed = true) (hempty : s.chan.buffer = [])
    (hs : ChannelSubscription.Step s a t) :
    t.chan.closed = true ∧ t.chan.buffer = [] ∧ t.sent = s.sent := by
  cases hs with
  | send hbg hsend => exact absurd ((Channel.send_spec hsend).1.symm.trans hclosed) (by simp)
  | receive hreceive => exact absurd (hempty.symm.trans (Channel.receive_spec hreceive).1) (by simp)
  | handOver hbg hchan => exact absurd (hchan.1.symm.trans hclosed) (by simp)
  | exit | closeChannel => exact ⟨rfl, hempty, rfl⟩
  | _ => exact ⟨hclosed, hempty, rfl⟩

/-- The loop has ended because there is nothing more to come. -/
structure Complete (s : State μ) : Prop where
  loop : s.loop = .ended
  closed : s.csub.chan.closed = true
  empty : s.csub.chan.buffer = []

theorem complete_step {s s' : State μ} {a : Action μ} (h : Complete s) (hs : Step s a s') :
    Complete s' ∧ s'.csub.sent = s.csub.sent := by
  cases hs with
  | csub hstep =>
      obtain ⟨hclosed, hempty, hsent⟩ :=
        drained_step h.closed h.empty (ChannelSubscription.step_cases hstep)
      exact ⟨⟨h.loop, hclosed, hempty⟩, hsent⟩
  | next hloop | iterationEnds hloop | callbackReturns hloop =>
      exact absurd (h.loop.symm.trans hloop) (by simp)
  | iterationFails => exact ⟨⟨rfl, h.closed, h.empty⟩, rfl⟩

/-- The iterator raises no exception. -/
def Iterates : Action μ → Prop
  | .iterationFails _ => False
  | _ => True

/-- Without an exception of the iterator the loop ends with everything received. -/
theorem complete_of_ended_step {s s' : State μ} {a : Action μ}
    (h : s.loop = .ended → Complete s) (ha : Iterates a) (hs : Step s a s')
    (hended : s'.loop = .ended) : Complete s' := by
  cases hs with
  | csub hstep => exact (complete_step (h hended) (.csub hstep)).1
  | next | callbackReturns => cases hended
  | iterationEnds hloop hclosed hempty => exact ⟨rfl, hclosed, hempty⟩
  | iterationFails => cases ha

/-! ## Progress -/

/-- The steps of the two background threads. -/
def ByThreads : Action μ → Prop
  | .csub .check | .csub (.poll _ _) | .csub .send | .csub .exit => True
  | .next _ | .iterationEnds | .callbackReturns _ => True
  | _ => False

theorem byLoop_of_byThreads {a : ChannelSubscription.Action μ}
    (h : ByThreads (.csub a : Action μ)) : ByLoop a := by
  cases a <;> first | exact h | trivial

/-- A step sends at most one message, and only a step of `bgLoop()` sends one. -/
theorem length_buffer_step {s t : ChannelSubscription.State μ} {a : ChannelSubscription.Action μ}
    (hs : ChannelSubscription.Step s a t) :
    t.chan.buffer.length ≤ s.chan.buffer.length + 1 ∧
      (¬ ByLoop a → t.chan.buffer.length ≤ s.chan.buffer.length) := by
  cases hs with
  | send hbg hsend =>
      refine ⟨?_, fun hloop => absurd trivial hloop⟩
      rw [(Channel.send_spec hsend).2.2, List.length_append]
      exact le_rfl
  | receive hreceive =>
      rw [(Channel.receive_spec hreceive).1, List.length_cons]
      dsimp only
      omega
  | exit | closeChannel => exact ⟨Nat.le_succ _, fun _ => le_rfl⟩
  | _ => exact ⟨Nat.le_succ _, fun _ => le_rfl⟩

/-- How many steps `callbackLoop()` can take without a new message. -/
def loopRank : CallbackPc μ → ℕ
  | .ended => 0
  | .iterating => 1
  | .calling _ => 2

/-- How many steps `bgLoop()` and the messages in the channel can still cause. -/
def weight (s : ChannelSubscription.State μ) : ℕ := 3 * rank s + 2 * s.chan.buffer.length

theorem weight_step {s t : ChannelSubscription.State μ} {a : ChannelSubscription.Action μ}
    (h : Ending s) (hs : ChannelSubscription.Step s a t) :
    (ByLoop a → weight t < weight s) ∧ weight t ≤ weight s := by
  have hrank := rank_step h hs
  have hlength := length_buffer_step hs
  unfold weight
  by_cases hloop : ByLoop a
  · have hless := hrank.1 hloop
    exact ⟨fun _ => by omega, by omega⟩
  · have hbuffer := hlength.2 hloop
    exact ⟨fun hby => absurd hby hloop, by omega⟩

/-- A message that the iterator receives is worth more than a call. -/
theorem weight_consume {s t : ChannelSubscription.State μ} {handOver : Bool} (h : Ending s)
    (hs : ChannelSubscription.Step s (consume handOver) t) : weight t + 1 < weight s := by
  cases handOver with
  | true =>
      have hrank := (rank_step h hs).1 trivial
      cases hs with
      | handOver hbg hchan => simp only [weight] at hrank ⊢; omega
  | false =>
      have hrank := (rank_step h hs).2
      cases hs with
      | receive hreceive =>
          have hbuffer := congrArg List.length (Channel.receive_spec hreceive).1
          rw [List.length_cons] at hbuffer
          unfold weight
          dsimp only
          omega

/-- How many steps the two threads can still take once `bgLoop()` is ending. -/
def totalRank (s : State μ) : ℕ := weight s.csub + loopRank s.loop

/-- A step of a thread lowers the rank, and no other step raises it. -/
theorem totalRank_step {s s' : State μ} {a : Action μ} (h : Ending s.csub) (hs : Step s a s') :
    (ByThreads a → totalRank s' < totalRank s) ∧ (Iterates a → totalRank s' ≤ totalRank s) := by
  cases hs with
  | @csub a t hstep =>
      have hweight := weight_step h (ChannelSubscription.step_cases hstep)
      simp only [totalRank]
      exact ⟨fun hby => Nat.add_lt_add_right (hweight.1 (byLoop_of_byThreads hby)) _,
        fun _ => Nat.add_le_add_right hweight.2 _⟩
  | next hloop hstep hdelivered =>
      have hweight := weight_consume h (ChannelSubscription.step_cases hstep)
      simp only [totalRank, hloop, loopRank]
      omega
  | iterationEnds hloop =>
      simp only [totalRank, hloop, loopRank]
      omega
  | iterationFails => exact ⟨fun hby => hby.elim, fun hit => hit.elim⟩
  | callbackReturns hloop =>
      simp only [totalRank, hloop, loopRank]
      omega

/-- Both threads have ended. -/
def BothEnded (s : State μ) : Prop := s.csub.bg = .exited ∧ s.loop = .ended

/-- `bgLoop()` can go on unless it waits for room in the channel. -/
theorem bgLoop_can {s : ChannelSubscription.State μ} (hexited : s.bg ≠ .exited)
    (hroom : ∀ m, s.bg = .sending m →
      s.chan.closed = true ∨ s.chan.buffer.length < s.chan.capacity) :
    ∃ a, ByThreads (.csub a : Action μ) ∧ (ChannelSubscription.step s a).isSome := by
  rcases hbg : s.bg with _ | rem | m | _ | _
  · exact ⟨.check, trivial, by simp [ChannelSubscription.step, hbg]⟩
  · refine ⟨.poll (.failed "") none, trivial, ?_⟩
    simp [ChannelSubscription.step, hbg, ChannelSubscription.State.pollNext, nextPoll,
      Subscription.answer]
  · refine ⟨.send, trivial, ?_⟩
    by_cases hclosed : s.chan.closed = true
    · simp [ChannelSubscription.step, hbg, ChannelSubscription.State.sendMsg, hclosed]
    · have hopen := Bool.not_eq_true _ ▸ hclosed
      have hlength := (hroom m hbg).resolve_left hclosed
      simp [ChannelSubscription.step, hbg, ChannelSubscription.State.sendMsg, Channel.send, hopen,
        hlength]
  · exact ⟨.exit, trivial, by simp [ChannelSubscription.step, hbg]⟩
  · exact absurd hbg hexited

/-- `callbackLoop()` can go on unless it waits for a message. -/
theorem callbackLoop_can {s : State μ} (hended : s.loop ≠ .ended)
    (hmore : s.csub.chan.closed = true ∨ s.csub.chan.buffer ≠ [] ∨ ∃ m, s.csub.bg = .sending m) :
    ∃ a, ByThreads a ∧ (step s a).isSome := by
  rcases hloop : s.loop with _ | m | _
  · by_cases hbuffer : s.csub.chan.buffer = []
    · by_cases hclosed : s.csub.chan.closed = true
      · exact ⟨.iterationEnds, trivial, by simp [step, hloop, hclosed, hbuffer]⟩
      · obtain ⟨m, hbg⟩ := (hmore.resolve_left hclosed).resolve_left (not_not_intro hbuffer)
        have hopen := Bool.not_eq_true _ ▸ hclosed
        refine ⟨.next true, trivial, ?_⟩
        simp [step, hloop, consume, ChannelSubscription.step, hbg, hopen, hbuffer, delivered]
    · obtain ⟨m, chan, hreceive⟩ := Channel.exists_receive hbuffer
      refine ⟨.next false, trivial, ?_⟩
      simp [step, hloop, consume, ChannelSubscription.step, hreceive, delivered]
  · exact ⟨.callbackReturns none, trivial, by simp [step, hloop]⟩
  · exact absurd hloop hended

/-- Until both threads have ended, one of them can go on. -/
theorem threads_can {s : State μ} (hcomplete : s.loop = .ended → Complete s)
    (hexited : s.csub.bg = .exited → s.csub.chan.closed = true) (hgoal : ¬ BothEnded s) :
    ∃ a, ByThreads a ∧ (step s a).isSome := by
  by_cases hended : s.loop = .ended
  · have hclosed := (hcomplete hended).closed
    obtain ⟨a, hby, hcan⟩ :=
      bgLoop_can (fun hbg => hgoal ⟨hbg, hended⟩) fun _ _ => Or.inl hclosed
    exact ⟨.csub a, hby, by simpa [step] using hcan⟩
  · by_cases hwaits : s.csub.bg = .exited ∨ (∃ m, s.csub.bg = .sending m)
    · refine callbackLoop_can hended ?_
      rcases hwaits with hbg | hsending
      · exact Or.inl (hexited hbg)
      · exact Or.inr (Or.inr hsending)
    · obtain ⟨a, hby, hcan⟩ := bgLoop_can (fun hbg => hwaits (Or.inl hbg))
        fun m hbg => absurd (Or.inr ⟨m, hbg⟩) hwaits
      exact ⟨.csub a, hby, by simpa [step] using hcan⟩

/-! ## The end of the callback loop -/

section Behaviors

variable {bufferSize : ℕ} (b : (system (μ := μ) bufferSize).Behavior)

/-- A close, a drain or an exception in `bgLoop()`. -/
def Interrupted : Prop := ∃ n a, b.act n = some (.csub a) ∧ Interrupts a

variable {b}

theorem complete_of_ended (hiterates : ∀ n a, b.act n = some a → Iterates a) (n : ℕ) :
    (b.state n).loop = .ended → Complete (b.state n) :=
  b.invariant_of_acts (I := fun s => s.loop = .ended → Complete s)
    (by simp [system, State.start])
    (fun _ _ _ h ha hs => complete_of_ended_step h ha (step_cases hs)) hiterates n

/-- Without an interruption the channel stays open. -/
theorem unstopped_of_not_interrupted (h : ¬ Interrupted b) (n : ℕ) :
    Unstopped (b.state n).csub := by
  refine b.invariant_of_acts (I := fun s => Unstopped s.csub)
    (G := fun a => ∀ c, a = .csub c → ¬ Interrupts c) (unstopped_start _ _) ?_ ?_ n
  · intro s a s' hinv ha hs
    cases step_cases hs with
    | @csub c t hstep => exact unstopped_step hinv (ChannelSubscription.step_cases hstep) (ha c rfl)
    | @next handOver t m rest hloop hstep =>
        refine unstopped_step hinv (ChannelSubscription.step_cases hstep) fun hint => ?_
        cases handOver <;> exact hint
    | iterationEnds | iterationFails | callbackReturns => exact hinv
  · intro n a hact c hc hint
    exact h ⟨n, c, hc ▸ hact, hint⟩

theorem ending_csub_step {s s' : State μ} {a : Action μ} (h : Ending s.csub) (hs : Step s a s') :
    Ending s'.csub := by
  cases hs with
  | csub hstep | next _ hstep => exact ending_step h (ChannelSubscription.step_cases hstep)
  | iterationEnds | iterationFails | callbackReturns => exact h

theorem ending_of_interrupted (h : Interrupted b) :
    ∃ n, ∀ k, n ≤ k → Ending (b.state k).csub := by
  obtain ⟨n, a, hact, ha⟩ := h
  refine ⟨n + 1, fun k hk => ?_⟩
  refine b.stable (I := fun s => Ending s.csub)
    (fun _ _ _ hending hs => ending_csub_step hending (step_cases hs)) hk ?_
  have hs := step_cases (b.step_of_act hact)
  generalize b.state (n + 1) = s' at hs
  cases hs with
  | csub hstep => exact ending_of_interrupts (ChannelSubscription.step_cases hstep) ha

/-- The iterator raises an exception. -/
def IterationFails (b : (system (μ := μ) bufferSize).Behavior) : Prop :=
  ∃ n ex, b.act n = some (.iterationFails ex)

theorem iterates_of_not_iterationFails (h : ¬ IterationFails b) (n : ℕ) (a : Action μ)
    (hact : b.act n = some a) : Iterates a := by
  cases a with
  | iterationFails ex => exact h ⟨n, ex, hact⟩
  | _ => trivial

/-- After an exception of the iterator the loop has ended. -/
theorem ended_of_iterationFails (h : IterationFails b) : ∃ n, (b.state n).loop = .ended := by
  obtain ⟨n, ex, hact⟩ := h
  have hs := step_cases (b.step_of_act hact)
  refine ⟨n + 1, ?_⟩
  generalize b.state (n + 1) = s' at hs
  cases hs with
  | iterationFails => rfl

/-- The two threads together, if the iterator raises no exception. -/
theorem threads_end (hfair : b.WeaklyFair ByThreads)
    (hiterates : ∀ n a, b.act n = some a → Iterates a) :
    (Interrupted b → ∃ n, BothEnded (b.state n)) ∧
      ∀ n, (b.state n).loop = .ended → Interrupted b ∧ ∀ k, n ≤ k →
        (b.state k).loop = .ended ∧
        (b.state k).csub.sent = (b.state n).csub.sent ∧
        ((b.state k).called ++ (b.state k).others).Perm (b.state n).csub.sent ∧
        (b.state k).called.Sublist (b.state n).csub.sent := by
  refine ⟨fun hint => ?_, fun n hended => ⟨?_, fun k hk => ?_⟩⟩
  · obtain ⟨start, hending⟩ := ending_of_interrupted hint
    obtain ⟨n, -, hgoal⟩ := b.exists_goal_of_weaklyFair (G := BothEnded) hfair totalRank start
      (fun n _ hgoal => threads_can (complete_of_ended hiterates n)
        ((refinement bufferSize).invariant (I := fun t => t.bg = .exited → t.chan.closed = true)
          closed_of_exited (b.take n)) hgoal)
      (fun n hn _ => by
        rcases b.step_cases n with hidle | ⟨a, hact, hs⟩
        · rw [hidle]
        · exact (totalRank_step (hending n hn) (step_cases hs)).2 (hiterates n a hact))
      (fun n a hn _ hact hby =>
        Or.inr ((totalRank_step (hending n hn) (step_cases (b.step_of_act hact))).1 hby))
    exact ⟨n, hgoal⟩
  · by_contra hnot
    have hopen := (unstopped_of_not_interrupted hnot n).chan
    rw [(complete_of_ended hiterates n hended).closed] at hopen
    cases hopen
  · have hstays : Complete (b.state k) ∧ (b.state k).csub.sent = (b.state n).csub.sent :=
      b.stable (I := fun s => Complete s ∧ s.csub.sent = (b.state n).csub.sent)
        (fun s a s' h hs => by
          have hstep := complete_step h.1 (step_cases hs)
          exact ⟨hstep.1, hstep.2.trans h.2⟩)
        hk ⟨complete_of_ended hiterates n hended, rfl⟩
    have hshared := shared_run (b.take k)
    have hqueue := queue_run (b.take k)
    change (b.state k).csub.sent = (b.state k).csub.received ++ (b.state k).csub.chan.buffer
      at hqueue
    rw [hstays.1.empty, List.append_nil, hstays.2] at hqueue
    refine ⟨hstays.1.loop, hstays.2, ?_, ?_⟩
    · rw [hqueue]
      exact hshared.all
    · rw [hqueue]
      exact hshared.called

end Behaviors

/-- Let one of the two threads go on as long as one of them can; whatever the callback raises, and
    whatever other consumers do: the callback loop ends if and only if the channel subscription is
    interrupted or the iterator raises an exception. At every time the callback was called once with
    each message that the loop has received, in their order, and each message that was sent has gone
    to the callback or to one other consumer, or waits in the channel. If the iterator raises no
    exception, both threads end after an interruption, and once the loop has ended nothing is sent
    any more, and nothing that was sent is left over. -/
theorem callbackLoop_ends_iff {bufferSize : ℕ} (b : (system (μ := μ) bufferSize).Behavior)
    (hfair : b.WeaklyFair ByThreads) :
    ((∃ n, (b.state n).loop = .ended) ↔ Interrupted b ∨ IterationFails b) ∧
    (∀ n, Shared (b.state n) ∧
      (b.state n).csub.sent = (b.state n).csub.received ++ (b.state n).csub.chan.buffer) ∧
    (¬ IterationFails b → (Interrupted b → ∃ n, BothEnded (b.state n)) ∧
      ∀ n, (b.state n).loop = .ended → ∀ k, n ≤ k →
        (b.state k).loop = .ended ∧
        (b.state k).csub.sent = (b.state n).csub.sent ∧
        ((b.state k).called ++ (b.state k).others).Perm (b.state n).csub.sent ∧
        (b.state k).called.Sublist (b.state n).csub.sent) := by
  refine ⟨?_, fun n => ⟨shared_run (b.take n), queue_run (b.take n)⟩, fun hfails => ?_⟩
  · by_cases hfails : IterationFails b
    · exact iff_of_true (ended_of_iterationFails hfails) (Or.inr hfails)
    · have hends := threads_end hfair (iterates_of_not_iterationFails hfails)
      constructor
      · rintro ⟨n, hended⟩
        exact Or.inl (hends.2 n hended).1
      · intro hint
        obtain ⟨n, hboth⟩ := hends.1 (hint.resolve_right hfails)
        exact ⟨n, hboth.2⟩
  · have hends := threads_end hfair (iterates_of_not_iterationFails hfails)
    exact ⟨hends.1, fun n hended => (hends.2 n hended).2⟩

/-! ## A run to its end -/

/-- Two messages arrive; the callback raises an exception for the first one, and another consumer
    receives the second one before the subscription is closed. -/
def closedActs : List (Action ℕ) :=
  [.csub (.arrive 7), .csub (.arrive 8), .csub .check, .csub (.poll .ok none), .csub .send,
    .next false, .csub .check, .csub (.poll .ok none), .csub .send,
    .callbackReturns (some ⟨"CALLBACK-ERROR", "failed"⟩), .csub .receive, .csub .close,
    .csub (.unsubscribe true), .csub .closeChannel, .csub .check, .csub .exit, .iterationEnds]

def closedRun : (system (μ := ℕ) 1).Run := (system 1).runOf closedActs rfl

def closedBehavior : (system (μ := ℕ) 1).Behavior := .idleAfter closedRun

theorem closedBehavior_fair : closedBehavior.WeaklyFair ByThreads :=
  TransitionSystem.Behavior.idleAfter_weaklyFair closedRun fun a ha => by
    cases a with
    | csub a => cases a <;> first | rfl | cases ha
    | next handOver => rfl
    | iterationEnds => rfl
    | iterationFails ex => cases ha
    | callbackReturns raised => rfl

theorem closedBehavior_iterates : ¬ IterationFails closedBehavior := by
  rintro ⟨n, ex, hact⟩
  have hmem : .iterationFails ex ∈ closedActs := List.mem_of_getElem? hact
  simp [closedActs] at hmem

theorem callbackLoop_ends_iff_closed : (∃ n, BothEnded (closedBehavior.state n)) ∧
    (closedBehavior.state 9).called = [7] ∧
    ((closedBehavior.state 17).called ++ (closedBehavior.state 17).others).Perm [7, 8] := by
  have hends := callbackLoop_ends_iff closedBehavior closedBehavior_fair
  obtain ⟨hboth, hafter⟩ := hends.2.2 closedBehavior_iterates
  exact ⟨hboth ⟨11, .close, rfl, trivial⟩, rfl, (hafter 17 rfl 17 le_rfl).2.2.1⟩

end ModuleNats.NatsClient
