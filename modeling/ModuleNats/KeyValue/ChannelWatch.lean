import ModuleNats.ChannelSubscription.Active
import ModuleNats.KeyValue.Watcher

set_option autoImplicit false

/-! # Channel watches

A `NatsChannelKVWatch` does for a key-value watcher what a `NatsChannelSubscription` does for a
subscription: a background thread sends the entries to a channel. There is no `drain()`; otherwise
the code is the same, and so is what `isActive()` says of both (`inactive_once_ended`). -/

namespace ModuleNats.ChannelKVWatch

open SlicedWait

variable {κ η : Type}

/-! ## The watcher -/

/-- A `kvWatcher` of the C client. -/
structure KvWatcher (κ : Type) where
  /-- the entries that have arrived -/
  pending : List κ := []
  stopped : Bool := false
deriving DecidableEq

/-- The answers of `kvWatcher_Next()`. -/
inductive WatchAnswer where
  | entry
  /-- `NATS_OK` without an entry, at the end of the initial values -/
  | noEntry
  | timeout
  | failed (statusText : String)
deriving DecidableEq, Repr

/-- The status of an answer that the watcher can give, and the watcher after it. -/
def KvWatcher.next (w : KvWatcher κ) : WatchAnswer → Option (WaitStatus (Option κ) × KvWatcher κ)
  | .entry =>
      match w.pending with
      | e :: rest => if w.stopped then none else some (.ok (some e), { w with pending := rest })
      | [] => none
  | .noEntry => if w.stopped then none else some (.ok none, w)
  | .timeout => if w.stopped || !w.pending.isEmpty then none else some (.timeout, w)
  | .failed statusText => some (.failed statusText, w)

/-! ## The data -/

/-- Where `bgLoop()` is. -/
inductive BgPc (η : Type) where
  /-- about to look at the stop flag -/
  | check
  /-- in `next(500ms)`, about to ask the C client -/
  | receiving (remainingMs : ℤ)
  /-- in `chan.send()` -/
  | sending (entry : η)
  /-- out of the loop, about to run the `on_exit` block -/
  | leaving
  | exited
deriving DecidableEq

/-- Where the call of `close()` is that has set the stop flag. -/
inductive CloserPc where
  | idle
  /-- about to stop the watcher -/
  | stopping
  | closingChannel
  | done
deriving DecidableEq, Repr

/-- `closedByWrapper` is not in the code; it records that the wrapper has closed the channel. -/
structure State (κ η : Type) where
  watcher : KvWatcher κ
  chan : Channel η
  stopping : Bool := false
  bg : BgPc η := .check
  closer : CloserPc := .idle
  closedByWrapper : Bool := false

inductive Action (κ : Type) where
  /-- an entry arrives at the watcher -/
  | arrive (entry : κ)
  | check
  /-- one answer of the C client in `next()` -/
  | poll (answer : WatchAnswer)
  /-- `next()` finds its thread cancelled -/
  | cancel (ex : ExceptionInfo)
  | send
  /-- `chan.send()` raises an exception of its own -/
  | sendFails (ex : ExceptionInfo)
  | exit
  /-- a consumer receives from the channel -/
  | receive
  /-- a consumer receives from the blocked sender -/
  | handOver
  | close
  | stopWatcher (ok : Bool)
  | closeChannel
  /-- a consumer closes the channel that it has got from `channel()` -/
  | closedByConsumer
deriving DecidableEq, Repr

/-! ## The steps -/

/-- `isActive()` -/
def State.isActive (s : State κ η) : Bool := !s.stopping

/-- One pass of the loop in `next()` that finds no cancellation. -/
def nextPass (remainingMs : ℤ) (status : WaitStatus (Option κ)) :
    Next ExceptionInfo (WaitStatus (Option κ)) :=
  (SlicedWait.pass ⟨fun s => (none, s), fun _ s => (KVWatcher.answer status, s)⟩ pollIntervalMs
    false remainingMs ()).1

theorem nextPass_eq (remainingMs : ℤ) (status : WaitStatus (Option κ)) :
    nextPass remainingMs status =
      match KVWatcher.answer status with
      | .done status => .inl (.done status)
      | .again => .inr remainingMs
      | .timedOut =>
          if remainingMs - slice pollIntervalMs false remainingMs ≤ 0 then .inl .timedOut
          else .inr (remainingMs - slice pollIntervalMs false remainingMs) := by
  rw [nextPass, SlicedWait.pass]
  cases KVWatcher.answer status <;> rfl

section Steps

-- `nats_kv_entry_to_hash()`
variable (toHash : κ → Except ExceptionInfo η)

/-- How the loop goes on after a pass of `next()`: an exception is caught, and the loop is left. -/
def afterPass : Next ExceptionInfo (WaitStatus (Option κ)) → BgPc η
  | .inr remainingMs => .receiving remainingMs
  | .inl outcome =>
      match slicedResult .error (KVWatcher.returns toHash) .timeout outcome with
      | .ok (some entry) => .sending entry
      | .ok none => .check
      | .error _ => .leaving

def step (s : State κ η) : Action κ → Option (State κ η)
  | .arrive e =>
      if s.watcher.stopped then none
      else some { s with watcher := { s.watcher with pending := s.watcher.pending ++ [e] } }
  | .check =>
      match s.bg with
      | .check => some { s with bg := if s.stopping then .leaving else .receiving 500 }
      | _ => none
  | .poll answer =>
      match s.bg with
      | .receiving remainingMs =>
          (s.watcher.next answer).map fun (status, watcher) =>
            { s with bg := afterPass toHash (nextPass remainingMs status), watcher := watcher }
      | _ => none
  | .cancel ex =>
      match s.bg with
      | .receiving _ => some { s with bg := afterPass toHash (.inl (.cancelled ex)) }
      | _ => none
  | .send =>
      match s.bg with
      | .sending entry =>
          -- `CHANNEL-CLOSED` ends the loop; on a full channel the thread blocks
          if s.chan.closed then some { s with bg := .leaving }
          else (s.chan.send entry).map fun chan => { s with bg := .check, chan := chan }
      | _ => none
  | .sendFails _ =>
      match s.bg with
      | .sending _ => some { s with bg := .leaving }
      | _ => none
  | .exit =>
      match s.bg with
      | .leaving => some { s with bg := .exited, chan := s.chan.close, closedByWrapper := true }
      | _ => none
  | .receive => s.chan.receive.map fun (_, chan) => { s with chan := chan }
  | .handOver =>
      match s.bg with
      | .sending _ =>
          if s.chan.closed = false ∧ s.chan.buffer.isEmpty then some { s with bg := .check }
          else none
      | _ => none
  | .close => some (if s.stopping then s else { s with stopping := true, closer := .stopping })
  | .stopWatcher ok =>
      match s.closer with
      | .stopping =>
          -- an error is ignored
          some { s with
            closer := .closingChannel
            watcher := { s.watcher with stopped := s.watcher.stopped || ok } }
      | _ => none
  | .closeChannel =>
      match s.closer with
      | .closingChannel =>
          some { s with closer := .done, chan := s.chan.close, closedByWrapper := true }
      | _ => none
  | .closedByConsumer => some { s with chan := s.chan.close }

/-- A watch over a fresh watcher, with a channel of the given size. -/
def State.start (bufferSize : ℕ) : State κ η :=
  { watcher := {},
    chan := { capacity := bufferSize, buffer := [], bounded := Nat.zero_le bufferSize } }

def system (bufferSize : ℕ) : TransitionSystem (State κ η) (Action κ) :=
  ⟨State.start bufferSize, step toHash⟩

/-! ## What a step can do -/

/-- Every step. -/
inductive Step (s : State κ η) : Action κ → State κ η → Prop where
  | arrive {e : κ} (hopen : s.watcher.stopped = false) :
      Step s (.arrive e) { s with
        watcher := { s.watcher with pending := s.watcher.pending ++ [e] } }
  | stop (hbg : s.bg = .check) (hstop : s.stopping = true) : Step s .check { s with bg := .leaving }
  | goOn (hbg : s.bg = .check) (hstop : s.stopping = false) :
      Step s .check { s with bg := .receiving 500 }
  | poll {rem : ℤ} {answer : WatchAnswer} {status : WaitStatus (Option κ)} {watcher : KvWatcher κ}
      (hbg : s.bg = .receiving rem) (hnext : s.watcher.next answer = some (status, watcher)) :
      Step s (.poll answer) { s with
        bg := afterPass toHash (nextPass rem status)
        watcher := watcher }
  | cancel {rem : ℤ} {ex : ExceptionInfo} (hbg : s.bg = .receiving rem) :
      Step s (.cancel ex) { s with bg := .leaving }
  | sendClosed {entry : η} (hbg : s.bg = .sending entry) (hclosed : s.chan.closed = true) :
      Step s .send { s with bg := .leaving }
  | send {entry : η} {chan : Channel η} (hbg : s.bg = .sending entry)
      (hsend : s.chan.send entry = some chan) :
      Step s .send { s with bg := .check, chan := chan }
  | sendFails {entry : η} {ex : ExceptionInfo} (hbg : s.bg = .sending entry) :
      Step s (.sendFails ex) { s with bg := .leaving }
  | exit (hbg : s.bg = .leaving) :
      Step s .exit { s with bg := .exited, chan := s.chan.close, closedByWrapper := true }
  | receive {entry : η} {chan : Channel η} (hreceive : s.chan.receive = some (entry, chan)) :
      Step s .receive { s with chan := chan }
  | handOver {entry : η} (hbg : s.bg = .sending entry) : Step s .handOver { s with bg := .check }
  | alreadyClosed (hstop : s.stopping = true) : Step s .close s
  | close (hstop : s.stopping = false) :
      Step s .close { s with stopping := true, closer := .stopping }
  | stopWatcher {ok : Bool} (hcloser : s.closer = .stopping) :
      Step s (.stopWatcher ok) { s with
        closer := .closingChannel
        watcher := { s.watcher with stopped := s.watcher.stopped || ok } }
  | closeChannel (hcloser : s.closer = .closingChannel) :
      Step s .closeChannel { s with
        closer := .done
        chan := s.chan.close
        closedByWrapper := true }
  | closedByConsumer : Step s .closedByConsumer { s with chan := s.chan.close }

variable {toHash}

/-- Every step that is possible is one of `Step`. -/
theorem step_cases {s s' : State κ η} {a : Action κ} (h : step toHash s a = some s') :
    Step toHash s a s' := by
  cases a with
  | arrive e =>
      simp only [step] at h
      split at h
      · cases h
      · next hopen => cases h; exact .arrive (Bool.not_eq_true _ ▸ hopen)
  | check =>
      simp only [step] at h
      split at h
      · next hbg =>
          cases h
          split
          · next hstop => exact .stop hbg hstop
          · next hstop => exact .goOn hbg (Bool.not_eq_true _ ▸ hstop)
      · cases h
  | poll answer =>
      simp only [step] at h
      split at h
      · next rem hbg =>
          obtain ⟨⟨status, watcher⟩, hnext, rfl⟩ := Option.map_eq_some_iff.1 h
          exact .poll hbg hnext
      · cases h
  | cancel ex =>
      simp only [step] at h
      split at h
      · next rem hbg => cases h; exact .cancel hbg
      · cases h
  | send =>
      simp only [step] at h
      split at h
      · next entry hbg =>
          split at h
          · next hclosed => cases h; exact .sendClosed hbg hclosed
          · obtain ⟨chan, hsend, rfl⟩ := Option.map_eq_some_iff.1 h
            exact .send hbg hsend
      · cases h
  | sendFails ex =>
      simp only [step] at h
      split at h
      · next entry hbg => cases h; exact .sendFails hbg
      · cases h
  | exit =>
      simp only [step] at h
      split at h
      · next hbg => cases h; exact .exit hbg
      · cases h
  | receive =>
      obtain ⟨⟨entry, chan⟩, hreceive, rfl⟩ := Option.map_eq_some_iff.1 h
      exact .receive hreceive
  | handOver =>
      simp only [step] at h
      split at h
      · next entry hbg =>
          split at h
          · cases h; exact .handOver hbg
          · cases h
      · cases h
  | close =>
      cases h
      split
      · next hstop => exact .alreadyClosed hstop
      · next hstop => exact .close (Bool.not_eq_true _ ▸ hstop)
  | stopWatcher ok =>
      simp only [step] at h
      split at h
      · next hcloser => cases h; exact .stopWatcher hcloser
      · cases h
  | closeChannel =>
      simp only [step] at h
      split at h
      · next hcloser => cases h; exact .closeChannel hcloser
      · cases h
  | closedByConsumer => cases h; exact .closedByConsumer

/-! ## The stop flag -/

variable (toHash) in
/-- The step makes a call in the loop raise an exception: `next()`, or `chan.send()`. -/
def Raises (s : State κ η) : Action κ → Prop
  | .cancel _ | .sendFails _ | .poll (.failed _) => True
  | .poll .entry => ∃ e ex, s.watcher.pending.head? = some e ∧ toHash e = .error ex
  | .send => s.chan.closed = true
  | _ => False

/-- The loop has been left, a call of `close()` has set the stop flag, or the wrapper has closed the
    channel. -/
def State.ending (s : State κ η) : Prop :=
  s.bg = .leaving ∨ s.bg = .exited ∨ s.closer ≠ .idle ∨ s.closedByWrapper = true

/-- The loop has ended, or the wrapper has closed the channel. -/
def State.ended (s : State κ η) : Prop := s.bg = .exited ∨ s.closedByWrapper = true

variable (toHash) in
/-- An answer of the C client ends the loop if and only if `next()` raises an exception. -/
theorem poll_leaves_iff (rem : ℤ) {s : State κ η} {answer : WatchAnswer}
    {status : WaitStatus (Option κ)} {watcher : KvWatcher κ}
    (h : s.watcher.next answer = some (status, watcher)) :
    (afterPass toHash (nextPass rem status) = .leaving ↔ Raises toHash s (.poll answer)) ∧
      afterPass toHash (nextPass rem status) ≠ .exited := by
  cases answer with
  | entry =>
      simp only [KvWatcher.next] at h
      split at h
      · next e rest hpending =>
          split at h
          · cases h
          · cases h
            cases he : toHash e <;>
              simp [afterPass, nextPass_eq, KVWatcher.answer, slicedResult, KVWatcher.returns,
                Except.map, Raises, hpending, he]
      · cases h
  | noEntry =>
      simp only [KvWatcher.next] at h
      split at h
      · cases h
      · cases h
        simp [afterPass, nextPass_eq, KVWatcher.answer, Raises]
  | timeout =>
      simp only [KvWatcher.next] at h
      split at h
      · cases h
      · cases h
        by_cases hlast : rem - slice pollIntervalMs false rem ≤ 0
        · simp [afterPass, nextPass_eq, KVWatcher.answer, slicedResult, KVWatcher.returns,
            Raises, hlast]
        · simp [afterPass, nextPass_eq, KVWatcher.answer, Raises, hlast]
  | failed statusText =>
      cases h
      simp [afterPass, nextPass_eq, KVWatcher.answer, slicedResult, KVWatcher.returns, Raises]

theorem stopping_step {s s' : State κ η} {a : Action κ} (h : s.stopping = true)
    (hs : Step toHash s a s') : s'.stopping = true := by
  cases hs with
  | close => rfl
  | _ => exact h

/-- What ends the loop: the stop flag, or an exception. -/
theorem ending_of_step {s s' : State κ η} {a : Action κ} (hs : Step toHash s a s')
    (h : s'.ending) : s.ending ∨ s'.stopping = true ∨ Raises toHash s a := by
  have hgoes : s'.bg ≠ .leaving → s'.bg ≠ .exited → s'.closer = s.closer →
      s'.closedByWrapper = s.closedByWrapper → s.ending := by
    intro hleaving hexited hcloser hclosed
    rcases h with hbg | hbg | hc | hc
    · exact absurd hbg hleaving
    · exact absurd hbg hexited
    · exact Or.inr (Or.inr (Or.inl (hcloser ▸ hc)))
    · exact Or.inr (Or.inr (Or.inr (hclosed ▸ hc)))
  cases hs with
  | goOn | send | handOver => exact Or.inl (hgoes (by simp) (by simp) rfl rfl)
  | @poll rem answer status watcher hbg hnext =>
      obtain ⟨hleaves, hexits⟩ := poll_leaves_iff toHash rem hnext
      by_cases hleaving : afterPass toHash (nextPass rem status) = .leaving
      · exact Or.inr (Or.inr (hleaves.1 hleaving))
      · exact Or.inl (hgoes hleaving hexits rfl rfl)
  | stop hbg hstop => exact Or.inr (Or.inl hstop)
  | cancel | sendFails => exact Or.inr (Or.inr trivial)
  | sendClosed hbg hclosed => exact Or.inr (Or.inr hclosed)
  | exit hbg => exact Or.inl (Or.inl hbg)
  | close => exact Or.inr (Or.inl rfl)
  | stopWatcher hc | closeChannel hc => exact Or.inl (Or.inr (Or.inr (Or.inl (by simp [hc]))))
  | arrive | receive | alreadyClosed | closedByConsumer => exact Or.inl h

variable (toHash) in
/-- The flag that `isActive()` reads. -/
def stopFlag (bufferSize : ℕ) : StopFlag (system toHash bufferSize) where
  stopping := State.stopping
  ending := State.ending
  raises := Raises toHash
  init := by simp [system, State.start, State.ending]
  keeps _ _ _ hs hset := stopping_step hset (step_cases hs)
  ends _ _ _ hs hending := ending_of_step (step_cases hs) hending

theorem isActive_of_stoppedFirst {bufferSize : ℕ} {s : State κ η}
    (h : (stopFlag toHash bufferSize).StoppedFirst s) (hended : s.ended) : s.isActive = false := by
  have hstopping : s.stopping = true := by
    refine h ?_
    rcases hended with hbg | hclosed
    · exact Or.inr (Or.inl hbg)
    · exact Or.inr (Or.inr (Or.inr hclosed))
  rw [State.isActive, hstopping]
  rfl

/-- After an exception of the loop with the flag unset, the loop can exit at once, and `isActive()`
    is still true. -/
theorem active_after_raise {bufferSize : ℕ} {s s' : State κ η} {a : Action κ}
    (ha : (stopFlag toHash bufferSize).RaisesUnstopped s a) (hs : step toHash s a = some s') :
    ∃ t, step toHash s' .exit = some t ∧ t.ended ∧ t.isActive = true := by
  obtain ⟨hraises, hunset⟩ := ha
  have hact : Step toHash s a s' := step_cases hs
  obtain ⟨hbg, hstopping⟩ : s'.bg = .leaving ∧ s'.stopping = false := by
    cases hact with
    | poll hbg hnext => exact ⟨(poll_leaves_iff toHash _ hnext).1.2 hraises, hunset⟩
    | cancel | sendFails | sendClosed => exact ⟨rfl, hunset⟩
    | send hbg hsend =>
        have hopen : s.chan.closed = false := (Channel.send_spec hsend).1
        have hclosed : s.chan.closed = true := hraises
        rw [hopen] at hclosed
        cases hclosed
    | _ => cases hraises
  refine ⟨{ s' with bg := .exited, chan := s'.chan.close, closedByWrapper := true }, ?_, .inl rfl,
    ?_⟩
  · simp [step, hbg]
  · simp [State.isActive, hstopping]

end Steps

end ModuleNats.ChannelKVWatch

/-! ## Both wrappers -/

namespace ModuleNats

/-- While every exception in a loop comes after the stop flag has been set, `isActive()` is false in
    every state in which the loop has ended or the wrapper has closed the channel; after any other
    exception the loop can exit at once, with `isActive()` still true. -/
theorem inactive_once_ended {μ κ η : Type} (toHash : κ → Except ExceptionInfo η) :
    (∀ (pull : Bool) (bufferSize : ℕ)
        (run : (ChannelSubscription.sharedSystem (μ := μ) pull bufferSize).Run),
      ((run.All fun s a => ¬ (ChannelSubscription.stopFlag pull bufferSize).RaisesUnstopped s a) →
        ∀ s, run.Reached s → s.ended → s.isActive = false) ∧
      ∀ s a s', run.Occurs s a s' →
        (ChannelSubscription.stopFlag pull bufferSize).RaisesUnstopped s a →
        ∃ t, ChannelSubscription.sharedStep s' (.own .exit) = some t ∧ t.ended ∧
          t.isActive = true) ∧
    (∀ (bufferSize : ℕ) (run : (ChannelKVWatch.system toHash bufferSize).Run),
      ((run.All fun s a => ¬ (ChannelKVWatch.stopFlag toHash bufferSize).RaisesUnstopped s a) →
        ∀ s, run.Reached s → s.ended → s.isActive = false) ∧
      ∀ s a s', run.Occurs s a s' →
        (ChannelKVWatch.stopFlag toHash bufferSize).RaisesUnstopped s a →
        ∃ t, ChannelKVWatch.step toHash s' .exit = some t ∧ t.ended ∧ t.isActive = true) := by
  constructor
  · intro pull bufferSize run
    refine ⟨fun h s hs hended => ?_, fun s a s' hoccurs ha => ?_⟩
    · exact ChannelSubscription.isActive_of_stoppedFirst (StopFlag.stoppedFirst_of_reached h hs)
        hended
    · exact ChannelSubscription.active_after_raise ha hoccurs.step
  · intro bufferSize run
    refine ⟨fun h s hs hended => ?_, fun s a s' hoccurs ha => ?_⟩
    · exact ChannelKVWatch.isActive_of_stoppedFirst (StopFlag.stoppedFirst_of_reached h hs) hended
    · exact ChannelKVWatch.active_after_raise ha hoccurs.step

/-- A subscription that `close()` is called for. -/
def closedRun : (ChannelSubscription.sharedSystem (μ := ℕ) false 100).Run :=
  (ChannelSubscription.sharedSystem false 100).runOf
    [.own .close, .own (.unsubscribe true), .own .closeChannel] rfl

theorem inactive_once_ended_closedRun :
    closedRun.final.ended ∧ closedRun.final.isActive = false := by
  have hended : closedRun.final.ended := Or.inr rfl
  refine ⟨hended, ?_⟩
  refine ((inactive_once_ended (μ := ℕ) (κ := ℕ) Except.ok).1 false 100 closedRun).1 ?_ _
    ⟨_, [], (List.append_nil _).symm, closedRun.ok⟩ hended
  refine TransitionSystem.Run.all_of_allFrom _ ⟨?_, ?_, ?_, trivial⟩
  all_goals exact fun h => h.1

/-- The C client fails in `nextMsg()`, and the loop exits: the channel is closed, and `isActive()`
    is true. The same happens to a watch. -/
theorem active_after_receive_error :
    (¬ ∀ (run : (ChannelSubscription.sharedSystem (μ := ℕ) false 100).Run),
      run.final.ended → run.final.isActive = false) ∧
    ¬ ∀ (run : (ChannelKVWatch.system (κ := ℕ) (η := ℕ) .ok 100).Run),
      run.final.ended → run.final.isActive = false := by
  constructor
  · intro hclaim
    have hrun := hclaim ((ChannelSubscription.sharedSystem false 100).runOf
      [.own .check, .own (.poll (.failed "Connection Closed") none), .own .exit] rfl) (Or.inl rfl)
    exact absurd hrun (by decide)
  · intro hclaim
    have hrun := hclaim ((ChannelKVWatch.system .ok 100).runOf
      [.check, .poll (.failed "Connection Closed"), .exit] rfl) (Or.inl rfl)
    exact absurd hrun (by decide)

end ModuleNats
