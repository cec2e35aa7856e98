import ModuleNats.KeyValue.ChannelWatch
import ModuleNats.Lib.Behavior

set_option autoImplicit false

/-! # What the consumers of a channel watch receive

The entries that arrive at the watcher go through three places: the queue of the watcher, the hands
of `bgLoop()`, and the buffer of the channel. They keep their order, and only the entry with which
the loop is left gets lost on the way. As long as nothing ends the loop, every entry comes through:
`bgLoop()` takes the entries before it one by one, and when the channel is full it is the turn of a
consumer (`entries_reach_consumers`). -/

namespace ModuleNats.ChannelKVWatch

open SlicedWait

variable {κ η : Type}

/-! ## Arrived, taken, received -/

/-- The entry that arrives at the watcher. -/
def arrived (_ : State κ η) : Action κ → List κ
  | .arrive e => [e]
  | _ => []

/-- The entry that `next()` takes from the watcher. -/
def taken (s : State κ η) : Action κ → List κ
  | .poll .entry => s.watcher.pending.take 1
  | _ => []

/-- The entry that `bgLoop()` is sending. -/
def State.inHand (s : State κ η) : List η :=
  match s.bg with
  | .sending entry => [entry]
  | _ => []

/-- The entry that a consumer receives. -/
def received (s : State κ η) : Action κ → List η
  | .receive => s.chan.buffer.take 1
  | .handOver => s.inHand
  | _ => []

/-- `bgLoop()` has left its loop. -/
def State.outOfLoop (s : State κ η) : Prop := s.bg = .leaving ∨ s.bg = .exited

section Delivery

variable {toHash : κ → Except ExceptionInfo η}

variable (toHash) in
/-- What a pass of `next()` makes of the watcher and of the loop. -/
inductive Polled (s : State κ η) (rem : ℤ) : WatchAnswer → BgPc η → KvWatcher κ → Prop where
  | entry {e : κ} {rest : List κ} {entry : η} (hpending : s.watcher.pending = e :: rest)
      (hhash : toHash e = .ok entry) :
      Polled s rem .entry (.sending entry) { s.watcher with pending := rest }
  | unconverted {e : κ} {rest : List κ} {ex : ExceptionInfo}
      (hpending : s.watcher.pending = e :: rest) (hhash : toHash e = .error ex) :
      Polled s rem .entry .leaving { s.watcher with pending := rest }
  | noEntry : Polled s rem .noEntry (.receiving rem) s.watcher
  | timedOut (hpending : s.watcher.pending = []) : Polled s rem .timeout .check s.watcher
  | again {rem' : ℤ} (hpending : s.watcher.pending = []) :
      Polled s rem .timeout (.receiving rem') s.watcher
  | failed {statusText : String} : Polled s rem (.failed statusText) .leaving s.watcher

theorem polled_of_next (rem : ℤ) {s : State κ η} {answer : WatchAnswer}
    {status : WaitStatus (Option κ)} {watcher : KvWatcher κ}
    (h : s.watcher.next answer = some (status, watcher)) :
    Polled toHash s rem answer (afterPass toHash (nextPass rem status)) watcher := by
  rw [nextPass_eq]
  cases answer with
  | entry =>
      simp only [KvWatcher.next] at h
      split at h
      · next e rest hpending =>
          split at h
          · cases h
          · cases h
            cases hhash : toHash e with
            | error ex =>
                simpa [afterPass, KVWatcher.answer, slicedResult, KVWatcher.returns, Except.map,
                  hhash] using Polled.unconverted hpending hhash
            | ok entry =>
                simpa [afterPass, KVWatcher.answer, slicedResult, KVWatcher.returns, Except.map,
                  hhash] using Polled.entry hpending hhash
      · cases h
  | noEntry =>
      simp only [KvWatcher.next] at h
      split at h
      · cases h
      · cases h
        exact .noEntry
  | timeout =>
      simp only [KvWatcher.next] at h
      split at h
      · cases h
      · next hwait =>
          cases h
          have hpending : s.watcher.pending = [] := by
            by_contra hne
            exact hwait (by simp [hne])
          show Polled toHash s rem .timeout (afterPass toHash (if _ then _ else _)) s.watcher
          split
          · exact .timedOut hpending
          · exact .again hpending
  | failed statusText =>
      cases h
      exact .failed

/-- A consumer receives from the blocked sender only if the buffer is empty. -/
theorem handOver_spec {s s' : State κ η} (h : step toHash s .handOver = some s') :
    ∃ entry, s.bg = .sending entry ∧ s.chan.closed = false ∧ s.chan.buffer = [] := by
  simp only [step] at h
  split at h
  · next entry hbg =>
      split at h
      · next hchan => exact ⟨entry, hbg, hchan.1, List.isEmpty_iff.1 hchan.2⟩
      · cases h
  · cases h

variable (toHash) in
/-- What has become of the entries that `next()` has taken: they are received in order, and all that
    is missing are those in the buffer, the one in hand, or the one with which the loop was
    left. -/
structure Delivered (s : State κ η) (arr tak : List κ) (rec : List η) : Prop where
  arrived : arr = tak ++ s.watcher.pending
  taken : ∃ lost, tak.map toHash = (rec ++ s.chan.buffer ++ s.inHand).map .ok ++ lost ∧
    lost.length ≤ 1 ∧ (¬ s.outOfLoop → lost = [])

/-- A step with which nothing arrives, is taken or gets lost. -/
theorem Delivered.keep {s t : State κ η} {arr tak : List κ} {rec rec' : List η}
    (h : Delivered toHash s arr tak rec) (hpending : t.watcher.pending = s.watcher.pending)
    (hqueue : rec' ++ t.chan.buffer ++ t.inHand = rec ++ s.chan.buffer ++ s.inHand)
    (hout : s.outOfLoop → t.outOfLoop) : Delivered toHash t (arr ++ []) (tak ++ []) rec' := by
  obtain ⟨lost, htaken, hlength, hlost⟩ := h.taken
  refine ⟨?_, lost, ?_, hlength, fun hin => hlost fun hs => hin (hout hs)⟩
  · rw [List.append_nil, List.append_nil, hpending]
    exact h.arrived
  · rw [List.append_nil, hqueue]
    exact htaken

/-- A step that leaves the loop: the entry in hand is lost. -/
theorem Delivered.leave {s t : State κ η} {arr tak : List κ} {rec : List η}
    (h : Delivered toHash s arr tak rec) (hin : ¬ s.outOfLoop) (hbg : t.bg = .leaving)
    (hpending : t.watcher.pending = s.watcher.pending) (hbuffer : t.chan.buffer = s.chan.buffer) :
    Delivered toHash t (arr ++ []) (tak ++ []) (rec ++ []) := by
  obtain ⟨lost, htaken, -, hlost⟩ := h.taken
  rw [hlost hin, List.append_nil] at htaken
  refine ⟨?_, s.inHand.map .ok, ?_, ?_, fun hout => absurd (Or.inl hbg) hout⟩
  · rw [List.append_nil, List.append_nil, hpending]
    exact h.arrived
  · have hhand : t.inHand = [] := by rw [State.inHand, hbg]
    rw [List.append_nil, List.append_nil, hhand, hbuffer, htaken, List.append_nil,
      List.map_append]
  · unfold State.inHand
    split
    · exact le_rfl
    · exact Nat.zero_le _

/-- An entry of which nothing is lost. -/
theorem Delivered.all_taken {s : State κ η} {arr tak : List κ} {rec : List η}
    (h : Delivered toHash s arr tak rec) (hin : ¬ s.outOfLoop) :
    tak.map toHash = (rec ++ s.chan.buffer ++ s.inHand).map .ok := by
  obtain ⟨lost, htaken, -, hlost⟩ := h.taken
  rw [htaken, hlost hin, List.append_nil]

theorem delivered_step {s s' : State κ η} {a : Action κ} {arr tak : List κ} {rec : List η}
    (h : Delivered toHash s arr tak rec) (hs : step toHash s a = some s') :
    Delivered toHash s' (arr ++ arrived s a) (tak ++ taken s a) (rec ++ received s a) := by
  have hact : Step toHash s a s' := step_cases hs
  cases hact with
  | arrive hopen =>
      obtain ⟨lost, htaken, hlost⟩ := h.taken
      refine ⟨?_, lost, ?_, hlost⟩
      · rw [h.arrived, List.append_assoc]
        show _ = tak ++ [] ++ _
        rw [List.append_nil]
        rfl
      · show (tak ++ []).map toHash = (rec ++ [] ++ _ ++ _).map .ok ++ lost
        rw [List.append_nil, List.append_nil]
        exact htaken
  | @poll rem answer status watcher hbg hnext =>
      have hin : ¬ s.outOfLoop := by simp [State.outOfLoop, hbg]
      have hhand : s.inHand = [] := by rw [State.inHand, hbg]
      have hall := h.all_taken hin
      rw [hhand, List.append_nil] at hall
      have hpolled : Polled toHash s rem answer _ watcher := polled_of_next rem hnext
      generalize afterPass toHash (nextPass rem status) = bg at hpolled
      cases hpolled with
      | @entry e rest entry hpending hhash =>
          refine ⟨?_, [], ?_, Nat.zero_le _, fun _ => rfl⟩
          · rw [h.arrived, taken, hpending]
            simp [arrived]
          · simp [taken, received, State.inHand, hpending, hall, hhash]
      | @unconverted e rest ex hpending hhash =>
          refine ⟨?_, [.error ex], ?_, le_rfl, fun hout => absurd (Or.inl rfl) hout⟩
          · rw [h.arrived, taken, hpending]
            simp [arrived]
          · simp [taken, received, State.inHand, hpending, hall, hhash]
      | noEntry | again | timedOut =>
          refine h.keep rfl ?_ fun hout => absurd hout hin
          simp [received, State.inHand, hbg]
      | failed => exact h.leave hin rfl rfl rfl
  | stop hbg | cancel hbg | sendClosed hbg | sendFails hbg =>
      exact h.leave (by simp [State.outOfLoop, hbg]) rfl rfl rfl
  | goOn hbg =>
      refine h.keep rfl ?_ (by simp [State.outOfLoop, hbg])
      simp [received, State.inHand, hbg]
  | send hbg hsend =>
      refine h.keep rfl ?_ (by simp [State.outOfLoop, hbg])
      simp [received, State.inHand, hbg, (Channel.send_spec hsend).2.2]
  | exit hbg =>
      refine h.keep rfl ?_ fun _ => Or.inr rfl
      simp [received, State.inHand, hbg, Channel.close]
  | receive hreceive =>
      refine h.keep rfl ?_ id
      rw [received, (Channel.receive_spec hreceive).1]
      simp [State.inHand]
  | handOver hbg =>
      obtain ⟨entry, -, -, hbuffer⟩ := handOver_spec hs
      refine h.keep rfl ?_ (by simp [State.outOfLoop, hbg])
      simp [received, State.inHand, hbg, hbuffer]
  | alreadyClosed | close | stopWatcher | closeChannel | closedByConsumer =>
      refine h.keep rfl ?_ id
      simp [received, State.inHand, Channel.close]

theorem delivered_watch {bufferSize : ℕ} (run : (system toHash bufferSize).Run) :
    Delivered toHash run.final (run.outputs arrived) (run.outputs taken)
      (run.outputs received) := by
  induction run using TransitionSystem.Run.induction with
  | nil => exact ⟨rfl, [], rfl, Nat.zero_le _, fun _ => rfl⟩
  | extend run a s' h ih =>
      rw [TransitionSystem.Run.outputs_extend, TransitionSystem.Run.outputs_extend,
        TransitionSystem.Run.outputs_extend]
      exact delivered_step ih h

/-! ## After the stop flag -/

/-- How many entries `bgLoop()` can still take when the stop flag is set. -/
def State.takes (s : State κ η) : ℕ :=
  match s.bg with
  | .receiving _ => 1
  | _ => 0

/-- With the stop flag set, taking an entry uses up the running `next()`. -/
theorem takes_watch_step {s s' : State κ η} {a : Action κ} (hstop : s.stopping = true)
    (hs : Step toHash s a s') :
    s'.stopping = true ∧ (taken s a).length + s'.takes ≤ s.takes := by
  refine ⟨stopping_step hstop hs, ?_⟩
  cases hs with
  | goOn hbg hgo => exact absurd (hgo.symm.trans hstop) Bool.false_ne_true
  | @poll rem answer status watcher hbg hnext =>
      have hpolled : Polled toHash s rem answer _ watcher := polled_of_next rem hnext
      generalize afterPass toHash (nextPass rem status) = bg at hpolled
      cases hpolled with
      | entry hpending | unconverted hpending => simp [taken, State.takes, hbg, hpending]
      | noEntry | timedOut | again | failed => simp [taken, State.takes, hbg]
  | stop hbg | cancel hbg | sendClosed hbg | send hbg | sendFails hbg | exit hbg | handOver hbg =>
      simp [taken, State.takes, hbg]
  | arrive | receive | alreadyClosed | close | stopWatcher | closeChannel | closedByConsumer =>
      simp [taken, State.takes]

theorem takes_watch_le (s : State κ η) : s.takes ≤ 1 := by
  unfold State.takes
  split
  · exact le_rfl
  · exact Nat.zero_le _

/-! ## A watch that nothing ends -/

variable (toHash) in
/-- What ends the loop: an exception, `close()`, or a consumer that closes the channel. -/
def Interrupts (s : State κ η) : Action κ → Prop
  | .cancel _ | .sendFails _ | .poll (.failed _) | .close | .closedByConsumer => True
  | .poll .entry => ∃ e ex, s.watcher.pending.head? = some e ∧ toHash e = .error ex
  | _ => False

/-- Nothing has ended the loop so far. -/
structure Open (s : State κ η) : Prop where
  inLoop : ¬ s.outOfLoop
  stopping : s.stopping = false
  closer : s.closer = .idle
  watcher : s.watcher.stopped = false
  chan : s.chan.closed = false

theorem open_start (bufferSize : ℕ) : Open (State.start bufferSize : State κ η) where
  inLoop := by simp [State.outOfLoop, State.start]
  stopping := rfl
  closer := rfl
  watcher := rfl
  chan := rfl

theorem open_step {s s' : State κ η} {a : Action κ} (h : Open s) (ha : ¬ Interrupts toHash s a)
    (hs : Step toHash s a s') : Open s' := by
  cases hs with
  | arrive | receive hreceive =>
      refine ⟨h.inLoop, h.stopping, h.closer, h.watcher, ?_⟩
      first
        | exact h.chan
        | exact (Channel.receive_spec hreceive).2.trans h.chan
  | stop hbg hstop => exact absurd (h.stopping.symm.trans hstop) Bool.false_ne_true
  | goOn | handOver =>
      exact ⟨by simp [State.outOfLoop], h.stopping, h.closer, h.watcher, h.chan⟩
  | @poll rem answer status watcher hbg hnext =>
      have hpolled : Polled toHash s rem answer _ watcher := polled_of_next rem hnext
      generalize afterPass toHash (nextPass rem status) = bg at hpolled
      cases hpolled with
      | @unconverted e rest ex hpending hhash =>
          exact absurd ⟨e, ex, by rw [hpending]; rfl, hhash⟩ ha
      | failed => exact absurd trivial ha
      | entry | noEntry | timedOut | again =>
          exact ⟨by simp [State.outOfLoop], h.stopping, h.closer, h.watcher, h.chan⟩
  | cancel | sendFails | close | closedByConsumer => exact absurd trivial ha
  | sendClosed hbg hclosed => exact absurd (h.chan.symm.trans hclosed) Bool.false_ne_true
  | send hbg hsend =>
      exact ⟨by simp [State.outOfLoop], h.stopping, h.closer, h.watcher,
        (Channel.send_spec hsend).2.1⟩
  | exit hbg => exact absurd (Or.inl hbg) h.inLoop
  | alreadyClosed => exact h
  | stopWatcher hcloser | closeChannel hcloser =>
      rw [h.closer] at hcloser
      cases hcloser

/-! ## Progress -/

/-- The steps of `bgLoop()`. -/
def ByBgLoop : Action κ → Prop
  | .check | .poll _ | .send | .exit => True
  | _ => False

/-- The steps of consumers. -/
def ByConsumer : Action κ → Prop
  | .receive | .handOver => True
  | _ => False

/-- A step of neither leaves the loop and the channel as they are. -/
theorem bystander_step {s s' : State κ η} {a : Action κ} (h : Open s)
    (ha : ¬ Interrupts toHash s a) (hbg : ¬ ByBgLoop a) (hconsumer : ¬ ByConsumer a)
    (hs : Step toHash s a s') : s'.bg = s.bg ∧ s'.chan = s.chan := by
  cases hs with
  | arrive | alreadyClosed => exact ⟨rfl, rfl⟩
  | cancel | sendFails | close | closedByConsumer => exact absurd trivial ha
  | stopWatcher hcloser | closeChannel hcloser =>
      rw [h.closer] at hcloser
      cases hcloser
  | receive | handOver => exact absurd trivial hconsumer
  | stop | goOn | poll | sendClosed | send | exit => exact absurd trivial hbg

/-- A consumer can receive as long as there is something in the channel or on its way there. -/
theorem consumer_can {s : State κ η} (h : Open s)
    (hmore : s.chan.buffer ++ s.inHand ≠ []) :
    ∃ a, ByConsumer a ∧ (step toHash s a).isSome := by
  by_cases hbuffer : s.chan.buffer = []
  · refine ⟨.handOver, trivial, ?_⟩
    unfold State.inHand at hmore
    split at hmore
    · next entry hbg => simp [step, hbg, h.chan, hbuffer]
    · exact absurd (by rw [hbuffer, List.append_nil]) hmore
  · obtain ⟨entry, chan, hreceive⟩ := Channel.exists_receive hbuffer
    exact ⟨.receive, trivial, by simp [step, hreceive]⟩

/-- `bgLoop()` can go on while entries wait for it, unless it is sending. -/
theorem bgLoop_can {s : State κ η} (h : Open s) (hpending : s.watcher.pending ≠ [])
    (hhand : s.inHand = []) : ∃ a, ByBgLoop a ∧ (step toHash s a).isSome := by
  rcases hbg : s.bg with _ | rem | entry | _ | _
  · exact ⟨.check, trivial, by simp [step, hbg]⟩
  · obtain ⟨e, rest, hcons⟩ := List.exists_cons_of_ne_nil hpending
    exact ⟨.poll .entry, trivial, by simp [step, hbg, KvWatcher.next, hcons, h.watcher]⟩
  · rw [State.inHand, hbg] at hhand
    cases hhand
  · exact absurd (Or.inl hbg) h.inLoop
  · exact absurd (Or.inr hbg) h.inLoop

/-- The steps that the loop and the consumers can take before the next entry is taken. -/
def State.load (s : State κ η) : ℕ :=
  s.chan.buffer.length +
    match s.bg with
    | .check => 1
    | .sending _ => 3
    | _ => 0

/-- While entries wait for the loop, each step of it or of a consumer lowers the load; taking an
    entry adds to it. -/
theorem load_step {s s' : State κ η} {a : Action κ} (h : Open s) (ha : ¬ Interrupts toHash s a)
    (hnull : a ≠ .poll .noEntry) (hpending : s.watcher.pending ≠ [])
    (hs : Step toHash s a s') :
    (ByBgLoop a ∨ ByConsumer a → s'.load < s.load + 4 * (taken s a).length) ∧
      s'.load ≤ s.load + 4 * (taken s a).length := by
  have hstrict : ByBgLoop a ∨ ByConsumer a → s'.load < s.load + 4 * (taken s a).length := by
    intro hby
    cases hs with
    | stop hbg hstop => exact absurd (h.stopping.symm.trans hstop) Bool.false_ne_true
    | goOn hbg =>
        simp only [State.load, hbg]
        omega
    | @poll rem answer status watcher hbg hnext =>
        have hpolled : Polled toHash s rem answer _ watcher := polled_of_next rem hnext
        generalize afterPass toHash (nextPass rem status) = bg at hpolled
        cases hpolled with
        | entry hcons => simp [State.load, taken, hbg, hcons]
        | @unconverted e rest ex hcons hhash =>
            exact absurd ⟨e, ex, by rw [hcons]; rfl, hhash⟩ ha
        | noEntry => exact absurd rfl hnull
        | timedOut hnone | again hnone => exact absurd hnone hpending
        | failed => exact absurd trivial ha
    | sendClosed hbg hclosed => exact absurd (h.chan.symm.trans hclosed) Bool.false_ne_true
    | send hbg hsend =>
        simp only [State.load, hbg, (Channel.send_spec hsend).2.2, List.length_append,
          List.length_singleton]
        omega
    | exit hbg => exact absurd (Or.inl hbg) h.inLoop
    | receive hreceive =>
        simp only [State.load, (Channel.receive_spec hreceive).1, List.length_cons]
        omega
    | handOver hbg =>
        simp only [State.load, hbg]
        omega
    | cancel | sendFails => exact absurd trivial ha
    | arrive | alreadyClosed | close | stopWatcher | closeChannel | closedByConsumer =>
        rcases hby with hby | hby <;> cases hby
  refine ⟨hstrict, ?_⟩
  by_cases hby : ByBgLoop a ∨ ByConsumer a
  · exact Nat.le_of_lt (hstrict hby)
  · obtain ⟨hbg, hchan⟩ := bystander_step h ha (fun hb => hby (Or.inl hb))
      (fun hc => hby (Or.inr hc)) hs
    rw [State.load, hbg, hchan]
    exact Nat.le_add_right _ _

/-! ## Every entry comes through -/

theorem length_taken_le (s : State κ η) (a : Action κ) : (taken s a).length ≤ 1 := by
  unfold taken
  split
  · exact List.length_take_le 1 _
  · exact Nat.zero_le _

/-- A step of a consumer receives one entry. -/
theorem length_received {s s' : State κ η} {a : Action κ} (hs : step toHash s a = some s')
    (ha : ByConsumer a) : (received s a).length = 1 := by
  cases a with
  | receive =>
      cases step_cases hs with
      | receive hreceive =>
          rw [received, (Channel.receive_spec hreceive).1]
          rfl
  | handOver =>
      obtain ⟨entry, hbg, -⟩ := handOver_spec hs
      rw [received, State.inHand, hbg]
      rfl
  | _ => cases ha

/-- Behaviors in which nothing ends the loop: `bgLoop()` and the consumers go on as long as they
    can, and the C client reports the end of the initial values finitely often. -/
structure Undisturbed {bufferSize : ℕ} (b : (system toHash bufferSize).Behavior) : Prop where
  bgLoop : b.WeaklyFair ByBgLoop
  consumers : b.WeaklyFair ByConsumer
  uninterrupted : ∀ n a, b.act n = some a → ¬ Interrupts toHash (b.state n) a
  nulls : ∃ n, ∀ k, n ≤ k → b.act k ≠ some (.poll .noEntry)

section Behaviors

variable {bufferSize : ℕ} {b : (system toHash bufferSize).Behavior}

theorem open_watch (h : ∀ n a, b.act n = some a → ¬ Interrupts toHash (b.state n) a) (n : ℕ) :
    Open (b.state n) :=
  b.invariant_of_steps (I := Open) (G := fun s a => ¬ Interrupts toHash s a)
    (open_start bufferSize) (fun _ _ _ hopen ha hs => open_step hopen ha (step_cases hs)) h n

theorem delivered_behavior (b : (system toHash bufferSize).Behavior) (n : ℕ) :
    Delivered toHash (b.state n) (b.outputs arrived n) (b.outputs taken n)
      (b.outputs received n) :=
  delivered_watch (b.take n)

/-- If neither the loop nor a consumer takes a step any more, the loop and the channel stay as they
    are. -/
theorem bystanders {n : ℕ} (h : Undisturbed b)
    (hidle : ∀ k a, n ≤ k → b.act k = some a → ¬ (ByBgLoop a ∨ ByConsumer a)) {k : ℕ}
    (hk : n ≤ k) : (b.state k).bg = (b.state n).bg ∧ (b.state k).chan = (b.state n).chan := by
  induction k, hk using Nat.le_induction with
  | base => exact ⟨rfl, rfl⟩
  | succ k hk ih =>
      rcases b.step_cases k with hstays | ⟨a, hact, hs⟩
      · rw [hstays]
        exact ih
      · have hnot := hidle k a hk hact
        obtain ⟨hbg, hchan⟩ := bystander_step (open_watch h.uninterrupted k)
          (h.uninterrupted k a hact) (fun hb => hnot (Or.inl hb)) (fun hc => hnot (Or.inr hc))
          (step_cases hs)
        exact ⟨hbg.trans ih.1, hchan.trans ih.2⟩

/-- As long as entries wait, the loop or a consumer goes on. -/
theorem goes_on {start : ℕ} (h : Undisturbed b)
    (hpending : ∀ n, start ≤ n → (b.state n).watcher.pending ≠ []) {n : ℕ} (hn : start ≤ n) :
    ∃ k a, n ≤ k ∧ b.act k = some a ∧ (ByBgLoop a ∨ ByConsumer a) := by
  by_contra hnone
  have hidle : ∀ k a, n ≤ k → b.act k = some a → ¬ (ByBgLoop a ∨ ByConsumer a) :=
    fun k a hk hact hby => hnone ⟨k, a, hk, hact, hby⟩
  have hinHand : ∀ k, n ≤ k → (b.state k).inHand = (b.state n).inHand := by
    intro k hk
    rw [State.inHand, (bystanders h hidle hk).1]
    rfl
  by_cases hhand : (b.state n).inHand = []
  · obtain ⟨k, a, hk, hact, hby⟩ := h.bgLoop n fun k hk =>
      bgLoop_can (open_watch h.uninterrupted k) (hpending k (hn.trans hk))
        ((hinHand k hk).trans hhand)
    exact hidle k a hk hact (Or.inl hby)
  · obtain ⟨k, a, hk, hact, hby⟩ := h.consumers n fun k hk =>
      consumer_can (open_watch h.uninterrupted k) fun hmore =>
        hhand ((hinHand k hk).symm.trans (List.append_eq_nil_iff.1 hmore).2)
    exact hidle k a hk hact (Or.inr hby)

/-- What has arrived is taken. -/
theorem exists_taken (h : Undisturbed b) {n i : ℕ} (hi : i < (b.outputs arrived n).length) :
    ∃ m, n ≤ m ∧ i < (b.outputs taken m).length := by
  obtain ⟨start, hnull⟩ := h.nulls
  have hpending : ∀ m, max n start ≤ m → ¬ i < (b.outputs taken m).length →
      (b.state m).watcher.pending ≠ [] := by
    intro m hm hnot hnone
    have hlength := (b.outputs_mono arrived ((le_max_left n start).trans hm)).length_le
    rw [(delivered_behavior b m).arrived, hnone, List.append_nil] at hlength
    omega
  obtain ⟨m, hm, hgoal⟩ := b.exists_moment_of_rank (T := fun a => ByBgLoop a ∨ ByConsumer a)
    (G := fun m => i < (b.outputs taken m).length)
    (fun m => 4 * (i + 1 - (b.outputs taken m).length) + (b.state m).load) (max n start)
    (fun hnever m hm => goes_on h (fun k hk => hpending k hk (hnever k hk)) hm)
    (fun m hm hnot => by
      rcases hact : b.act m with _ | a
      · rw [b.outputs_of_idle hact, b.idle_of_act hact]
      · have hload := (load_step (open_watch h.uninterrupted m) (h.uninterrupted m a hact)
          (fun ha => hnull m ((le_max_right n start).trans hm) (ha ▸ hact)) (hpending m hm hnot)
          (step_cases (b.step_of_act hact))).2
        have hone := length_taken_le (b.state m) a
        rw [b.outputs_of_act hact, List.length_append]
        omega)
    (fun m a hm hnot hact hby => by
      have hload := (load_step (open_watch h.uninterrupted m) (h.uninterrupted m a hact)
        (fun ha => hnull m ((le_max_right n start).trans hm) (ha ▸ hact)) (hpending m hm hnot)
        (step_cases (b.step_of_act hact))).1 hby
      have hone := length_taken_le (b.state m) a
      rw [b.outputs_of_act hact, List.length_append]
      omega)
  exact ⟨m, (le_max_left n start).trans hm, hgoal⟩

/-- What has been taken is received. -/
theorem exists_received (h : Undisturbed b) {n i : ℕ} (hi : i < (b.outputs taken n).length) :
    ∃ m, n ≤ m ∧ i < (b.outputs received m).length := by
  refine b.exists_moment_of_rank (T := ByConsumer) (G := fun m =>
    i < (b.outputs received m).length) (fun m => i + 1 - (b.outputs received m).length) n ?_ ?_ ?_
  · intro hnever m hm
    refine h.consumers m fun k hk => consumer_can (open_watch h.uninterrupted k) fun hnone => ?_
    have hall := (delivered_behavior b k).all_taken (open_watch h.uninterrupted k).inLoop
    have hlength := (b.outputs_mono taken (hm.trans hk)).length_le
    rw [List.append_assoc, hnone, List.append_nil] at hall
    have hcount := congrArg List.length hall
    rw [List.length_map, List.length_map] at hcount
    have hnot := hnever k (hm.trans hk)
    omega
  · intro m _ _
    have hlength := (b.outputs_mono received (Nat.le_add_right m 1)).length_le
    omega
  · intro m a _ hnot hact hby
    have hone := length_received (b.step_of_act hact) hby
    rw [b.outputs_of_act hact, List.length_append, hone]
    omega

end Behaviors

/-- Channel watches: in every run the entries that have arrived are, in order, those that consumers
    have received, those in the channel and in the hands of the loop, at most one with which the
    loop was left, and those that wait. After `close()` at most one more entry is taken. If nothing
    ends the loop, all that has arrived is received in the end, in its order. -/
theorem entries_reach_consumers (toHash : κ → Except ExceptionInfo η) (bufferSize : ℕ) :
    (∀ run : (system toHash bufferSize).Run,
      (∃ lost, (run.outputs arrived).map toHash =
          (run.outputs received ++ run.final.chan.buffer ++ run.final.inHand).map .ok ++ lost ++
            run.final.watcher.pending.map toHash ∧
        lost.length ≤ 1 ∧ (¬ run.final.outOfLoop → lost = [])) ∧
      ∀ s, step toHash run.final .close = some s → ∀ acts,
        ((system toHash bufferSize).outputs taken s acts).length ≤ 1) ∧
    ∀ b : (system toHash bufferSize).Behavior, Undisturbed b → ∀ n, ∃ m, n ≤ m ∧
      (b.outputs arrived n).map toHash <+: (b.outputs received m).map .ok := by
  refine ⟨fun run => ⟨?_, fun s hclose acts => ?_⟩, fun b h n => ?_⟩
  · obtain ⟨harrived, lost, htaken, hlost⟩ := delivered_watch run
    exact ⟨lost, by rw [harrived, List.map_append, htaken], hlost⟩
  · have hstop : s.stopping = true := by
      cases step_cases hclose with
      | alreadyClosed hstop => exact hstop
      | close hstop => rfl
    have hbound := TransitionSystem.length_outputs_le (I := fun t : State κ η => t.stopping = true)
      (M := system toHash bufferSize) (fun _ _ _ hstop hs => takes_watch_step hstop (step_cases hs))
      hstop acts
    exact hbound.trans (takes_watch_le s)
  · by_cases hnone : b.outputs arrived n = []
    · exact ⟨n, le_rfl, by rw [hnone]; exact List.nil_prefix⟩
    · -- the last entry is received after all others
      have hpos := List.length_pos_iff.2 hnone
      obtain ⟨k, hk, htaken⟩ := exists_taken h (Nat.sub_lt hpos Nat.one_pos)
      obtain ⟨m, hm, hreceived⟩ := exists_received h htaken
      refine ⟨m, hk.trans hm, ?_⟩
      have hall := (delivered_behavior b m).all_taken (open_watch h.uninterrupted m).inLoop
      have hprefix := (b.outputs_mono arrived (hk.trans hm)).map toHash
      rw [(delivered_behavior b m).arrived, List.map_append, hall, List.append_assoc,
        List.map_append, List.append_assoc] at hprefix
      refine List.prefix_of_prefix_length_le hprefix (List.prefix_append _ _) ?_
      rw [List.length_map, List.length_map]
      omega

end Delivery

/-! ## Two entries -/

/-- Two entries arrive; the first one is received from the buffer, the second one from the blocked
    sender. -/
def firstActs : List (Action ℕ) :=
  [.arrive 7, .arrive 8, .check, .poll .noEntry, .poll .entry, .send, .check, .poll .entry,
    .receive, .handOver]

/-- Then `next()` times out again and again. -/
def cycleActs : List (Action ℕ) := [.check, .poll .timeout]

def watchNats : TransitionSystem (State ℕ ℕ) (Action ℕ) := system .ok 1

theorem exec_firstActs : watchNats.exec watchNats.init firstActs = some (State.start 1) := rfl

theorem exec_cycleActs (_ : ℕ) :
    watchNats.exec (State.start 1) cycleActs = some (State.start 1) := rfl

def twoEntries : watchNats.Behavior :=
  .ofCycle firstActs cycleActs (fun _ => State.start 1) (List.cons_ne_nil _ _) exec_firstActs
    exec_cycleActs

theorem twoEntries_undisturbed : Undisturbed twoEntries where
  bgLoop n _ := by
    obtain ⟨k, hk, hact⟩ := TransitionSystem.Behavior.ofCycle_again (a := Action.check)
      (List.cons_ne_nil _ _) exec_firstActs exec_cycleActs List.mem_cons_self n
    exact ⟨k, .check, hk, hact, trivial⟩
  consumers n hcan := by
    obtain ⟨a, ha, hsome⟩ := hcan (firstActs.length + n * cycleActs.length)
      (show n ≤ 10 + n * 2 by omega)
    have hstate : twoEntries.state (firstActs.length + n * cycleActs.length) = State.start 1 :=
      TransitionSystem.Behavior.ofCycle_state (List.cons_ne_nil _ _) exec_firstActs
        exec_cycleActs n
    rw [hstate] at hsome
    cases a with
    | receive | handOver => cases hsome
    | _ => cases ha
  uninterrupted n a hact := by
    have hmem := TransitionSystem.Behavior.ofCycle_act _ _ _ hact
    simp only [firstActs, cycleActs, List.mem_cons, List.not_mem_nil, or_false] at hmem
    rcases hmem with (rfl | rfl | rfl | rfl | rfl | rfl | rfl | rfl | rfl | rfl) | rfl | rfl
    case inl.inr.inr.inr.inr.inl | inl.inr.inr.inr.inr.inr.inr.inr.inl =>
      rintro ⟨e, ex, -, hex⟩
      cases hex
    all_goals exact fun h => h
  nulls := by
    refine ⟨10, fun k hk hact => ?_⟩
    have hcycle : ¬ k < firstActs.length := Nat.not_lt.2 hk
    replace hact : TransitionSystem.Behavior.cycleAct firstActs cycleActs k = _ := hact
    rw [TransitionSystem.Behavior.cycleAct, if_neg hcycle] at hact
    have hmem := List.mem_of_getElem? hact
    simp [cycleActs] at hmem

theorem entries_reach_consumers_twoEntries :
    ∃ m, 10 ≤ m ∧ [(.ok 7 : Except ExceptionInfo ℕ), .ok 8] <+:
      (twoEntries.outputs received m).map .ok :=
  (entries_reach_consumers (.ok : ℕ → Except ExceptionInfo ℕ) 1).2 twoEntries
    twoEntries_undisturbed 10

end ModuleNats.ChannelKVWatch
