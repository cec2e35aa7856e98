import Mathlib.Data.Set.Subsingleton
import ModuleNats.Lib.Behavior
import ModuleNats.Subscription

set_option autoImplicit false

/-! # Workers that acknowledge what they have processed

A worker of a JetStream consumer receives a message with `nextMsg()`, processes it and calls
`ack()`. The server delivers a message again until it has seen it acknowledged, so that a message
with which a worker fails is not lost: every message is processed at least once.

`ack()` has no argument: it acknowledges the message that was received last through this
subscription. So what makes a message safe is not that each worker acknowledges what it has
processed, but that nobody else receives through its subscription (`at_least_once_iff`): with two
workers on one subscription, the first `ack()` can be that of the message which the other worker
still processes.

The messages of the stream are numbers. `processed` is not in the code. -/

namespace ModuleNats.JetStreamWorkers

variable {ω σ : Type}

/-! ## The data -/

/-- Where a worker is. -/
inductive WorkerPc where
  | idle
  /-- in `nextMsg()`, about to ask the C client -/
  | receiving (infinite : Bool) (remainingMs : ℤ)
  | processing (m : ℕ)
  /-- has processed the message, about to call `ack()` -/
  | acking (m : ℕ)
  | gone
deriving DecidableEq, Repr

/-- The message that a worker has. -/
def WorkerPc.message : WorkerPc → Option ℕ
  | .processing m | .acking m => some m
  | .idle | .receiving .. | .gone => none

structure State (ω σ : Type) where
  subs : σ → Subscription ℕ := fun _ => {}
  workers : ω → WorkerPc := fun _ => .idle
  /-- the messages that a worker has processed -/
  processed : List ℕ := []
  /-- the messages that the server has seen acknowledged -/
  settled : List ℕ := []

inductive Action (ω σ : Type) where
  /-- the server delivers a message to a subscription, for the first time or again -/
  | deliver (s : σ) (m : ℕ)
  /-- the server hears of an acknowledgement -/
  | settle (s : σ) (m : ℕ)
  /-- a worker calls `nextMsg()` -/
  | call (w : ω) (timeoutMs : ℤ)
  /-- one answer of the C client in `nextMsg()` -/
  | poll (w : ω) (status : NextStatus) (conversion : Option ExceptionInfo)
  /-- `nextMsg()` finds its thread cancelled -/
  | cancel (w : ω)
  | process (w : ω)
  /-- a worker cannot process its message, with or without a call of `nak()` -/
  | fail (w : ω)
  /-- `ack()`, with the error of the C client, if any -/
  | ack (w : ω) (failure : Option String)
  /-- a worker ends, wherever it is -/
  | leave (w : ω)
deriving DecidableEq, Repr

/-! ## The steps -/

namespace State

section Workers

variable [DecidableEq ω]

def setWorker (st : State ω σ) (w : ω) (pc : WorkerPc) : State ω σ :=
  { st with workers := Function.update st.workers w pc }

@[simp] theorem setWorker_subs (st : State ω σ) (w : ω) (pc : WorkerPc) :
    (st.setWorker w pc).subs = st.subs := rfl

@[simp] theorem setWorker_processed (st : State ω σ) (w : ω) (pc : WorkerPc) :
    (st.setWorker w pc).processed = st.processed := rfl

@[simp] theorem setWorker_settled (st : State ω σ) (w : ω) (pc : WorkerPc) :
    (st.setWorker w pc).settled = st.settled := rfl

theorem setWorker_workers (st : State ω σ) (w w' : ω) (pc : WorkerPc) :
    (st.setWorker w pc).workers w' = if w' = w then pc else st.workers w' :=
  Function.update_apply ..

theorem setWorker_quiet {st : State ω σ} {pc : WorkerPc} (hpc : pc.message = none) (w w' : ω) :
    (st.setWorker w pc).workers w' = st.workers w' ∨
      ((st.setWorker w pc).workers w').message = none := by
  rw [setWorker_workers]
  split
  · exact Or.inr hpc
  · exact Or.inl rfl

theorem setWorker_of_uses {uses : ω → σ} {st : State ω σ} {s : σ} {w w' : ω} (hw : uses w ≠ s)
    (hw' : uses w' = s) (pc : WorkerPc) :
    (st.setWorker w pc).workers w' = st.workers w' := by
  rw [setWorker_workers, if_neg]
  rintro rfl
  exact hw hw'

end Workers

section Subs

variable [DecidableEq σ]

def setSub (st : State ω σ) (s : σ) (sub : Subscription ℕ) : State ω σ :=
  { st with subs := Function.update st.subs s sub }

@[simp] theorem setSub_workers (st : State ω σ) (s : σ) (sub : Subscription ℕ) :
    (st.setSub s sub).workers = st.workers := rfl

@[simp] theorem setSub_processed (st : State ω σ) (s : σ) (sub : Subscription ℕ) :
    (st.setSub s sub).processed = st.processed := rfl

@[simp] theorem setSub_settled (st : State ω σ) (s : σ) (sub : Subscription ℕ) :
    (st.setSub s sub).settled = st.settled := rfl

theorem setSub_subs (st : State ω σ) (s s' : σ) (sub : Subscription ℕ) :
    (st.setSub s sub).subs s' = if s' = s then sub else st.subs s' :=
  Function.update_apply ..

theorem setSub_pending {st : State ω σ} (t s : σ) (pending : List ℕ) :
    ∃ rest, (st.setSub t { st.subs t with pending := pending }).subs s =
      { st.subs s with pending := rest } := by
  rw [setSub_subs]
  split
  · next heq => subst heq; exact ⟨_, rfl⟩
  · exact ⟨_, rfl⟩

end Subs

end State

variable [DecidableEq ω] [DecidableEq σ]

/-- What a worker does after a pass of `nextMsg()`. -/
def afterPoll (infinite : Bool) : NextResult ℕ → WorkerPc
  | .message m => .processing m
  | .nothing | .raised _ => .idle
  | .again remainingMs => .receiving infinite remainingMs

/-- The workers, each with the subscription that it uses. -/
def step (uses : ω → σ) (st : State ω σ) : Action ω σ → Option (State ω σ)
  | .deliver s m =>
      if m ∈ st.settled then none
      else some (st.setSub s { st.subs s with pending := (st.subs s).pending ++ [m] })
  | .settle s m =>
      if m ∈ (st.subs s).acked then some { st with settled := m :: st.settled } else none
  | .call w timeoutMs =>
      match st.workers w with
      | .idle => some (st.setWorker w (.receiving (timeoutMs < 0) timeoutMs))
      | _ => none
  | .poll w status conversion =>
      match st.workers w with
      | .receiving infinite remainingMs =>
          (nextPoll (st.subs (uses w)) infinite remainingMs status conversion).map
            fun (result, sub) =>
              (st.setSub (uses w) sub).setWorker w (afterPoll infinite result)
      | _ => none
  | .cancel w =>
      match st.workers w with
      | .receiving .. => some (st.setWorker w .idle)
      | _ => none
  | .process w =>
      match st.workers w with
      | .processing m =>
          some { st.setWorker w (.acking m) with processed := m :: st.processed }
      | _ => none
  | .fail w =>
      match st.workers w with
      | .processing _ => some (st.setWorker w .idle)
      | _ => none
  | .ack w failure =>
      match st.workers w with
      | .acking _ =>
          match (st.subs (uses w)).ack failure with
          | .ok sub => some ((st.setSub (uses w) sub).setWorker w .idle)
          -- the exception does not concern the next message
          | .error _ => some (st.setWorker w .idle)
      | _ => none
  | .leave w => some (st.setWorker w .gone)

def system (uses : ω → σ) : TransitionSystem (State ω σ) (Action ω σ) := ⟨{}, step uses⟩

/-! ## What a step can do -/

/-- What one pass of `nextMsg()` can do, with any timeout. -/
inductive Polled (s : Subscription ℕ) :
    NextStatus → Option ExceptionInfo → NextResult ℕ → Subscription ℕ → Prop where
  | message {m : ℕ} {rest : List ℕ} (hpending : s.pending = m :: rest) :
      Polled s .ok none (.message m) { s with pending := rest, lastMsg := some m }
  | unconverted {m : ℕ} {rest : List ℕ} {ex : ExceptionInfo} (hpending : s.pending = m :: rest) :
      Polled s .ok (some ex) (.raised ex) { s with pending := rest, lastMsg := some m }
  | waits {conversion} {result : NextResult ℕ} (hpending : s.pending = [])
      (hresult : ∀ infinite, (afterPoll infinite result).message = none) :
      Polled s .timeout conversion result s
  | finished {status conversion} (hfinished : s.finished) : Polled s status conversion .nothing s
  | failed {statusText : String} {conversion} {ex : ExceptionInfo} :
      Polled s (.failed statusText) conversion (.raised ex) s

theorem NextPoll.polled {s s' : Subscription ℕ} {remainingMs : ℤ} {status : NextStatus}
    {conversion : Option ExceptionInfo} {result : NextResult ℕ}
    (h : NextPoll s remainingMs status conversion result s') :
    Polled s status conversion result s' := by
  cases h with
  | message _ hpending => exact .message hpending
  | unconverted hpending => exact .unconverted hpending
  | timedOut hpending | again hpending => exact .waits hpending fun _ => rfl
  | finished _ hfinished => exact .finished hfinished
  | failed => exact .failed

theorem nextPoll_polled {s s' : Subscription ℕ} {infinite : Bool} {remainingMs : ℤ}
    {status : NextStatus} {conversion : Option ExceptionInfo} {result : NextResult ℕ}
    (h : nextPoll s infinite remainingMs status conversion = some (result, s')) :
    Polled s status conversion result s' := by
  obtain ⟨⟨msg, pending⟩, hanswer, hresult⟩ := Option.map_eq_some_iff.1 h
  by_cases htimeout : status = .timeout
  · subst htimeout
    simp only [Subscription.answer] at hanswer
    split at hanswer
    · next hwait =>
        cases hanswer
        obtain ⟨rfl, rfl⟩ := Prod.mk.inj hresult
        refine .waits (List.isEmpty_iff.1 hwait.2.2) fun _ => ?_
        split
        · rfl
        · split <;> rfl
    · cases hanswer
  · -- the timeout matters only for `NATS_TIMEOUT`
    have hfinite : nextPoll s false remainingMs status conversion = some (result, s') := by
      refine Option.map_eq_some_iff.2 ⟨_, hanswer, ?_⟩
      rw [← hresult]
      cases msg with
      | some m => rfl
      | none => cases status <;> first | rfl | exact absurd rfl htimeout
    exact NextPoll.polled (nextPoll_cases hfinite)

/-- Every step. -/
inductive Step (uses : ω → σ) (st : State ω σ) : Action ω σ → State ω σ → Prop where
  | deliver {s : σ} {m : ℕ} (hnew : m ∉ st.settled) : Step uses st (.deliver s m)
      (st.setSub s { st.subs s with pending := (st.subs s).pending ++ [m] })
  | settle {s : σ} {m : ℕ} (hacked : m ∈ (st.subs s).acked) :
      Step uses st (.settle s m) { st with settled := m :: st.settled }
  | call {w : ω} {timeoutMs : ℤ} (hpc : st.workers w = .idle) :
      Step uses st (.call w timeoutMs) (st.setWorker w (.receiving (timeoutMs < 0) timeoutMs))
  | poll {w : ω} {infinite : Bool} {remainingMs : ℤ} {status : NextStatus}
      {conversion : Option ExceptionInfo} {result : NextResult ℕ} {sub : Subscription ℕ}
      (hpc : st.workers w = .receiving infinite remainingMs)
      (hpoll : Polled (st.subs (uses w)) status conversion result sub) :
      Step uses st (.poll w status conversion)
        ((st.setSub (uses w) sub).setWorker w (afterPoll infinite result))
  | cancel {w : ω} {infinite : Bool} {remainingMs : ℤ}
      (hpc : st.workers w = .receiving infinite remainingMs) :
      Step uses st (.cancel w) (st.setWorker w .idle)
  | process {w : ω} {m : ℕ} (hpc : st.workers w = .processing m) :
      Step uses st (.process w) { st.setWorker w (.acking m) with processed := m :: st.processed }
  | fail {w : ω} {m : ℕ} (hpc : st.workers w = .processing m) :
      Step uses st (.fail w) (st.setWorker w .idle)
  | ack {w : ω} {m m' : ℕ} (hpc : st.workers w = .acking m)
      (hlast : (st.subs (uses w)).lastMsg = some m') :
      Step uses st (.ack w none) ((st.setSub (uses w) { st.subs (uses w) with
        acked := (st.subs (uses w)).acked ++ [m'] }).setWorker w .idle)
  | notAcked {w : ω} {m : ℕ} {failure : Option String} (hpc : st.workers w = .acking m)
      (hnot : failure ≠ none ∨ (st.subs (uses w)).lastMsg = none) :
      Step uses st (.ack w failure) (st.setWorker w .idle)
  | leave {w : ω} : Step uses st (.leave w) (st.setWorker w .gone)

theorem ack_eq_ok {s s' : Subscription ℕ} {failure : Option String}
    (h : s.ack failure = .ok s') :
    ∃ m, s.lastMsg = some m ∧ failure = none ∧ s' = { s with acked := s.acked ++ [m] } := by
  unfold Subscription.ack at h
  split at h
  · cases h
  · cases h
  · next m hlast => cases h; exact ⟨m, hlast, rfl, rfl⟩

theorem ack_eq_error {s : Subscription ℕ} {failure : Option String} {ex : ExceptionInfo}
    (h : s.ack failure = .error ex) : failure ≠ none ∨ s.lastMsg = none := by
  unfold Subscription.ack at h
  split at h
  · next hlast => exact Or.inr hlast
  · exact Or.inl (by simp)
  · cases h

theorem step_cases {uses : ω → σ} {st st' : State ω σ} {a : Action ω σ}
    (h : step uses st a = some st') : Step uses st a st' := by
  cases a with
  | deliver s m =>
      simp only [step] at h
      split at h
      · cases h
      · next hnew => cases h; exact .deliver hnew
  | settle s m =>
      simp only [step] at h
      split at h
      · next hacked => cases h; exact .settle hacked
      · cases h
  | call w timeoutMs =>
      simp only [step] at h
      split at h
      · next hpc => cases h; exact .call hpc
      · cases h
  | poll w status conversion =>
      simp only [step] at h
      split at h
      · next hpc =>
          obtain ⟨⟨result, sub⟩, hpoll, rfl⟩ := Option.map_eq_some_iff.1 h
          exact .poll hpc (nextPoll_polled hpoll)
      · cases h
  | cancel w =>
      simp only [step] at h
      split at h
      · next hpc => cases h; exact .cancel hpc
      · cases h
  | process w =>
      simp only [step] at h
      split at h
      · next m hpc => cases h; exact .process hpc
      · cases h
  | fail w =>
      simp only [step] at h
      split at h
      · next m hpc => cases h; exact .fail hpc
      · cases h
  | ack w failure =>
      simp only [step] at h
      split at h
      · next m hpc =>
          split at h
          · next sub hok =>
              obtain ⟨m', hlast, rfl, rfl⟩ := ack_eq_ok hok
              cases h
              exact .ack hpc hlast
          · next ex herror =>
              cases h
              exact .notAcked hpc (ack_eq_error herror)
      · cases h
  | leave w => cases h; exact .leave

/-! ## A subscription of one's own -/

/-- The subscription is open; the message of a worker is the last one received through its
    subscription, and what is acknowledged has been processed. -/
structure Safe (uses : ω → σ) (st : State ω σ) (s : σ) : Prop where
  active : (st.subs s).pull = false ∧ (st.subs s).phase = .active
  held : ∀ w m, uses w = s → (st.workers w).message = some m → (st.subs s).lastMsg = some m
  done : ∀ w m, uses w = s → st.workers w = .acking m → m ∈ st.processed
  acked : ∀ m ∈ (st.subs s).acked, m ∈ st.processed

section Safe

variable {uses : ω → σ} {st st' : State ω σ} {s : σ} {a : Action ω σ}

omit [DecidableEq ω] [DecidableEq σ] in
/-- Frame rule: more messages may wait, more be processed, and workers let go of theirs. -/
theorem Safe.frame (h : Safe uses st s)
    (hsub : ∃ pending, st'.subs s = { st.subs s with pending := pending })
    (hworkers : ∀ w, uses w = s →
      st'.workers w = st.workers w ∨ (st'.workers w).message = none)
    (hprocessed : ∀ m ∈ st.processed, m ∈ st'.processed) : Safe uses st' s where
  active := by
    obtain ⟨_, hsub⟩ := hsub
    rw [hsub]
    exact h.active
  held := by
    obtain ⟨_, hsub⟩ := hsub
    intro w m hw hm
    rw [hsub]
    rcases hworkers w hw with hsame | hnone
    · exact h.held w m hw (hsame ▸ hm)
    · rw [hnone] at hm
      cases hm
  done := by
    intro w m hw hm
    rcases hworkers w hw with hsame | hnone
    · exact hprocessed m (h.done w m hw (hsame ▸ hm))
    · rw [hm] at hnone
      cases hnone
  acked := by
    obtain ⟨_, hsub⟩ := hsub
    intro m hm
    rw [hsub] at hm
    exact hprocessed m (h.acked m hm)

/-- A worker alone on its subscription receives a message, and perhaps keeps it. -/
theorem Safe.receive (h : Safe uses st s) (hown : {w | uses w = s}.Subsingleton) {w : ω}
    (hw : uses w = s) {m : ℕ} {rest : List ℕ} {pc : WorkerPc}
    (hpc : pc = .processing m ∨ pc.message = none) :
    Safe uses ((st.setSub s { st.subs s with pending := rest, lastMsg := some m }).setWorker w pc)
      s where
  active := by simpa [State.setSub_subs] using h.active
  held := by
    intro w' m' hw' hm'
    obtain rfl : w' = w := hown hw' hw
    rw [State.setWorker_workers, if_pos rfl] at hm'
    rcases hpc with rfl | hnone
    · simpa [State.setSub_subs, WorkerPc.message] using hm'
    · rw [hnone] at hm'
      cases hm'
  done := by
    intro w' m' hw' hm'
    obtain rfl : w' = w := hown hw' hw
    rw [State.setWorker_workers, if_pos rfl] at hm'
    rcases hpc with rfl | hnone
    · cases hm'
    · rw [hm'] at hnone
      cases hnone
  acked := by simpa [State.setSub_subs] using h.acked

omit [DecidableEq σ] in
theorem Safe.process (h : Safe uses st s) {w : ω} {m : ℕ} (hpc : st.workers w = .processing m) :
    Safe uses { st.setWorker w (.acking m) with processed := m :: st.processed } s where
  active := h.active
  held := by
    intro w' m' hw' hm'
    change ((st.setWorker w (.acking m)).workers w').message = some m' at hm'
    rw [State.setWorker_workers] at hm'
    split at hm'
    · next heq =>
        subst heq
        exact h.held w' m' hw' (by rw [hpc]; exact hm')
    · exact h.held w' m' hw' hm'
  done := by
    intro w' m' hw' hm'
    change (st.setWorker w (.acking m)).workers w' = .acking m' at hm'
    rw [State.setWorker_workers] at hm'
    split at hm'
    · cases hm'
      exact List.mem_cons_self
    · exact List.mem_cons_of_mem _ (h.done w' m' hw' hm')
  acked := fun m' hm' => List.mem_cons_of_mem _ (h.acked m' hm')

/-- `ack()` acknowledges the message of the worker that calls it. -/
theorem Safe.ack (h : Safe uses st s) {w : ω} (hw : uses w = s) {m m' : ℕ}
    (hpc : st.workers w = .acking m) (hlast : (st.subs s).lastMsg = some m') :
    Safe uses ((st.setSub s { st.subs s with
      acked := (st.subs s).acked ++ [m'] }).setWorker w .idle) s where
  active := by simpa [State.setSub_subs] using h.active
  held := by
    intro w' m₂ hw' hm₂
    rw [State.setWorker_workers] at hm₂
    split at hm₂
    · cases hm₂
    · simpa [State.setSub_subs] using h.held w' m₂ hw' hm₂
  done := by
    intro w' m₂ hw' hm₂
    rw [State.setWorker_workers] at hm₂
    split at hm₂
    · cases hm₂
    · exact h.done w' m₂ hw' hm₂
  acked := by
    obtain rfl : m' = m := Option.some.inj (hlast.symm.trans (h.held w m hw (by rw [hpc]; rfl)))
    intro m₂ hm₂
    have hmem : m₂ ∈ (st.subs s).acked ∨ m₂ = m' := by simpa [State.setSub_subs] using hm₂
    rcases hmem with hold | rfl
    · exact h.acked m₂ hold
    · exact h.done w m₂ hw hpc

theorem safe_step (hown : {w | uses w = s}.Subsingleton) (h : Safe uses st s)
    (hs : Step uses st a st') : Safe uses st' s := by
  cases hs with
  | @deliver t m hnew =>
      exact h.frame (State.setSub_pending t s _) (fun _ _ => Or.inl rfl) fun _ hm => hm
  | settle => exact h.frame ⟨_, rfl⟩ (fun _ _ => Or.inl rfl) fun _ hm => hm
  | call | cancel | fail | notAcked | leave =>
      exact h.frame ⟨_, rfl⟩ (fun w' _ => State.setWorker_quiet rfl _ w') fun _ hm => hm
  | process hpc => exact h.process hpc
  | @ack w m m' hpc hlast =>
      by_cases hw : uses w = s
      · subst hw
        exact h.ack rfl hpc hlast
      · refine h.frame ?_ (fun w' hw' => Or.inl (State.setWorker_of_uses hw hw' _)) fun _ hm => hm
        exact ⟨_, by rw [State.setWorker_subs, State.setSub_subs, if_neg (Ne.symm hw)]⟩
  | @poll w infinite remainingMs status conversion result sub hpc hpoll =>
      by_cases hw : uses w = s
      · subst hw
        cases hpoll with
        | message => exact h.receive hown rfl (Or.inl rfl)
        | unconverted => exact h.receive hown rfl (Or.inr rfl)
        | waits _ hresult =>
            have hpc := hresult infinite
            refine h.frame ?_ (fun w' _ => State.setWorker_quiet hpc w w') fun _ hm => hm
            exact ⟨_, by rw [State.setWorker_subs, State.setSub_subs, if_pos rfl]⟩
        | finished | failed =>
            refine h.frame ?_ (fun w' _ => State.setWorker_quiet rfl w w') fun _ hm => hm
            exact ⟨_, by rw [State.setWorker_subs, State.setSub_subs, if_pos rfl]⟩
      · refine h.frame ?_ (fun w' hw' => Or.inl (State.setWorker_of_uses hw hw' _)) fun _ hm => hm
        exact ⟨_, by rw [State.setWorker_subs, State.setSub_subs, if_neg (Ne.symm hw)]⟩

end Safe

theorem safe {uses : ω → σ} {s : σ} (hown : {w | uses w = s}.Subsingleton)
    (r : (system uses).Run) : Safe uses r.final s := by
  refine r.invariant (I := fun st => Safe uses st s) ?_ fun _ _ _ h hs =>
    safe_step hown h (step_cases hs)
  refine ⟨⟨rfl, rfl⟩, ?_, ?_, ?_⟩
  · intro w m _ hm
    cases hm
  · intro w m _ hm
    cases hm
  · intro m hm
    cases hm

theorem settled_processed {uses : ω → σ} (hinj : Function.Injective uses)
    (r : (system uses).Run) : ∀ m ∈ r.final.settled, m ∈ r.final.processed := by
  have hown : ∀ s, {w | uses w = s}.Subsingleton := fun s w hw w' hw' => hinj (hw.trans hw'.symm)
  have hall : (∀ s, Safe uses r.final s) ∧ ∀ m ∈ r.final.settled, m ∈ r.final.processed := by
    refine r.invariant
      (I := fun st => (∀ s, Safe uses st s) ∧ ∀ m ∈ st.settled, m ∈ st.processed) ?_ ?_
    · exact ⟨fun s => safe (hown s) .nil, fun m hm => by cases hm⟩
    · rintro st a st' ⟨hsafe, hsettled⟩ hs
      have hstep := step_cases hs
      refine ⟨fun s => safe_step (hown s) (hsafe s) hstep, ?_⟩
      intro m hm
      cases hstep with
      | settle hacked =>
          rcases List.mem_cons.1 hm with rfl | hold
          · exact (hsafe _).acked m hacked
          · exact hsettled m hold
      | process => exact List.mem_cons_of_mem _ (hsettled m hm)
      | deliver | call | cancel | fail | notAcked | leave | poll | ack => exact hsettled m hm
  exact hall.2

/-! ## A shared subscription -/

/-- `w` receives the message 0 and `w'` the message 1, and `w` is the first to finish. -/
def crossing (s : σ) (w w' : ω) : List (Action ω σ) :=
  [.deliver s 0, .deliver s 1, .call w 500, .poll w .ok none, .call w' 500, .poll w' .ok none,
    .process w, .ack w none]

/-- With two workers on a subscription, a message can be acknowledged that nobody has processed. -/
theorem exists_acked_unprocessed {uses : ω → σ} {w w' : ω} (hne : w ≠ w')
    (hshared : uses w' = uses w) :
    ∃ r : (system uses).Run, 1 ∈ (r.final.subs (uses w)).acked ∧ 1 ∉ r.final.processed := by
  have hne' : w' ≠ w := hne.symm
  have hrun : ∃ st, (system uses).exec {} (crossing (uses w) w w') = some st ∧
      1 ∈ (st.subs (uses w)).acked ∧ 1 ∉ st.processed := by
    simp [crossing, system, step, nextPoll, Subscription.answer, Subscription.ack, afterPoll,
      State.setSub_subs, State.setWorker_workers, hne, hne', hshared]
  obtain ⟨st, hexec, hacked, hnot⟩ := hrun
  exact ⟨⟨_, st, hexec⟩, hacked, hnot⟩

theorem exists_settled_unprocessed {uses : ω → σ} {w w' : ω} (hne : w ≠ w')
    (hshared : uses w' = uses w) :
    ∃ r : (system uses).Run, 1 ∈ r.final.settled ∧ 1 ∉ r.final.processed := by
  obtain ⟨r, hacked, hnot⟩ := exists_acked_unprocessed hne hshared
  exact ⟨r.extend (.settle (uses w) 1) _ (if_pos hacked), List.mem_cons_self, hnot⟩

/-! ## Progress of a worker -/

section Progress

variable {uses : ω → σ} {st st' : State ω σ} {w : ω} {a : Action ω σ}

/-- The steps of a worker in its loop. -/
def ByWorker (w : ω) : Action ω σ → Prop
  | .call w' _ | .poll w' _ _ | .process w' | .ack w' _ => w' = w
  | _ => False

/-- What keeps a worker from processing and acknowledging its messages. -/
def Troubles (w : ω) : Action ω σ → Prop
  | .leave w' | .cancel w' | .fail w' => w' = w
  | .poll w' status conversion => w' = w ∧ ((∃ text, status = .failed text) ∨ conversion ≠ none)
  | .ack w' failure => w' = w ∧ failure ≠ none
  | _ => False

/-- The messages that a worker still has to acknowledge: its own, and those that wait. -/
def queue (uses : ω → σ) (w : ω) (st : State ω σ) : List ℕ :=
  (st.workers w).message.toList ++ (st.subs (uses w)).pending

/-- How far a worker is from the end of its pass. -/
def WorkerPc.weight : WorkerPc → ℕ
  | .idle => 4
  | .receiving .. => 3
  | .processing _ => 2
  | .acking _ => 1
  | .gone => 0

/-- How far a worker is from acknowledging `m`. -/
def distance (uses : ω → σ) (w : ω) (m : ℕ) (st : State ω σ) : ℕ :=
  4 * (queue uses w st).idxOf m + (st.workers w).weight

omit [DecidableEq ω] [DecidableEq σ] in
theorem queue_of_append {extra : List ℕ} (hworker : st'.workers w = st.workers w)
    (hpending : (st'.subs (uses w)).pending = (st.subs (uses w)).pending ++ extra) :
    queue uses w st' = queue uses w st ++ extra := by
  rw [queue, queue, hworker, hpending, List.append_assoc]

/-- The others do not get between a worker and its own subscription; the server can deliver
    more. -/
theorem step_other (hown : {w' | uses w' = uses w}.Subsingleton) (hby : ¬ ByWorker w a)
    (hnot : ¬ Troubles w a) (hs : Step uses st a st') :
    st'.workers w = st.workers w ∧ ∃ extra, queue uses w st' = queue uses w st ++ extra := by
  have hother : ∀ {w' : ω} (pc : WorkerPc), w' ≠ w →
      (st.setWorker w' pc).workers w = st.workers w := by
    intro w' pc hne
    rw [State.setWorker_workers, if_neg hne.symm]
  have hsub : ∀ {w' : ω} (sub : Subscription ℕ), w' ≠ w →
      (st.setSub (uses w') sub).subs (uses w) = st.subs (uses w) := by
    intro w' sub hne
    rw [State.setSub_subs, if_neg fun heq => hne (hown heq.symm rfl)]
  cases hs with
  | @deliver s m hnew =>
      refine ⟨rfl, if s = uses w then [m] else [], queue_of_append rfl ?_⟩
      rw [State.setSub_subs]
      split
      · next heq => rw [if_pos heq.symm, heq]
      · next hne => rw [if_neg (Ne.symm hne), List.append_nil]
  | settle => exact ⟨rfl, [], queue_of_append rfl (List.append_nil _).symm⟩
  | call | process | notAcked =>
      exact ⟨hother _ hby, [], queue_of_append (hother _ hby) (List.append_nil _).symm⟩
  | poll | ack =>
      refine ⟨hother _ hby, [], queue_of_append (hother _ hby) ?_⟩
      rw [State.setWorker_subs, hsub _ hby, List.append_nil]
  | cancel | fail | leave =>
      exact ⟨hother _ hnot, [], queue_of_append (hother _ hnot) (List.append_nil _).symm⟩

/-- Every step of a worker brings it closer to acknowledging `m`. -/
theorem step_own {m : ℕ} (hsafe : Safe uses st (uses w)) (hby : ByWorker w a)
    (hnot : ¬ Troubles w a) (hm : m ∈ queue uses w st) (hs : Step uses st a st') :
    m ∈ (st'.subs (uses w)).acked ∨
      (m ∈ queue uses w st' ∧ distance uses w m st' < distance uses w m st) := by
  have hself : ∀ (st : State ω σ) (pc : WorkerPc), (st.setWorker w pc).workers w = pc := by
    intro st pc
    rw [State.setWorker_workers, if_pos rfl]
  -- a step along which the queue stays as it is
  have hsame : ∀ {st' : State ω σ}, queue uses w st' = queue uses w st →
      (st'.workers w).weight < (st.workers w).weight →
      m ∈ queue uses w st' ∧ distance uses w m st' < distance uses w m st := by
    intro st' hqueue hlt
    exact ⟨hqueue ▸ hm, by rw [distance, distance, hqueue]; omega⟩
  cases hs with
  | call hpc =>
      obtain rfl := hby
      refine Or.inr (hsame ?_ ?_)
      · simp [queue, hpc, hself, WorkerPc.message]
      · simp [hpc, hself, WorkerPc.weight]
  | @poll w' infinite remainingMs status conversion result sub hpc hpoll =>
      obtain rfl := hby
      have hwaits : m ∈ (st.subs (uses w')).pending := by
        simpa [queue, hpc, WorkerPc.message] using hm
      cases hpoll with
      | message hpending =>
          refine Or.inr (hsame ?_ ?_)
          · simp [queue, hpc, hself, hpending, afterPoll, State.setSub_subs, WorkerPc.message]
          · simp [hpc, hself, afterPoll, WorkerPc.weight]
      | unconverted => exact absurd ⟨rfl, Or.inr (by simp)⟩ hnot
      | waits hpending => rw [hpending] at hwaits; cases hwaits
      | finished hfinished =>
          obtain ⟨hpull, hphase⟩ := hsafe.active
          simp [Subscription.finished, hpull, hphase] at hfinished
      | failed => exact absurd ⟨rfl, Or.inl ⟨_, rfl⟩⟩ hnot
  | process hpc =>
      obtain rfl := hby
      refine Or.inr (hsame ?_ ?_)
      · change (((st.setWorker _ _).workers _).message.toList ++ _) = _
        simp [queue, hpc, hself, WorkerPc.message]
      · change ((st.setWorker _ _).workers _).weight < _
        simp [hpc, hself, WorkerPc.weight]
  | @ack w' m₀ m' hpc hlast =>
      obtain rfl := hby
      obtain rfl : m' = m₀ :=
        Option.some.inj (hlast.symm.trans (hsafe.held w' m₀ rfl (by rw [hpc]; rfl)))
      have hqueue : queue uses w' st = m' :: (st.subs (uses w')).pending := by
        simp [queue, hpc, WorkerPc.message]
      have hqueue' : queue uses w' ((st.setSub (uses w') { st.subs (uses w') with
          acked := (st.subs (uses w')).acked ++ [m'] }).setWorker w' .idle) =
          (st.subs (uses w')).pending := by
        simp [queue, hself, State.setSub_subs, WorkerPc.message]
      by_cases hmine : m = m'
      · left
        simp [State.setSub_subs, hmine]
      · right
        rw [hqueue] at hm
        rw [distance, distance, hqueue, hqueue', hself, hpc, List.idxOf_cons_ne _ (Ne.symm hmine)]
        exact ⟨List.mem_of_ne_of_mem hmine hm, by simp only [WorkerPc.weight]; omega⟩
  | @notAcked w' m₀ failure hpc hnone =>
      obtain rfl := hby
      rcases hnone with hfailure | hlast
      · exact absurd ⟨rfl, hfailure⟩ hnot
      · have hheld := hsafe.held w' m₀ rfl (by rw [hpc]; rfl)
        rw [hlast] at hheld
        cases hheld
  | deliver | settle | cancel | fail | leave => exact absurd hby not_false

theorem can_step {m : ℕ} (hsafe : Safe uses st (uses w)) (hpc : st.workers w ≠ .gone)
    (hm : m ∈ queue uses w st) : ∃ a, ByWorker w a ∧ (step uses st a).isSome := by
  cases hw : st.workers w with
  | idle => exact ⟨.call w 0, rfl, by simp [step, hw]⟩
  | receiving infinite remainingMs =>
      have hwaits : m ∈ (st.subs (uses w)).pending := by
        simpa [queue, hw, WorkerPc.message] using hm
      obtain ⟨m', rest, hpending⟩ := List.exists_cons_of_ne_nil (List.ne_nil_of_mem hwaits)
      obtain ⟨hpull, hphase⟩ := hsafe.active
      exact ⟨.poll w .ok none, rfl, by
        simp [step, hw, nextPoll, Subscription.answer, hpending, hpull, hphase]⟩
  | processing m' => exact ⟨.process w, rfl, by simp [step, hw]⟩
  | acking m' =>
      have hlast := hsafe.held w m' rfl (by rw [hw]; rfl)
      exact ⟨.ack w none, rfl, by simp [step, hw, Subscription.ack, hlast]⟩
  | gone => exact absurd hw hpc

theorem not_gone_step (hnot : ¬ Troubles w a) (hpc : st.workers w ≠ .gone)
    (hs : Step uses st a st') : st'.workers w ≠ .gone := by
  have hset : ∀ (st : State ω σ) (w' : ω) {pc : WorkerPc}, st.workers w ≠ .gone → pc ≠ .gone →
      (st.setWorker w' pc).workers w ≠ .gone := by
    intro st w' pc hold hnew
    rw [State.setWorker_workers]
    split
    · exact hnew
    · exact hold
  cases hs with
  | deliver | settle => exact hpc
  | call | cancel | process | fail | ack | notAcked => exact hset _ _ hpc (by simp)
  | @poll w' infinite remainingMs status conversion result sub =>
      refine hset _ _ hpc ?_
      cases result <;> simp [afterPoll]
  | leave =>
      rw [State.setWorker_workers, if_neg (Ne.symm hnot)]
      exact hpc

end Progress

/-- A worker with a subscription of its own acknowledges every message that arrives there, unless
    something keeps it from that. -/
theorem eventually_acked {uses : ω → σ} {w : ω} {m n : ℕ}
    (hown : {w' | uses w' = uses w}.Subsingleton) (b : (system uses).Behavior)
    (hfair : b.WeaklyFair (ByWorker w)) (hacts : ∀ n a, b.act n = some a → ¬ Troubles w a)
    (hm : m ∈ queue uses w (b.state n)) :
    ∃ k, n ≤ k ∧ m ∈ ((b.state k).subs (uses w)).acked := by
  by_contra hnever
  push Not at hnever
  have hsafe : ∀ k, Safe uses (b.state k) (uses w) :=
    b.invariant (I := fun st => Safe uses st (uses w)) (safe hown)
  have hpc : ∀ k, (b.state k).workers w ≠ .gone :=
    b.invariant_of_acts (I := fun st => st.workers w ≠ .gone) (G := fun a => ¬ Troubles w a)
      (by simp [system]) (fun _ _ _ hI hG hs => not_gone_step hG hI (step_cases hs)) hacts
  have hmoment : ∀ k, n ≤ k → m ∈ queue uses w (b.state k) →
      m ∈ queue uses w (b.state (k + 1)) ∧
        distance uses w m (b.state (k + 1)) ≤ distance uses w m (b.state k) ∧
        ∀ a, b.act k = some a → ByWorker w a →
          distance uses w m (b.state (k + 1)) < distance uses w m (b.state k) := by
    intro k hk hmem
    cases hact : b.act k with
    | none =>
        rw [b.idle_of_act hact]
        exact ⟨hmem, le_rfl, fun _ ha => by cases ha⟩
    | some a =>
        have hs := step_cases (b.step_of_act hact)
        by_cases hby : ByWorker w a
        · rcases step_own (hsafe k) hby (hacts k a hact) hmem hs with hacked | ⟨hmem', hlt⟩
          · exact absurd hacked (hnever (k + 1) (by omega))
          · exact ⟨hmem', hlt.le, fun _ _ _ => hlt⟩
        · obtain ⟨hworker, extra, hqueue⟩ := step_other hown hby (hacts k a hact) hs
          refine ⟨hqueue ▸ List.mem_append_left extra hmem, le_of_eq ?_, ?_⟩
          · rw [distance, distance, hqueue, hworker, List.idxOf_append_of_mem hmem]
          · intro a' ha' hby'
            cases ha'
            exact absurd hby' hby
  have hkept : ∀ k, n ≤ k → m ∈ queue uses w (b.state k) := by
    intro k hk
    induction k, hk using Nat.le_induction with
    | base => exact hm
    | succ k hk ih => exact (hmoment k hk ih).1
  obtain ⟨k, hk, hacked⟩ := b.exists_goal_of_weaklyFair
    (G := fun st => m ∈ (st.subs (uses w)).acked) hfair (distance uses w m) n
    (fun k hk _ => can_step (hsafe k) (hpc k) (hkept k hk))
    (fun k hk _ => (hmoment k hk (hkept k hk)).2.1)
    (fun k a hk _ hact hby => Or.inr ((hmoment k hk (hkept k hk)).2.2 a hact hby))
  exact hnever k hk hacked

/-! ## At least once -/

/-- What is acknowledged through a subscription has been processed, in every run, if and only if at
    most one worker uses it; so what the server counts as done is processed if and only if no two
    workers share a subscription. A worker with a subscription of its own, which is fairly scheduled
    and meets no trouble, processes and acknowledges every message that arrives there. -/
theorem at_least_once (uses : ω → σ) :
    (∀ s, (∀ r : (system uses).Run, ∀ m ∈ (r.final.subs s).acked, m ∈ r.final.processed) ↔
      {w | uses w = s}.Subsingleton) ∧
    ((∀ r : (system uses).Run, ∀ m ∈ r.final.settled, m ∈ r.final.processed) ↔
      Function.Injective uses) ∧
    ∀ (b : (system uses).Behavior) (w : ω), {w' | uses w' = uses w}.Subsingleton →
      b.WeaklyFair (ByWorker w) → (∀ n a, b.act n = some a → ¬ Troubles w a) →
      ∀ n, ∀ m ∈ ((b.state n).subs (uses w)).pending, ∃ k, n ≤ k ∧
        m ∈ ((b.state k).subs (uses w)).acked ∧ m ∈ (b.state k).processed := by
  refine ⟨?_, ?_, ?_⟩
  · intro s
    constructor
    · intro hall w hw w' hw'
      by_contra hne
      subst hw
      obtain ⟨r, hacked, hnot⟩ := exists_acked_unprocessed hne hw'
      exact hnot (hall r 1 hacked)
    · intro hown r
      exact (safe hown r).acked
  · constructor
    · intro hall w w' hshared
      by_contra hne
      obtain ⟨r, hsettled, hnot⟩ := exists_settled_unprocessed hne hshared.symm
      exact hnot (hall r 1 hsettled)
    · intro hinj r
      exact settled_processed hinj r
  · intro b w hown hfair hacts n m hm
    obtain ⟨k, hk, hacked⟩ :=
      eventually_acked hown b hfair hacts (List.mem_append_right _ hm)
    have hsafe := b.invariant (I := fun st => Safe uses st (uses w)) (safe hown) k
    exact ⟨k, hk, hacked, hsafe.acked m hacked⟩

/-! Two workers, each with a subscription of its own; one of them receives a message and then waits
for more. -/

def firstActs : List (Action Bool Bool) :=
  [.deliver true 0, .call true 500, .poll true .ok none, .process true, .ack true none,
    .settle true 0]

def cycleActs : List (Action Bool Bool) := [.call true 500, .poll true .timeout none]

/-- After the message, and after every round of the cycle. -/
def afterFirst : State Bool Bool where
  subs s := if s then { lastMsg := some 0, acked := [0] } else {}
  processed := [0]
  settled := [0]

theorem State.eq_of_fields {st st' : State Bool Bool} (hsubs : ∀ s, st.subs s = st'.subs s)
    (hworkers : ∀ w, st.workers w = st'.workers w) (hprocessed : st.processed = st'.processed)
    (hsettled : st.settled = st'.settled) : st = st' := by
  cases st
  cases st'
  cases hprocessed
  cases hsettled
  cases funext hsubs
  cases funext hworkers
  rfl

theorem exec_firstActs : (system id).exec {} firstActs = some afterFirst :=
  congrArg some (State.eq_of_fields (by decide) (by decide) rfl rfl)

theorem exec_cycleActs : (system id).exec afterFirst cycleActs = some afterFirst :=
  congrArg some (State.eq_of_fields (by decide) (by decide) rfl rfl)

def oneMessage : (system (id : Bool → Bool)).Behavior :=
  .ofCycle firstActs cycleActs (fun _ => afterFirst) (List.cons_ne_nil _ _) exec_firstActs
    fun _ => exec_cycleActs

theorem at_least_once_oneMessage : ∃ k, 1 ≤ k ∧
    0 ∈ ((oneMessage.state k).subs true).acked ∧ 0 ∈ (oneMessage.state k).processed := by
  refine (at_least_once id).2.2 oneMessage true (fun w hw w' hw' => hw.trans hw'.symm) ?_ ?_ 1 0
    List.mem_cons_self
  · intro n _
    obtain ⟨k, hk, hact⟩ := TransitionSystem.Behavior.ofCycle_again (List.cons_ne_nil _ _)
      exec_firstActs (fun _ => exec_cycleActs) (List.mem_cons_self : .call true 500 ∈ cycleActs) n
    exact ⟨k, _, hk, hact, rfl⟩
  · intro n a hact
    have hmem := TransitionSystem.Behavior.ofCycle_act _ _ _ hact
    simp only [firstActs, cycleActs, List.mem_cons, List.not_mem_nil, or_false] at hmem
    rcases hmem with (rfl | rfl | rfl | rfl | rfl | rfl) | rfl | rfl <;> simp [Troubles]

end ModuleNats.JetStreamWorkers
