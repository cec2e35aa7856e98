import ModuleNats.ChannelSubscription.Steps
import ModuleNats.EventProvider.Model

set_option autoImplicit false

/-! # What a step of an event provider can do

As for the channel subscription, one constructor of `Step` for each branch. `refinement` says that
a provider does nothing to its channel subscription but what the channel subscription itself offers,
so that invariants of the latter hold in every state of the former. -/

namespace ModuleNats.EventProvider

open State

variable {μ : Type}

/-- Every step. -/
inductive Step (p : Provider) (s : State μ) : Action μ → State μ → Prop where
  | alreadyStarted (hstarted : s.started = true) : Step p s .observersReady s
  | start (hstarted : s.started = false) :
      Step p s .observersReady { s with started := true, ready := .subscribing }
  | subscribed (hready : s.ready = .subscribing) (hcallable : p.subscribe.callable = true)
      (hflush : p.flushes = true) : Step p s (.subscribe none)
        { s with csub := some (.start p.subscribe.pull 100), ready := .flushing }
  | subscribedStarts (hready : s.ready = .subscribing) (hcallable : p.subscribe.callable = true)
      (hflush : p.flushes = false) : Step p s (.subscribe none)
        (startLoop { s with csub := some (.start p.subscribe.pull 100) })
  | subscribeFails {ex : ExceptionInfo} (hready : s.ready = .subscribing) :
      Step p s (.subscribe (some ex)) { s with ready := .failed ex }
  | flushed (hready : s.ready = .flushing) : Step p s (.flush none) s.startLoop
  | flushFails {ex : ExceptionInfo} (hready : s.ready = .flushing) :
      Step p s (.flush (some ex)) { s with ready := .failed ex }
  | stop : Step p s .stopEvents { s with stopping := true, stops := s.stops + 1 }
  | closeNothing (hstops : s.stops ≠ 0) (hcsub : s.csub = none) :
      Step p s .closeCsub { s with stops := s.stops - 1 }
  | closeCsub {c c' : ChannelSubscription.State μ} (hstops : s.stops ≠ 0) (hcsub : s.csub = some c)
      (hstep : ChannelSubscription.step c .close = some c') :
      Step p s .closeCsub { s with stops := s.stops - 1, csub := some c' }
  | csub {a : ChannelSubscription.Action μ} {c c' : ChannelSubscription.State μ} (ha : ofCsub a)
      (hcsub : s.csub = some c) (hstep : ChannelSubscription.step c a = some c') :
      Step p s (.csub a) { s with csub := some c' }
  | received {c c' : ChannelSubscription.State μ} {m : μ} (hloop : s.loop = .next)
      (hcsub : s.csub = some c) (hbuffer : c.chan.buffer = m :: c'.chan.buffer)
      (hstep : ChannelSubscription.step c .receive = some c') :
      Step p s .next { s with csub := some c', loop := .check m }
  | exhausted {c : ChannelSubscription.State μ} (hloop : s.loop = .next) (hcsub : s.csub = some c)
      (hclosed : c.chan.closed = true) (hbuffer : c.chan.buffer = []) :
      Step p s .next s.endForeach
  | iteratorFails {ex : ExceptionInfo} (hloop : s.loop = .next) :
      Step p s (.iteratorFails ex) (s.catchException .iterator ex)
  | breaks {m : μ} (hloop : s.loop = .check m) (hstop : s.stopping = true) :
      Step p s .check s.endForeach
  | goesOn {m : μ} (hloop : s.loop = .check m) (hstop : s.stopping = false) :
      Step p s .check { s with loop := .raising (.message m) }
  | notify {e : Event μ} (hloop : s.loop = .raising e) :
      Step p s .notify { s with loop := .observing e, events := s.events ++ [e] }
  | observedMessage {m : μ} (hloop : s.loop = .observing (.message m)) :
      Step p s (.observed none) { s with loop := .next }
  | observedTerminal {e : Event μ} (hloop : s.loop = .observing e) (he : e.terminal) :
      Step p s (.observed none) { s with loop := .ended }
  | observerThrows {e : Event μ} {ex : ExceptionInfo} (hloop : s.loop = .observing e)
      (he : e = .complete ∨ ∃ m, e = .message m) :
      Step p s (.observed (some ex)) (s.catchException .observer ex)
  | observerThrowsAtError {cause : Raised} {ex : ExceptionInfo}
      (hloop : s.loop = .observing (.error cause)) :
      Step p s (.observed (some ex)) { s with loop := .died ⟨.observer, ex⟩ }

theorem stepCsub_cases {s s' : State μ} {a : ChannelSubscription.Action μ}
    (h : s.stepCsub a = some s') : ∃ c c', s.csub = some c ∧
      ChannelSubscription.step c a = some c' ∧ s' = { s with csub := some c' } := by
  obtain ⟨c, hcsub, h⟩ := Option.bind_eq_some_iff.1 h
  obtain ⟨c', hstep, rfl⟩ := Option.map_eq_some_iff.1 h
  exact ⟨c, c', hcsub, hstep, rfl⟩

theorem iterate_cases {p : Provider} {s s' : State μ} (hloop : s.loop = .next)
    (h : s.iterate = some s') : Step p s .next s' := by
  obtain ⟨c, hcsub, h⟩ := Option.bind_eq_some_iff.1 h
  split at h
  · next m rest hbuffer =>
      obtain ⟨t, ht, rfl⟩ := Option.map_eq_some_iff.1 h
      obtain ⟨c₀, c', hcsub', hstep, rfl⟩ := stepCsub_cases ht
      obtain rfl : c₀ = c := Option.some.inj (hcsub'.symm.trans hcsub)
      refine .received hloop hcsub ?_ hstep
      cases ChannelSubscription.step_cases hstep with
      | receive hreceive =>
          have hspec := (Channel.receive_spec hreceive).1
          rw [hbuffer] at hspec ⊢
          rw [(List.cons.inj hspec).1, (List.cons.inj hspec).2]
  · next hbuffer =>
      split at h
      · next hclosed => cases h; exact .exhausted hloop hcsub hclosed hbuffer
      · cases h

/-- Every step that is possible is one of `Step`. -/
theorem step_cases {p : Provider} {s s' : State μ} {a : Action μ} (h : step p s a = some s') :
    Step p s a s' := by
  cases a with
  | observersReady =>
      simp only [step] at h
      split at h
      · next hstarted => cases h; exact .alreadyStarted hstarted
      · next hstarted => cases h; exact .start (Bool.not_eq_true _ ▸ hstarted)
  | subscribe failure =>
      simp only [step] at h
      split at h
      · next hready =>
          split at h
          · next hcallable =>
              cases h
              split
              · next hflush => exact .subscribed hready hcallable hflush
              · next hflush =>
                  exact .subscribedStarts hready hcallable (Bool.not_eq_true _ ▸ hflush)
          · cases h
      · next hready => cases h; exact .subscribeFails hready
      · cases h
  | flush failure =>
      simp only [step] at h
      split at h
      · next hready => cases h; exact .flushed hready
      · next hready => cases h; exact .flushFails hready
      · cases h
  | stopEvents => cases h; exact .stop
  | closeCsub =>
      simp only [step] at h
      split at h
      · cases h
      · next hstops =>
          cases h
          cases hclose : stepCsub { s with stops := s.stops - 1 } .close with
          | none =>
              refine .closeNothing hstops ?_
              cases hcsub : s.csub with
              | none => rfl
              | some c => simp [stepCsub, hcsub, ChannelSubscription.step] at hclose
          | some t =>
              obtain ⟨c, c', hcsub, hstep, rfl⟩ := stepCsub_cases hclose
              exact .closeCsub hstops hcsub hstep
  | csub a =>
      simp only [step] at h
      split at h
      · next ha =>
          obtain ⟨c, c', hcsub, hstep, rfl⟩ := stepCsub_cases h
          exact .csub ha hcsub hstep
      · cases h
  | next =>
      simp only [step] at h
      split at h
      · next hloop => exact iterate_cases hloop h
      · cases h
  | iteratorFails ex =>
      simp only [step] at h
      split at h
      · next hloop => cases h; exact .iteratorFails hloop
      · cases h
  | check =>
      simp only [step] at h
      split at h
      · next m hloop =>
          cases h
          split
          · next hstop => exact .breaks hloop hstop
          · next hstop => exact .goesOn hloop (Bool.not_eq_true _ ▸ hstop)
      · cases h
  | notify =>
      simp only [step] at h
      split at h
      · next e hloop => cases h; exact .notify hloop
      · cases h
  | observed thrown =>
      simp only [step] at h
      split at h
      · next e hloop =>
          cases h
          cases thrown with
          | none =>
              cases e with
              | message m => exact .observedMessage hloop
              | complete => exact .observedTerminal hloop rfl
              | error ex => exact .observedTerminal hloop rfl
          | some ex =>
              cases e with
              | message m => exact .observerThrows hloop (Or.inr ⟨m, rfl⟩)
              | complete => exact .observerThrows hloop (Or.inl rfl)
              | error cause => exact .observerThrowsAtError hloop
      · cases h

/-! ## Where the loop is -/

/-- The `foreach` has been left. -/
def LoopPc.left : LoopPc μ → Bool
  | .raising e | .observing e => e.terminal
  | .ended | .died _ => true
  | .notStarted | .next | .check _ => false

/-- The loop is over. -/
def LoopPc.returned : LoopPc μ → Bool
  | .ended | .died _ => true
  | .notStarted | .next | .check _ | .raising _ | .observing _ => false

theorem LoopPc.left_of_returned {loop : LoopPc μ} (h : loop.returned) : loop.left := by
  cases loop <;> first | rfl | cases h

/-! ## The channel subscription inside -/

/-- The channel subscription of a provider, as it is before and after its creation. -/
def csubOf (p : Provider) (s : State μ) : ChannelSubscription.State μ :=
  s.csub.getD (.start p.subscribe.pull 100)

/-- What a step of the provider does to its channel subscription. -/
def csubActs (s : State μ) : Action μ → List (ChannelSubscription.Action μ)
  | .csub a => [a]
  | .closeCsub => if s.csub.isSome then [.close] else []
  | .next => match s.csub with
      | some csub => if csub.chan.buffer.isEmpty then [] else [.receive]
      | none => []
  | _ => []

/-- Where the steps of the channel subscription come from. -/
theorem mem_csubActs {s : State μ} {a : Action μ} {x : ChannelSubscription.Action μ}
    (h : x ∈ csubActs s a) :
    a = .csub x ∨ a = .closeCsub ∧ x = .close ∨ a = .next ∧ x = .receive := by
  cases a with
  | csub y => exact Or.inl (by rw [List.mem_singleton.1 h])
  | closeCsub =>
      simp only [csubActs] at h
      split at h
      · exact Or.inr (Or.inl ⟨rfl, List.mem_singleton.1 h⟩)
      · cases h
  | next =>
      simp only [csubActs] at h
      split at h
      · split at h
        · cases h
        · exact Or.inr (Or.inr ⟨rfl, List.mem_singleton.1 h⟩)
      · cases h
  | _ => cases h

/-- A provider never drains its channel subscription. -/
theorem ne_drain_of_mem_csubActs {p : Provider} {s s' : State μ} {a : Action μ}
    (hs : Step p s a s') {x : ChannelSubscription.Action μ} (hx : x ∈ csubActs s a) :
    x ≠ .drain := by
  rintro rfl
  rcases mem_csubActs hx with rfl | ⟨-, h⟩ | ⟨-, h⟩
  · cases hs with
    | csub hof => cases hof
  · cases h
  · cases h

/-- Nothing happens before `observersReady()`, which takes effect once. -/
structure Fresh (s : State μ) : Prop where
  started : s.started = false → s.ready = .idle
  csub : s.ready = .idle ∨ s.ready = .subscribing → s.csub = none
  loop : s.ready = .idle ∨ s.ready = .subscribing ∨ s.ready = .flushing → s.loop = .notStarted

theorem fresh_step {p : Provider} {s s' : State μ} {a : Action μ} (h : Fresh s)
    (hs : Step p s a s') : Fresh s' := by
  -- a step of the loop: `observersReady()` has returned before
  have hlate : s.loop ≠ .notStarted → ∀ loop : LoopPc μ,
      s.ready = .idle ∨ s.ready = .subscribing ∨ s.ready = .flushing → loop = .notStarted :=
    fun hloop _ hready => absurd (h.loop hready) hloop
  have hstarted : s.ready ≠ .idle → s.started = true := fun hready => by
    cases hs : s.started with
    | true => rfl
    | false => exact absurd (h.started hs) hready
  cases hs with
  | alreadyStarted => exact h
  | start hfalse =>
      exact ⟨nofun, fun _ => h.csub (Or.inl (h.started hfalse)),
        fun _ => h.loop (Or.inl (h.started hfalse))⟩
  | subscribed hready =>
      exact ⟨fun hs => absurd (hstarted (by simp [hready])) (by simp_all),
        by simp, fun _ => h.loop (Or.inr (Or.inl hready))⟩
  | subscribedStarts hready =>
      exact ⟨fun hs => absurd (hstarted (by simp [hready])) (by simp_all [startLoop]),
        by simp [startLoop], by simp [startLoop]⟩
  | subscribeFails hready =>
      exact ⟨fun hs => absurd (hstarted (by simp [hready])) (by simp_all), by simp, by simp⟩
  | flushed hready =>
      exact ⟨fun hs => absurd (hstarted (by simp [hready])) (by simp_all [startLoop]),
        by simp [startLoop], by simp [startLoop]⟩
  | flushFails hready =>
      exact ⟨fun hs => absurd (hstarted (by simp [hready])) (by simp_all), by simp, by simp⟩
  | stop => exact ⟨h.started, h.csub, h.loop⟩
  | closeNothing => exact ⟨h.started, h.csub, h.loop⟩
  | closeCsub hstops hcsub => exact ⟨h.started, fun hr => by simp [h.csub hr] at hcsub, h.loop⟩
  | csub ha hcsub => exact ⟨h.started, fun hr => by simp [h.csub hr] at hcsub, h.loop⟩
  | received hloop hcsub =>
      exact ⟨h.started, fun hr => by simp [h.csub hr] at hcsub, hlate (by simp [hloop]) _⟩
  | exhausted hloop => exact ⟨h.started, h.csub, hlate (by simp [hloop]) _⟩
  | iteratorFails hloop => exact ⟨h.started, h.csub, hlate (by simp [hloop]) _⟩
  | breaks hloop => exact ⟨h.started, h.csub, hlate (by simp [hloop]) _⟩
  | goesOn hloop => exact ⟨h.started, h.csub, hlate (by simp [hloop]) _⟩
  | notify hloop => exact ⟨h.started, h.csub, hlate (by simp [hloop]) _⟩
  | observedMessage hloop => exact ⟨h.started, h.csub, hlate (by simp [hloop]) _⟩
  | observedTerminal hloop => exact ⟨h.started, h.csub, hlate (by simp [hloop]) _⟩
  | observerThrows hloop => exact ⟨h.started, h.csub, hlate (by simp [hloop]) _⟩
  | observerThrowsAtError hloop => exact ⟨h.started, h.csub, hlate (by simp [hloop]) _⟩

/-- Before `observersReady()` there is no channel subscription. -/
theorem csub_init {I : ChannelSubscription.State μ → Prop} :
    ∀ c, ({} : State μ).csub = some c → I c :=
  fun c hc => absurd hc (Option.some_ne_none c).symm

/-- What a step of the provider does to its channel subscription: nothing, or it creates it, or it
    takes one of the steps `csubActs`. -/
theorem csub_cases {p : Provider} {s s' : State μ} {a : Action μ} (hs : Step p s a s') :
    s'.csub = s.csub ∨
    (s.ready = .subscribing ∧ s'.csub = some (.start p.subscribe.pull 100)) ∨
    ∃ c b c', s.csub = some c ∧ s'.csub = some c' ∧ b ∈ csubActs s a ∧
      ChannelSubscription.Step c b c' := by
  cases hs with
  | subscribed hready | subscribedStarts hready => exact Or.inr (Or.inl ⟨hready, rfl⟩)
  | closeCsub hstops hc hstep =>
      exact Or.inr (Or.inr ⟨_, .close, _, hc, rfl, by simp [csubActs, hc],
        ChannelSubscription.step_cases hstep⟩)
  | csub hof hc hstep =>
      exact Or.inr (Or.inr ⟨_, _, _, hc, rfl, List.mem_cons_self,
        ChannelSubscription.step_cases hstep⟩)
  | received hloop hc hbuffer hstep =>
      exact Or.inr (Or.inr ⟨_, .receive, _, hc, rfl, by simp [csubActs, hc, hbuffer],
        ChannelSubscription.step_cases hstep⟩)
  | _ => exact Or.inl rfl

/-- What holds of a new channel subscription, and is preserved by what a step of the provider does
    to it, holds of the channel subscription after the step. -/
theorem csub_step {p : Provider} {I : ChannelSubscription.State μ → Prop}
    (hstart : I (.start p.subscribe.pull 100)) {s s' : State μ} {a : Action μ}
    (hI : ∀ c b c', s.csub = some c → b ∈ csubActs s a → I c → ChannelSubscription.Step c b c' →
      I c')
    (h : ∀ c, s.csub = some c → I c) (hs : Step p s a s') : ∀ c, s'.csub = some c → I c := by
  intro d hd
  rcases csub_cases hs with hsame | ⟨-, hnew⟩ | ⟨c, b, c', hc, hc', hb, hstep⟩
  · exact h d (hsame ▸ hd)
  · obtain rfl := Option.some.inj (hnew.symm.trans hd)
    exact hstart
  · obtain rfl := Option.some.inj (hc'.symm.trans hd)
    exact hI c b c' hc hb (h c hc) hstep

/-- What every step of the channel subscription keeps, every step of the provider keeps. -/
theorem csub_keep {p : Provider} {P : ChannelSubscription.State μ → Prop}
    (hP : ∀ c b c', P c → ChannelSubscription.Step c b c' → P c') {s s' : State μ} {a : Action μ}
    (hfresh : Fresh s) (h : ∃ c, s.csub = some c ∧ P c) (hs : Step p s a s') :
    ∃ c, s'.csub = some c ∧ P c := by
  obtain ⟨c, hc, hPc⟩ := h
  rcases csub_cases hs with hsame | ⟨hready, -⟩ | ⟨d, b, d', hd, hd', -, hstep⟩
  · exact ⟨c, hsame.trans hc, hPc⟩
  · rw [hfresh.csub (Or.inr hready)] at hc
    cases hc
  · obtain rfl : c = d := Option.some.inj (hc.symm.trans hd)
    exact ⟨d', hd', hP c b d' hPc hstep⟩

/-- Seen from its channel subscription, a provider is one of its users. -/
def refinement (p : Provider) :
    (system (μ := μ) p).Refinement (ChannelSubscription.system (μ := μ) p.subscribe.pull 100) where
  inv := Fresh
  abs := csubOf p
  acts := csubActs
  inv_init := ⟨fun _ => rfl, fun _ => rfl, fun _ => rfl⟩
  inv_step _ _ _ h hs := fresh_step h (step_cases hs)
  init := rfl
  step s a s' h hs := by
    cases step_cases hs with
    | subscribed hready => simp [csubOf, csubActs, h.csub (Or.inr hready)]
    | subscribedStarts hready => simp [csubOf, csubActs, startLoop, h.csub (Or.inr hready)]
    | closeNothing hstops hcsub => simp [csubOf, csubActs, hcsub]
    | closeCsub hstops hcsub hstep =>
        simp [csubOf, csubActs, hcsub, ChannelSubscription.system, hstep]
    | csub ha hcsub hstep => simp [csubOf, csubActs, hcsub, ChannelSubscription.system, hstep]
    | received hloop hcsub hbuffer hstep =>
        simp [csubOf, csubActs, hcsub, hbuffer, ChannelSubscription.system, hstep]
    | exhausted hloop hcsub hclosed hbuffer => simp [csubOf, csubActs, hcsub, hbuffer, endForeach]
    | _ => rfl

theorem fresh_run {p : Provider} (run : (system (μ := μ) p).Run) : Fresh run.final :=
  run.invariant (refinement p).inv_init (refinement p).inv_step

end ModuleNats.EventProvider
