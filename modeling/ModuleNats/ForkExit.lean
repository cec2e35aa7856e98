import ModuleNats.Fork
import ModuleNats.Lib.Transition

set_option autoImplicit false

/-! # The exit of a forked child

The C client library has a lock, and an exit-time handler that takes it. A child of `fork()` has a
copy of the lock but not the thread that holds it, so the handler would wait for ever; and closing
the library waits for threads that the child does not have.

The constructors of `QoreNatsConnection` call `nats_library_used()` before the C client opens the
library. In a child of a process in which that was done, `nats_fork_child()` has the Qore library
end the child without exit-time handlers; `nats_module_delete()` closes the library only in the
process that has loaded the module. So at its exit no process waits for a thread that it does not
have, if and only if the Qore library can end a child like that (`exit_waits_for_own_threads_iff`).
-/

namespace ModuleNats.ForkExit

/-! ## Processes -/

/-- The C client library, once it is open: the thread that holds its lock, and the threads that it
    joins when it is closed. -/
structure Library where
  lock : Option ℕ := none
  joined : List ℕ := []
deriving DecidableEq, Repr

/-- How far a process is with its exit. -/
inductive Phase where
  | running
  /-- in `nats_CloseAndWait()` -/
  | closing
  /-- the module is deleted -/
  | deleted
  /-- in the exit-time handlers -/
  | atExit
  | ended
deriving DecidableEq, Repr

structure Process where
  pid : ℕ
  /-- `nats_module_pid` -/
  modulePid : ℕ
  /-- `nats_library_opened` -/
  opened : Bool := false
  /-- `qore_fork_child_exit_quickly()` was called -/
  quick : Bool := false
  threads : List ℕ
  /-- the threads between `nats_library_used()` and the first call of the C client -/
  entering : List ℕ := []
  lib : Option Library := none
  phase : Phase := .running
deriving DecidableEq, Repr

/-- What a process does by itself. -/
inductive Act where
  /-- `nats_library_used()` in the constructor of a connection -/
  | libraryUsed (t : ℕ)
  /-- the first call of the C client in the constructor of a connection -/
  | openLibrary (t : ℕ)
  | lock (t : ℕ)
  | unlock (t : ℕ)
  /-- a new thread, of the C client or not -/
  | spawn (t : ℕ) (ofClient : Bool)
  | finish (t : ℕ)
  /-- `nats_module_delete()` -/
  | moduleDelete
  /-- the end of `nats_CloseAndWait()` -/
  | closed
  | exit
  /-- the end of the exit-time handlers -/
  | handled
deriving DecidableEq, Repr

inductive Action where
  | act (k : ℕ) (a : Act)
  /-- `fork()` in the thread `t` -/
  | fork (k t pid : ℕ)
deriving DecidableEq, Repr

namespace Process

/-- The threads that have to go on before the process can. -/
def waitsFor (p : Process) : List ℕ :=
  match p.phase, p.lib with
  | .closing, some lib => lib.lock.toList ++ lib.joined
  | .atExit, some lib => lib.lock.toList
  | _, _ => []

def step (p : Process) : Act → Option Process
  | .libraryUsed t =>
      if p.phase = .running ∧ t ∈ p.threads then
        some { p with opened := true, entering := t :: p.entering }
      else none
  | .openLibrary t =>
      if t ∈ p.entering then
        some { p with entering := p.entering.erase t, lib := some (p.lib.getD {}) }
      else none
  | .lock t => p.lib.bind fun lib =>
      if lib.lock = none ∧ t ∈ p.threads then
        some { p with lib := some { lib with lock := some t } }
      else none
  | .unlock t => p.lib.bind fun lib =>
      if lib.lock = some t ∧ t ∈ p.threads then
        some { p with lib := some { lib with lock := none } }
      else none
  | .spawn t ofClient =>
      if t ∈ p.threads then none
      else if ofClient then p.lib.map fun lib =>
        { p with threads := t :: p.threads, lib := some { lib with joined := t :: lib.joined } }
      else some { p with threads := t :: p.threads }
  | .finish t =>
      if p.lib.bind Library.lock = some t then none
      else some { p with
        threads := p.threads.filter (· != t)
        lib := p.lib.map fun lib => { lib with joined := lib.joined.filter (· != t) } }
  | .moduleDelete =>
      if p.phase = .running then
        some { p with phase := if Fork.isForkedChild p.pid p.modulePid then .deleted else .closing }
      else none
  | .closed =>
      if p.phase = .closing ∧ p.waitsFor = [] then some { p with lib := none, phase := .deleted }
      else none
  | .exit =>
      if p.phase = .deleted then some { p with phase := if p.quick then .ended else .atExit }
      else none
  | .handled =>
      if p.phase = .atExit ∧ p.waitsFor = [] then some { p with lib := none, phase := .ended }
      else none

/-- The child: a copy of the memory with the thread `t`, and `nats_fork_child()` in it. -/
def fork (quickExit : Bool) (p : Process) (t pid : ℕ) : Option Process :=
  if p.phase = .running ∧ t ∈ p.threads ∧ t ∉ p.entering then
    some { p with pid, quick := p.quick || (quickExit && p.opened), threads := [t], entering := [] }
  else none

end Process

def step (quickExit : Bool) (s : List Process) : Action → Option (List Process)
  | .act k a => s[k]?.bind fun p => (p.step a).map fun p' => s.set k p'
  | .fork k t pid => s[k]?.bind fun p => (p.fork quickExit t pid).map fun child => s ++ [child]

/-- It begins with the process that has loaded the module; `quickExit` is
    `_QORE_HAS_FORK_CHILD_QUICK_EXIT`. -/
def system (quickExit : Bool) : TransitionSystem (List Process) Action where
  init := [{ pid := 1, modulePid := 1, threads := [0] }]
  step := step quickExit

/-- A child has another process id than the process that has loaded the module. -/
def NewPid (s : List Process) : Action → Prop
  | .fork k _ pid => ∀ p ∈ s[k]?, pid ≠ p.modulePid
  | .act _ _ => True

instance (s : List Process) : DecidablePred (NewPid s)
  | .fork k _ pid => inferInstanceAs (Decidable (∀ p ∈ s[k]?, pid ≠ p.modulePid))
  | .act _ _ => isTrue trivial

/-! ## What keeps a process from waiting for ever -/

/-- The threads that the library counts on run in the process. -/
def OwnThreads (p : Process) : Prop :=
  ∀ lib, p.lib = some lib →
    (∀ t, lib.lock = some t → t ∈ p.threads) ∧ ∀ t ∈ lib.joined, t ∈ p.threads

/-- A process with the library open has noted that, and either it has all threads of the library or
    it ends quickly. -/
structure Safe (p : Process) : Prop where
  opened : p.lib.isSome ∨ p.entering ≠ [] → p.opened = true
  own : p.quick = false → OwnThreads p
  loader : p.pid = p.modulePid → p.quick = false
  waits : p.phase = .closing ∨ p.phase = .atExit → p.quick = false

theorem Safe.waitsFor {p : Process} (h : Safe p) : ∀ t ∈ p.waitsFor, t ∈ p.threads := by
  intro t ht
  have hown : p.phase = .closing ∨ p.phase = .atExit → OwnThreads p := fun hp => h.own (h.waits hp)
  unfold Process.waitsFor at ht
  split at ht
  · next lib hphase hlib =>
      obtain ⟨hlock, hjoined⟩ := hown (.inl hphase) lib hlib
      rcases List.mem_append.1 ht with ht | ht
      · exact hlock t (Option.mem_toList.1 ht)
      · exact hjoined t ht
  · next lib hphase hlib => exact (hown (.inr hphase) lib hlib).1 t (Option.mem_toList.1 ht)
  · cases ht

/-- A step that leaves the pid, the phase and the threads of the library alone. -/
theorem Safe.congr {p p' : Process} (h : Safe p) (hopened : p'.opened = true)
    (hpid : p'.pid = p.pid ∧ p'.modulePid = p.modulePid ∧ p'.quick = p.quick ∧ p'.phase = p.phase)
    (hown : OwnThreads p → OwnThreads p') : Safe p' := by
  obtain ⟨hpid, hmodule, hquick, hphase⟩ := hpid
  refine ⟨fun _ => hopened, fun hq => hown (h.own (hquick ▸ hq)), ?_, ?_⟩
  · rw [hpid, hmodule, hquick]
    exact h.loader
  · rw [hphase, hquick]
    exact h.waits

theorem safe_step {p p' : Process} {a : Act} (h : Safe p) (hs : p.step a = some p') : Safe p' := by
  cases a with
  | libraryUsed t =>
      simp only [Process.step] at hs
      split at hs
      · cases hs
        exact h.congr rfl ⟨rfl, rfl, rfl, rfl⟩ id
      · cases hs
  | openLibrary t =>
      simp only [Process.step] at hs
      split at hs
      · next ht =>
          cases hs
          refine h.congr (h.opened (.inr (List.ne_nil_of_mem ht))) ⟨rfl, rfl, rfl, rfl⟩ ?_
          rintro hown lib ⟨⟩
          cases hlib : p.lib with
          | none => simp
          | some lib => exact hown lib hlib
      · cases hs
  | lock t =>
      obtain ⟨lib, hlib, hs⟩ := Option.bind_eq_some_iff.1 hs
      split at hs
      · next hguard =>
          cases hs
          refine h.congr (h.opened (.inl (by simp [hlib]))) ⟨rfl, rfl, rfl, rfl⟩ ?_
          rintro hown _ ⟨⟩
          refine ⟨?_, (hown lib hlib).2⟩
          rintro _ ⟨⟩
          exact hguard.2
      · cases hs
  | unlock t =>
      obtain ⟨lib, hlib, hs⟩ := Option.bind_eq_some_iff.1 hs
      split at hs
      · cases hs
        refine h.congr (h.opened (.inl (by simp [hlib]))) ⟨rfl, rfl, rfl, rfl⟩ ?_
        rintro hown _ ⟨⟩
        exact ⟨by simp, (hown lib hlib).2⟩
      · cases hs
  | spawn t ofClient =>
      simp only [Process.step] at hs
      split at hs
      · cases hs
      · split at hs
        · obtain ⟨lib, hlib, rfl⟩ := Option.map_eq_some_iff.1 hs
          refine h.congr (h.opened (.inl (by simp [hlib]))) ⟨rfl, rfl, rfl, rfl⟩ ?_
          rintro hown _ ⟨⟩
          obtain ⟨hlock, hjoined⟩ := hown lib hlib
          refine ⟨fun u hu => List.mem_cons_of_mem _ (hlock u hu), fun u hu => ?_⟩
          rcases List.mem_cons.1 hu with rfl | hu
          · exact List.mem_cons_self
          · exact List.mem_cons_of_mem _ (hjoined u hu)
        · cases hs
          refine ⟨h.opened, fun hq lib hlib => ?_, h.loader, h.waits⟩
          obtain ⟨hlock, hjoined⟩ := h.own hq lib hlib
          exact ⟨fun u hu => List.mem_cons_of_mem _ (hlock u hu),
            fun u hu => List.mem_cons_of_mem _ (hjoined u hu)⟩
  | finish t =>
      simp only [Process.step] at hs
      split at hs
      · cases hs
      · next hfree =>
          cases hs
          refine ⟨fun ho => h.opened ?_, fun hq lib hlib => ?_, h.loader, h.waits⟩
          · simpa using ho
          · obtain ⟨old, hold, rfl⟩ := Option.map_eq_some_iff.1 hlib
            obtain ⟨hlock, hjoined⟩ := h.own hq old hold
            refine ⟨fun u hu => List.mem_filter.2 ⟨hlock u hu, ?_⟩, fun u hu => ?_⟩
            · rw [hold] at hfree
              simpa using fun heq : u = t => hfree (heq ▸ hu)
            · obtain ⟨hmem, hne⟩ := List.mem_filter.1 hu
              exact List.mem_filter.2 ⟨hjoined u hmem, hne⟩
  | moduleDelete =>
      simp only [Process.step] at hs
      split at hs
      · cases hs
        refine ⟨h.opened, h.own, h.loader, fun hphase => ?_⟩
        by_cases hchild : Fork.isForkedChild p.pid p.modulePid = true
        · simp [hchild] at hphase
        · exact h.loader (by simpa [Fork.isForkedChild] using hchild)
      · cases hs
  | closed =>
      simp only [Process.step] at hs
      split at hs
      · cases hs
        refine ⟨fun ho => h.opened (.inr ?_), fun _ lib hlib => ?_, h.loader, ?_⟩
        · simpa using ho
        · cases hlib
        · simp
      · cases hs
  | exit =>
      simp only [Process.step] at hs
      split at hs
      · cases hs
        refine ⟨h.opened, h.own, h.loader, fun hphase => ?_⟩
        cases hquick : p.quick with
        | false => rfl
        | true => simp [hquick] at hphase
      · cases hs
  | handled =>
      simp only [Process.step] at hs
      split at hs
      · cases hs
        refine ⟨fun ho => h.opened (.inr ?_), fun _ lib hlib => ?_, h.loader, ?_⟩
        · simpa using ho
        · cases hlib
        · simp
      · cases hs

/-- A child that would not have all threads of the library ends quickly. -/
theorem safe_fork {p child : Process} {t pid : ℕ} (h : Safe p) (hpid : pid ≠ p.modulePid)
    (hs : p.fork true t pid = some child) : Safe child := by
  unfold Process.fork at hs
  split at hs
  · next hguard =>
      cases hs
      refine ⟨fun ho => ?_, fun hq lib hlib => ?_, fun heq => absurd heq hpid, fun hphase => ?_⟩
      · exact h.opened (.inl (by simpa using ho))
      · have hopened := h.opened (.inl (by rw [show p.lib = some lib from hlib]; rfl))
        simp [hopened] at hq
      · simp [hguard.1] at hphase
  · cases hs

theorem safe_run (run : (system true).Run) (hpids : run.All NewPid) : ∀ p ∈ run.final, Safe p := by
  refine run.invariant_of_all (I := fun s => ∀ p ∈ s, Safe p) ?_ ?_ hpids
  · intro p hp
    obtain rfl := List.mem_singleton.1 hp
    have hown : OwnThreads ⟨1, 1, false, false, [0], [], none, .running⟩ :=
      fun lib hlib => by cases hlib
    exact ⟨by simp, fun _ => hown, fun _ => rfl, fun _ => rfl⟩
  · intro s a s' h hpid hs p hp
    cases a with
    | act k a =>
        obtain ⟨q, hq, hstep⟩ := Option.bind_eq_some_iff.1 hs
        obtain ⟨q', hq', rfl⟩ := Option.map_eq_some_iff.1 hstep
        rcases List.mem_or_eq_of_mem_set hp with hold | rfl
        · exact h p hold
        · exact safe_step (h q (List.mem_of_getElem? hq)) hq'
    | fork k t pid =>
        obtain ⟨q, hq, hstep⟩ := Option.bind_eq_some_iff.1 hs
        obtain ⟨child, hchild, rfl⟩ := Option.map_eq_some_iff.1 hstep
        rcases List.mem_append.1 hp with hold | hnew
        · exact h p hold
        · obtain rfl := List.mem_singleton.1 hnew
          exact safe_fork (h q (List.mem_of_getElem? hq)) (hpid q hq) hchild

/-- A thread of the C client holds the lock when another one forks. -/
def lockedFork : (system false).Run :=
  (system false).runOf
    [.act 0 (.libraryUsed 0), .act 0 (.openLibrary 0), .act 0 (.spawn 1 true), .act 0 (.lock 1),
      .fork 0 0 2, .act 1 .moduleDelete, .act 1 .exit]
    (by decide)

/-- Whatever the processes do, with any number of generations: each one waits at its exit only for
    threads that it has, if and only if the Qore library can end a child without exit-time
    handlers. -/
theorem exit_waits_for_own_threads_iff (quickExit : Bool) :
    (∀ run : (system quickExit).Run, run.All NewPid →
      ∀ p ∈ run.final, ∀ t ∈ p.waitsFor, t ∈ p.threads) ↔ quickExit = true := by
  constructor
  · intro h
    cases quickExit with
    | true => rfl
    | false =>
        have hpids : lockedFork.All NewPid :=
          TransitionSystem.Run.all_of_allFrom _ (by decide)
        have hown := h lockedFork hpids
        exact absurd hown (by decide)
  · rintro rfl run hpids p hp
    exact (safe_run run hpids p hp).waitsFor

end ModuleNats.ForkExit
