import ModuleNats.Lib.RefCount
import ModuleNats.MicroService.Steps

set_option autoImplicit false

/-! # Who keeps a micro service

A `QoreNatsMicroService` and its `QoreNatsMicroGroup`s count their references: the Qore object has
one, every running member function takes one, and a group has one to its service, from its
constructor to its destructor. Whoever takes a count to zero runs the destructor, later, while other
threads go on; the one of the service destroys the `microService` of the C client, with everything
that the groups point to.

In `MicroService.system` the service is destroyed only without groups and running calls. Here the
counts are modelled, and no step looks at anything but them; `references_keep_service` says that
they bring just that about. -/

namespace ModuleNats.MicroReferences

open MicroService (EndpointConfig ServiceConfig)
open RefCount

/-! ## The model -/

inductive Target where
  | service
  | group (g : ℕ)
deriving DecidableEq, Repr

/-- A `QoreNatsMicroGroup`; `object` is whether its Qore object has its reference. -/
structure Group where
  counter : Counter Unit := {}
  object : Bool := true

/-- A running member function, with the call of `addEndpoint()` that it is. -/
structure Frame where
  target : Target
  call : Option ℕ
deriving DecidableEq, Repr

/-- `micro` are the service, its calls and its requests; there is a `Group` for each group ever
    created. -/
structure State where
  micro : MicroService.State
  service : Counter Unit := {}
  object : Bool := true
  groups : List Group := []
  frames : List Frame := []

inductive Action where
  /-- a member function is called; it takes a reference -/
  | enter (target : Target)
  | addEndpoint (k : ℕ) (config : EndpointConfig)
  /-- `addGroup()`, with the answer of the C client -/
  | addGroup (k : ℕ) (ok : Bool)
  /-- a step of `addEndpoint()`, of a request or of the done handler -/
  | inside (a : MicroService.Action)
  /-- a member function returns; it releases its reference -/
  | leave (k : ℕ)
  /-- the Qore object is destroyed -/
  | dropObject (target : Target)
  /-- the destructor of a group -/
  | destroyGroup (g : ℕ)
  /-- the destructor of the service -/
  | destroyService
deriving DecidableEq, Repr

/-- The steps that are not about the objects. -/
def Inside : MicroService.Action → Bool
  | .answer _ _ | .finish _ | .release _ | .deliver _ | .respond _ | .serviceDone | .releaseNext =>
      true
  | _ => false

namespace State

def count (s : State) (f : Counter Unit → Counter Unit) : Target → State
  | .service => { s with service := f s.service }
  | .group g => { s with groups := s.groups.modify g fun G => { G with counter := f G.counter } }

def ref (s : State) : Target → State := s.count Counter.ref

/-- `deref()`: whoever releases the last reference goes on to the destructor. -/
def deref (s : State) : Target → State := s.count fun c => c.release ()

/-- A Qore object can be used as soon as its constructor has returned. -/
def usable (s : State) : Target → Bool
  | .service => s.object && s.micro.service != .constructing
  | .group g => (s.groups[g]?).any (·.object)

def withoutObject (s : State) : Target → State
  | .service => { s with object := false }
  | .group g => { s with groups := s.groups.modify g fun G => { G with object := false } }

/-- `addEndpoint()`, up to the call of the C client. -/
def addEndpoint (s : State) (config : EndpointConfig) : Target → MicroService.State
  | .service =>
      if s.micro.service = .live then s.micro.addEndpoint .service config
      else s.micro.refuse .service "microservice has been destroyed"
  | .group _ => s.micro.addEndpoint .group config

/-- The constructor of a group takes the reference to the service. -/
def newGroup (s : State) : State :=
  { s with
    micro := { s.micro with groups := s.micro.groups + 1 }
    service := s.service.ref
    groups := s.groups ++ [{}] }

/-- Whether a member function has come to its end. -/
def returned (s : State) (f : Frame) : Bool :=
  f.call.all fun i => (s.micro.calls[i]?).any (·.pc.isReturned)

end State

open State

def step (s : State) : Action → Option State
  | .enter target =>
      if s.usable target then
        some { s.ref target with frames := s.frames ++ [⟨target, none⟩] }
      else none
  | .addEndpoint k config =>
      match s.frames[k]? with
      | some ⟨target, none⟩ => some { s with
          micro := s.addEndpoint config target
          frames := s.frames.set k ⟨target, some s.micro.calls.length⟩ }
      | _ => none
  | .addGroup k ok =>
      match s.frames[k]? with
      | some ⟨.service, none⟩ =>
          -- without a `microService` an exception is raised
          some (if ok ∧ s.micro.service = .live then s.newGroup else s)
      | some ⟨.group _, none⟩ => some (if ok then s.newGroup else s)
      | _ => none
  | .inside a =>
      if Inside a then (MicroService.step s.micro a).map fun m => { s with micro := m } else none
  | .leave k =>
      match s.frames[k]? with
      | some f =>
          if s.returned f then some { s.deref f.target with frames := s.frames.eraseIdx k }
          else none
      | none => none
  | .dropObject target =>
      if s.usable target then some ((s.deref target).withoutObject target) else none
  | .destroyGroup g =>
      match s.groups[g]? with
      | some G =>
          if () ∈ G.counter.cleaners then some { s with
            micro := { s.micro with groups := s.micro.groups - 1 }
            service := s.service.release ()
            groups := s.groups.set g { G with counter := G.counter.delete () } }
          else none
      | none => none
  | .destroyService =>
      if () ∈ s.service.cleaners then some { s with
        micro := if s.micro.service = .live then { s.micro with service := .destroyed } else s.micro
        service := s.service.delete () }
      else none

/-- A service that is being constructed, with its first reference. -/
def system (config : ServiceConfig) : TransitionSystem State Action :=
  ⟨{ micro := MicroService.State.construct {} config }, step⟩

/-! ## What the counts count -/

namespace State

def objectOf (s : State) : Target → Bool
  | .service => s.object
  | .group g => (s.groups[g]?).any (·.object)

/-- The references to an object but for those of groups. -/
def holders (s : State) (t : Target) : ℕ :=
  (s.objectOf t).toNat + s.frames.countP (·.target = t)

/-- The number of groups whose destructor has not run. -/
def liveGroups (s : State) : ℕ := s.groups.countP (!·.counter.deleted)

end State

/-- The counters count `n` references, and the groups. -/
structure Counts (s : State) (n : Target → ℕ) : Prop where
  service : Refs s.service (n .service + s.liveGroups)
  group : ∀ g G, s.groups[g]? = some G → Refs G.counter (n (.group g))

theorem countP_modify {α : Type} {p : α → Bool} {f : α → α} (h : ∀ a, p (f a) = p a) (l : List α)
    (i : ℕ) : (l.modify i f).countP p = l.countP p := by
  induction l generalizing i with
  | nil => simp
  | cons a l ih =>
      cases i with
      | zero => simp [List.modify_zero_cons, List.countP_cons, h]
      | succ i => simp [List.modify_succ_cons, List.countP_cons, ih]

theorem liveGroups_count {s : State} {f : Counter Unit → Counter Unit}
    (hf : ∀ c, (f c).deleted = c.deleted) (target : Target) :
    (s.count f target).liveGroups = s.liveGroups := by
  cases target with
  | service => rfl
  | group g => exact countP_modify (fun G => by simp [hf]) _ _

/-- One count is changed, and what it counts. -/
theorem Counts.count {s : State} {n n' : Target → ℕ} {target : Target}
    {f : Counter Unit → Counter Unit} (h : Counts s n) (hdeleted : ∀ c, (f c).deleted = c.deleted)
    (hf : ∀ c m, Refs c (n target + m) → Refs (f c) (n' target + m))
    (hother : ∀ t, t ≠ target → n' t = n t) : Counts (s.count f target) n' := by
  have hlive := liveGroups_count (s := s) hdeleted target
  cases target with
  | service =>
      refine ⟨hf _ _ h.service, fun g G hG => ?_⟩
      rw [hother (.group g) nofun]
      exact h.group g G hG
  | group g =>
      refine ⟨?_, fun j G hG => ?_⟩
      · rw [hlive, hother .service nofun]
        exact h.service
      · rw [State.count, List.getElem?_modify] at hG
        obtain ⟨G₀, hG₀, rfl⟩ := Option.map_eq_some_iff.1 hG
        by_cases hj : g = j
        · obtain rfl := hj
          rw [if_pos rfl]
          exact hf G₀.counter 0 (h.group g G₀ hG₀)
        · rw [if_neg hj, hother (.group j) fun heq => hj (Target.group.inj heq).symm]
          exact h.group j G₀ hG₀

theorem objectOf_count (s : State) (f : Counter Unit → Counter Unit) (target t : Target) :
    (s.count f target).objectOf t = s.objectOf t := by
  cases target with
  | service => cases t <;> rfl
  | group g =>
      cases t with
      | service => rfl
      | group j =>
          simp only [State.objectOf, State.count, List.getElem?_modify]
          by_cases hj : g = j
          · cases s.groups[j]? <;> simp [hj]
          · cases s.groups[j]? <;> simp [hj]

theorem objectOf_withoutObject (s : State) (target t : Target) :
    (s.withoutObject target).objectOf t = (s.objectOf t && t != target) := by
  cases target with
  | service => cases t <;> simp [State.objectOf, State.withoutObject]
  | group g =>
      cases t with
      | service => simp [State.objectOf, State.withoutObject]
      | group j =>
          simp only [State.objectOf, State.withoutObject, List.getElem?_modify]
          by_cases hj : g = j
          · cases s.groups[j]? <;> simp [hj]
          · cases s.groups[j]? <;> simp [hj, Ne.symm hj]

theorem objectOf_of_usable {s : State} {target : Target} (h : s.usable target = true) :
    s.objectOf target = true := by
  cases target with
  | service => exact (Bool.and_eq_true_iff.1 h).1
  | group g => exact h

/-! ## What happens to the service and its calls -/

/-- What a step does to the calls and to the service: at most one call goes on, and the service
    changes when the call of its constructor returns. -/
def Advances (m m' : MicroService.State) : Prop :=
  m'.calls = m.calls ∧ m'.service = m.service ∨
    ∃ i c pc, m.calls[i]? = some c ∧ c.pc.isReturned = false ∧
      m'.calls = m.calls.set i { c with pc := pc } ∧ (m'.service = m.service ∨
        c.via = .constructor ∧ pc.isReturned = true ∧ (m'.service = .live ∨ m'.service = .failed))

theorem advances_returnCall {m m' : MicroService.State} {i : ℕ} {c : MicroService.Call}
    {result : Option ExceptionInfo} (hc : m.calls[i]? = some c) (hpc : c.pc.isReturned = false)
    (hcalls : m'.calls = (m.returnCall i c result).calls)
    (hservice : m'.service = (m.returnCall i c result).service) : Advances m m' := by
  refine .inr ⟨i, c, .returned result, hc, hpc, hcalls, ?_⟩
  rw [hservice]
  by_cases hvia : c.via = .constructor
  · cases result with
    | none => exact .inr ⟨hvia, rfl, .inl (by simp [MicroService.State.returnCall, hvia])⟩
    | some ex => exact .inr ⟨hvia, rfl, .inr (by simp [MicroService.State.returnCall, hvia])⟩
  · exact .inl (by simp [MicroService.State.returnCall, hvia])

/-- A step that is not about the objects. -/
theorem inside_step {m m' : MicroService.State} {a : MicroService.Action} (ha : Inside a = true)
    (h : MicroService.step m a = some m') : m'.groups = m.groups ∧ Advances m m' := by
  cases a with
  | answer i error =>
      simp only [MicroService.step] at h
      split at h
      · next c hc =>
          split at h
          · next cfg hpc =>
              cases h
              have hreturned : c.pc.isReturned = false := by rw [hpc]; rfl
              cases error with
              | none => exact ⟨rfl, .inr ⟨i, c, _, hc, hreturned, rfl, .inl rfl⟩⟩
              | some text => exact ⟨rfl, .inr ⟨i, c, _, hc, hreturned, rfl, .inl rfl⟩⟩
          · cases h
      · cases h
  | finish i =>
      simp only [MicroService.step] at h
      split at h
      · next c hc =>
          split at h
          · next ctx hpc =>
              cases h
              have hreturned : c.pc.isReturned = false := by rw [hpc]; rfl
              unfold MicroService.State.registerHandler
              split
              · exact ⟨rfl, .inr ⟨i, c, _, hc, hreturned, rfl, .inl rfl⟩⟩
              · exact ⟨rfl, advances_returnCall hc hreturned rfl rfl⟩
          · next hpc =>
              cases h
              exact ⟨rfl, advances_returnCall hc (by rw [hpc]; rfl) rfl rfl⟩
          · next ctx err hpc =>
              cases h
              have hreturned : c.pc.isReturned = false := by rw [hpc]; rfl
              cases ctx with
              | none => exact ⟨rfl, advances_returnCall hc hreturned rfl rfl⟩
              | some ctx => exact ⟨rfl, advances_returnCall hc hreturned rfl rfl⟩
          · cases h
      · cases h
  | release i =>
      simp only [MicroService.step] at h
      split at h
      · next c hc =>
          split at h
          · next ctx hpc =>
              cases h
              exact ⟨rfl, advances_returnCall hc (by rw [hpc]; rfl) rfl rfl⟩
          · cases h
      · cases h
  | deliver ctx =>
      simp only [MicroService.step] at h
      split at h
      · cases h
        exact ⟨rfl, .inl ⟨rfl, rfl⟩⟩
      · cases h
  | respond k =>
      simp only [MicroService.step] at h
      split at h
      · cases h
        exact ⟨rfl, .inl ⟨rfl, rfl⟩⟩
      · cases h
  | serviceDone =>
      simp only [MicroService.step] at h
      split at h
      · cases h
        exact ⟨rfl, .inl ⟨rfl, rfl⟩⟩
      · cases h
  | releaseNext =>
      simp only [MicroService.step] at h
      split at h
      · cases h
        exact ⟨rfl, .inl ⟨rfl, rfl⟩⟩
      · cases h
        exact ⟨rfl, .inl ⟨rfl, rfl⟩⟩
      · cases h
  | construct | addEndpoint | addGroup | dropGroup | stop | destroy => cases ha

/-- What the call of a member function changes. -/
def Starts (m m' : MicroService.State) (via : MicroService.Via) : Prop :=
  m'.service = m.service ∧ m'.groups = m.groups ∧ ∃ c, m'.calls = m.calls ++ [c] ∧ c.via = via

theorem starts_addEndpoint (m : MicroService.State) (via : MicroService.Via)
    (config : EndpointConfig) : Starts m (m.addEndpoint via config) via := by
  unfold MicroService.State.addEndpoint
  split
  · exact ⟨rfl, rfl, _, rfl, rfl⟩
  · unfold MicroService.State.create
    split
    · exact ⟨rfl, rfl, _, rfl, rfl⟩
    · exact ⟨rfl, rfl, _, rfl, rfl⟩

theorem construct_micro (config : ServiceConfig) :
    (MicroService.State.construct {} config).groups = 0 ∧
      ∃ c, (MicroService.State.construct {} config).calls = [c] ∧ c.via = .constructor ∧
        ((MicroService.State.construct {} config).service = .constructing ∨
          (MicroService.State.construct {} config).service = .failed ∧ c.pc.isReturned = true) := by
  unfold MicroService.State.construct
  split
  · split
    · exact ⟨rfl, _, rfl, rfl, .inl rfl⟩
    · split
      · exact ⟨rfl, _, rfl, rfl, .inr ⟨rfl, rfl⟩⟩
      · unfold MicroService.State.create
        split
        · exact ⟨rfl, _, rfl, rfl, .inl rfl⟩
        · exact ⟨rfl, _, rfl, rfl, .inl rfl⟩
  · exact ⟨rfl, _, rfl, rfl, .inr ⟨rfl, rfl⟩⟩

/-! ## The invariant -/

/-- Only the first call is the one of the constructor; a call that has not returned is that one, or
    a running member function. -/
structure Calls (s : State) : Prop where
  nonempty : s.micro.calls ≠ []
  first : ∀ i c, s.micro.calls[i]? = some c → (c.via = .constructor ↔ i = 0)
  running : ∀ i c, s.micro.calls[i]? = some c → c.pc.isReturned = false →
    i = 0 ∧ s.micro.service = .constructing ∨ ∃ f ∈ s.frames, f.call = some i ∧ i ≠ 0

structure Inv (s : State) : Prop where
  counts : Counts s s.holders
  calls : Calls s
  groups : s.micro.groups = s.liveGroups
  targets : ∀ f ∈ s.frames, ∀ g, f.target = .group g → g < s.groups.length
  service : s.micro.service ≠ .none
  constructing : s.micro.service = .constructing → s.object = true ∧ s.frames = [] ∧ s.groups = []
  destroyed : s.micro.service = .destroyed → s.service.deleted = true
  deleted : s.service.deleted = true → s.micro.service = .destroyed ∨ s.micro.service = .failed

theorem inv_init (config : ServiceConfig) : Inv (system config).init := by
  obtain ⟨hgroups, c, hcalls, hvia, hservice⟩ := construct_micro config
  have hcall : ∀ i c', (system config).init.micro.calls[i]? = some c' → i = 0 ∧ c' = c := by
    intro i c' hc'
    change (MicroService.State.construct {} config).calls[i]? = some c' at hc'
    rw [hcalls] at hc'
    cases i with
    | zero => exact ⟨rfl, (Option.some.inj hc').symm⟩
    | succ i => cases hc'
  constructor
  · exact ⟨Refs.init, nofun⟩
  · refine ⟨?_, fun i c' hc' => ?_, fun i c' hc' hreturned => ?_⟩
    · change (MicroService.State.construct {} config).calls ≠ []
      rw [hcalls]
      exact List.cons_ne_nil _ _
    · obtain ⟨hi, rfl⟩ := hcall i c' hc'
      exact iff_of_true hvia hi
    · obtain ⟨hi, rfl⟩ := hcall i c' hc'
      refine .inl ⟨hi, hservice.resolve_right fun hfailed => ?_⟩
      exact Bool.noConfusion (hreturned.symm.trans hfailed.2)
  · exact hgroups
  · exact nofun
  · intro hnone
    change (MicroService.State.construct {} config).service = .none at hnone
    rcases hservice with hservice | hservice
    · cases hnone.symm.trans hservice
    · cases hnone.symm.trans hservice.1
  · exact fun _ => ⟨rfl, rfl, rfl⟩
  · intro hdestroyed
    change (MicroService.State.construct {} config).service = .destroyed at hdestroyed
    rcases hservice with hservice | hservice
    · cases hdestroyed.symm.trans hservice
    · cases hdestroyed.symm.trans hservice.1
  · exact nofun

/-! ## Steps keep the invariant -/

/-- The service does what `MicroService.system` does. -/
def Follows (m m' : MicroService.State) : Prop := m' = m ∨ ∃ a, MicroService.step m a = some m'

theorem holders_pos_of_frame {s : State} {f : Frame} (hf : f ∈ s.frames) :
    0 < s.holders f.target := by
  have hcount : 0 < s.frames.countP (·.target = f.target) :=
    List.countP_pos_iff.2 ⟨f, hf, by simp⟩
  exact Nat.add_pos_right _ hcount

/-- A member function of a group runs only while there are groups. -/
theorem Inv.groups_pos {s : State} (h : Inv s) {f : Frame} {g : ℕ} (hf : f ∈ s.frames)
    (hg : f.target = .group g) : 0 < s.micro.groups := by
  have hlt := h.targets f hf g hg
  have hG : s.groups[g]? = some s.groups[g] := List.getElem?_eq_getElem hlt
  have hpos := holders_pos_of_frame hf
  rw [hg] at hpos
  have halive := ((h.counts.group g _ hG).alive hpos).2
  rw [h.groups]
  exact List.countP_pos_iff.2 ⟨_, List.getElem_mem hlt, by simp [halive]⟩

/-- One frame more, or one less. -/
theorem countP_eraseIdx {s : State} {k : ℕ} {f : Frame} (hf : s.frames[k]? = some f) (t : Target) :
    s.frames.countP (·.target = t) =
      (s.frames.eraseIdx k).countP (·.target = t) + (if f.target = t then 1 else 0) := by
  obtain ⟨hk, rfl⟩ := List.getElem?_eq_some_iff.1 hf
  have hperm := List.getElem_cons_eraseIdx_perm hk
  rw [← hperm.countP_eq, List.countP_cons]
  simp

/-- A change of who has references, and of nothing else. -/
structure Recount (s s' : State) : Prop where
  micro : s'.micro = s.micro
  live : s'.liveGroups = s.liveGroups
  deleted : s'.service.deleted = s.service.deleted
  length : s'.groups.length = s.groups.length

theorem recount_count {s : State} {f : Counter Unit → Counter Unit}
    (hf : ∀ c, (f c).deleted = c.deleted) (target : Target) : Recount s (s.count f target) := by
  have hlive := liveGroups_count (s := s) hf target
  cases target with
  | service => exact ⟨rfl, hlive, hf s.service, rfl⟩
  | group g => exact ⟨rfl, hlive, rfl, List.length_modify _ _ _⟩

theorem recount_ref (s : State) (target : Target) : Recount s (s.ref target) :=
  recount_count (f := Counter.ref) (fun _ => rfl) target

theorem recount_deref (s : State) (target : Target) : Recount s (s.deref target) :=
  recount_count (f := fun c => c.release ()) (fun _ => rfl) target

theorem recount_withoutObject (s : State) (target : Target) :
    Recount s (s.withoutObject target) := by
  cases target with
  | service => exact ⟨rfl, rfl, rfl, rfl⟩
  | group g =>
      have hlive := countP_modify (p := fun G : Group => !G.counter.deleted)
        (f := fun G => { G with object := false }) (fun _ => rfl) s.groups g
      exact ⟨rfl, hlive, rfl, List.length_modify _ _ _⟩

theorem Recount.trans {s s' s'' : State} (h : Recount s s') (h' : Recount s' s'') : Recount s s'' :=
  ⟨h'.micro.trans h.micro, h'.live.trans h.live, h'.deleted.trans h.deleted,
    h'.length.trans h.length⟩

theorem Inv.recount {s s' : State} (h : Inv s) (hr : Recount s s') (hcounts : Counts s' s'.holders)
    (hrunning : ∀ i c, s.micro.calls[i]? = some c → c.pc.isReturned = false →
      i = 0 ∧ s.micro.service = .constructing ∨ ∃ f ∈ s'.frames, f.call = some i ∧ i ≠ 0)
    (htargets : ∀ f ∈ s'.frames, ∀ g, f.target = .group g → g < s.groups.length)
    (hconstructing : s.micro.service ≠ .constructing) : Inv s' where
  counts := hcounts
  calls := by
    refine ⟨?_, ?_, ?_⟩ <;> rw [hr.micro]
    · exact h.calls.nonempty
    · exact h.calls.first
    · exact hrunning
  groups := by rw [hr.micro, hr.live, h.groups]
  targets := by rw [hr.length]; exact htargets
  service := by rw [hr.micro]; exact h.service
  constructing := by rw [hr.micro]; exact fun hc => absurd hc hconstructing
  destroyed := by rw [hr.micro, hr.deleted]; exact h.destroyed
  deleted := by rw [hr.micro, hr.deleted]; exact h.deleted

theorem not_constructing_of_usable {s : State} (h : Inv s) {target : Target}
    (husable : s.usable target = true) : s.micro.service ≠ .constructing := by
  intro hconstructing
  cases target with
  | service => simp [State.usable, hconstructing] at husable
  | group g => simp [State.usable, (h.constructing hconstructing).2.2] at husable

theorem holders_pos_of_object {s : State} {target : Target} (h : s.objectOf target = true) :
    0 < s.holders target := by
  rw [State.holders, h]
  exact Nat.add_pos_left Nat.one_pos _

/-- A member function is called: its object is there, so it has a reference already. -/
theorem inv_enter {s : State} {target : Target} (h : Inv s) (husable : s.usable target = true) :
    Inv { s.ref target with frames := s.frames ++ [⟨target, none⟩] } := by
  have hpos := holders_pos_of_object (objectOf_of_usable husable)
  have hcounts : Counts (s.ref target) fun t => s.holders t + if t = target then 1 else 0 := by
    refine h.counts.count (fun _ => rfl) (fun c m hc => ?_) fun t ht => by simp [ht]
    have href := hc.ref (by omega)
    simpa [Nat.add_right_comm] using href
  have hr := recount_ref s target
  refine h.recount ⟨hr.micro, hr.live, hr.deleted, hr.length⟩ ?_ (fun i c hc hpc => ?_)
    (fun f hf g hg => ?_) (not_constructing_of_usable h husable)
  · have hholders : ({ s.ref target with frames := s.frames ++ [⟨target, none⟩] } : State).holders =
        fun t => s.holders t + if t = target then 1 else 0 := by
      funext t
      show ((s.ref target).objectOf t).toNat + _ = _
      rw [State.ref, objectOf_count, State.holders, List.countP_append]
      simp [List.countP_cons, Nat.add_assoc, eq_comm]
    exact hholders ▸ ⟨hcounts.service, hcounts.group⟩
  · exact (h.calls.running i c hc hpc).imp_right fun ⟨f, hf, hcall⟩ =>
      ⟨f, List.mem_append_left _ hf, hcall⟩
  · rcases List.mem_append.1 hf with hf | hf
    · exact h.targets f hf g hg
    · obtain rfl := List.mem_singleton.1 hf
      obtain rfl : target = .group g := hg
      by_contra hout
      simp [State.usable, List.getElem?_eq_none (Nat.le_of_not_lt hout)] at husable

/-- The counts after a reference has been released. -/
theorem Counts.deref {s : State} {n : Target → ℕ} {target : Target} (h : Counts s n)
    (hpos : 0 < n target) :
    Counts (s.deref target) fun t => n t - if t = target then 1 else 0 := by
  refine h.count (fun _ => rfl) (fun c m hc => ?_) fun t ht => by simp [ht]
  obtain ⟨j, hj⟩ := Nat.exists_eq_add_of_le' hpos
  rw [hj, Nat.add_right_comm] at hc
  simpa [hj] using hc.release ()

/-- A member function returns. -/
theorem inv_leave {s : State} {k : ℕ} {f : Frame} (h : Inv s) (hf : s.frames[k]? = some f)
    (hreturned : s.returned f = true) :
    Inv { s.deref f.target with frames := s.frames.eraseIdx k } := by
  have hmem := List.mem_of_getElem? hf
  have hcounts := h.counts.deref (holders_pos_of_frame hmem)
  have hr := recount_deref s f.target
  refine h.recount ⟨hr.micro, hr.live, hr.deleted, hr.length⟩ ?_ (fun i c hc hpc => ?_)
    (fun f' hf' => h.targets f' (List.eraseIdx_subset hf')) fun hconstructing => ?_
  · have hholders : ({ s.deref f.target with frames := s.frames.eraseIdx k } : State).holders =
        fun t => s.holders t - if t = f.target then 1 else 0 := by
      funext t
      show ((s.deref f.target).objectOf t).toNat + _ = _
      rw [State.deref, objectOf_count, State.holders, countP_eraseIdx hf]
      by_cases ht : t = f.target
      · simp [ht]
      · simp [ht, Ne.symm ht]
    exact hholders ▸ ⟨hcounts.service, hcounts.group⟩
  · refine (h.calls.running i c hc hpc).imp_right fun ⟨f', hf', hcall⟩ => ⟨f', ?_, hcall⟩
    obtain ⟨hk, hget⟩ := List.getElem?_eq_some_iff.1 hf
    have hperm := (List.getElem_cons_eraseIdx_perm hk).mem_iff.2 hf'
    refine (List.mem_cons.1 hperm).resolve_left fun heq => ?_
    -- the call of the member function that returns has returned
    rw [heq, hget] at hcall
    simp [State.returned, hcall.1, hc, hpc] at hreturned
  · rw [(h.constructing hconstructing).2.1] at hmem
    exact List.not_mem_nil hmem

/-- A Qore object is destroyed. -/
theorem inv_dropObject {s : State} {target : Target} (h : Inv s)
    (husable : s.usable target = true) : Inv ((s.deref target).withoutObject target) := by
  have hcounts := h.counts.deref (holders_pos_of_object (objectOf_of_usable husable))
  have hr : Recount s ((s.deref target).withoutObject target) :=
    (recount_deref s target).trans (recount_withoutObject _ target)
  have hframes : ((s.deref target).withoutObject target).frames = s.frames := by
    cases target <;> rfl
  refine h.recount hr ?_ ?_ ?_ (not_constructing_of_usable h husable)
  · have hholders : ((s.deref target).withoutObject target).holders =
        fun t => s.holders t - if t = target then 1 else 0 := by
      funext t
      rw [State.holders, hframes, objectOf_withoutObject, State.deref, objectOf_count,
        State.holders]
      by_cases ht : t = target
      · simp [ht, objectOf_of_usable husable]
      · have hne : (t != target) = true := bne_iff_ne.2 ht
        rw [hne, Bool.and_true, if_neg ht, Nat.sub_zero]
    rw [hholders]
    refine ⟨?_, fun g G hG => ?_⟩
    · rw [(recount_withoutObject _ target).live]
      cases target <;> exact hcounts.service
    · cases target with
      | service => exact hcounts.group g G hG
      | group j =>
          rw [State.withoutObject, List.getElem?_modify] at hG
          obtain ⟨G₀, hG₀, rfl⟩ := Option.map_eq_some_iff.1 hG
          have hG' := hcounts.group g G₀ hG₀
          split
          · exact hG'
          · exact hG'
  · rw [hframes]
    exact h.calls.running
  · rw [hframes]
    exact h.targets

/-- The service has a reference while a member function runs: its own, or the one of its group. -/
theorem Inv.references_pos {s : State} {f : Frame} (h : Inv s) (hf : f ∈ s.frames) :
    0 < s.holders .service + s.liveGroups := by
  cases htarget : f.target with
  | service => exact Nat.add_pos_left (htarget ▸ holders_pos_of_frame hf) _
  | group g => exact Nat.add_pos_right _ (h.groups ▸ h.groups_pos hf htarget)

/-- A new group takes a reference to the service. -/
theorem inv_newGroup {s : State} {f : Frame} (h : Inv s) (hf : f ∈ s.frames) : Inv s.newGroup := by
  have hlive : s.newGroup.liveGroups = s.liveGroups + 1 := by
    simp [State.newGroup, State.liveGroups, List.countP_append]
  have hservice : s.newGroup.holders .service = s.holders .service := rfl
  have hgroup : ∀ g, g < s.groups.length →
      s.newGroup.holders (.group g) = s.holders (.group g) := by
    intro g hg
    simp [State.holders, State.objectOf, State.newGroup, List.getElem?_append_left hg]
  constructor
  · refine ⟨?_, fun g G hG => ?_⟩
    · rw [hservice, hlive]
      exact h.counts.service.ref (h.references_pos hf)
    · change (s.groups ++ [({} : Group)])[g]? = some G at hG
      by_cases hg : g < s.groups.length
      · rw [List.getElem?_append_left hg] at hG
        rw [hgroup g hg]
        exact h.counts.group g G hG
      · -- the new group: its object has the only reference
        rw [List.getElem?_append_right (Nat.le_of_not_lt hg)] at hG
        have hnone : s.frames.countP (·.target = .group g) = 0 :=
          List.countP_eq_zero.2 fun f hf htarget => hg (h.targets f hf g (by simpa using htarget))
        have hlast : g - s.groups.length = 0 := by
          by_contra hpos
          simp [hpos] at hG
        have hone : s.newGroup.holders (.group g) = 1 := by
          simp [State.holders, State.objectOf, State.newGroup, hnone,
            List.getElem?_append_right (Nat.le_of_not_lt hg), hlast]
        rw [hlast] at hG
        rw [hone, ← Option.some.inj hG]
        exact Refs.init
  · exact ⟨h.calls.nonempty, h.calls.first, h.calls.running⟩
  · rw [hlive, ← h.groups]
    rfl
  · intro f' hf' g hg
    exact (h.targets f' hf' g hg).trans_le (by simp [State.newGroup])
  · exact h.service
  · intro hconstructing
    rw [(h.constructing hconstructing).2.1] at hf
    exact absurd hf List.not_mem_nil
  · exact h.destroyed
  · exact h.deleted

/-- A member function that adds an endpoint has a call. -/
theorem inv_addEndpoint {s : State} {k : ℕ} {target : Target} (h : Inv s)
    (hf : s.frames[k]? = some ⟨target, none⟩) {via : MicroService.Via} (hvia : via ≠ .constructor)
    {m : MicroService.State} (hm : Starts s.micro m via) :
    Inv { s with
      micro := m
      frames := s.frames.set k ⟨target, some s.micro.calls.length⟩ } := by
  obtain ⟨hservice, hgroups, c, hcalls, hc⟩ := hm
  obtain ⟨hk, hget⟩ := List.getElem?_eq_some_iff.1 hf
  have hcountP : ∀ t : Target, (s.frames.set k ⟨target, some s.micro.calls.length⟩).countP
      (·.target = t) = s.frames.countP (·.target = t) := by
    intro t
    have hcount := countP_eraseIdx hf t
    dsimp only at hcount
    rw [List.countP_set hk, hget]
    simp only [decide_eq_true_eq]
    omega
  have hholders : ({ s with
      micro := m
      frames := s.frames.set k ⟨target, some s.micro.calls.length⟩ } : State).holders = s.holders :=
    funext fun t => congrArg ((s.objectOf t).toNat + ·) (hcountP t)
  constructor
  · rw [hholders]
    exact ⟨h.counts.service, h.counts.group⟩
  · refine ⟨by simp [hcalls], fun i q hq => ?_, fun i q hq hpc => ?_⟩
    · rw [hcalls] at hq
      by_cases hi : i < s.micro.calls.length
      · rw [List.getElem?_append_left hi] at hq
        exact h.calls.first i q hq
      · have hpos := List.length_pos_iff.2 h.calls.nonempty
        obtain rfl : q = c := by
          have hmem := List.mem_of_getElem? hq
          rw [List.getElem?_append_right (Nat.le_of_not_lt hi)] at hq
          exact (List.mem_singleton.1 (List.mem_of_getElem? hq))
        exact iff_of_false (hc ▸ hvia) (by omega)
    · rw [hcalls] at hq
      rw [hservice]
      by_cases hi : i < s.micro.calls.length
      · rw [List.getElem?_append_left hi] at hq
        refine (h.calls.running i q hq hpc).imp_right fun ⟨f, hmem, hcall⟩ => ⟨f, ?_, hcall⟩
        obtain ⟨j, hj⟩ := List.getElem?_of_mem hmem
        have hjk : k ≠ j := by
          rintro rfl
          obtain rfl := Option.some.inj (hf.symm.trans hj)
          cases hcall.1
        exact List.mem_of_getElem? ((List.getElem?_set_ne hjk).trans hj)
      · have hlast : i = s.micro.calls.length := by
          have hlt := (List.getElem?_eq_some_iff.1 hq).1
          rw [List.length_append, List.length_singleton] at hlt
          omega
        have hpos := List.length_pos_iff.2 h.calls.nonempty
        exact .inr ⟨_, List.mem_set hk _, by rw [hlast], by omega⟩
  · exact hgroups.trans h.groups
  · intro f hmem g hg
    rcases List.mem_or_eq_of_mem_set hmem with hmem | rfl
    · exact h.targets f hmem g hg
    · exact h.targets _ (List.mem_of_getElem? hf) g hg
  · exact hservice ▸ h.service
  · intro hconstructing
    rw [(h.constructing (hservice ▸ hconstructing)).2.1] at hf
    cases hf
  · exact hservice ▸ h.destroyed
  · exact hservice ▸ h.deleted

/-- The calls after one of them has gone on. -/
theorem Calls.advance {s : State} (h : Calls s) {m : MicroService.State} {i : ℕ}
    {c : MicroService.Call} {pc : MicroService.CallPc} (hc : s.micro.calls[i]? = some c)
    (hpc : c.pc.isReturned = false) (hcalls : m.calls = s.micro.calls.set i { c with pc := pc })
    (hservice : m.service = s.micro.service ∨ i = 0 ∧ pc.isReturned = true) :
    Calls { s with micro := m } where
  nonempty := by
    rw [hcalls, Ne, ← List.length_eq_zero_iff, List.length_set, List.length_eq_zero_iff]
    exact h.nonempty
  first j q hq := by
    rw [hcalls] at hq
    by_cases hij : i = j
    · obtain rfl := hij
      rw [List.getElem?_set_self (List.getElem?_eq_some_iff.1 hc).1] at hq
      obtain rfl := Option.some.inj hq
      exact h.first i c hc
    · rw [List.getElem?_set_ne hij] at hq
      exact h.first j q hq
  running j q hq hqpc := by
    rw [hcalls] at hq
    have hold : j = 0 ∧ s.micro.service = .constructing ∨
        ∃ f ∈ s.frames, f.call = some j ∧ j ≠ 0 := by
      by_cases hij : i = j
      · obtain rfl := hij
        exact h.running i c hc hpc
      · rw [List.getElem?_set_ne hij] at hq
        exact h.running j q hq hqpc
    refine hold.imp_left fun ⟨hj, hconstructing⟩ => ⟨hj, ?_⟩
    rcases hservice with hservice | ⟨hi, hreturned⟩
    · exact hservice.trans hconstructing
    · rw [hj, ← hi, List.getElem?_set_self (List.getElem?_eq_some_iff.1 hc).1] at hq
      obtain rfl := Option.some.inj hq
      exact Bool.noConfusion (hqpc.symm.trans hreturned)

/-- A step that is not about the objects. -/
theorem inv_inside {s : State} {m : MicroService.State} (h : Inv s)
    (hgroups : m.groups = s.micro.groups) (hm : Advances s.micro m) :
    Inv { s with micro := m } := by
  rcases hm with ⟨hcalls, hservice⟩ | ⟨i, c, pc, hc, hpc, hcalls, hservice⟩
  · refine ⟨⟨h.counts.service, h.counts.group⟩, ⟨?_, ?_, ?_⟩, hgroups.trans h.groups, h.targets,
      hservice ▸ h.service, hservice ▸ h.constructing, hservice ▸ h.destroyed,
      hservice ▸ h.deleted⟩
    · exact hcalls ▸ h.calls.nonempty
    · exact hcalls ▸ h.calls.first
    · rw [hcalls, hservice]
      exact h.calls.running
  · rcases hservice with hservice | ⟨hvia, hreturned, hservice⟩
    · exact ⟨⟨h.counts.service, h.counts.group⟩, h.calls.advance hc hpc hcalls (.inl hservice),
        hgroups.trans h.groups, h.targets, hservice ▸ h.service, hservice ▸ h.constructing,
        hservice ▸ h.destroyed, hservice ▸ h.deleted⟩
    · -- the constructor returns
      have hi := (h.calls.first i c hc).1 hvia
      have hconstructing : s.micro.service = .constructing := by
        rcases h.calls.running i c hc hpc with hfirst | ⟨f, -, -, hne⟩
        · exact hfirst.2
        · exact absurd hi hne
      have hpos : 0 < s.holders .service := holders_pos_of_object (h.constructing hconstructing).1
      have halive := (h.counts.service.alive (Nat.add_pos_left hpos _)).2
      refine ⟨⟨h.counts.service, h.counts.group⟩,
        h.calls.advance hc hpc hcalls (.inr ⟨hi, hreturned⟩), hgroups.trans h.groups, h.targets,
        ?_, ?_, ?_, fun hdeleted => Bool.noConfusion (halive.symm.trans hdeleted)⟩
      · rcases hservice with hservice | hservice <;> simp [hservice]
      · rcases hservice with hservice | hservice <;> simp [hservice]
      · rcases hservice with hservice | hservice <;> simp [hservice]

/-- The destructor of a group releases its reference to the service. -/
theorem inv_destroyGroup {s : State} {g : ℕ} {G : Group} (h : Inv s) (hG : s.groups[g]? = some G)
    (hcleaner : () ∈ G.counter.cleaners) :
    0 < s.micro.groups ∧ Inv { s with
      micro := { s.micro with groups := s.micro.groups - 1 }
      service := s.service.release ()
      groups := s.groups.set g { G with counter := G.counter.delete () } } := by
  obtain ⟨hg, hget⟩ := List.getElem?_eq_some_iff.1 hG
  have hcount := h.counts.group g G hG
  have hlive : s.liveGroups =
      (s.groups.set g { G with counter := G.counter.delete () }).countP (!·.counter.deleted) + 1
      := by
    have hpos : 0 < s.groups.countP (!·.counter.deleted) :=
      List.countP_pos_iff.2 ⟨G, List.mem_of_getElem? hG, by
        simp [hcount.not_deleted_of_cleaner hcleaner]⟩
    rw [List.countP_set hg, hget]
    simp [hcount.not_deleted_of_cleaner hcleaner, Counter.delete, State.liveGroups]
    omega
  have hgroups : s.micro.groups - 1 + 1 = s.liveGroups := by
    rw [h.groups, hlive]
    rfl
  have hholders : ∀ t, ({ s with
      micro := { s.micro with groups := s.micro.groups - 1 }
      service := s.service.release ()
      groups := s.groups.set g { G with counter := G.counter.delete () } } : State).holders t =
      s.holders t := by
    intro t
    refine congrArg (fun b : Bool => b.toNat + s.frames.countP (·.target = t)) ?_
    cases t with
    | service => rfl
    | group j =>
        by_cases hj : g = j
        · obtain rfl := hj
          simp [State.objectOf, List.getElem?_set_self hg, hG]
        · simp [State.objectOf, List.getElem?_set_ne hj]
  refine ⟨by rw [h.groups, hlive]; exact Nat.succ_pos _, ?_⟩
  constructor
  · refine ⟨?_, fun j G' hG' => ?_⟩
    · rw [hholders]
      have hservice := h.counts.service
      rw [hlive, ← Nat.add_assoc] at hservice
      exact hservice.release ()
    · rw [hholders]
      by_cases hj : g = j
      · obtain rfl := hj
        rw [List.getElem?_set_self hg] at hG'
        rw [← Option.some.inj hG']
        exact hcount.delete hcleaner
      · rw [List.getElem?_set_ne hj] at hG'
        exact h.counts.group j G' hG'
  · exact ⟨h.calls.nonempty, h.calls.first, h.calls.running⟩
  · exact Nat.succ.inj (hgroups.trans hlive)
  · intro f hf j hj
    rw [List.length_set]
    exact h.targets f hf j hj
  · exact h.service
  · intro hconstructing
    rw [(h.constructing hconstructing).2.2] at hG
    cases hG
  · intro hdestroyed
    exact h.destroyed hdestroyed
  · exact h.deleted

/-- Nobody is left when the destructor of the service runs. -/
structure Unreferenced (s : State) : Prop where
  object : s.object = false
  frames : s.frames = []
  groups : s.liveGroups = 0

theorem Inv.unreferenced {s : State} (h : Inv s) (hcleaner : () ∈ s.service.cleaners) :
    Unreferenced s := by
  have hzero := h.counts.service.eq_zero_of_cleaner hcleaner
  refine ⟨?_, ?_, (Nat.add_eq_zero_iff.1 hzero).2⟩
  · by_contra hobject
    have hpos : 0 < s.holders .service :=
      holders_pos_of_object (Bool.eq_true_of_not_eq_false hobject)
    omega
  · refine List.eq_nil_iff_forall_not_mem.2 fun f hf => ?_
    have hpos := h.references_pos hf
    omega

/-- The destructor of the service. -/
def State.destroyed (s : State) : State :=
  { s with
    micro := if s.micro.service = .live then { s.micro with service := .destroyed } else s.micro
    service := s.service.delete () }

theorem inv_destroyService {s : State} (h : Inv s) (hcleaner : () ∈ s.service.cleaners) :
    Inv s.destroyed ∧ (s.micro.service = .live →
      MicroService.step s.micro .destroy = some s.destroyed.micro) := by
  obtain ⟨hobject, hframes, hlive⟩ := h.unreferenced hcleaner
  have hconstructing : s.micro.service ≠ .constructing := fun hc =>
    Bool.noConfusion (hobject.symm.trans (h.constructing hc).1)
  have hreturned : ∀ c ∈ s.micro.calls, c.pc.isReturned = true := by
    intro c hc
    obtain ⟨i, hi⟩ := List.getElem?_of_mem hc
    by_contra hpc
    rcases h.calls.running i c hi (Bool.not_eq_true _ ▸ hpc) with hfirst | ⟨f, hf, -⟩
    · exact hconstructing hfirst.2
    · rw [hframes] at hf
      exact List.not_mem_nil hf
  have hcalls : s.destroyed.micro.calls = s.micro.calls := by
    simp only [State.destroyed]
    split <;> rfl
  have hgroups : s.destroyed.micro.groups = s.micro.groups := by
    simp only [State.destroyed]
    split <;> rfl
  have hservice : s.destroyed.micro.service = .destroyed ∨
      s.destroyed.micro.service = .failed := by
    simp only [State.destroyed]
    cases hs : s.micro.service with
    | none => exact absurd hs h.service
    | constructing => exact absurd hs hconstructing
    | live => exact .inl rfl
    | failed => exact .inr (by simp [hs])
    | destroyed => exact .inl (by simp [hs])
  refine ⟨⟨⟨h.counts.service.delete hcleaner, h.counts.group⟩, ⟨?_, ?_, ?_⟩,
    hgroups.trans h.groups, h.targets, ?_, ?_, fun _ => rfl, fun _ => hservice⟩, fun hs => ?_⟩
  · rw [hcalls]
    exact h.calls.nonempty
  · rw [hcalls]
    exact h.calls.first
  · intro i c hc hpc
    rw [hcalls] at hc
    have hret := hreturned c (List.mem_of_getElem? hc)
    exact Bool.noConfusion (hpc.symm.trans hret)
  · rcases hservice with hs | hs <;> simp [hs]
  · rcases hservice with hs | hs <;> simp [hs]
  · have hzero : s.micro.groups = 0 := h.groups.trans hlive
    simp only [MicroService.step, State.destroyed, if_pos hs]
    exact if_pos ⟨hs, hzero, hreturned⟩

/-! ## The counts bring about what the service relies on -/

/-- `addEndpoint()` finds the service, or the group, that it is called for. -/
theorem follows_addEndpoint {s : State} {k : ℕ} {target : Target} (h : Inv s)
    (hf : s.frames[k]? = some ⟨target, none⟩) (config : EndpointConfig) :
    ∃ via, via ≠ .constructor ∧ Starts s.micro (s.addEndpoint config target) via ∧
      MicroService.step s.micro (.addEndpoint via config) = some (s.addEndpoint config target) := by
  have hmem := List.mem_of_getElem? hf
  cases target with
  | service =>
      refine ⟨.service, by simp, ?_, ?_⟩
      · simp only [State.addEndpoint]
        split
        · exact starts_addEndpoint _ _ _
        · exact ⟨rfl, rfl, _, rfl, rfl⟩
      · simp only [State.addEndpoint, MicroService.step]
        cases hs : s.micro.service with
        | none => exact absurd hs h.service
        | constructing =>
            rw [(h.constructing hs).2.1] at hmem
            exact absurd hmem List.not_mem_nil
        | live => rfl
        | failed | destroyed => rfl
  | group g =>
      refine ⟨.group, by simp, starts_addEndpoint _ _ _, ?_⟩
      simp only [State.addEndpoint, MicroService.step]
      exact if_pos (h.groups_pos hmem rfl)

theorem inv_step {s s' : State} {a : Action} (h : Inv s) (hs : step s a = some s') :
    Inv s' ∧ Follows s.micro s'.micro := by
  cases a with
  | enter target =>
      simp only [step] at hs
      split at hs
      · next husable => cases hs; exact ⟨inv_enter h husable, .inl (recount_ref s target).micro⟩
      · cases hs
  | addEndpoint k config =>
      simp only [step] at hs
      split at hs
      · next target hf =>
          cases hs
          obtain ⟨via, hvia, hstarts, hstep⟩ := follows_addEndpoint h hf config
          exact ⟨inv_addEndpoint h hf hvia hstarts, .inr ⟨_, hstep⟩⟩
      · cases hs
  | addGroup k ok =>
      simp only [step] at hs
      split at hs
      · next hf =>
          cases hs
          split
          · next hok =>
              refine ⟨inv_newGroup h (List.mem_of_getElem? hf), .inr ⟨.addGroup .service, ?_⟩⟩
              exact if_pos (.inl ⟨rfl, hok.2⟩)
          · exact ⟨h, .inl rfl⟩
      · next g hf =>
          cases hs
          split
          · have hmem := List.mem_of_getElem? hf
            refine ⟨inv_newGroup h hmem, .inr ⟨.addGroup .group, ?_⟩⟩
            exact if_pos (.inr ⟨rfl, h.groups_pos hmem rfl⟩)
          · exact ⟨h, .inl rfl⟩
      · cases hs
  | inside a =>
      simp only [step] at hs
      split at hs
      · next ha =>
          obtain ⟨m, hm, rfl⟩ := Option.map_eq_some_iff.1 hs
          obtain ⟨hgroups, hadvances⟩ := inside_step ha hm
          exact ⟨inv_inside h hgroups hadvances, .inr ⟨a, hm⟩⟩
      · cases hs
  | leave k =>
      simp only [step] at hs
      split at hs
      · next f hf =>
          split at hs
          · next hreturned =>
              cases hs
              exact ⟨inv_leave h hf hreturned, .inl (recount_deref s f.target).micro⟩
          · cases hs
      · cases hs
  | dropObject target =>
      simp only [step] at hs
      split at hs
      · next husable =>
          cases hs
          exact ⟨inv_dropObject h husable, .inl
            ((recount_deref s target).trans (recount_withoutObject _ target)).micro⟩
      · cases hs
  | destroyGroup g =>
      simp only [step] at hs
      split at hs
      · next G hG =>
          split at hs
          · next hcleaner =>
              cases hs
              obtain ⟨hpos, hinv⟩ := inv_destroyGroup h hG hcleaner
              exact ⟨hinv, .inr ⟨.dropGroup, if_pos hpos⟩⟩
          · cases hs
      · cases hs
  | destroyService =>
      simp only [step] at hs
      split at hs
      · next hcleaner =>
          cases hs
          obtain ⟨hinv, hstep⟩ := inv_destroyService h hcleaner
          refine ⟨hinv, ?_⟩
          by_cases hlive : s.micro.service = .live
          · exact .inr ⟨.destroy, hstep hlive⟩
          · exact .inl (if_neg hlive)
      · cases hs

theorem inv_run {config : ServiceConfig} (run : (system config).Run) : Inv run.final :=
  run.invariant (inv_init config) fun _ _ _ h hs => (inv_step h hs).1

/-- The service and its calls do what they do in `MicroService.system`. -/
theorem exists_micro_run {config : ServiceConfig} (run : (system config).Run) :
    ∃ q : MicroService.system.Run, q.final = run.final.micro := by
  induction run using TransitionSystem.Run.induction with
  | nil => exact ⟨.extend .nil (.construct config) _ rfl, rfl⟩
  | extend run a s' h ih =>
      obtain ⟨q, hq⟩ := ih
      rcases (inv_step (inv_run run) h).2 with hsame | ⟨b, hb⟩
      · exact ⟨q, hq.trans hsame.symm⟩
      · exact ⟨q.extend b _ (hq ▸ hb), rfl⟩

/-- Only its destructor destroys a service. -/
theorem service_step {s s' : State} {a : Action} (h : Inv s) (hs : step s a = some s')
    (ha : a ≠ .destroyService) :
    s'.micro.service = s.micro.service ∨ s.micro.service = .constructing ∧
      (s'.micro.service = .live ∨ s'.micro.service = .failed) := by
  cases a with
  | enter target =>
      simp only [step] at hs
      split at hs
      · cases hs; exact .inl (congrArg _ (recount_ref s target).micro)
      · cases hs
  | addEndpoint k config =>
      simp only [step] at hs
      split at hs
      · next target hf =>
          cases hs
          obtain ⟨via, -, hstarts, -⟩ := follows_addEndpoint h hf config
          exact .inl hstarts.1
      · cases hs
  | addGroup k ok =>
      simp only [step] at hs
      split at hs
      · cases hs
        split <;> exact .inl rfl
      · cases hs
        split <;> exact .inl rfl
      · cases hs
  | inside a =>
      simp only [step] at hs
      split at hs
      · next ha =>
          obtain ⟨m, hm, rfl⟩ := Option.map_eq_some_iff.1 hs
          rcases (inside_step ha hm).2 with ⟨-, hsame⟩ | ⟨i, c, pc, hc, hpc, -, hsame | hnew⟩
          · exact .inl hsame
          · exact .inl hsame
          · refine .inr ⟨?_, hnew.2.2⟩
            rcases h.calls.running i c hc hpc with hfirst | ⟨f, -, -, hne⟩
            · exact hfirst.2
            · exact absurd ((h.calls.first i c hc).1 hnew.1) hne
      · cases hs
  | leave k =>
      simp only [step] at hs
      split at hs
      · next f hf =>
          split at hs
          · cases hs; exact .inl (congrArg _ (recount_deref s f.target).micro)
          · cases hs
      · cases hs
  | dropObject target =>
      simp only [step] at hs
      split at hs
      · cases hs
        exact .inl (congrArg _
          ((recount_deref s target).trans (recount_withoutObject _ target)).micro)
      · cases hs
  | destroyGroup g =>
      simp only [step] at hs
      split at hs
      · split at hs
        · cases hs; exact .inl rfl
        · cases hs
      · cases hs
  | destroyService => exact absurd rfl ha

/-- The destructor of the service runs once, without references. -/
theorem destroyService_spec {s s' : State} (h : Inv s) (hs : step s .destroyService = some s') :
    s' = s.destroyed ∧ Unreferenced s ∧ s.micro.service ≠ .destroyed := by
  simp only [step] at hs
  split at hs
  · next hcleaner =>
      cases hs
      refine ⟨rfl, h.unreferenced hcleaner, fun hdestroyed => ?_⟩
      have hdeleted := h.counts.service.not_deleted_of_cleaner hcleaner
      exact Bool.noConfusion (hdeleted.symm.trans (h.destroyed hdestroyed))
  · cases hs

/-- The calls of `microService_Destroy()`. -/
def destroys (s : State) : Action → List Unit
  | .destroyService => if s.micro.service = .live then [()] else []
  | _ => []

theorem destroys_run {config : ServiceConfig} (run : (system config).Run) :
    (run.outputs destroys).length = if run.final.micro.service = .destroyed then 1 else 0 := by
  induction run using TransitionSystem.Run.induction with
  | nil =>
      have hinit : (system config).init.micro.service ≠ .destroyed := fun hdestroyed =>
        Bool.noConfusion ((inv_init config).destroyed hdestroyed)
      exact (if_neg hinit).symm
  | extend run a s' h ih =>
      have hinv := inv_run run
      rw [TransitionSystem.Run.outputs_extend, List.length_append, ih]
      show _ = if s'.micro.service = .destroyed then 1 else 0
      by_cases ha : a = .destroyService
      · obtain rfl := ha
        obtain ⟨rfl, -, hnot⟩ := destroyService_spec hinv h
        rw [if_neg hnot]
        by_cases hlive : run.final.micro.service = .live
        · simp [destroys, State.destroyed, hlive]
        · simp [destroys, State.destroyed, hlive, hnot]
      · have hnone : destroys run.final a = [] := by
          cases a <;> first | rfl | exact absurd rfl ha
        rw [hnone]
        rcases service_step hinv h ha with hsame | ⟨hbefore, hafter⟩
        · rw [hsame]
          rfl
        · rcases hafter with hafter | hafter <;> simp [hbefore, hafter]

/-- Everything that refers to the service is gone, and every destructor has run. -/
structure Abandoned (s : State) : Prop where
  object : s.object = false
  frames : s.frames = []
  objects : ∀ G ∈ s.groups, G.object = false
  destructors : s.service.cleaners = [] ∧ ∀ G ∈ s.groups, G.counter.cleaners = []

theorem Inv.destroyed_of_abandoned {s : State} (h : Inv s) (ha : Abandoned s) :
    s.micro.service = .destroyed ∨ s.micro.service = .failed := by
  have hgroups : s.liveGroups = 0 := by
    refine List.countP_eq_zero.2 fun G hG => ?_
    obtain ⟨g, hg⟩ := List.getElem?_of_mem hG
    have hcount := h.counts.group g G hg
    have hzero : s.holders (.group g) = 0 := by
      simp [State.holders, State.objectOf, hg, ha.objects G hG, ha.frames]
    rw [hzero] at hcount
    simp [hcount.deleted_of_zero (ha.destructors.2 G hG)]
  have hservice := h.counts.service
  have hzero : s.holders .service = 0 := by
    simp [State.holders, State.objectOf, ha.object, ha.frames]
  rw [hzero, hgroups] at hservice
  exact h.deleted (hservice.deleted_of_zero ha.destructors.1)

/-- The reference counts of a service and of its groups, for every interleaving. They bring about
    what `MicroService.system` relies on, so every run of the service with its counts is one of that
    system. `microService_Destroy()` is called at most once, and only without Qore objects, running
    member functions and groups; no member function runs on a service or a group that is gone. When
    everything is gone, a service that was created has been destroyed. -/
theorem references_keep_service (config : ServiceConfig) (run : (system config).Run) :
    (∃ q : MicroService.system.Run, q.final = run.final.micro) ∧
      (run.outputs destroys).length = (if run.final.micro.service = .destroyed then 1 else 0) ∧
      (∀ s s', run.Occurs s .destroyService s' → Unreferenced s) ∧
      (∀ f ∈ run.final.frames, run.final.micro.service ≠ .destroyed ∧
        ∀ g, f.target = .group g → ∃ G, run.final.groups[g]? = some G ∧ G.counter.deleted = false) ∧
      (Abandoned run.final → run.final.micro.service = .destroyed ∨
        run.final.micro.service = .failed) := by
  have hinv := inv_run run
  refine ⟨exists_micro_run run, destroys_run run, fun s s' hoccurs => ?_, fun f hf => ⟨?_, ?_⟩,
    hinv.destroyed_of_abandoned⟩
  · obtain ⟨before, rfl, -⟩ := hoccurs.exists_run
    exact (destroyService_spec (inv_run before) hoccurs.step).2.1
  · intro hdestroyed
    have halive := (hinv.counts.service.alive (hinv.references_pos hf)).2
    exact Bool.noConfusion (halive.symm.trans (hinv.destroyed hdestroyed))
  · intro g hg
    have hlt := hinv.targets f hf g hg
    have hG : run.final.groups[g]? = some run.final.groups[g] := List.getElem?_eq_getElem hlt
    have hpos := holders_pos_of_frame hf
    rw [hg] at hpos
    exact ⟨_, hG, ((hinv.counts.group g _ hG).alive hpos).2⟩

/-- The object of the service goes first, then the one of its group, which was in use. -/
example : ((system ⟨some "service", some "1.0.0", none, none⟩).exec
    (system ⟨some "service", some "1.0.0", none, none⟩).init
    [.inside (.answer 0 none), .inside (.finish 0), .enter .service, .addGroup 0 true, .leave 0,
      .enter (.group 0), .dropObject .service, .dropObject (.group 0),
      .addEndpoint 0 ⟨some "endpoint", none, true⟩, .inside (.answer 1 none),
      .inside (.finish 1), .leave 0, .destroyGroup 0, .destroyService]).map
    (·.micro.service) = some .destroyed := by
  rfl

end ModuleNats.MicroReferences
