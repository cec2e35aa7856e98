import ModuleNats.MicroService.Steps

set_option autoImplicit false

/-! # Every handler context is released exactly once

A context is held by the call that created it, by the shared list, or by the done handler. A step
creates one, uses one that an endpoint has, releases one that it holds, or moves them between these
places. Requests run only before the done handler is called, and until then the context of every
endpoint is with the call that added it or in the shared list, so no running request loses its
context. -/

namespace ModuleNats.MicroService

open Ownership State

/-! ## The places of a context -/

/-- The contexts that the done handler still has to release. -/
def DoneHandler.contexts : DoneHandler → List ℕ
  | .releasing handlers => handlers
  | _ => []

/-- The contexts that have not been released. -/
def State.contexts (s : State) : List ℕ :=
  s.calls.filterMap (·.pc.ctx) ++ (s.handlers ++ s.doneHandler.contexts)

/-- Their objects. -/
def State.held (s : State) : List Object := s.contexts.flatMap parts

/-- Changing one call exchanges its context. -/
theorem contexts_set {s : State} {i : ℕ} {c : Call} (hc : s.calls[i]? = some c) (pc : CallPc) :
    ∃ rest, s.contexts.Perm (c.pc.ctx.toList ++ (rest ++ (s.handlers ++ s.doneHandler.contexts))) ∧
      ((s.calls.set i { c with pc := pc }).filterMap (·.pc.ctx)).Perm (pc.ctx.toList ++ rest) := by
  obtain ⟨rest, hbefore, hafter⟩ :=
    exists_perm_filterMap_set (fun c : Call => c.pc.ctx) hc { c with pc := pc }
  refine ⟨rest, ?_, hafter⟩
  rw [contexts, ← List.append_assoc c.pc.ctx.toList]
  exact hbefore.append_right _

/-- What a step does to the contexts. -/
inductive Moves (s s' : State) : Prop where
  | keep (hlog : s'.log = s.log) (hcreated : s'.created = s.created)
      (hp : s'.contexts.Perm s.contexts)
  | create (hlog : s'.log = ((parts s.created).map Op.acquire).reverse ++ s.log)
      (hcreated : s'.created = s.created + 1) (hp : s'.contexts.Perm (s.created :: s.contexts))
  | use (ctx : ℕ)
      (hctx : ctx ∈ s.running ∨ s.doneHandler = .waiting ∧ ctx ∈ s.endpoints)
      (hlog : s'.log = ((parts ctx).map Op.use).reverse ++ s.log)
      (hcreated : s'.created = s.created) (hp : s'.contexts.Perm s.contexts)
  | release (ctx : ℕ) (objects : List Object) (hobjects : (parts ctx).Perm objects)
      (hlog : s'.log = (objects.map Op.release).reverse ++ s.log)
      (hcreated : s'.created = s.created) (hp : s.contexts.Perm (ctx :: s'.contexts))

/-- The order in which a context is released. -/
theorem parts_perm (ctx : ℕ) : (parts ctx).Perm [⟨.handler, ctx⟩, ⟨.pgm, ctx⟩, ⟨.ctx, ctx⟩] :=
  (List.perm_append_singleton (⟨.ctx, ctx⟩ : Object) [⟨.handler, ctx⟩, ⟨.pgm, ctx⟩]).symm

/-- A change of a call that holds the same context before and after. -/
theorem moves_setPc {s : State} {i : ℕ} {c : Call} (hc : s.calls[i]? = some c) {pc : CallPc}
    (hctx : pc.ctx = c.pc.ctx) : (s.setPc i c pc).contexts.Perm s.contexts := by
  obtain ⟨rest, hbefore, hafter⟩ := contexts_set hc pc
  refine List.Perm.trans ?_ hbefore.symm
  rw [← hctx, ← List.append_assoc]
  exact hafter.append_right _

/-- A call that held a context, and holds none any more. -/
theorem contexts_setPc_of_some {s : State} {i ctx : ℕ} {c : Call} (hc : s.calls[i]? = some c)
    (hctx : c.pc.ctx = some ctx) (pc : CallPc) (hpc : pc.ctx = none) :
    s.contexts.Perm (ctx :: (s.setPc i c pc).contexts) := by
  obtain ⟨rest, hbefore, hafter⟩ := contexts_set hc pc
  rw [hctx] at hbefore
  rw [hpc] at hafter
  exact hbefore.trans ((hafter.symm.append_right _).cons ctx)

theorem moves_of_step {s s' : State} {a : Action} (h : Step s a s') : Moves s s' := by
  cases h with
  | @begin _ via name cfg handler service hcfg =>
      cases handler with
      | true =>
          refine .create rfl rfl ?_
          have hctx : (CallPc.adding cfg).ctx = some s.created := hcfg
          simp only [contexts, create, startCall, if_true, List.filterMap_append, List.append_assoc]
          simp [hctx]
      | false =>
          refine .keep rfl rfl (List.Perm.of_eq ?_)
          have hctx : (CallPc.adding cfg).ctx = none := hcfg
          simp [contexts, create, startCall, hctx]
  | refuse =>
      refine .keep rfl rfl (List.Perm.of_eq ?_)
      simp [contexts, refuse, startCall, CallPc.ctx]
  | objects => exact .keep rfl rfl (List.Perm.refl _)
  | endpointAdded hc hpc => exact .keep rfl rfl (moves_setPc hc rfl)
  | notAdded hc hpc => exact .keep rfl rfl (moves_setPc hc rfl)
  | @register i ctx c hc hpc hdone =>
      refine .keep rfl rfl ?_
      have hctx : c.pc.ctx = some ctx := by rw [hpc]; rfl
      have hmoved := contexts_setPc_of_some hc hctx (.returned none) rfl
      refine List.Perm.trans (List.perm_iff_count.2 fun x => ?_) hmoved.symm
      simp only [contexts, returnCall, setPc, List.count_append, List.count_cons, List.count_nil]
      omega
  | registerLate hc hpc hdone => exact .keep rfl rfl (moves_setPc hc (by rw [hpc]; rfl))
  | finish hc hctx => exact .keep rfl rfl (moves_setPc hc hctx.symm)
  | @discard _ i ctx c result hc hpc =>
      have hctx : c.pc.ctx = some ctx := by
        rcases hpc with ⟨err, hpc⟩ | hpc <;> rw [hpc] <;> rfl
      exact .release ctx _ (parts_perm ctx) rfl rfl
        (contexts_setPc_of_some hc hctx (.returned result) rfl)
  | @deliver ctx hctx hwaiting =>
      exact .use ctx (.inr ⟨hwaiting, hctx⟩) rfl rfl (List.Perm.refl _)
  | @respond k ctx hctx =>
      exact .use ctx (.inl (List.mem_of_getElem? hctx)) rfl rfl (List.Perm.refl _)
  | serviceDone hwaiting hrunning =>
      refine .keep rfl rfl (List.Perm.of_eq ?_)
      simp [contexts, hwaiting, DoneHandler.contexts]
  | @releaseNext ctx handlers hhandler =>
      refine .release ctx _ (parts_perm ctx) rfl rfl ?_
      simp only [contexts, hhandler, DoneHandler.contexts, releaseObjects, ← List.append_assoc]
      exact List.perm_middle
  | doneReturns hhandler =>
      refine .keep rfl rfl (List.Perm.of_eq ?_)
      simp [contexts, hhandler, DoneHandler.contexts]

/-! ## Which contexts requests use -/

/-- Before the done handler is called, the context of every endpoint waits to be registered, or is
    in the shared list; afterwards no request runs. -/
structure Usable (s : State) : Prop where
  waiting : s.doneHandler = .waiting → s.done = false ∧ ∀ ctx ∈ s.endpoints,
    (∃ c ∈ s.calls, c.pc = .added (some ctx)) ∨ ctx ∈ s.handlers
  called : s.doneHandler ≠ .waiting → s.done = true ∧ s.handlers = [] ∧ s.running = []
  running : ∀ ctx ∈ s.running, ctx ∈ s.endpoints

/-- A call that is changed leaves the others. -/
theorem added_set {calls : List Call} {i ctx : ℕ} {c : Call} (hc : calls[i]? = some c)
    (hpc : c.pc ≠ .added (some ctx)) (c' : Call) (h : ∃ c ∈ calls, c.pc = .added (some ctx)) :
    ∃ c ∈ calls.set i c', c.pc = .added (some ctx) := by
  obtain ⟨q, hq, hqpc⟩ := h
  obtain ⟨j, hj⟩ := List.getElem?_of_mem hq
  have hij : i ≠ j := by
    rintro rfl
    obtain rfl : c = q := Option.some.inj (hc.symm.trans hj)
    exact hpc hqpc
  exact ⟨q, List.mem_of_getElem? (List.getElem?_set_ne hij ▸ hj), hqpc⟩

theorem Usable.done_iff {s : State} (h : Usable s) : s.done = true ↔ s.doneHandler ≠ .waiting := by
  constructor
  · intro hdone hwaiting
    exact Bool.noConfusion (hdone.symm.trans (h.waiting hwaiting).1)
  · exact fun hcalled => (h.called hcalled).1

/-- A call that was not about to register a context changes nothing for the endpoints. -/
theorem Usable.setPc {s : State} (h : Usable s) {i : ℕ} {c : Call} (hc : s.calls[i]? = some c)
    (hpc : ∀ ctx, c.pc ≠ .added (some ctx)) (pc : CallPc) : Usable (s.setPc i c pc) where
  waiting hwaiting := by
    obtain ⟨hdone, hall⟩ := h.waiting hwaiting
    exact ⟨hdone, fun ctx hctx => (hall ctx hctx).imp_left (added_set hc (hpc ctx) _)⟩
  called := h.called
  running := h.running

theorem Usable.returnCall {s : State} (h : Usable s) {i : ℕ} {c : Call}
    (hc : s.calls[i]? = some c) (hpc : ∀ ctx, c.pc ≠ .added (some ctx))
    (result : Option ExceptionInfo) : Usable (s.returnCall i c result) := by
  have hset := h.setPc hc hpc (.returned result)
  exact ⟨hset.waiting, hset.called, hset.running⟩

theorem Usable.releaseObjects {s : State} (h : Usable s) (objects : List Object) :
    Usable (s.releaseObjects objects) := ⟨h.waiting, h.called, h.running⟩

/-- A new call has nothing to register yet. -/
theorem Usable.startCall {s : State} (h : Usable s) (c : Call) : Usable (s.startCall c) where
  waiting hwaiting := by
    obtain ⟨hdone, hall⟩ := h.waiting hwaiting
    refine ⟨hdone, fun ctx hctx => (hall ctx hctx).imp_left ?_⟩
    rintro ⟨q, hq, hqpc⟩
    exact ⟨q, List.mem_append_left _ hq, hqpc⟩
  called := h.called
  running := h.running

theorem usable_step {s s' : State} {a : Action} (h : Usable s) (hstep : Step s a s') :
    Usable s' := by
  cases hstep with
  | @begin _ via name cfg handler service hcfg =>
      have hcreate : Usable (s.create handler) := by
        cases handler <;> exact ⟨h.waiting, h.called, h.running⟩
      have hstart := hcreate.startCall ⟨via, name, .adding cfg⟩
      exact ⟨hstart.waiting, hstart.called, hstart.running⟩
  | @refuse _ via desc service =>
      have hstart := h.startCall ⟨via, "", .returned (some (microError desc))⟩
      exact ⟨hstart.waiting, hstart.called, hstart.running⟩
  | objects => exact ⟨h.waiting, h.called, h.running⟩
  | @endpointAdded i c cfg hc hpc =>
      have hset := h.setPc hc (by simp [hpc]) (.added c.pc.ctx)
      refine ⟨fun hwaiting => ?_, h.called, fun ctx hctx =>
        List.mem_append_left _ (h.running ctx hctx)⟩
      obtain ⟨hdone, hall⟩ := hset.waiting hwaiting
      refine ⟨hdone, fun ctx hctx => ?_⟩
      rcases List.mem_append.1 hctx with hctx | hctx
      · exact hall ctx hctx
      · -- the new endpoint
        have hnew : c.pc.ctx = some ctx := Option.mem_toList.1 hctx
        have hlt := (List.getElem?_eq_some_iff.1 hc).1
        exact .inl ⟨_, List.mem_set hlt _, congrArg CallPc.added hnew⟩
  | notAdded hc hpc => exact h.setPc hc (by simp [hpc]) _
  | @register i ctx c hc hpc hdone =>
      have hwaiting : s.doneHandler = .waiting := by
        by_contra hcalled
        exact Bool.noConfusion (hdone.symm.trans (h.called hcalled).1)
      refine ⟨fun _ => ⟨hdone, fun x hx => ?_⟩, fun hcalled => absurd hwaiting hcalled, h.running⟩
      by_cases hctx : x = ctx
      · exact .inr (hctx ▸ List.mem_append_right _ List.mem_cons_self)
      · have hother : c.pc ≠ .added (some x) := by
          rw [hpc]
          exact fun heq => hctx (Option.some.inj (CallPc.added.inj heq)).symm
        rcases (h.waiting hwaiting).2 x hx with hadded | hx
        · exact .inl (added_set hc hother _ hadded)
        · exact .inr (List.mem_append_left _ hx)
  | @registerLate i ctx c hc hpc hdone =>
      have hcalled := h.done_iff.1 hdone
      exact ⟨fun hwaiting => absurd hwaiting hcalled, h.called, h.running⟩
  | finish hc hctx => exact h.returnCall hc (fun ctx hpc => by simp [hpc, CallPc.ctx] at hctx) _
  | discard hc hpc =>
      exact (h.releaseObjects _).returnCall hc (fun ctx hadded => by simp [hadded] at hpc) _
  | deliver hctx hwaiting =>
      refine ⟨h.waiting, fun hcalled => absurd hwaiting hcalled, fun ctx hmem => ?_⟩
      rcases List.mem_append.1 hmem with hmem | hmem
      · exact h.running ctx hmem
      · exact List.mem_singleton.1 hmem ▸ hctx
  | respond hctx =>
      refine ⟨h.waiting, fun hcalled => ?_, fun ctx hmem => ?_⟩
      · obtain ⟨hdone, hhandlers, hrunning⟩ := h.called hcalled
        simp [hrunning] at hctx
      · exact h.running ctx (List.eraseIdx_subset hmem)
  | serviceDone hwaiting hrunning => exact ⟨nofun, fun _ => ⟨rfl, rfl, hrunning⟩, h.running⟩
  | releaseNext hhandler =>
      have hcalled := h.called (by rw [hhandler]; exact nofun)
      exact ⟨nofun, fun _ => hcalled, h.running⟩
  | doneReturns hhandler =>
      have hcalled := h.called (by rw [hhandler]; exact nofun)
      exact ⟨nofun, fun _ => hcalled, h.running⟩

/-- A context that a request uses, or may use, is held. -/
theorem Usable.mem_contexts {s : State} (h : Usable s) {ctx : ℕ}
    (hctx : ctx ∈ s.running ∨ s.doneHandler = .waiting ∧ ctx ∈ s.endpoints) :
    ctx ∈ s.contexts := by
  have hendpoint : s.doneHandler = .waiting ∧ ctx ∈ s.endpoints := by
    rcases hctx with hrunning | hendpoint
    · refine ⟨?_, h.running ctx hrunning⟩
      by_contra hcalled
      exact List.not_mem_nil ((h.called hcalled).2.2 ▸ hrunning)
    · exact hendpoint
  rw [contexts, List.mem_append, List.mem_append]
  rcases (h.waiting hendpoint.1).2 ctx hendpoint.2 with ⟨c, hc, hpc⟩ | hmem
  · exact .inl (List.mem_filterMap.2 ⟨c, hc, by rw [hpc]; rfl⟩)
  · exact .inr (.inl hmem)

/-! ## Steps keep every context -/

theorem mem_parts {o : Object} {id : ℕ} : o ∈ parts id ↔ o.id = id := by
  obtain ⟨part, n⟩ := o
  cases part <;> simp [parts]

theorem nodup_parts (id : ℕ) : (parts id).Nodup := by
  simp [parts]

/-- Every object that was created is live in exactly one place, or was released. -/
structure Kept (s : State) : Prop where
  owns : Owns s.log s.held
  lost : NothingLost s.log s.held
  created : ∀ o : Object, Op.acquire o ∈ s.log ↔ o.id < s.created

theorem kept_moves {s s' : State} (h : Kept s) (husable : Usable s) (hm : Moves s s') :
    Kept s' := by
  cases hm with
  | keep hlog hcreated hp =>
      have hheld : s'.held.Perm s.held := hp.flatMap_right parts
      constructor
      · exact hlog ▸ h.owns.perm hheld
      · exact hlog ▸ h.lost.perm hheld
      · rw [hlog, hcreated]
        exact h.created
  | create hlog hcreated hp =>
      have hheld : s'.held.Perm (parts s.created ++ s.held) := hp.flatMap_right parts
      have hfresh : ∀ o ∈ parts s.created, Op.acquire o ∉ s.log := by
        intro o ho hmem
        have hlt := (h.created o).1 hmem
        rw [mem_parts.1 ho] at hlt
        exact lt_irrefl _ hlt
      constructor
      · exact hlog ▸ (h.owns.acquireAll _ hfresh (nodup_parts _)).perm hheld
      · exact hlog ▸ (h.lost.acquireAll _).perm hheld
      · intro o
        rw [hlog, hcreated, List.mem_append, List.mem_reverse, h.created o,
          Nat.lt_succ_iff_lt_or_eq]
        simp only [List.mem_map, Op.acquire.injEq, exists_eq_right, mem_parts]
        exact or_comm
  | use ctx hctx hlog hcreated hp =>
      have hheld : s'.held.Perm s.held := hp.flatMap_right parts
      have hused : ∀ o ∈ parts ctx, o ∈ s.held := fun o ho =>
        List.mem_flatMap.2 ⟨ctx, husable.mem_contexts hctx, ho⟩
      constructor
      · exact hlog ▸ (h.owns.useAll _ hused).perm hheld
      · exact hlog ▸ (h.lost.useAll _).perm hheld
      · intro o
        rw [hlog, hcreated, List.mem_append, ← h.created o]
        simp
  | release ctx objects hobjects hlog hcreated hp =>
      have hheld : (objects ++ s'.held).Perm s.held :=
        ((hobjects.symm.append_right _).trans (hp.flatMap_right parts).symm)
      constructor
      · exact hlog ▸ (h.owns.perm hheld).releaseAll objects
      · exact hlog ▸ (h.lost.perm hheld).releaseAll objects
      · intro o
        rw [hlog, hcreated, List.mem_append, ← h.created o]
        simp

theorem kept_run (run : system.Run) : Kept run.final ∧ Usable run.final := by
  refine run.invariant (I := fun s => Kept s ∧ Usable s) ⟨?_, ?_⟩ ?_
  · exact ⟨owns_nil, nothingLost_nil, fun o => iff_of_false nofun (Nat.not_lt_zero _)⟩
  · exact ⟨fun _ => ⟨rfl, nofun⟩, fun h => absurd rfl h, nofun⟩
  · intro s a s' ⟨hkept, husable⟩ hstep
    have hcases := step_cases hstep
    exact ⟨kept_moves hkept husable (moves_of_step hcases), usable_step husable hcases⟩

/-- When the done handler and all calls have returned, no place holds a context. -/
theorem contexts_eq_nil {s : State} (h : Usable s) (hdone : s.doneHandler = .finished)
    (hcalls : ∀ c ∈ s.calls, c.pc.isReturned) : s.contexts = [] := by
  have hhandlers := (h.called (by rw [hdone]; exact nofun)).2.1
  have hnone : s.calls.filterMap (·.pc.ctx) = [] := by
    refine List.filterMap_eq_nil_iff.2 fun c hc => ?_
    have hreturned := hcalls c hc
    cases hpc : c.pc <;> simp [hpc, CallPc.isReturned, CallPc.ctx] at hreturned ⊢
  simp [contexts, hnone, hhandlers, hdone, DoneHandler.contexts]

/-- The lifecycle of the handler contexts, for every interleaving. Nothing touches an object after
    its release, and none is released twice. The context of a running request has not been released.
    A context is either in one of its places or released exactly once, and it is released once the
    done handler and all calls have returned, whenever it was registered. -/
theorem handler_contexts_released_once (run : system.Run) :
    (∀ newer older o, run.final.log = newer ++ Op.release o :: older →
      ∀ op ∈ newer, op.object ≠ o) ∧
    (∀ o, run.final.log.count (.release o) ≤ 1) ∧
    (∀ ctx ∈ run.final.running, ∀ o ∈ parts ctx, Live run.final.log o) ∧
    (∀ ctx < run.final.created, ∀ o ∈ parts ctx,
      (run.final.log.count (.release o) = 1 ↔ ctx ∉ run.final.contexts)) ∧
    (run.final.doneHandler = .finished → (∀ c ∈ run.final.calls, c.pc.isReturned) →
      ∀ ctx < run.final.created, ∀ o ∈ parts ctx, run.final.log.count (.release o) = 1) := by
  obtain ⟨hkept, husable⟩ := kept_run run
  have hreleased : ∀ ctx < run.final.created, ∀ o ∈ parts ctx,
      (run.final.log.count (.release o) = 1 ↔ ctx ∉ run.final.contexts) := by
    intro ctx hctx o ho
    have hid := mem_parts.1 ho
    rw [hkept.owns.released_once_iff hkept.lost ((hkept.created o).2 (hid ▸ hctx))]
    simp [State.held, mem_parts, hid]
  refine ⟨fun newer older o hlog => ?_, hkept.owns.legal.count_release_le_one, ?_, hreleased, ?_⟩
  · exact (hlog ▸ hkept.owns.legal).untouched_after_release
  · intro ctx hctx o ho
    exact hkept.owns.live o (List.mem_flatMap.2 ⟨ctx, husable.mem_contexts (.inl hctx), ho⟩)
  · intro hdone hcalls ctx hctx o ho
    rw [hreleased ctx hctx o ho, contexts_eq_nil husable hdone hcalls]
    exact List.not_mem_nil

/-- An endpoint that is registered after the done handler was called. -/
example : (system.exec system.init
    [.construct ⟨some "service", some "1.0.0", none, none⟩, .answer 0 none, .finish 0,
      .addEndpoint .service ⟨some "endpoint", none, true⟩, .answer 1 none, .deliver 0, .respond 0,
      .serviceDone, .finish 1, .releaseNext, .release 1]).map (·.contexts) = some [] := by
  rfl

end ModuleNats.MicroService
