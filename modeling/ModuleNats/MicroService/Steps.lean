import ModuleNats.MicroService.Model

set_option autoImplicit false

/-! # What a step of a micro service can do

`step` is unfolded here only. Steps that create a context, that only change the objects of the
service and of its groups, or that do one and the same thing for different calls, are one
constructor. -/

namespace ModuleNats.MicroService

open Ownership State

/-- Every step. -/
inductive Step (s : State) : Action → State → Prop where
  | begin {a : Action} {via : Via} {name : String} {cfg : Option MicroEndpointConfig}
      (handler : Bool) (service : Service)
      (hcfg : cfg.bind (·.state) = if handler then some s.created else none) :
      Step s a { (s.create handler).startCall ⟨via, name, .adding cfg⟩ with service := service }
  | refuse {a : Action} {via : Via} {desc : String} (service : Service) :
      Step s a { s.refuse via desc with service := service }
  | objects {a : Action} (service : Service) (groups : ℕ) :
      Step s a { s with service := service, groups := groups }
  | endpointAdded {i : ℕ} {c : Call} {cfg : Option MicroEndpointConfig} (hc : s.calls[i]? = some c)
      (hpc : c.pc = .adding cfg) : Step s (.answer i none)
        { s.setPc i c (.added c.pc.ctx) with endpoints := s.endpoints ++ c.pc.ctx.toList }
  | notAdded {i : ℕ} {c : Call} {cfg : Option MicroEndpointConfig} {text : String}
      {err : ExceptionInfo} (hc : s.calls[i]? = some c) (hpc : c.pc = .adding cfg) :
      Step s (.answer i (some text)) (s.setPc i c (.failed c.pc.ctx err))
  | register {i ctx : ℕ} {c : Call} (hc : s.calls[i]? = some c) (hpc : c.pc = .added (some ctx))
      (hdone : s.done = false) : Step s (.finish i)
        { s.returnCall i c none with handlers := s.handlers ++ [ctx] }
  | registerLate {i ctx : ℕ} {c : Call} (hc : s.calls[i]? = some c)
      (hpc : c.pc = .added (some ctx)) (hdone : s.done = true) :
      Step s (.finish i) (s.setPc i c (.releasing ctx))
  /-- a call that holds no context returns -/
  | finish {i : ℕ} {c : Call} {result : Option ExceptionInfo} (hc : s.calls[i]? = some c)
      (hctx : c.pc.ctx = none) : Step s (.finish i) (s.returnCall i c result)
  /-- a call releases its context and returns -/
  | discard {a : Action} {i ctx : ℕ} {c : Call} {result : Option ExceptionInfo}
      (hc : s.calls[i]? = some c)
      (hpc : (∃ err, c.pc = .failed (some ctx) err) ∨ c.pc = .releasing ctx) :
      Step s a ((s.releaseObjects [⟨.handler, ctx⟩, ⟨.pgm, ctx⟩, ⟨.ctx, ctx⟩]).returnCall i c
        result)
  | deliver {ctx : ℕ} (hctx : ctx ∈ s.endpoints) (hwaiting : s.doneHandler = .waiting) :
      Step s (.deliver ctx) { s.useContext ctx with running := s.running ++ [ctx] }
  | respond {k ctx : ℕ} (hctx : s.running[k]? = some ctx) :
      Step s (.respond k) { s.useContext ctx with running := s.running.eraseIdx k }
  | serviceDone (hwaiting : s.doneHandler = .waiting) (hrunning : s.running = []) :
      Step s .serviceDone
        { s with done := true, doneHandler := .releasing s.handlers, handlers := [] }
  | releaseNext {ctx : ℕ} {handlers : List ℕ}
      (hhandler : s.doneHandler = .releasing (ctx :: handlers)) :
      Step s .releaseNext
        { s.releaseObjects [⟨.handler, ctx⟩, ⟨.pgm, ctx⟩, ⟨.ctx, ctx⟩] with
          doneHandler := .releasing handlers }
  | doneReturns (hhandler : s.doneHandler = .releasing []) :
      Step s .releaseNext { s with doneHandler := .finished }

theorem step_construct {s : State} {a : Action} (config : ServiceConfig) :
    Step s a (s.construct config) := by
  unfold construct
  split
  · next name version _ =>
      split
      · exact .begin (s := s) false _ rfl
      · next endpoint _ =>
          split
          · exact .refuse _
          · exact .begin _ _ rfl
  · exact .refuse _

theorem step_addEndpoint {s : State} {a : Action} (via : Via) (config : EndpointConfig) :
    Step s a (s.addEndpoint via config) := by
  unfold addEndpoint
  split
  · exact .refuse s.service
  · exact .begin _ (s.create config.handler).service rfl

theorem step_cases {s s' : State} {a : Action} (h : step s a = some s') : Step s a s' := by
  cases a with
  | construct config =>
      simp only [step] at h
      split at h
      · cases h
        exact step_construct config
      · cases h
  | addEndpoint via config =>
      cases via with
      | constructor => cases h
      | service =>
          simp only [step] at h
          split at h
          · cases h
            exact step_addEndpoint _ _
          · cases h
            exact .refuse s.service
          · cases h
            exact .refuse s.service
          · cases h
      | group =>
          simp only [step] at h
          split at h
          · cases h
            exact step_addEndpoint _ _
          · cases h
            exact .refuse s.service
  | answer i error =>
      simp only [step] at h
      split at h
      · next c hc =>
          split at h
          · next cfg hpc =>
              have hctx : cfg.bind (·.state) = c.pc.ctx := by rw [hpc]; rfl
              cases h
              cases error with
              | none =>
                  simp only [State.answer, hctx]
                  exact .endpointAdded hc hpc
              | some text =>
                  simp only [State.answer, hctx]
                  exact .notAdded hc hpc
          · cases h
      · cases h
  | finish i =>
      simp only [step] at h
      split at h
      · next c hc =>
          split at h
          · next ctx hpc =>
              cases h
              cases hdone : s.done with
              | true =>
                  simp only [registerHandler, hdone, if_true]
                  exact .registerLate hc hpc hdone
              | false =>
                  simp only [registerHandler, hdone, Bool.false_eq_true, if_false]
                  exact .register hc hpc hdone
          · next hpc =>
              cases h
              exact .finish hc (by rw [hpc]; rfl)
          · next ctx err hpc =>
              cases h
              cases ctx with
              | none => exact .finish hc (by rw [hpc]; rfl)
              | some ctx => exact .discard hc (.inl ⟨err, hpc⟩)
          · cases h
      · cases h
  | release i =>
      simp only [step] at h
      split at h
      · next c hc =>
          split at h
          · next ctx hpc =>
              cases h
              exact .discard hc (.inr hpc)
          · cases h
      · cases h
  | addGroup via =>
      simp only [step] at h
      split at h
      · cases h
        exact .objects s.service _
      · cases h
  | dropGroup =>
      simp only [step] at h
      split at h
      · cases h
        exact .objects s.service _
      · cases h
  | stop =>
      simp only [step] at h
      split at h
      · cases h
        exact .objects s.service s.groups
      · cases h
  | destroy =>
      simp only [step] at h
      split at h
      · cases h
        exact .objects _ s.groups
      · cases h
  | deliver ctx =>
      simp only [step] at h
      split at h
      · next hctx =>
          cases h
          exact .deliver hctx.1 hctx.2
      · cases h
  | respond k =>
      simp only [step] at h
      split at h
      · next ctx hctx =>
          cases h
          exact .respond hctx
      · cases h
  | serviceDone =>
      simp only [step] at h
      split at h
      · next hdone =>
          cases h
          exact .serviceDone hdone.1 hdone.2.1
      · cases h
  | releaseNext =>
      simp only [step] at h
      split at h
      · next ctx handlers hhandler =>
          cases h
          exact .releaseNext hhandler
      · next hhandler =>
          cases h
          exact .doneReturns hhandler
      · cases h

end ModuleNats.MicroService
