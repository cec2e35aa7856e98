import ModuleNats.Connection.Model

set_option autoImplicit false

/-! # What a step of a connection can do

`step` is unfolded here only. -/

namespace ModuleNats.Connection

open Ownership RefCount State

/-- Every step. -/
inductive Step (s : State) : Action → State → Prop where
  | setupCallbacks {given : List Callback} {pgm : Bool} (hpc : s.pc = .fresh) :
      Step s (.setupCallbacks given pgm) (s.setupCallbacks given pgm)
  | setCallback {cb : Callback} {given : Bool} {left : List (Callback × Bool)}
      {c : NatsCallbackContext} {error : Option String} (hpc : s.pc = .setup ((cb, given) :: left))
      (hctx : s.ctx = some c) :
      Step s (.setCallback error) ((s.keepClosure c cb given).setCallback cb left error)
  | checkFails {ex : ExceptionInfo} (hpc : s.pc = .ready) :
      Step s (.check (some ex)) { s with pc := .constructed, raised := some ex }
  | connect {c : NatsCallbackContext} (hpc : s.pc = .ready) (hctx : s.ctx = some c)
      (hcb : s.cbCtx = true) : Step s (.check none) { s.ref c with pc := .connecting }
  /-- without a context there is nothing to count -/
  | connectPlain (hpc : s.pc = .ready) (hctx : s.ctx = none ∨ s.cbCtx = false) :
      Step s (.check none) { s with pc := .connecting }
  | createConnection (hpc : s.pc = .connecting) :
      Step s .createConnection { s with created := true }
  | connectReturns {error : Option String} {kept raised : Option ExceptionInfo}
      (hpc : s.pc = .connecting) (hcreated : s.created = true ∨ s.cbCtx = false) :
      Step s (.connectReturns error kept) { s with pc := .constructed, raised := raised }
  | connectFails {error : Option String} {kept raised : Option ExceptionInfo}
      (hpc : s.pc = .connecting) (hcreated : s.created = false) (hcb : s.cbCtx = true) :
      Step s (.connectReturns error kept) { s with pc := .unconnected, raised := raised }
  | releaseUnconnected {c : NatsCallbackContext} (hpc : s.pc = .unconnected)
      (hctx : s.ctx = some c) :
      Step s .releaseUnconnected { s.release c .object with pc := .constructed }
  | startCallback {cb : Callback} {c : NatsCallbackContext} (hctx : s.ctx = some c)
      (hcreated : s.created = true) (hclosed : s.closed = .pending) :
      Step s (.startCallback cb) { s.use (c.execCallback cb) with running := s.running ++ [cb] }
  | endCallback {k : ℕ} {cb : Callback} {c : NatsCallbackContext} (hctx : s.ctx = some c)
      (hcb : s.running[k]? = some cb) : Step s (.endCallback k)
        { s.use (c.execCallback cb) with running := s.running.eraseIdx k }
  | startClosed {c : NatsCallbackContext} (hctx : s.ctx = some c) (hcreated : s.created = true)
      (hclosed : s.closed = .pending) (hrunning : s.running = []) :
      Step s .startClosed { s.use (c.execCallback .closed) with closed := .running }
  | endClosed {c : NatsCallbackContext} (hctx : s.ctx = some c) (hclosed : s.closed = .running) :
      Step s .endClosed { s.use (c.execCallback .closed) with closed := .releasing }
  | releaseClosed {c : NatsCallbackContext} (hctx : s.ctx = some c)
      (hclosed : s.closed = .releasing) :
      Step s .releaseClosed { s.release c .callback with closed := .returned }
  | close : Step s .close s
  | destroy (hpc : s.pc = .constructed) : Step s .destroy { s with pc := .destroying }
  | destroyConnection (hpc : s.pc = .destroying) :
      Step s .destroyConnection { s with pc := .dropping }
  | releaseObject {c : NatsCallbackContext} (hpc : s.pc = .dropping) (hctx : s.ctx = some c)
      (hcb : s.cbCtx = true) :
      Step s .releaseObject { s.release c .object with pc := .destroyed, cbCtx := false }
  | releaseNothing (hpc : s.pc = .dropping) (hctx : s.ctx = none ∨ s.cbCtx = false) :
      Step s .releaseObject { s with pc := .destroyed }
  | clean {t : Thread} {c : NatsCallbackContext} (hctx : s.ctx = some c)
      (ht : t ∈ c.refs.cleaners) : Step s (.clean t) (s.clean c t)

theorem step_check {s s' : State} {error : Option ExceptionInfo}
    (h : step s (.check error) = some s') : Step s (.check error) s' := by
  simp only [step] at h
  split at h
  · next hpc =>
      cases error with
      | some ex =>
          cases h
          exact .checkFails hpc
      | none =>
          simp only at h
          split at h
          · next c hctx =>
              split at h
              · next hcb =>
                  cases h
                  exact .connect hpc hctx hcb
              · next hcb =>
                  cases h
                  exact .connectPlain hpc (.inr (Bool.eq_false_iff.2 hcb))
          · next hctx =>
              cases h
              exact .connectPlain hpc (.inl hctx)
  · cases h

theorem step_connectReturns {s s' : State} {error : Option String} {kept : Option ExceptionInfo}
    (h : step s (.connectReturns error kept) = some s') :
    Step s (.connectReturns error kept) s' := by
  simp only [step] at h
  split at h
  · next hpc =>
      cases h
      by_cases hfails : (s.cbCtx && !s.created) = true
      · rw [if_pos hfails]
        rw [Bool.and_eq_true, Bool.not_eq_true'] at hfails
        exact .connectFails hpc hfails.2 hfails.1
      · rw [if_neg hfails]
        refine .connectReturns hpc ?_
        rcases Bool.eq_false_or_eq_true s.created with hcreated | hcreated
        · exact .inl hcreated
        · exact .inr (by simpa [hcreated] using hfails)
  · cases h

theorem step_releaseObject {s s' : State} (h : step s .releaseObject = some s') :
    Step s .releaseObject s' := by
  simp only [step] at h
  split at h
  · next hpc =>
      split at h
      · next c hctx =>
          split at h
          · next hcb =>
              cases h
              exact .releaseObject hpc hctx hcb
          · next hcb =>
              cases h
              exact .releaseNothing hpc (.inr (Bool.eq_false_iff.2 hcb))
      · next hctx =>
          cases h
          exact .releaseNothing hpc (.inl hctx)
  · cases h

theorem step_cases {s s' : State} {a : Action} (h : step s a = some s') : Step s a s' := by
  cases a with
  | check error => exact step_check h
  | connectReturns error kept => exact step_connectReturns h
  | releaseObject => exact step_releaseObject h
  | setupCallbacks given pgm =>
      simp only [step] at h
      split at h
      · next hpc =>
          cases h
          exact .setupCallbacks hpc
      · cases h
  | setCallback error =>
      simp only [step] at h
      split at h
      · next cb given left c hpc hctx =>
          cases h
          exact .setCallback hpc hctx
      · cases h
  | createConnection =>
      simp only [step] at h
      split at h
      · next hpc =>
          cases h
          exact .createConnection hpc.1
      · cases h
  | releaseUnconnected =>
      simp only [step] at h
      split at h
      · next c hpc hctx =>
          cases h
          exact .releaseUnconnected hpc hctx
      · cases h
  | startCallback cb =>
      simp only [step] at h
      split at h
      · next c hctx =>
          split at h
          · next hguard =>
              cases h
              exact .startCallback hctx hguard.2.2.1 hguard.2.2.2
          · cases h
      · cases h
  | endCallback k =>
      simp only [step] at h
      split at h
      · next c cb hctx hcb =>
          cases h
          exact .endCallback hctx hcb
      · cases h
  | startClosed =>
      simp only [step] at h
      split at h
      · next c hctx =>
          split at h
          · next hguard =>
              cases h
              exact .startClosed hctx hguard.2.1 hguard.2.2.1 hguard.2.2.2
          · cases h
      · cases h
  | endClosed =>
      simp only [step] at h
      split at h
      · next c hctx hclosed =>
          cases h
          exact .endClosed hctx hclosed
      · cases h
  | releaseClosed =>
      simp only [step] at h
      split at h
      · next c hctx hclosed =>
          cases h
          exact .releaseClosed hctx hclosed
      · cases h
  | close =>
      simp only [step] at h
      split at h
      · cases h
        exact .close
      · cases h
  | destroy =>
      simp only [step] at h
      split at h
      · next hpc =>
          cases h
          exact .destroy hpc
      · cases h
  | destroyConnection =>
      simp only [step] at h
      split at h
      · next hpc =>
          cases h
          exact .destroyConnection hpc
      · cases h
  | clean t =>
      simp only [step] at h
      split at h
      · next c hctx =>
          split at h
          · next ht =>
              cases h
              exact .clean hctx ht
          · cases h
      · cases h

end ModuleNats.Connection
