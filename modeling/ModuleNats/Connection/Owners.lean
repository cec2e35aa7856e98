import ModuleNats.Connection.Steps

set_option autoImplicit false

/-! # Who owns the context of a connection

The owners of the context are the object, as long as it has its pointer, and the closed callback,
from the moment its reference is taken until it has released it, or until no connection came of it.
The count is the number of these owners in every state (`countsOwners_step`). -/

namespace ModuleNats.Connection

open Ownership RefCount State

/-! ## The object and the C client -/

/-- Whether the C client can have been asked for a connection. -/
def ObjectPc.mayBeCreated : ObjectPc → Bool
  | .fresh | .setup _ | .ready | .unconnected => false
  | _ => true

/-- What the object, the C client and the callbacks say about each other. -/
structure Shape (s : State) : Prop where
  fresh : s.pc = .fresh → s.ctx = none
  pointer : s.cbCtx = true → s.ctx ≠ none
  kept : s.pc ≠ .destroyed → s.ctx ≠ none → s.cbCtx = true
  dropped : s.pc = .destroyed → s.cbCtx = false
  created : s.created = true → s.pc.mayBeCreated = true
  running : s.running ≠ [] → s.created = true ∧ s.closed = .pending
  closed : s.closed ≠ .pending → s.created = true

/-- The object goes on, and its pointer stays as it is. -/
theorem Shape.advance {s : State} (h : Shape s) {pc : ObjectPc} (registered : List Callback)
    (raised : Option ExceptionInfo) (hfresh : pc ≠ .fresh)
    (hdestroyed : pc = .destroyed ↔ s.pc = .destroyed)
    (hcreated : s.created = true → pc.mayBeCreated = true) :
    Shape { s with pc := pc, registered := registered, raised := raised } where
  fresh hpc := absurd hpc hfresh
  pointer := h.pointer
  kept hpc := h.kept (mt hdestroyed.2 hpc)
  dropped hpc := h.dropped (hdestroyed.1 hpc)
  created := hcreated
  running := h.running
  closed := h.closed

/-- The fields of the context change. -/
theorem Shape.withContext {s : State} (h : Shape s) (hctx : s.ctx ≠ none) (c : NatsCallbackContext)
    (log : List (Op Object)) : Shape { s with ctx := some c, log := log } where
  fresh hpc := absurd (h.fresh hpc) hctx
  pointer _ := Option.some_ne_none c
  kept hpc _ := h.kept hpc hctx
  dropped := h.dropped
  created := h.created
  running := h.running
  closed := h.closed

theorem Shape.use {s : State} (h : Shape s) (objects : List Object) : Shape (s.use objects) :=
  ⟨h.fresh, h.pointer, h.kept, h.dropped, h.created, h.running, h.closed⟩

theorem Shape.release {s : State} (h : Shape s) {c : NatsCallbackContext} (hctx : s.ctx = some c)
    (t : Thread) : Shape (s.release c t) :=
  h.withContext (by rw [hctx]; exact Option.some_ne_none c) _ _

/-- In a state in which no connection can have been created, none was. -/
theorem Shape.not_created {s : State} (h : Shape s) (hpc : s.pc.mayBeCreated = false) :
    s.created = false := by
  by_contra hcreated
  have hmay := h.created (Bool.eq_true_of_not_eq_false hcreated)
  exact Bool.noConfusion (hpc.symm.trans hmay)

theorem Shape.setupCallbacks {s : State} (h : Shape s) (hpc : s.pc = .fresh)
    (given : List Callback) (pgm : Bool) : Shape (s.setupCallbacks given pgm) := by
  have hcreated : s.created = false := h.not_created (by rw [hpc]; rfl)
  unfold State.setupCallbacks
  split
  · exact h.advance s.registered s.raised nofun (iff_of_false nofun (by simp [hpc]))
      (by simp [hcreated])
  · exact ⟨nofun, nofun, fun _ _ => rfl, nofun, by simp [hcreated], h.running, h.closed⟩

theorem Shape.keepClosure {s : State} (h : Shape s) {c : NatsCallbackContext}
    (hctx : s.ctx = some c) (cb : Callback) (given : Bool) : Shape (s.keepClosure c cb given) := by
  unfold State.keepClosure
  split
  · exact h.withContext (by rw [hctx]; exact Option.some_ne_none c) _ _
  · exact h

@[simp] theorem keepClosure_pc (s : State) (c : NatsCallbackContext) (cb : Callback)
    (given : Bool) : (s.keepClosure c cb given).pc = s.pc := by
  unfold State.keepClosure
  split <;> rfl

theorem Shape.setCallback {s : State} (h : Shape s) {cb : Callback}
    {entries left : List (Callback × Bool)} (hpc : s.pc = .setup entries) (error : Option String) :
    Shape (s.setCallback cb left error) := by
  have hcreated : s.created = false := h.not_created (by rw [hpc]; rfl)
  cases error with
  | none =>
      refine h.advance _ _ ?_ (iff_of_false ?_ (by simp [hpc])) (by simp [hcreated])
      · split <;> exact nofun
      · split <;> exact nofun
  | some text =>
      exact h.advance _ _ nofun (iff_of_false nofun (by simp [hpc])) (by simp [hcreated])

theorem shape_step {s s' : State} {a : Action} (h : Shape s) (hstep : Step s a s') : Shape s' := by
  cases hstep with
  | setupCallbacks hpc => exact h.setupCallbacks hpc _ _
  | setCallback hpc hctx =>
      exact (h.keepClosure hctx _ _).setCallback (by rw [keepClosure_pc, hpc]) _
  | checkFails hpc =>
      have hcreated : s.created = false := h.not_created (by rw [hpc]; rfl)
      exact h.advance s.registered _ nofun (iff_of_false nofun (by simp [hpc])) (by simp [hcreated])
  | @connect c hpc hctx hcb =>
      have href : Shape (s.ref c) := h.withContext (h.pointer hcb) _ _
      exact href.advance s.registered s.raised nofun
        (iff_of_false nofun (by simp [State.ref, use, hpc])) (fun _ => rfl)
  | connectPlain hpc hctx =>
      exact h.advance s.registered s.raised nofun (iff_of_false nofun (by simp [hpc]))
        (fun _ => rfl)
  | createConnection hpc =>
      exact ⟨h.fresh, h.pointer, h.kept, h.dropped, fun _ => by rw [hpc]; rfl,
        fun hrunning => ⟨rfl, (h.running hrunning).2⟩, fun _ => rfl⟩
  | connectReturns hpc hcreated =>
      exact h.advance s.registered _ nofun (iff_of_false nofun (by simp [hpc])) (fun _ => rfl)
  | connectFails hpc hcreated hcb =>
      exact h.advance s.registered _ nofun (iff_of_false nofun (by simp [hpc])) (by simp [hcreated])
  | @releaseUnconnected c hpc hctx =>
      exact (h.release hctx .object).advance s.registered s.raised nofun
        (iff_of_false nofun (by simp [State.release, use, hpc])) (fun _ => rfl)
  | startCallback hctx hcreated hclosed =>
      exact ⟨h.fresh, h.pointer, h.kept, h.dropped, h.created, fun _ => ⟨hcreated, hclosed⟩,
        h.closed⟩
  | endCallback hctx hcb =>
      have hrunning := h.running (List.ne_nil_of_mem (List.mem_of_getElem? hcb))
      exact ⟨h.fresh, h.pointer, h.kept, h.dropped, h.created, fun _ => hrunning, h.closed⟩
  | startClosed hctx hcreated hclosed hrunning =>
      exact ⟨h.fresh, h.pointer, h.kept, h.dropped, h.created, fun hne => absurd hrunning hne,
        fun _ => hcreated⟩
  | endClosed hctx hclosed =>
      have hcreated := h.closed (by rw [hclosed]; exact nofun)
      refine ⟨h.fresh, h.pointer, h.kept, h.dropped, h.created, fun hne => ?_, fun _ => hcreated⟩
      exact absurd (hclosed.symm.trans (h.running hne).2) nofun
  | @releaseClosed c hctx hclosed =>
      have hcreated := h.closed (by rw [hclosed]; exact nofun)
      have hrelease := h.release hctx .callback
      refine ⟨hrelease.fresh, hrelease.pointer, hrelease.kept, hrelease.dropped, hrelease.created,
        fun hne => ?_, fun _ => hcreated⟩
      exact absurd (hclosed.symm.trans (h.running hne).2) nofun
  | close => exact h
  | destroy hpc =>
      exact h.advance s.registered s.raised nofun (iff_of_false nofun (by simp [hpc]))
        (fun _ => rfl)
  | destroyConnection hpc =>
      exact h.advance s.registered s.raised nofun (iff_of_false nofun (by simp [hpc]))
        (fun _ => rfl)
  | @releaseObject c hpc hctx hcb =>
      exact ⟨nofun, nofun, fun hne => absurd rfl hne, fun _ => rfl, fun _ => rfl, h.running,
        h.closed⟩
  | releaseNothing hpc hctx =>
      have hcb : s.cbCtx = false := by
        rcases hctx with hctx | hcb
        · exact Bool.eq_false_iff.2 fun hcb => h.pointer hcb hctx
        · exact hcb
      exact ⟨nofun, h.pointer, fun hne => absurd rfl hne, fun _ => hcb, fun _ => rfl, h.running,
        h.closed⟩
  | @clean t c hctx ht =>
      exact h.withContext (by rw [hctx]; exact Option.some_ne_none c) _ _

/-! ## The references -/

inductive Owner where
  | object
  | closed
deriving DecidableEq, Repr

/-- Whether the closed callback has a reference. -/
def State.closedRef (s : State) : Bool :=
  (s.pc = .connecting ∨ s.pc = .unconnected ∨ s.created = true) ∧ s.closed ≠ .returned

/-- The owners of the context. -/
def State.owners (s : State) : List Owner :=
  (if s.cbCtx then [.object] else []) ++ (if s.closedRef then [.closed] else [])

/-- The references are those of the owners. -/
def CountsOwners (s : State) : Prop := ∀ c, s.ctx = some c → Counted c.refs s.owners

theorem owners_eq {s s' : State} (hcb : s'.cbCtx = s.cbCtx) (hclosed : s'.closedRef = s.closedRef) :
    s'.owners = s.owners := by
  rw [owners, owners, hcb, hclosed]

theorem CountsOwners.intro {s : State} {c : NatsCallbackContext} {owners : List Owner}
    (hctx : s.ctx = some c) (howners : s.owners = owners) (h : Counted c.refs owners) :
    CountsOwners s := by
  intro c' hc'
  obtain rfl : c = c' := Option.some.inj (hctx.symm.trans hc')
  rw [howners]
  exact h

/-- A step that leaves the owners and the count alone. -/
theorem CountsOwners.frame {s s' : State} (h : CountsOwners s) (hcb : s'.cbCtx = s.cbCtx)
    (hclosed : s'.closedRef = s.closedRef)
    (hctx : ∀ c', s'.ctx = some c' → ∃ c, s.ctx = some c ∧ c'.refs = c.refs) : CountsOwners s' := by
  intro c' hc'
  obtain ⟨c, hc, hrefs⟩ := hctx c' hc'
  rw [hrefs, owners_eq hcb hclosed]
  exact h c hc

/-- The closed callback comes only of a connection. -/
theorem Shape.closed_of_not_created {s : State} (h : Shape s) (hcreated : s.created = false) :
    s.closed = .pending := by
  by_contra hclosed
  exact Bool.noConfusion (hcreated.symm.trans (h.closed hclosed))

/-- The pointer of the object is there as long as the object is. -/
theorem Shape.cbCtx {s : State} (h : Shape s) {c : NatsCallbackContext} (hctx : s.ctx = some c)
    (hpc : s.pc ≠ .destroyed) : s.cbCtx = true :=
  h.kept hpc (by rw [hctx]; exact Option.some_ne_none c)

/-- Without the pointer of a living object there is no context. -/
theorem Shape.ctx_eq_none {s : State} (h : Shape s) (hctx : s.ctx = none ∨ s.cbCtx = false)
    (hpc : s.pc ≠ .destroyed) : s.ctx = none := by
  rcases hctx with hctx | hcb
  · exact hctx
  · by_contra hctx
    exact Bool.noConfusion (hcb.symm.trans (h.kept hpc hctx))

theorem closedRef_eq_false {s : State} (hcreated : s.created = false)
    (hpc : s.pc ≠ .connecting ∧ s.pc ≠ .unconnected) : s.closedRef = false := by
  simp [closedRef, hcreated, hpc]

theorem owners_object {s : State} (hcb : s.cbCtx = true) (hclosed : s.closedRef = false) :
    s.owners = [.object] := by
  simp [owners, hcb, hclosed]

theorem owners_both {s : State} (hcb : s.cbCtx = true) (hclosed : s.closedRef = true) :
    s.owners = [.object, .closed] := by
  simp [owners, hcb, hclosed]

/-- The references that a callback leaves alone. -/
theorem keepClosure_refs {s : State} {c : NatsCallbackContext} (hctx : s.ctx = some c)
    (cb : Callback) (given : Bool) :
    ∃ c', (s.keepClosure c cb given).ctx = some c' ∧ c'.refs = c.refs := by
  unfold State.keepClosure
  split
  · exact ⟨_, rfl, rfl⟩
  · exact ⟨c, hctx, rfl⟩

theorem CountsOwners.keepClosure {s : State} (h : CountsOwners s) {c : NatsCallbackContext}
    (hctx : s.ctx = some c) (cb : Callback) (given : Bool) :
    CountsOwners (s.keepClosure c cb given) := by
  refine h.frame ?_ ?_ fun c' hc' => ?_
  · unfold State.keepClosure
    split <;> rfl
  · unfold State.keepClosure
    split <;> rfl
  · obtain ⟨c'', hc'', hrefs⟩ := keepClosure_refs hctx cb given
    obtain rfl : c'' = c' := Option.some.inj (hc''.symm.trans hc')
    exact ⟨c, hctx, hrefs⟩

theorem CountsOwners.setCallback {s : State} (h : CountsOwners s) {cb : Callback}
    {entries left : List (Callback × Bool)} (hpc : s.pc = .setup entries)
    (hcreated : s.created = false) (error : Option String) :
    CountsOwners (s.setCallback cb left error) := by
  have hbefore : s.closedRef = false := closedRef_eq_false hcreated (by simp [hpc])
  cases error with
  | none =>
      refine h.frame rfl (.trans (closedRef_eq_false hcreated ?_) hbefore.symm) fun c hc =>
        ⟨c, hc, rfl⟩
      rw [State.setCallback]
      dsimp only
      split <;> simp
  | some text =>
      have hafter : (s.setCallback cb left (some text)).closedRef = false :=
        closedRef_eq_false hcreated (by simp [State.setCallback])
      exact h.frame rfl (hafter.trans hbefore.symm) fun c hc => ⟨c, hc, rfl⟩

theorem countsOwners_step {s s' : State} {a : Action} (h : CountsOwners s) (hs : Shape s)
    (hstep : Step s a s') : CountsOwners s' := by
  cases hstep with
  | @setupCallbacks given pgm hpc =>
      have hcreated := hs.not_created (by rw [hpc]; rfl)
      unfold State.setupCallbacks
      split
      · exact fun c hc => absurd (hc.symm.trans (hs.fresh hpc)) nofun
      · exact .intro rfl (owners_object rfl (closedRef_eq_false hcreated (by simp))) (.init _)
  | @setCallback cb given left c error hpc hctx =>
      have hkeep := h.keepClosure hctx cb given
      have hshape := hs.keepClosure hctx cb given
      have hpc' : (s.keepClosure c cb given).pc = .setup ((cb, given) :: left) := by
        rw [keepClosure_pc, hpc]
      exact hkeep.setCallback hpc' (hshape.not_created (by rw [hpc']; rfl)) error
  | checkFails hpc =>
      have hcreated := hs.not_created (by rw [hpc]; rfl)
      have hbefore : s.closedRef = false := closedRef_eq_false hcreated (by simp [hpc])
      exact h.frame rfl (.trans (closedRef_eq_false hcreated (by simp)) hbefore.symm) fun c hc =>
        ⟨c, hc, rfl⟩
  | @connect c hpc hctx hcb =>
      have hcreated := hs.not_created (by rw [hpc]; rfl)
      have hpending := hs.closed_of_not_created hcreated
      have hcounted := h c hctx
      rw [owners_object hcb (closedRef_eq_false hcreated (by simp [hpc]))] at hcounted
      exact .intro rfl (owners_both hcb (by simp [closedRef, State.ref, use, hpending]))
        ((hcounted.ref (List.cons_ne_nil _ _) .closed).perm (List.Perm.swap _ _ _))
  | connectPlain hpc hctx =>
      have hnone := hs.ctx_eq_none hctx (by rw [hpc]; exact nofun)
      exact fun c hc => absurd (hc.symm.trans hnone) nofun
  | createConnection hpc =>
      exact h.frame rfl (by simp [closedRef, hpc]) fun c hc => ⟨c, hc, rfl⟩
  | connectReturns hpc hcreated =>
      rcases hcreated with hcreated | hcb
      · exact h.frame rfl (by simp [closedRef, hpc, hcreated]) fun c hc => ⟨c, hc, rfl⟩
      · have hnone := hs.ctx_eq_none (.inr hcb) (by rw [hpc]; exact nofun)
        exact fun c hc => absurd (hc.symm.trans hnone) nofun
  | connectFails hpc hcreated hcb =>
      exact h.frame rfl (by simp [closedRef, hpc]) fun c hc => ⟨c, hc, rfl⟩
  | @releaseUnconnected c hpc hctx =>
      have hcreated := hs.not_created (by rw [hpc]; rfl)
      have hpending := hs.closed_of_not_created hcreated
      have hcb := hs.cbCtx hctx (by rw [hpc]; exact nofun)
      have hcounted := h c hctx
      rw [owners_both hcb (by simp [closedRef, hpc, hpending])] at hcounted
      exact .intro rfl (owners_object hcb (closedRef_eq_false hcreated (by simp)))
        ((hcounted.perm (List.Perm.swap _ _ _)).release .object)
  | startCallback hctx hcreated hclosed => exact h.frame rfl rfl fun c hc => ⟨c, hc, rfl⟩
  | endCallback hctx hcb => exact h.frame rfl rfl fun c hc => ⟨c, hc, rfl⟩
  | startClosed hctx hcreated hclosed hrunning =>
      exact h.frame rfl (by simp [closedRef, use, hclosed]) fun c hc => ⟨c, hc, rfl⟩
  | endClosed hctx hclosed =>
      exact h.frame rfl (by simp [closedRef, use, hclosed]) fun c hc => ⟨c, hc, rfl⟩
  | @releaseClosed c hctx hclosed =>
      have hcreated := hs.closed (by rw [hclosed]; exact nofun)
      have hbefore : s.closedRef = true := by simp [closedRef, hcreated, hclosed]
      have hcounted := h c hctx
      rw [owners, hbefore, if_pos rfl] at hcounted
      have hafter : State.owners { s.release c .callback with closed := .returned } =
          if s.cbCtx then [.object] else [] := by
        simp [owners, closedRef, State.release, use]
      exact .intro rfl hafter ((hcounted.perm (List.perm_append_singleton _ _)).release .callback)
  | close => exact h
  | destroy hpc => exact h.frame rfl (by simp [closedRef, hpc]) fun c hc => ⟨c, hc, rfl⟩
  | destroyConnection hpc => exact h.frame rfl (by simp [closedRef, hpc]) fun c hc => ⟨c, hc, rfl⟩
  | @releaseObject c hpc hctx hcb =>
      have hcounted := h c hctx
      rw [owners, hcb, if_pos rfl] at hcounted
      have hafter : State.owners { s.release c .object with pc := .destroyed, cbCtx := false } =
          if s.closedRef then [.closed] else [] := by
        simp [owners, closedRef, State.release, use, hpc]
      exact .intro rfl hafter (hcounted.release .object)
  | releaseNothing hpc hctx =>
      have hnone := hs.ctx_eq_none hctx (by rw [hpc]; exact nofun)
      exact fun c hc => absurd (hc.symm.trans hnone) nofun
  | @clean t c hctx ht =>
      intro c' hc'
      cases hc'
      exact (h c hctx).delete ht

end ModuleNats.Connection
