import ModuleNats.Connection.Owners

set_option autoImplicit false

/-! # The context of a connection is deleted exactly once

Since the references are those of the owners, the last owner, and only it, deletes the context; and
everyone who uses the context is an owner at that moment. -/

namespace ModuleNats.Connection

open Ownership RefCount State

/-! ## The objects -/

/-- The objects that a context keeps, until it is deleted. -/
def held : Option NatsCallbackContext → List Object
  | some c => if c.refs.deleted then [] else .ctx :: c.cleanup
  | none => []

theorem held_some {c : NatsCallbackContext} (h : c.refs.deleted = false) :
    held (some c) = .ctx :: c.cleanup := by
  simp [held, h]

/-- Every object that was created is kept by the context, or was released. -/
structure Kept (log : List (Op Object)) (ctx : Option NatsCallbackContext) : Prop where
  owns : Owns log (held ctx)
  lost : NothingLost log (held ctx)

theorem Kept.congr {log : List (Op Object)} {ctx ctx' : Option NatsCallbackContext}
    (h : Kept log ctx) (hheld : held ctx' = held ctx) : Kept log ctx' :=
  ⟨hheld ▸ h.owns, hheld ▸ h.lost⟩

theorem Kept.use {log : List (Op Object)} {ctx : Option NatsCallbackContext} (h : Kept log ctx)
    (objects : List Object) (hobjects : ∀ o ∈ objects, o ∈ held ctx) :
    Kept ((objects.map .use).reverse ++ log) ctx :=
  ⟨h.owns.useAll objects hobjects, h.lost.useAll objects⟩

/-- What a callback uses is kept. -/
theorem mem_held_of_mem_execCallback {c : NatsCallbackContext} (h : c.refs.deleted = false)
    {cb : Callback} {o : Object} (ho : o ∈ c.execCallback cb) : o ∈ held (some c) := by
  rw [held_some h]
  rcases List.mem_cons.1 ho with rfl | ho
  · exact List.mem_cons_self
  · refine List.mem_cons_of_mem _ ?_
    split at ho
    · next hcb =>
        simp only [List.mem_cons, List.not_mem_nil, or_false] at ho
        rcases ho with rfl | rfl
        · simp [NatsCallbackContext.cleanup, NatsCallbackContext.pgmObjects, hcb.2]
        · simp [NatsCallbackContext.cleanup, hcb.1]
    · cases ho

/-- A step that only touches the count. -/
theorem Kept.touch {log : List (Op Object)} {c : NatsCallbackContext} (h : Kept log (some c))
    (hdeleted : c.refs.deleted = false) {refs : Counter Thread} (hrefs : refs.deleted = false) :
    Kept (([Object.ctx].map .use).reverse ++ log) (some { c with refs := refs }) := by
  have hmem : ∀ o ∈ [Object.ctx], o ∈ held (some c) := by
    intro o ho
    rw [held_some hdeleted, List.mem_singleton.1 ho]
    exact List.mem_cons_self
  refine (h.use _ hmem).congr ?_
  rw [held_some hrefs, held_some hdeleted]
  rfl

/-- A new closure. -/
theorem Kept.keepClosure {s : State} {c : NatsCallbackContext} {cb : Callback}
    (h : Kept s.log s.ctx) (hctx : s.ctx = some c) (hdeleted : c.refs.deleted = false)
    (hfresh : Op.acquire (Object.closure cb) ∉ s.log) (given : Bool) :
    Kept (s.keepClosure c cb given).log (s.keepClosure c cb given).ctx := by
  unfold State.keepClosure
  split
  · rw [hctx] at h
    have htouch := h.touch hdeleted hdeleted
    have hnew : Op.acquire (Object.closure cb) ∉ ([Object.ctx].map Op.use).reverse ++ s.log := by
      simpa using hfresh
    have hheld : (held (some { c with closures := c.closures ++ [cb] })).Perm
        (.closure cb :: held (some c)) := by
      rw [held_some hdeleted, held_some (c := { c with closures := c.closures ++ [cb] }) hdeleted]
      simp only [NatsCallbackContext.cleanup, List.map_append, List.map_cons, List.map_nil,
        List.append_assoc]
      exact (List.perm_middle.cons _).trans (List.Perm.swap _ _ _)
    exact ⟨(htouch.owns.acquire hnew).perm hheld,
      (htouch.lost.acquire htouch.owns.legal hnew).perm hheld⟩
  · exact h

/-- The first objects are the context and its reference to the Program. -/
theorem kept_setupCallbacks {s : State} (hlog : s.log = []) (hctx : s.ctx = none)
    (given : List Callback) (pgm : Bool) :
    Kept (s.setupCallbacks given pgm).log (s.setupCallbacks given pgm).ctx := by
  unfold State.setupCallbacks
  split
  · rw [hlog, hctx]
    exact ⟨owns_nil, nothingLost_nil⟩
  · rw [hlog]
    have hnodup : (Object.ctx :: ({ pgm := pgm } : NatsCallbackContext).pgmObjects).Nodup := by
      cases pgm <;> decide
    have hnew := owns_nil.acquireAll _ (fun _ _ => List.not_mem_nil) hnodup
    have hheld : (held (some { pgm := pgm })).Perm
        ((Object.ctx :: ({ pgm := pgm } : NatsCallbackContext).pgmObjects) ++ []) := by
      rw [List.append_nil]
      exact List.Perm.refl _
    exact ⟨hnew.perm hheld, (nothingLost_nil.acquireAll _).perm hheld⟩

/-- The cleanup releases everything. -/
theorem Kept.clean {s : State} {c : NatsCallbackContext} (h : Kept s.log s.ctx)
    (hctx : s.ctx = some c) (hdeleted : c.refs.deleted = false) (t : Thread) :
    Kept (s.clean c t).log (s.clean c t).ctx := by
  rw [hctx] at h
  have hmem : ∀ o ∈ Object.ctx :: c.pgmObjects, o ∈ held (some c) := by
    intro o ho
    rw [held_some hdeleted]
    rcases List.mem_cons.1 ho with rfl | ho
    · exact List.mem_cons_self
    · exact List.mem_cons_of_mem _ (List.mem_append_right _ ho)
  have hused := h.use _ hmem
  have hheld : ((c.cleanup ++ [Object.ctx]) ++ []).Perm (held (some c)) := by
    rw [held_some hdeleted, List.append_nil]
    exact List.perm_append_singleton _ _
  exact ⟨(hused.owns.perm hheld).releaseAll _, (hused.lost.perm hheld).releaseAll _⟩

/-! ## Setting the callbacks -/

/-- The closures that are left to set are new, and the closed callback is always registered. -/
structure SettingUp (s : State) : Prop where
  logs : s.ctx = none → s.log = []
  left : ∀ left, s.pc = .setup left → (left.map Prod.fst).Nodup ∧
    (∀ cb ∈ left.map Prod.fst, Op.acquire (.closure cb) ∉ s.log) ∧
    (.closed ∈ s.registered ∨ .closed ∈ left.map Prod.fst)
  registered : s.pc = .ready ∨ s.pc = .connecting ∨ s.created = true → s.ctx ≠ none →
    .closed ∈ s.registered

/-- A step that leaves the context alone, and registers no callback. -/
theorem SettingUp.move {s s' : State} (h : SettingUp s) (hlog : s'.log = s.log)
    (hctx : s'.ctx = s.ctx) (hregistered : s'.registered = s.registered)
    (hpc : ∀ left, s'.pc ≠ .setup left)
    (hconnect : s'.pc = .ready ∨ s'.pc = .connecting ∨ s'.created = true →
      s.pc = .ready ∨ s.pc = .connecting ∨ s.created = true) : SettingUp s' where
  logs hnone := hlog ▸ h.logs (hctx ▸ hnone)
  left left hleft := absurd hleft (hpc left)
  registered hreach hne := hregistered ▸ h.registered (hconnect hreach) (hctx ▸ hne)

/-- A step that uses or releases the context, and registers no callback. -/
theorem SettingUp.touch {s s' : State} (h : SettingUp s) (hctx : s.ctx ≠ none)
    (hctx' : s'.ctx ≠ none) (hacquire : ∀ o, Op.acquire o ∈ s'.log → Op.acquire o ∈ s.log)
    (hregistered : s'.registered = s.registered)
    (hpc : ∀ left, s'.pc = .setup left → s.pc = .setup left)
    (hconnect : s'.pc = .ready ∨ s'.pc = .connecting ∨ s'.created = true →
      s.pc = .ready ∨ s.pc = .connecting ∨ s.created = true) : SettingUp s' where
  logs hnone := absurd hnone hctx'
  left left hleft := by
    obtain ⟨hnodup, hfresh, hclosed⟩ := h.left left (hpc left hleft)
    exact ⟨hnodup, fun cb hcb hmem => hfresh cb hcb (hacquire _ hmem), hregistered ▸ hclosed⟩
  registered hreach _ := hregistered ▸ h.registered (hconnect hreach) hctx

theorem acquire_mem_use {s : State} {objects : List Object} {o : Object}
    (h : Op.acquire o ∈ (s.use objects).log) : Op.acquire o ∈ s.log := by
  simpa [State.use] using h

theorem acquire_mem_clean {s : State} {c : NatsCallbackContext} {t : Thread} {o : Object}
    (h : Op.acquire o ∈ (s.clean c t).log) : Op.acquire o ∈ s.log := by
  simpa [State.clean] using h

/-- A callback uses the context. -/
theorem SettingUp.callback {s : State} (h : SettingUp s) {c : NatsCallbackContext}
    (hctx : s.ctx = some c) (objects : List Object) (running : List Callback) (closed : ClosedPc) :
    SettingUp { s.use objects with running := running, closed := closed } := by
  have hne : s.ctx ≠ none := by
    rw [hctx]
    exact Option.some_ne_none c
  exact h.touch hne hne (fun o ho => acquire_mem_use ho) rfl (fun _ hleft => hleft) id

/-- The object goes on, after its connection was created or not. -/
theorem SettingUp.advance {s : State} (h : SettingUp s) {pc : ObjectPc}
    (raised : Option ExceptionInfo) (hpc : ∀ left, pc ≠ .setup left)
    (hconnect : pc = .ready ∨ pc = .connecting → s.pc = .ready ∨ s.pc = .connecting) :
    SettingUp { s with pc := pc, raised := raised } := by
  refine h.move rfl rfl rfl hpc ?_
  rintro (hpc | hpc | hcreated)
  · exact (hconnect (.inl hpc)).imp_right .inl
  · exact (hconnect (.inr hpc)).imp_right .inl
  · exact .inr (.inr hcreated)

theorem SettingUp.release {s : State} (h : SettingUp s) {c : NatsCallbackContext}
    (hctx : s.ctx = some c) (t : Thread) : SettingUp (s.release c t) := by
  refine h.touch ?_ (Option.some_ne_none _) (fun o ho => acquire_mem_use ho) rfl
    (fun _ hleft => hleft) id
  rw [hctx]
  exact Option.some_ne_none c

theorem settingUp_setupCallbacks {s : State} (hctx : s.ctx = none) (hlog : s.log = [])
    (hcreated : s.created = false) (given : List Callback) (pgm : Bool) :
    SettingUp (s.setupCallbacks given pgm) := by
  unfold State.setupCallbacks
  split
  · exact ⟨fun _ => hlog, nofun, fun _ hne => absurd hctx hne⟩
  · refine ⟨nofun, fun left hleft => ?_, fun hreach => by simp [hcreated] at hreach⟩
    cases hleft
    have hfst : ∀ l : List Callback,
        (l.map fun cb => (cb, decide (cb ∈ given))).map Prod.fst = l := by
      intro l
      simp [Function.comp_def]
    rw [hfst]
    refine ⟨List.filter_sublist.nodup (by decide), fun cb _ hmem => ?_, .inr ?_⟩
    · cases pgm <;> simp [hlog, NatsCallbackContext.pgmObjects] at hmem
    · simp [Callback.all]

/-- What is acquired while a closure is kept. -/
theorem acquire_mem_keepClosure {s : State} {c : NatsCallbackContext} {cb : Callback} {given : Bool}
    {o : Object} (h : Op.acquire o ∈ (s.keepClosure c cb given).log) :
    o = .closure cb ∨ Op.acquire o ∈ s.log := by
  unfold State.keepClosure at h
  split at h
  · simpa using h
  · exact .inr h

/-- After a callback was set, the others are left. -/
theorem left_of_setCallback {s : State} {cb : Callback} {left left' : List (Callback × Bool)}
    (h : (s.setCallback cb left none).pc = .setup left') : left' = left := by
  simp only [State.setCallback] at h
  split at h
  · cases h
  · exact (ObjectPc.setup.inj h).symm

/-- The object goes on after the last callback only. -/
theorem left_eq_nil_of_setCallback {s : State} {cb : Callback} {left : List (Callback × Bool)}
    (h : (s.setCallback cb left none).pc = .ready ∨
      (s.setCallback cb left none).pc = .connecting) : left = [] := by
  simp only [State.setCallback] at h
  split at h
  · next hempty => exact List.isEmpty_iff.1 hempty
  · simp at h

theorem settingUp_setCallback {s : State} (h : SettingUp s) {c : NatsCallbackContext}
    {cb : Callback} {given : Bool} {left : List (Callback × Bool)}
    (hpc : s.pc = .setup ((cb, given) :: left)) (hctx : s.ctx = some c)
    (hcreated : s.created = false) (error : Option String) :
    SettingUp ((s.keepClosure c cb given).setCallback cb left error) := by
  obtain ⟨hnodup, hfresh, hclosed⟩ := h.left _ hpc
  obtain ⟨c', hctx', -⟩ := keepClosure_refs hctx cb given
  have hne : (s.keepClosure c cb given).ctx ≠ none := by
    rw [hctx']
    exact Option.some_ne_none c'
  have hstays : (s.keepClosure c cb given).registered = s.registered ∧
      (s.keepClosure c cb given).created = s.created := by
    unfold State.keepClosure
    split <;> exact ⟨rfl, rfl⟩
  rw [List.map_cons, List.nodup_cons] at hnodup
  rw [List.map_cons, List.mem_cons] at hclosed
  cases error with
  | some text =>
      refine ⟨fun hnone => absurd hnone hne, nofun, fun hreach => ?_⟩
      simp [State.setCallback, hstays, hcreated] at hreach
  | none =>
      have hdone : .closed ∈ (s.keepClosure c cb given).registered ++ [cb] ∨
          .closed ∈ left.map Prod.fst := by
        rw [hstays.1, List.mem_append, List.mem_singleton]
        rcases hclosed with hclosed | hclosed | hclosed
        · exact .inl (.inl hclosed)
        · exact .inl (.inr hclosed)
        · exact .inr hclosed
      refine ⟨fun hnone => absurd hnone hne, fun left' hleft => ?_, fun hreach _ => ?_⟩
      · obtain rfl := left_of_setCallback hleft
        refine ⟨hnodup.2, fun cb' hcb' hmem => ?_, hdone⟩
        rcases acquire_mem_keepClosure hmem with heq | hmem
        · exact hnodup.1 (Object.closure.inj heq ▸ hcb')
        · exact hfresh cb' (List.mem_cons_of_mem _ hcb') hmem
      · -- the last callback was set
        have hcreated' : ((s.keepClosure c cb given).setCallback cb left none).created = false :=
          hstays.2.trans hcreated
        have hlast : left = [] := by
          rw [hcreated', ← or_assoc] at hreach
          exact left_eq_nil_of_setCallback (hreach.resolve_right Bool.false_ne_true)
        rcases hdone with hdone | hdone
        · exact hdone
        · rw [hlast] at hdone
          cases hdone

/-! ## Steps keep the context -/

structure Inv (s : State) : Prop where
  shape : Shape s
  counts : CountsOwners s
  settingUp : SettingUp s
  kept : Kept s.log s.ctx

/-- The context is there as long as it has an owner. -/
theorem CountsOwners.not_deleted {s : State} (h : CountsOwners s) {c : NatsCallbackContext}
    (hctx : s.ctx = some c) (howner : s.cbCtx = true ∨ s.closedRef = true) :
    c.refs.deleted = false := by
  refine ((h c hctx).owned ?_).2
  rcases howner with hcb | hclosed
  · simp [owners, hcb]
  · simp [owners, hclosed]

/-- A callback runs only as long as the closed callback has its reference. -/
theorem Inv.not_deleted {s : State} (h : Inv s) {c : NatsCallbackContext} (hctx : s.ctx = some c)
    (hcreated : s.created = true) (hclosed : s.closed ≠ .returned) : c.refs.deleted = false :=
  h.counts.not_deleted hctx (.inr (by simp [closedRef, hcreated, hclosed]))

theorem kept_callback {s : State} (h : Inv s) {c : NatsCallbackContext} (hctx : s.ctx = some c)
    (hcreated : s.created = true) (hclosed : s.closed ≠ .returned) (cb : Callback) :
    Kept (s.use (c.execCallback cb)).log s.ctx := by
  have hdeleted := h.not_deleted hctx hcreated hclosed
  refine h.kept.use _ fun o ho => ?_
  rw [hctx]
  exact mem_held_of_mem_execCallback hdeleted ho

theorem kept_release {s : State} (h : Inv s) {c : NatsCallbackContext} (hctx : s.ctx = some c)
    (hdeleted : c.refs.deleted = false) (t : Thread) :
    Kept (s.release c t).log (s.release c t).ctx :=
  Kept.touch (hctx ▸ h.kept) hdeleted hdeleted

theorem kept_step {s s' : State} {a : Action} (h : Inv s) (hstep : Step s a s') :
    Kept s'.log s'.ctx := by
  cases hstep with
  | setupCallbacks hpc =>
      have hctx := h.shape.fresh hpc
      exact kept_setupCallbacks (h.settingUp.logs hctx) hctx _ _
  | @setCallback cb given left c error hpc hctx =>
      have hcb := h.shape.cbCtx hctx (by rw [hpc]; exact nofun)
      have hdeleted := h.counts.not_deleted hctx (.inl hcb)
      have hfresh := (h.settingUp.left _ hpc).2.1 cb List.mem_cons_self
      have hkept := h.kept.keepClosure hctx hdeleted hfresh given
      cases error <;> exact hkept
  | @connect c hpc hctx hcb =>
      have hdeleted := h.counts.not_deleted hctx (.inl hcb)
      exact Kept.touch (hctx ▸ h.kept) hdeleted hdeleted
  | @releaseUnconnected c hpc hctx =>
      have hcb := h.shape.cbCtx hctx (by rw [hpc]; exact nofun)
      exact kept_release h hctx (h.counts.not_deleted hctx (.inl hcb)) _
  | @startCallback cb c hctx hcreated hclosed =>
      exact kept_callback h hctx hcreated (by rw [hclosed]; exact nofun) cb
  | @endCallback k cb c hctx hcb =>
      obtain ⟨hcreated, hclosed⟩ := h.shape.running (List.ne_nil_of_mem (List.mem_of_getElem? hcb))
      exact kept_callback h hctx hcreated (by rw [hclosed]; exact nofun) cb
  | startClosed hctx hcreated hclosed hrunning =>
      exact kept_callback h hctx hcreated (by rw [hclosed]; exact nofun) _
  | endClosed hctx hclosed =>
      have hcreated := h.shape.closed (by rw [hclosed]; exact nofun)
      exact kept_callback h hctx hcreated (by rw [hclosed]; exact nofun) _
  | releaseClosed hctx hclosed =>
      have hcreated := h.shape.closed (by rw [hclosed]; exact nofun)
      exact kept_release h hctx (h.not_deleted hctx hcreated (by rw [hclosed]; exact nofun)) _
  | releaseObject hpc hctx hcb => exact kept_release h hctx (h.counts.not_deleted hctx (.inl hcb)) _
  | clean hctx ht =>
      exact h.kept.clean hctx ((h.counts _ hctx).not_deleted_of_cleaner ht) _
  | _ => exact h.kept

theorem settingUp_step {s s' : State} {a : Action} (h : Inv s) (hstep : Step s a s') :
    SettingUp s' := by
  have hup := h.settingUp
  cases hstep with
  | setupCallbacks hpc =>
      have hctx := h.shape.fresh hpc
      exact settingUp_setupCallbacks hctx (hup.logs hctx)
        (h.shape.not_created (by rw [hpc]; rfl)) _ _
  | setCallback hpc hctx =>
      exact settingUp_setCallback hup hpc hctx (h.shape.not_created (by rw [hpc]; rfl)) _
  | checkFails hpc => exact hup.advance _ nofun (fun _ => .inl hpc)
  | @connect c hpc hctx hcb =>
      have href : SettingUp (s.ref c) :=
        hup.touch (h.shape.pointer hcb) (Option.some_ne_none _) (fun o ho => acquire_mem_use ho) rfl
          (fun _ hleft => hleft) id
      exact href.advance s.raised nofun (fun _ => .inl hpc)
  | connectPlain hpc hctx => exact hup.advance s.raised nofun (fun _ => .inl hpc)
  | createConnection hpc =>
      exact hup.move rfl rfl rfl (fun left hleft => absurd (hpc.symm.trans hleft) nofun)
        (fun _ => .inr (.inl hpc))
  | connectReturns hpc hcreated => exact hup.advance _ nofun (fun _ => .inr hpc)
  | connectFails hpc hcreated hcb => exact hup.advance _ nofun (fun _ => .inr hpc)
  | releaseUnconnected hpc hctx =>
      exact (hup.release hctx .object).advance s.raised nofun
        (fun hreach => absurd hreach (by simp))
  | startCallback hctx => exact hup.callback hctx _ _ s.closed
  | endCallback hctx hcb => exact hup.callback hctx _ _ s.closed
  | startClosed hctx => exact hup.callback hctx _ s.running _
  | endClosed hctx => exact hup.callback hctx _ s.running _
  | @releaseClosed c hctx hclosed =>
      have hrelease := hup.release hctx .callback
      exact ⟨hrelease.logs, hrelease.left, hrelease.registered⟩
  | close => exact hup
  | destroy hpc => exact hup.advance s.raised nofun (fun hreach => absurd hreach (by simp))
  | destroyConnection hpc =>
      exact hup.advance s.raised nofun (fun hreach => absurd hreach (by simp))
  | @releaseObject c hpc hctx hcb =>
      have hrelease : SettingUp { s.release c .object with pc := .destroyed } :=
        (hup.release hctx .object).advance s.raised nofun (fun hreach => absurd hreach (by simp))
      exact ⟨hrelease.logs, hrelease.left, hrelease.registered⟩
  | releaseNothing hpc hctx =>
      exact hup.advance s.raised nofun (fun hreach => absurd hreach (by simp))
  | @clean t c hctx ht =>
      refine hup.touch ?_ (Option.some_ne_none _) (fun o ho => acquire_mem_clean ho) rfl
        (fun _ hleft => hleft) id
      rw [hctx]
      exact Option.some_ne_none c

theorem inv_init : Inv system.init where
  shape := ⟨fun _ => rfl, nofun, fun _ hne => absurd rfl hne, nofun, nofun,
    fun hne => absurd rfl hne, fun hne => absurd rfl hne⟩
  counts := nofun
  settingUp := ⟨fun _ => rfl, nofun, fun _ hne => absurd rfl hne⟩
  kept := ⟨owns_nil, nothingLost_nil⟩

theorem inv_run (run : system.Run) : Inv run.final := by
  refine run.invariant inv_init fun s a s' h hstep => ?_
  have hcases := step_cases hstep
  exact ⟨shape_step h.shape hcases, countsOwners_step h.counts h.shape hcases,
    settingUp_step h hcases, kept_step h hcases⟩

/-! ## What holds of every run -/

/-- Everything in the context is live. -/
def Usable (s : State) : Prop :=
  ∀ c, s.ctx = some c → ∀ o ∈ Object.ctx :: c.cleanup, Live s.log o

/-- The object has been destroyed, and no callback can come any more. -/
structure Over (s : State) : Prop where
  destroyed : s.pc = .destroyed
  closed : s.created = true → s.closed = .returned

theorem Inv.usable {s : State} (h : Inv s) (hcreated : s.created = true)
    (hclosed : s.closed ≠ .returned) : Usable s := by
  intro c hctx o ho
  refine h.kept.owns.live o ?_
  rw [hctx, held_some (h.not_deleted hctx hcreated hclosed)]
  exact ho

/-- The context has no owner exactly when everything is over. -/
theorem Inv.owners_eq_nil_iff {s : State} (h : Inv s) (hctx : s.ctx ≠ none) :
    s.owners = [] ↔ Over s := by
  have hcb : s.cbCtx = false ↔ s.pc = .destroyed := by
    constructor
    · intro hcb
      by_contra hpc
      exact Bool.noConfusion (hcb.symm.trans (h.shape.kept hpc hctx))
    · exact h.shape.dropped
  constructor
  · intro hnil
    simp only [owners, List.append_eq_nil_iff, ite_eq_right_iff, List.cons_ne_nil, imp_false,
      Bool.not_eq_true] at hnil
    refine ⟨hcb.1 hnil.1, fun hcreated => ?_⟩
    by_contra hclosed
    simp [closedRef, hcreated, hclosed] at hnil
  · rintro ⟨hpc, hclosed⟩
    have hfalse : s.closedRef = false := by
      simp only [closedRef, hpc, reduceCtorEq, false_or, decide_eq_false_iff_not, not_and, not_not]
      exact hclosed
    simp [owners, hcb.2 hpc, hfalse]

/-- The context has been deleted only if everything is over. -/
theorem Inv.over_of_release {s : State} (h : Inv s) (hrelease : Op.release .ctx ∈ s.log) :
    Over s ∧ s.running = [] := by
  obtain ⟨c, hctx⟩ : ∃ c, s.ctx = some c := by
    refine Option.ne_none_iff_exists'.1 fun hnone => ?_
    rw [h.settingUp.logs hnone] at hrelease
    cases hrelease
  have hdeleted : c.refs.deleted = true := by
    by_contra hnot
    have hlive := h.kept.owns.live .ctx
    rw [hctx, held_some (Bool.eq_false_iff.2 hnot)] at hlive
    exact (hlive List.mem_cons_self).2 hrelease
  have hover := (h.owners_eq_nil_iff (by rw [hctx]; exact Option.some_ne_none c)).1
    ((h.counts c hctx).eq_nil_of_deleted hdeleted)
  refine ⟨hover, ?_⟩
  by_contra hrunning
  obtain ⟨hcreated, hpending⟩ := h.shape.running hrunning
  exact absurd (hpending.symm.trans (hover.closed hcreated)) nofun

/-- When everything is over, and no cleanup is going on, nothing is kept. -/
theorem Inv.held_eq_nil {s : State} (h : Inv s) (hover : Over s)
    (hcleaners : ∀ c, s.ctx = some c → c.refs.cleaners = []) : held s.ctx = [] := by
  cases hctx : s.ctx with
  | none => rfl
  | some c =>
      have hnil := (h.owners_eq_nil_iff (by rw [hctx]; exact Option.some_ne_none c)).2 hover
      have hdeleted := (h.counts c hctx).deleted_of_unowned hnil (hcleaners c hctx)
      simp [held, hdeleted]

/-- The lifecycle of the context, for every outcome of the constructor and every interleaving.
    Nothing touches an object after its release, and none is released twice. While a callback runs,
    the context, its closures and its Program are live; the context is deleted only after the
    destructor of the object and the last callback. The closed callback, which everything waits for,
    is registered whenever a connection was created. When everything is over and the release has
    returned, every object has been released exactly once. -/
theorem context_released_once (run : system.Run) :
    (∀ newer older o, run.final.log = newer ++ Op.release o :: older →
      ∀ op ∈ newer, op.object ≠ o) ∧
    (∀ o, run.final.log.count (.release o) ≤ 1) ∧
    (run.final.running ≠ [] ∨ run.final.closed = .running ∨ run.final.closed = .releasing →
      Usable run.final) ∧
    (Op.release .ctx ∈ run.final.log → Over run.final ∧ run.final.running = []) ∧
    (run.final.created = true → run.final.ctx ≠ none → .closed ∈ run.final.registered) ∧
    (Over run.final → (∀ c, run.final.ctx = some c → c.refs.cleaners = []) →
      ∀ o, Op.acquire o ∈ run.final.log → run.final.log.count (.release o) = 1) := by
  have h := inv_run run
  refine ⟨fun newer older o hlog => ?_, h.kept.owns.legal.count_release_le_one, ?_,
    h.over_of_release, fun hcreated => h.settingUp.registered (.inr (.inr hcreated)), ?_⟩
  · exact (hlog ▸ h.kept.owns.legal).untouched_after_release
  · rintro (hrunning | hclosed | hclosed)
    · obtain ⟨hcreated, hpending⟩ := h.shape.running hrunning
      exact h.usable hcreated (by rw [hpending]; exact nofun)
    · exact h.usable (h.shape.closed (by rw [hclosed]; exact nofun)) (by rw [hclosed]; exact nofun)
    · exact h.usable (h.shape.closed (by rw [hclosed]; exact nofun)) (by rw [hclosed]; exact nofun)
  · intro hover hcleaners o ho
    rw [h.kept.owns.released_once_iff h.kept.lost ho, h.held_eq_nil hover hcleaners]
    exact List.not_mem_nil

/-- A connection with two callbacks; the closed callback comes after the destructor. -/
example : (system.exec system.init
    [.setupCallbacks [.closed, .error] true, .setCallback none, .setCallback none, .check none,
      .createConnection, .connectReturns none none, .startCallback .error, .endCallback 0, .destroy,
      .destroyConnection, .releaseObject, .startClosed, .endClosed, .releaseClosed,
      .clean .callback]).map (fun s => s.log.count (.release .ctx)) = some 1 := by
  decide

end ModuleNats.Connection
