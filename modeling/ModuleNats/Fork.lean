import Mathlib.Data.List.Induction
import Mathlib.Tactic.Common

set_option autoImplicit false

/-! # NATS objects in a forked child

A child process created with `fork()` inherits the NATS objects of its parent, but not the threads
of the C client, so it must not call the C client for them. Every native object remembers the
process that created it, and its destructor does nothing in another one; `NatsConnection::close()`
likewise. The wrappers of NatsUtil are written in Qore: their destructors call `close()`,
`unsubscribe()` and `stop()` of the native objects.

`no_client_call_iff` says for which inherited objects, and which sequences of destructions and
closes in the child, the C client is not called. -/

namespace ModuleNats.Fork

/-! ## Objects -/

/-- `NatsCreatorProcess`, in the process `pid`. -/
def isForkedChild (pid creator : ℕ) : Bool := pid != creator

/-- The functions of the C client that destructors and closes call. -/
inductive ClientFunction where
  | natsConnectionClose
  | natsConnectionDestroy
  | natsOptionsDestroy
  | natsSubscriptionUnsubscribe
  | natsSubscriptionDestroy
  | natsMsgDestroy
  | jsCtxDestroy
  | kvStoreDestroy
  | kvWatcherDestroy
  | kvWatcherStop
  | microServiceDestroy
deriving DecidableEq, Repr

/-- A call of the C client for a handle of the object with this number. -/
structure ClientCall where
  function : ClientFunction
  object : ℕ
deriving DecidableEq, Repr

/-- What an object holds: which of its handles are not null, and the objects it refers to. -/
inductive Body where
  | connection (replySub conn opts : Bool)
  | subscription (lastMsg sub : Bool)
  | jetStream (js : Bool)
  | kvStore (kv : Bool)
  | kvWatcher (watcher : Bool)
  | microService (svc : Bool)
  | microGroup (svc : ℕ)
  | natsClient (conn : ℕ)
  | channelSubscription (nsub : ℕ) (stopping : Bool)
  | channelKVWatch (watcher : ℕ) (stopping : Bool)
deriving DecidableEq, Repr

/-- An object; a destroyed one raises an exception when it is used. -/
structure Object where
  creator : ℕ
  valid : Bool := true
  body : Body
deriving DecidableEq, Repr

/-- The objects of a process, and the calls of the C client so far. -/
structure Process where
  pid : ℕ
  objects : List Object
  calls : List ClientCall := []
deriving DecidableEq, Repr

inductive Op where
  /-- `NatsConnection::close()` or `NatsClient::close()` -/
  | close (i : ℕ)
  | destroy (i : ℕ)
deriving DecidableEq, Repr

/-! ## Destructors and closes -/

/-- `f` is called for the object `i` if it has the handle. -/
def callIf (handle : Bool) (f : ClientFunction) (i : ℕ) : List ClientCall :=
  if handle then [⟨f, i⟩] else []

/-- The destructors of the native objects. -/
def destructorCalls (pid creator i : ℕ) (body : Body) : List ClientCall :=
  if isForkedChild pid creator then []
  else
    match body with
    | .connection replySub conn opts =>
        callIf replySub .natsSubscriptionUnsubscribe i ++
          callIf replySub .natsSubscriptionDestroy i ++
          callIf conn .natsConnectionDestroy i ++ callIf opts .natsOptionsDestroy i
    | .subscription lastMsg sub =>
        callIf lastMsg .natsMsgDestroy i ++ callIf sub .natsSubscriptionDestroy i
    | .jetStream js => callIf js .jsCtxDestroy i
    | .kvStore kv => callIf kv .kvStoreDestroy i
    | .kvWatcher watcher => callIf watcher .kvWatcherDestroy i
    | .microService svc => callIf svc .microServiceDestroy i
    | _ => []

namespace Process

def setObject (p : Process) (i : ℕ) (o : Object) : Process :=
  { p with objects := p.objects.set i o }

def call (p : Process) (calls : List ClientCall) : Process := { p with calls := p.calls ++ calls }

/-- The object, if it has not been destroyed. -/
def valid? (p : Process) (i : ℕ) : Option Object := p.objects[i]?.filter (·.valid)

/-- `NatsConnection::close()` -/
def closeConnection (p : Process) (i : ℕ) : Process :=
  match p.valid? i with
  | some ⟨creator, valid, .connection replySub conn opts⟩ =>
      if isForkedChild p.pid creator then
        -- the connection is abandoned in this process
        p.setObject i ⟨creator, valid, .connection replySub false opts⟩
      else p.call (callIf conn .natsConnectionClose i)
  | _ => p

/-- `NatsSubscription::unsubscribe()`; an exception is ignored by the caller. -/
def unsubscribe (p : Process) (i : ℕ) : Process :=
  match p.valid? i with
  | some ⟨_, _, .subscription _ sub⟩ => p.call (callIf sub .natsSubscriptionUnsubscribe i)
  | _ => p

/-- `NatsKeyValueWatcher::stop()`; an exception is ignored by the caller. -/
def stopWatcher (p : Process) (i : ℕ) : Process :=
  match p.valid? i with
  | some ⟨_, _, .kvWatcher watcher⟩ => p.call (callIf watcher .kvWatcherStop i)
  | _ => p

/-- The references to a service that are left: its object, and its groups. -/
def references (p : Process) (svc : ℕ) : List Object :=
  (p.valid? svc).toList ++ p.objects.filter fun o => o.valid && o.body == .microGroup svc

/-- A reference to a service is gone; the last one runs its destructor. -/
def derefService (p : Process) (svc : ℕ) : Process :=
  match p.objects[svc]? with
  | some o =>
      if (p.references svc).isEmpty then p.call (destructorCalls p.pid o.creator svc o.body) else p
  | none => p

/-- The destructor of the object `i`, which is marked as destroyed. -/
def destructor (p : Process) (i : ℕ) (o : Object) : Process :=
  let p' := p.setObject i { o with valid := false }
  match o.body with
  | .natsClient conn => p'.closeConnection conn
  | .channelSubscription nsub stopping => if stopping then p' else p'.unsubscribe nsub
  | .channelKVWatch watcher stopping => if stopping then p' else p'.stopWatcher watcher
  | .microService _ => p'.derefService i
  | .microGroup svc => p'.derefService svc
  | _ => p'.call (destructorCalls p.pid o.creator i o.body)

def step (p : Process) : Op → Process
  | .close i =>
      match p.valid? i with
      | some ⟨_, _, .natsClient conn⟩ => p.closeConnection conn
      | _ => p.closeConnection i
  | .destroy i =>
      match p.valid? i with
      | some o => p.destructor i o
      | none => p

def run (p : Process) (ops : List Op) : Process := ops.foldl step p

end Process

/-! ## Inherited objects -/

/-- What a child finds: the objects of its parent, some of which may have been destroyed. -/
structure Inheritance where
  parent : ℕ
  child : ℕ
  objects : List Object
  created : ∀ o ∈ objects, o.creator = parent
  distinct : child ≠ parent

/-- The child process, before its first step. -/
def Inheritance.start (h : Inheritance) : Process where
  pid := h.child
  objects := h.objects

/-- What closing the object calls: for a channel wrapper that has not been closed, the object below
    it and the function of the C client. -/
def Object.closes? : Object → Option (ℕ × ClientFunction)
  | ⟨_, true, .channelSubscription nsub false⟩ => some (nsub, .natsSubscriptionUnsubscribe)
  | ⟨_, true, .channelKVWatch watcher false⟩ => some (watcher, .kvWatcherStop)
  | _ => none

/-- Whether the object has the handle that a channel wrapper closes with this function. -/
def Object.handle : Object → ClientFunction → Bool
  | ⟨_, true, .subscription _ sub⟩, .natsSubscriptionUnsubscribe => sub
  | ⟨_, true, .kvWatcher watcher⟩, .kvWatcherStop => watcher
  | _, _ => false

def openChannel (objects : List Object) (i : ℕ) : Option (ℕ × ClientFunction) :=
  objects[i]?.bind (·.closes?)

def hasHandle (objects : List Object) (n : ℕ) (f : ClientFunction) : Bool :=
  objects[n]?.any (·.handle f)

/-- The channel wrapper `i` was closed before the fork, or has been destroyed, or what is below it
    has no handle or has been destroyed. -/
def Spared (objects : List Object) (before : List Op) (i : ℕ) : Prop :=
  ∀ n f, openChannel objects i = some (n, f) → .destroy i ∉ before → hasHandle objects n f = true →
    .destroy n ∈ before

/-- Nothing but spared channel wrappers is destroyed. -/
def ClosedFirst (objects : List Object) (ops : List Op) : Prop :=
  ∀ before i after, ops = before ++ .destroy i :: after → Spared objects before i

/-! ## Objects in the child -/

@[simp] theorem closes?_destroyed (creator : ℕ) (body : Body) :
    Object.closes? ⟨creator, false, body⟩ = none := rfl

@[simp] theorem handle_destroyed (creator : ℕ) (body : Body) (f : ClientFunction) :
    Object.handle ⟨creator, false, body⟩ f = false := rfl

@[simp] theorem closes?_connection (creator : ℕ) (valid replySub conn opts : Bool) :
    Object.closes? ⟨creator, valid, .connection replySub conn opts⟩ = none := by
  cases valid <;> rfl

@[simp] theorem handle_connection (creator : ℕ) (valid replySub conn opts : Bool)
    (f : ClientFunction) :
    Object.handle ⟨creator, valid, .connection replySub conn opts⟩ f = false := by
  cases valid <;> rfl

/-- An object that closes another one has no handle itself. -/
theorem handle_of_closes? {o : Object} {c : ℕ × ClientFunction} (h : o.closes? = some c)
    (f : ClientFunction) : o.handle f = false := by
  unfold Object.closes? at h
  split at h <;> first | rfl | cases h

/-- Channel wrappers do not see that an object is replaced by one with the same views. -/
theorem openChannel_set {objects : List Object} {i : ℕ} {o o' : Object} (ho : objects[i]? = some o)
    (h : o'.closes? = o.closes?) (j : ℕ) :
    openChannel (objects.set i o') j = openChannel objects j := by
  obtain ⟨hi, rfl⟩ := List.getElem?_eq_some_iff.mp ho
  rcases eq_or_ne i j with rfl | hij
  · simp [openChannel, hi, h]
  · simp [openChannel, hij]

theorem hasHandle_set {objects : List Object} {i : ℕ} {o o' : Object} (ho : objects[i]? = some o)
    (h : ∀ f, o'.handle f = o.handle f) (n : ℕ) (f : ClientFunction) :
    hasHandle (objects.set i o') n f = hasHandle objects n f := by
  obtain ⟨hi, rfl⟩ := List.getElem?_eq_some_iff.mp ho
  rcases eq_or_ne i n with rfl | hin
  · simp [hasHandle, hi, h]
  · simp [hasHandle, hin]

namespace Process

theorem valid?_eq_some {p : Process} {i : ℕ} {o : Object} :
    p.valid? i = some o ↔ p.objects[i]? = some o ∧ o.valid = true := by
  simp [valid?, Option.filter_eq_some_iff]

theorem valid?_eq_none {p : Process} {i : ℕ} (h : p.valid? i = none) :
    openChannel p.objects i = none ∧ ∀ f, hasHandle p.objects i f = false := by
  unfold openChannel hasHandle
  cases ho : p.objects[i]? with
  | none => simp
  | some o =>
      obtain ⟨creator, valid, body⟩ := o
      cases valid with
      | true => simp [valid?, ho] at h
      | false => simp

theorem hasHandle_eq_false {p : Process} {n : ℕ} {f : ClientFunction}
    (h : ∀ o, p.valid? n = some o → o.handle f = false) : hasHandle p.objects n f = false := by
  cases hv : p.valid? n with
  | none => exact (valid?_eq_none hv).2 f
  | some o => simpa [hasHandle, (valid?_eq_some.mp hv).1] using h o hv

/-- Every object was created by another process. -/
def Abandoned (p : Process) : Prop := ∀ o ∈ p.objects, isForkedChild p.pid o.creator = true

/-- `q` is `p` after the destructions of `ops`, as far as the channel wrappers are concerned. -/
structure After (p q : Process) (ops : List Op) : Prop where
  abandoned : p.Abandoned → q.Abandoned
  openChannel_eq : ∀ j, openChannel q.objects j =
    if .destroy j ∈ ops then none else openChannel p.objects j
  hasHandle_eq : ∀ n f, hasHandle q.objects n f =
    (decide (.destroy n ∉ ops) && hasHandle p.objects n f)

namespace After

variable {p q r : Process} {ops ops' : List Op}

theorem refl (p : Process) : After p p [] where
  abandoned h := h
  openChannel_eq j := by simp
  hasHandle_eq n f := by simp

theorem trans (h : After p q ops) (h' : After q r ops') : After p r (ops ++ ops') where
  abandoned hp := h'.abandoned (h.abandoned hp)
  openChannel_eq j := by
    rw [h'.openChannel_eq, h.openChannel_eq]
    by_cases hj : Op.destroy j ∈ ops <;> by_cases hj' : Op.destroy j ∈ ops' <;> simp [hj, hj']
  hasHandle_eq n f := by
    rw [h'.hasHandle_eq, h.hasHandle_eq]
    by_cases hn : Op.destroy n ∈ ops <;> by_cases hn' : Op.destroy n ∈ ops' <;> simp [hn, hn']

/-- Only the destructions count. -/
theorem congr (h : After p q ops) (hops : ∀ j, Op.destroy j ∈ ops' ↔ Op.destroy j ∈ ops) :
    After p q ops' where
  abandoned := h.abandoned
  openChannel_eq j := by simp only [hops, h.openChannel_eq]
  hasHandle_eq n f := by simp only [hops, h.hasHandle_eq]

/-- Calls change no object. -/
theorem call (h : After p q ops) (calls : List ClientCall) : After p (q.call calls) ops :=
  ⟨h.abandoned, h.openChannel_eq, h.hasHandle_eq⟩

end After

theorem abandoned_set {p : Process} (h : p.Abandoned) {i : ℕ} {o o' : Object}
    (ho : p.objects[i]? = some o) (hc : o'.creator = o.creator) : (p.setObject i o').Abandoned := by
  intro x hx
  rcases List.mem_or_eq_of_mem_set hx with hx | rfl
  · exact h x hx
  · rw [hc]
    exact h o (List.mem_of_getElem? ho)

/-- An object that is marked as destroyed. -/
theorem after_destroyed {p : Process} {i : ℕ} {o : Object} (ho : p.objects[i]? = some o) :
    After p (p.setObject i { o with valid := false }) [.destroy i] where
  abandoned h := abandoned_set h ho rfl
  openChannel_eq j := by
    have hi := (List.getElem?_eq_some_iff.mp ho).1
    rcases eq_or_ne i j with rfl | hij
    · simp [openChannel, setObject, hi]
    · simp [openChannel, setObject, hij, hij.symm]
  hasHandle_eq n f := by
    have hi := (List.getElem?_eq_some_iff.mp ho).1
    rcases eq_or_ne i n with rfl | hin
    · simp [hasHandle, setObject, hi]
    · simp [hasHandle, setObject, hin, hin.symm]

/-! ## Closes and destructors in the child -/

theorem after_closeConnection (p : Process) (i : ℕ) : After p (p.closeConnection i) [] := by
  unfold closeConnection
  split
  · case h_1 creator valid replySub conn opts hv =>
      have ho := (valid?_eq_some.mp hv).1
      split
      · exact
          { abandoned := fun h => abandoned_set h ho rfl
            openChannel_eq := fun j => by simpa [setObject] using openChannel_set ho (by simp) j
            hasHandle_eq := fun n f => by simpa [setObject] using hasHandle_set ho (by simp) n f }
      · exact (After.refl p).call _
  · exact .refl p

theorem calls_closeConnection {p : Process} (h : p.Abandoned) (i : ℕ) :
    (p.closeConnection i).calls = p.calls := by
  unfold closeConnection
  split
  · case h_1 creator valid replySub conn opts hv =>
      have hc := h _ (List.mem_of_getElem? (valid?_eq_some.mp hv).1)
      rw [if_pos hc]
      rfl
  · rfl

theorem after_unsubscribe (p : Process) (n : ℕ) : After p (p.unsubscribe n) [] := by
  unfold unsubscribe
  split
  · exact (After.refl p).call _
  · exact .refl p

/-- There is no guard: the C client is called in the child as well. -/
theorem calls_unsubscribe (p : Process) (n : ℕ) : (p.unsubscribe n).calls = p.calls ++
    callIf (hasHandle p.objects n .natsSubscriptionUnsubscribe) .natsSubscriptionUnsubscribe n := by
  unfold unsubscribe
  split
  · case h_1 creator valid lastMsg sub hv =>
      obtain ⟨ho, rfl⟩ := valid?_eq_some.mp hv
      simp [call, hasHandle, ho, Object.handle]
  · case h_2 hv =>
      have hn : hasHandle p.objects n .natsSubscriptionUnsubscribe = false := by
        refine hasHandle_eq_false fun ⟨creator, valid, body⟩ ho => ?_
        cases body with
        | subscription lastMsg sub => exact absurd ho (hv _ _ _ _)
        | _ => cases valid <;> rfl
      simp [hn, callIf]

theorem after_stopWatcher (p : Process) (n : ℕ) : After p (p.stopWatcher n) [] := by
  unfold stopWatcher
  split
  · exact (After.refl p).call _
  · exact .refl p

theorem calls_stopWatcher (p : Process) (n : ℕ) : (p.stopWatcher n).calls = p.calls ++
    callIf (hasHandle p.objects n .kvWatcherStop) .kvWatcherStop n := by
  unfold stopWatcher
  split
  · case h_1 creator valid watcher hv =>
      obtain ⟨ho, rfl⟩ := valid?_eq_some.mp hv
      simp [call, hasHandle, ho, Object.handle]
  · case h_2 hv =>
      have hn : hasHandle p.objects n .kvWatcherStop = false := by
        refine hasHandle_eq_false fun ⟨creator, valid, body⟩ ho => ?_
        cases body with
        | kvWatcher watcher => exact absurd ho (hv _ _ _)
        | _ => cases valid <;> rfl
      simp [hn, callIf]

theorem after_derefService (p : Process) (svc : ℕ) : After p (p.derefService svc) [] := by
  unfold derefService
  split
  · split
    · exact (After.refl p).call _
    · exact .refl p
  · exact .refl p

theorem calls_derefService {p : Process} (h : p.Abandoned) (svc : ℕ) :
    (p.derefService svc).calls = p.calls := by
  unfold derefService
  split
  · case h_1 o ho =>
      split
      · simp [call, destructorCalls, h o (List.mem_of_getElem? ho)]
      · rfl
  · rfl

/-! ## One step -/

/-- What the step calls in the child: only the destructor of a channel wrapper calls anything. -/
def channelCalls (objects : List Object) : Op → List ClientCall
  | .close _ => []
  | .destroy i =>
      match openChannel objects i with
      | some (n, f) => callIf (hasHandle objects n f) f n
      | none => []

theorem after_destructor {p : Process} {i : ℕ} {o : Object} (ho : p.objects[i]? = some o) :
    After p (p.destructor i o) [.destroy i] := by
  have h := after_destroyed ho
  unfold destructor
  split
  · exact h.trans (after_closeConnection _ _)
  · split
    · exact h
    · exact h.trans (after_unsubscribe _ _)
  · split
    · exact h
    · exact h.trans (after_stopWatcher _ _)
  · exact h.trans (after_derefService _ _)
  · exact h.trans (after_derefService _ _)
  · exact h.call _

theorem after_step (p : Process) (op : Op) : After p (p.step op) [op] := by
  cases op with
  | close i =>
      have h (j : ℕ) : After p (p.closeConnection j) [.close i] :=
        (after_closeConnection p j).congr (by simp)
      simp only [step]
      split <;> exact h _
  | destroy i =>
      simp only [step]
      split
      · case h_1 o hv => exact after_destructor (valid?_eq_some.mp hv).1
      · case h_2 hv =>
          obtain ⟨hopen, hhandle⟩ := valid?_eq_none hv
          exact
            { abandoned := id
              openChannel_eq := fun j => by
                rcases eq_or_ne i j with rfl | hij <;> simp_all [Ne.symm]
              hasHandle_eq := fun n f => by
                rcases eq_or_ne i n with rfl | hin <;> simp_all [Ne.symm] }

/-- A channel wrapper is not below itself, so the handle is still there after it is marked. -/
theorem hasHandle_destroyed {p : Process} {i : ℕ} {o : Object} {c : ℕ × ClientFunction}
    (ho : p.objects[i]? = some o) (hc : o.closes? = some c) (n : ℕ) (f : ClientFunction) :
    hasHandle (p.setObject i { o with valid := false }).objects n f = hasHandle p.objects n f := by
  rw [(after_destroyed ho).hasHandle_eq]
  rcases eq_or_ne i n with rfl | hin
  · simp [hasHandle, ho, handle_of_closes? hc]
  · simp [hin.symm]

theorem calls_destructor {p : Process} (h : p.Abandoned) {i : ℕ} {o : Object}
    (ho : p.objects[i]? = some o) (hvalid : o.valid = true) :
    (p.destructor i o).calls = p.calls ++ channelCalls p.objects (.destroy i) := by
  have h' := (after_destroyed ho).abandoned h
  have hcreator := h o (List.mem_of_getElem? ho)
  have hopen : openChannel p.objects i = o.closes? := by simp [openChannel, ho]
  obtain ⟨creator, valid, body⟩ := o
  subst hvalid
  simp only [channelCalls, hopen]
  cases body with
  | natsClient conn =>
      simp only [destructor, calls_closeConnection h']
      simp [Object.closes?, setObject]
  | channelSubscription nsub stopping =>
      cases stopping with
      | true => simp [destructor, Object.closes?, setObject]
      | false =>
          have hc : Object.closes? ⟨creator, true, .channelSubscription nsub false⟩ =
            some (nsub, .natsSubscriptionUnsubscribe) := rfl
          simp only [destructor, Bool.false_eq_true, if_false, calls_unsubscribe,
            hasHandle_destroyed ho hc, hc]
          rfl
  | channelKVWatch watcher stopping =>
      cases stopping with
      | true => simp [destructor, Object.closes?, setObject]
      | false =>
          have hc : Object.closes? ⟨creator, true, .channelKVWatch watcher false⟩ =
            some (watcher, .kvWatcherStop) := rfl
          simp only [destructor, Bool.false_eq_true, if_false, calls_stopWatcher,
            hasHandle_destroyed ho hc, hc]
          rfl
  | microService svc =>
      simp only [destructor, calls_derefService h']
      simp [Object.closes?, setObject]
  | microGroup svc =>
      simp only [destructor, calls_derefService h']
      simp [Object.closes?, setObject]
  | _ => simp [destructor, destructorCalls, hcreator, call, setObject, Object.closes?]

theorem calls_step {p : Process} (h : p.Abandoned) (op : Op) :
    (p.step op).calls = p.calls ++ channelCalls p.objects op := by
  cases op with
  | close i =>
      simp only [step, channelCalls, List.append_nil]
      split <;> exact calls_closeConnection h _
  | destroy i =>
      simp only [step]
      split
      · case h_1 o hv =>
          obtain ⟨ho, hvalid⟩ := valid?_eq_some.mp hv
          exact calls_destructor h ho hvalid
      · case h_2 hv => simp [channelCalls, (valid?_eq_none hv).1]

/-! ## Every sequence of steps -/

@[simp] theorem run_append (p : Process) (ops : List Op) (op : Op) :
    p.run (ops ++ [op]) = (p.run ops).step op := by
  simp [run]

theorem after_run (p : Process) (ops : List Op) : After p (p.run ops) ops := by
  induction ops using List.reverseRecOn with
  | nil => exact .refl p
  | append_singleton ops op ih =>
      rw [run_append]
      exact ih.trans (after_step _ op)

end Process

theorem Inheritance.abandoned (h : Inheritance) : h.start.Abandoned := by
  intro o ho
  have hdistinct : h.start.pid ≠ h.parent := h.distinct
  simpa [isForkedChild, h.created o ho] using hdistinct

/-- After `ops`, the destruction of `i` calls nothing exactly if the wrapper `i` is spared. -/
theorem channelCalls_run_eq_nil (h : Inheritance) (ops : List Op) (i : ℕ) :
    Process.channelCalls (h.start.run ops).objects (.destroy i) = [] ↔ Spared h.objects ops i := by
  have hrun := Process.after_run h.start ops
  have hstart : h.start.objects = h.objects := rfl
  simp only [Process.channelCalls, Spared]
  rw [hrun.openChannel_eq, hstart]
  by_cases hi : Op.destroy i ∈ ops
  · simp [hi]
  · cases ho : openChannel h.objects i with
    | none => simp [hi]
    | some c =>
        obtain ⟨n, f⟩ := c
        by_cases hn : Op.destroy n ∈ ops <;> simp [hi, hn, hrun.hasHandle_eq, hstart, callIf]

theorem closedFirst_nil (objects : List Object) : ClosedFirst objects [] := by
  intro before i after h
  simp at h

theorem closedFirst_append {objects : List Object} {ops : List Op} {op : Op} :
    ClosedFirst objects (ops ++ [op]) ↔
      ClosedFirst objects ops ∧ ∀ i, op = .destroy i → Spared objects ops i := by
  constructor
  · intro h
    refine ⟨fun before i after hops => h before i (after ++ [op]) (by simp [hops]), ?_⟩
    rintro i rfl
    exact h ops i [] rfl
  · rintro ⟨hops, hop⟩ before i after heq
    rcases List.eq_nil_or_concat after with rfl | ⟨after, last, rfl⟩
    · obtain ⟨rfl, hlast⟩ := List.append_inj' heq rfl
      exact hop i (List.head_eq_of_cons_eq hlast)
    · rw [List.concat_eq_append, ← List.cons_append, ← List.append_assoc] at heq
      exact hops before i after (List.append_inj' heq rfl).1

/-- In a forked child, the C client is called for an inherited object exactly if the destructor of a
    channel wrapper finds it open. -/
theorem no_client_call_iff (h : Inheritance) (ops : List Op) :
    (h.start.run ops).calls = [] ↔ ClosedFirst h.objects ops := by
  induction ops using List.reverseRecOn with
  | nil => exact ⟨fun _ => closedFirst_nil h.objects, fun _ => rfl⟩
  | append_singleton ops op ih =>
      have habandoned := (Process.after_run h.start ops).abandoned h.abandoned
      rw [Process.run_append, Process.calls_step habandoned, List.append_eq_nil_iff, ih,
        closedFirst_append]
      refine and_congr_right fun _ => ?_
      cases op with
      | close i => simp [Process.channelCalls]
      | destroy i => simp [channelCalls_run_eq_nil]

/-- The destructor of an inherited channel wrapper unsubscribes on the connection of the parent. -/
theorem channel_destroyed_in_child :
    ¬ ∀ (h : Inheritance) (ops : List Op), (h.start.run ops).calls = [] := by
  intro h
  have := h
    { parent := 1
      child := 2
      objects :=
        [{ creator := 1, body := .subscription false true },
          { creator := 1, body := .channelSubscription 0 false }]
      created := by decide
      distinct := by decide }
    [.destroy 1]
  revert this
  decide

end ModuleNats.Fork
