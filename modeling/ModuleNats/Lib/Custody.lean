import ModuleNats.Lib.Ownership

set_option autoImplicit false

/-! # Programs that release by hand what they acquire

A program of a runtime with exceptions calls a library that hands out objects: it has to release
each of them once, on every way out. Any call of the runtime can raise an exception, so the
exceptions are a parameter: `raises n` is what the call number `n` raises.

`Triple` is a Hoare triple for such programs. Its assertions are lists of the objects that are held,
after a return and after an exception; whatever else is held (the frame) is in the definition, so a
program that satisfies a triple leaves it alone. `Settles` is what the triple of a whole program
says: nothing that it has acquired is left. -/

namespace Custody

open Ownership

variable {ε α β : Type}

/-! ## Programs -/

/-- The number of the next object, the number of the next call of the runtime, and what has been
    done with the objects. -/
structure State where
  next : ℕ := 0
  calls : ℕ := 0
  log : List (Op ℕ) := []

/-- A program, given the exceptions that the calls of the runtime raise. -/
def Prog (ε α : Type) := (ℕ → Option ε) → State → Except ε α × State

namespace Prog

instance : Monad (Prog ε) where
  pure a := fun _ s => (.ok a, s)
  bind p f := fun raises s =>
    match p raises s with
    | (.ok a, s') => f a raises s'
    | (.error x, s') => (.error x, s')

def raise (x : ε) : Prog ε α := fun _ s => (.error x, s)

/-- A new object of the library. -/
def acquire : Prog ε ℕ := fun _ s =>
  (.ok s.next, { s with next := s.next + 1, log := .acquire s.next :: s.log })

def use (i : ℕ) : Prog ε Unit := fun _ s => (.ok (), { s with log := .use i :: s.log })

def release (i : ℕ) : Prog ε Unit := fun _ s => (.ok (), { s with log := .release i :: s.log })

/-- A call of the runtime, and the exception it has raised; the program goes on. -/
def attempt : Prog ε (Option ε) := fun raises s =>
  (.ok (raises s.calls), { s with calls := s.calls + 1 })

/-- A call that is made if the condition holds. -/
def attemptWhen (b : Bool) : Prog ε (Option ε) := if b then attempt else pure none

/-- A call that is made unless an exception is pending already. -/
def attemptUnless : Option ε → Prog ε (Option ε)
  | none => attempt
  | some x => pure (some x)

/-- An exception that is pending is raised. -/
def check : Option ε → Prog ε Unit
  | none => pure ()
  | some x => raise x

/-- A call of the runtime that ends the program if it raises an exception. -/
def call : Prog ε Unit := do check (← attempt)

/-- A call that is made if the condition holds. -/
def callWhen (b : Bool) : Prog ε Unit := if b then call else pure ()

/-- So many calls. -/
def callTimes : ℕ → Prog ε Unit
  | 0 => pure ()
  | n + 1 => do
      call
      callTimes n

def acquireTimes : ℕ → Prog ε (List ℕ)
  | 0 => pure []
  | n + 1 => do
      let i ← acquire
      let rest ← acquireTimes n
      pure (i :: rest)

def useAll : List ℕ → Prog ε Unit
  | [] => pure ()
  | i :: rest => do
      use i
      useAll rest

def releaseAll : List ℕ → Prog ε Unit
  | [] => pure ()
  | i :: rest => do
      release i
      releaseAll rest

/-- The handler runs if an exception ends the program, which is then raised again. -/
def onRaise (p : Prog ε α) (handler : Prog ε Unit) : Prog ε α := fun raises s =>
  match p raises s with
  | (.ok a, s') => (.ok a, s')
  | (.error x, s') => (.error x, (handler raises s').2)

/-- The object is released at the end of the program, however that ends. -/
def releasing (i : ℕ) (p : Prog ε α) : Prog ε α := do
  let a ← onRaise p (release i)
  release i
  pure a

/-- The program goes on only if the condition holds. -/
def ensure (b : Bool) (x : ε) : Prog ε Unit := if b then pure () else raise x

/-- The first call is made, and the program goes on, only if the condition holds. -/
def entering (b : Bool) (x : ε) (p : Prog ε α) : Prog ε α := do
  ensure b x
  call
  p

/-- An answer of the library that is a new object; `read` has to release it. -/
def taking (answer : Except ε β) (read : ℕ → β → Prog ε α) : Prog ε α :=
  match answer with
  | .error x => raise x
  | .ok b => do
      let i ← acquire
      read i b

/-- The loop that pushes what each entry of a list of the library becomes to a new list. The list of
    the library is released after the loop, and where an entry cannot be read or pushed. -/
def pushAll (list : ℕ) (p : β → Prog ε α) : List β → Prog ε (List α)
  | [] => do
      release list
      pure []
  | b :: rest => do
      use list
      let a ← onRaise (p b) (release list)
      onRaise call (release list)
      let pushed ← pushAll list p rest
      pure (a :: pushed)

end Prog

open Prog

/-! ## What is held -/

/-- The live objects are the ones in the list, and the next number is a new one. -/
structure Holds (s : State) (held : List ℕ) : Prop where
  owns : Owns s.log held
  nothingLost : NothingLost s.log held
  fresh : ∀ i, s.next ≤ i → Op.acquire i ∉ s.log

theorem Holds.perm {s : State} {held held' : List ℕ} (h : Holds s held) (hp : held'.Perm held) :
    Holds s held' :=
  ⟨h.owns.perm hp, h.nothingLost.perm hp, h.fresh⟩

/-- An object that was acquired and is not held has been released once. -/
theorem Holds.released_once {s : State} {held : List ℕ} (h : Holds s held) {i : ℕ}
    (hi : Op.acquire i ∈ s.log) (hnot : i ∉ held) : s.log.count (.release i) = 1 :=
  (h.owns.released_once_iff h.nothingLost hi).2 hnot

theorem Holds.acquire {s : State} {held : List ℕ} (h : Holds s held) :
    Holds { s with next := s.next + 1, log := .acquire s.next :: s.log } (s.next :: held) where
  owns := h.owns.acquire (h.fresh s.next (Nat.le_refl _))
  nothingLost := h.nothingLost.acquire h.owns.legal (h.fresh s.next (Nat.le_refl _))
  fresh i hi hmem := by
    rcases List.mem_cons.1 hmem with heq | hmem
    · have hnext : i = s.next := Op.acquire.inj heq
      exact absurd hi (by simp [hnext])
    · exact h.fresh i (Nat.le_of_succ_le hi) hmem

theorem Holds.use {s : State} {held : List ℕ} (h : Holds s held) {i : ℕ} (hi : i ∈ held) :
    Holds { s with log := .use i :: s.log } held :=
  ⟨h.owns.use hi, h.nothingLost.use i, fun j hj hmem => h.fresh j hj (by simpa using hmem)⟩

theorem Holds.release {s : State} {held : List ℕ} {i : ℕ} (h : Holds s (i :: held)) :
    Holds { s with log := .release i :: s.log } held :=
  ⟨h.owns.release, h.nothingLost.release, fun j hj hmem => h.fresh j hj (by simpa using hmem)⟩

theorem Holds.calls {s : State} {held : List ℕ} (h : Holds s held) (n : ℕ) :
    Holds { s with calls := n } held :=
  ⟨h.owns, h.nothingLost, h.fresh⟩

/-! ## Triples -/

/-- Whatever is pending was raised by a call. -/
def Pending (raises : ℕ → Option ε) (x : Option ε) : Prop := ∀ y ∈ x, ∃ n, raises n = some y

theorem Pending.or {raises : ℕ → Option ε} {x y : Option ε} (hx : Pending raises x)
    (hy : Pending raises y) : Pending raises (x.or y) := by
  cases x with
  | none => exact hy
  | some z => exact hx

/-- From a state in which `pre` is held, and a frame besides, the program returns a value with `Q`
    and `post` held, or ends with `fail` held, by an exception that a call has raised or by one of
    its own; the frame is as before. -/
def Triple (raises : ℕ → Option ε) (pre : List ℕ) (p : Prog ε α) (post : α → List ℕ) (Q : α → Prop)
    (fail : List ℕ) (own : ε → Prop) : Prop :=
  ∀ s frame, Holds s (pre ++ frame) →
    match p raises s with
    | (.ok a, s') => Holds s' (post a ++ frame) ∧ Q a
    | (.error x, s') => Holds s' (fail ++ frame) ∧ ((∃ n, raises n = some x) ∨ own x)

variable {raises : ℕ → Option ε} {pre fail : List ℕ} {Q : α → Prop} {own : ε → Prop}
  {post : α → List ℕ}

theorem Triple.pure (post : α → List ℕ) (a : α) (h : Q a) :
    Triple raises (post a) (pure a) post Q fail own :=
  fun _ _ hs => ⟨hs, h⟩

theorem Triple.raise {x : ε} (h : (∃ n, raises n = some x) ∨ own x) :
    Triple raises fail (raise x) post Q fail own :=
  fun _ _ hs => ⟨hs, h⟩

/-- The rule for sequences. -/
theorem Triple.bind {p : Prog ε β} {mid : β → List ℕ} {R : β → Prop} {f : β → Prog ε α}
    (hp : Triple raises pre p mid R fail own)
    (hf : ∀ b, R b → Triple raises (mid b) (f b) post Q fail own) :
    Triple raises pre (p >>= f) post Q fail own := by
  intro s frame hs
  have hfirst := hp s frame hs
  show match (match p raises s with
    | (.ok a, s') => f a raises s'
    | (.error x, s') => (.error x, s')) with
    | (.ok a, s') => Holds s' (post a ++ frame) ∧ Q a
    | (.error x, s') => Holds s' (fail ++ frame) ∧ ((∃ n, raises n = some x) ∨ own x)
  rcases hrun : p raises s with ⟨x | b, s'⟩
  · rw [hrun] at hfirst
    exact hfirst
  · rw [hrun] at hfirst
    exact hf b hfirst.2 s' frame hfirst.1

/-- What is held may be listed in another order. -/
theorem Triple.perm {p : Prog ε α} {pre' : List ℕ} (h : Triple raises pre p post Q fail own)
    (hp : pre'.Perm pre) : Triple raises pre' p post Q fail own :=
  fun s frame hs => h s frame (hs.perm (hp.symm.append_right frame))

/-- What else is held is not touched. -/
theorem Triple.frame {p : Prog ε α} {held : List ℕ} (h : Triple raises pre p post Q fail own) :
    Triple raises (pre ++ held) p (fun a => post a ++ held) Q (fail ++ held) own := by
  intro s frame hs
  have hrun := h s (held ++ frame) (by rwa [← List.append_assoc])
  rcases heq : p raises s with ⟨x | a, s'⟩ <;> rw [heq] at hrun <;> simp only [List.append_assoc]
  · exact hrun
  · exact hrun

theorem Triple.mono {p : Prog ε α} {R : α → Prop} {own' : ε → Prop}
    (h : Triple raises pre p post Q fail own) (hQ : ∀ a, Q a → R a) (hown : ∀ x, own x → own' x) :
    Triple raises pre p post R fail own' := by
  intro s frame hs
  have hrun := h s frame hs
  rcases heq : p raises s with ⟨x | a, s'⟩
  · rw [heq] at hrun
    exact ⟨hrun.1, hrun.2.imp_right (hown x)⟩
  · rw [heq] at hrun
    exact ⟨hrun.1, hQ a hrun.2⟩

/-! ## The rules for the steps of a program

Each is for the step with the rest of the program after it. -/

section Steps

variable {i : ℕ} {f : ℕ → Prog ε α} {rest : Unit → Prog ε α}

theorem Triple.acquire (h : ∀ i, Triple raises (i :: pre) (f i) post Q fail own) :
    Triple raises pre (acquire >>= f) post Q fail own :=
  fun s frame hs => h s.next _ frame hs.acquire

theorem Triple.use (hi : i ∈ pre) (h : Triple raises pre (rest ()) post Q fail own) :
    Triple raises pre (use i >>= rest) post Q fail own :=
  fun _ frame hs => h _ frame (hs.use (List.mem_append_left _ hi))

theorem Triple.release (h : Triple raises pre (rest ()) post Q fail own) :
    Triple raises (i :: pre) (release i >>= rest) post Q fail own :=
  fun _ frame hs => h _ frame hs.release

theorem triple_attempt : Triple raises pre attempt (fun _ => pre) (Pending raises) fail own :=
  fun s _ hs => ⟨hs.calls _, fun _ hy => ⟨s.calls, hy⟩⟩

theorem Triple.attempt {f : Option ε → Prog ε α}
    (h : ∀ x, Pending raises x → Triple raises pre (f x) post Q fail own) :
    Triple raises pre (attempt >>= f) post Q fail own :=
  triple_attempt.bind h

theorem Triple.attemptWhen (b : Bool) {f : Option ε → Prog ε α}
    (h : ∀ x, Pending raises x → Triple raises pre (f x) post Q fail own) :
    Triple raises pre (attemptWhen b >>= f) post Q fail own := by
  cases b with
  | false => exact h none (by simp [Pending])
  | true => exact Triple.attempt h

theorem triple_attemptUnless {x : Option ε} (hx : Pending raises x) :
    Triple raises pre (attemptUnless x) (fun _ => pre) (Pending raises) fail own := by
  cases x with
  | none => exact triple_attempt
  | some y => exact Triple.pure (fun _ => pre) (some y) hx

theorem Triple.attemptUnless {x : Option ε} (hx : Pending raises x) {f : Option ε → Prog ε α}
    (h : ∀ y, Pending raises y → Triple raises pre (f y) post Q fail own) :
    Triple raises pre (attemptUnless x >>= f) post Q fail own :=
  (triple_attemptUnless hx).bind h

theorem triple_check {x : Option ε} (hx : Pending raises x) :
    Triple raises fail (check x) (fun _ => fail) (fun _ => True) fail own := by
  cases x with
  | none => exact Triple.pure (fun _ => fail) () trivial
  | some y => exact Triple.raise (.inl (hx y rfl))

theorem Triple.check {x : Option ε} (hx : Pending raises x)
    (h : Triple raises fail (rest ()) post Q fail own) :
    Triple raises fail (check x >>= rest) post Q fail own :=
  (triple_check hx).bind fun _ _ => h

theorem triple_call : Triple raises fail call (fun _ => fail) (fun _ => True) fail own :=
  Triple.attempt fun _ hx => triple_check hx

theorem Triple.call (h : Triple raises fail (rest ()) post Q fail own) :
    Triple raises fail (call >>= rest) post Q fail own :=
  triple_call.bind fun _ _ => h

theorem triple_callWhen (b : Bool) :
    Triple raises fail (callWhen b) (fun _ => fail) (fun _ => True) fail own := by
  cases b with
  | false => exact Triple.pure (fun _ => fail) () trivial
  | true => exact triple_call

theorem Triple.callWhen (b : Bool) (h : Triple raises fail (rest ()) post Q fail own) :
    Triple raises fail (callWhen b >>= rest) post Q fail own :=
  (triple_callWhen b).bind fun _ _ => h

theorem triple_callTimes (n : ℕ) :
    Triple raises fail (callTimes n) (fun _ => fail) (fun _ => True) fail own := by
  induction n with
  | zero => exact Triple.pure (fun _ => fail) () trivial
  | succ n ih => exact Triple.call ih

theorem Triple.callTimes (n : ℕ) (h : Triple raises fail (rest ()) post Q fail own) :
    Triple raises fail (callTimes n >>= rest) post Q fail own :=
  (triple_callTimes n).bind fun _ _ => h

theorem Triple.acquireTimes (n : ℕ) {f : List ℕ → Prog ε α}
    (h : ∀ ids, ids.length = n → Triple raises (ids ++ pre) (f ids) post Q fail own) :
    Triple raises pre (acquireTimes n >>= f) post Q fail own := by
  have hacquire : ∀ pre : List ℕ, Triple raises pre (Prog.acquireTimes n) (fun ids => ids ++ pre)
      (fun ids => ids.length = n) fail own := by
    clear h
    induction n with
    | zero => exact fun pre => Triple.pure (fun ids => ids ++ pre) [] rfl
    | succ n ih =>
        intro pre
        refine Triple.acquire fun i => (ih (i :: pre)).bind fun ids hids => ?_
        exact (Triple.pure (fun ids => ids ++ pre) (i :: ids) (congrArg Nat.succ hids)).perm
          List.perm_middle
  exact (hacquire pre).bind fun ids hids => h ids hids

theorem Triple.useAll {ids : List ℕ} (hids : ∀ i ∈ ids, i ∈ pre)
    (h : Triple raises pre (rest ()) post Q fail own) :
    Triple raises pre (useAll ids >>= rest) post Q fail own := by
  have huse : Triple raises pre (Prog.useAll ids) (fun _ => pre) (fun _ => True) fail own := by
    induction ids with
    | nil => exact Triple.pure (fun _ => pre) () trivial
    | cons i ids ih =>
        obtain ⟨hi, hids⟩ := List.forall_mem_cons.1 hids
        exact Triple.use hi (ih hids)
  exact huse.bind fun _ _ => h

theorem Triple.releaseAll (ids : List ℕ) (h : Triple raises pre (rest ()) post Q fail own) :
    Triple raises (ids ++ pre) (releaseAll ids >>= rest) post Q fail own := by
  have hrelease : Triple raises (ids ++ pre) (Prog.releaseAll ids) (fun _ => pre) (fun _ => True)
      fail own := by
    induction ids with
    | nil => exact Triple.pure (fun _ => pre) () trivial
    | cons i ids ih => exact Triple.release ih
  exact hrelease.bind fun _ _ => h

end Steps

/-! ## Ways out -/

/-- The handler has to bring about what is held after an exception. -/
theorem Triple.onRaise {p : Prog ε α} {handler : Prog ε Unit} {mid : List ℕ}
    (hp : Triple raises pre p post Q mid own)
    (hhandler : ∀ s frame, Holds s (mid ++ frame) → Holds (handler raises s).2 (fail ++ frame)) :
    Triple raises pre (onRaise p handler) post Q fail own := by
  intro s frame hs
  have hrun := hp s frame hs
  rcases heq : p raises s with ⟨x | a, s'⟩ <;> rw [heq] at hrun <;> simp only [Prog.onRaise, heq]
  · exact ⟨hhandler s' frame hrun.1, hrun.2⟩
  · exact hrun

theorem Triple.onRaise_release {i : ℕ} {p : Prog ε α} {post : α → List ℕ} {held : List ℕ}
    (h : Triple raises pre p post Q (i :: held) own) :
    Triple raises pre (Prog.onRaise p (Prog.release i)) post Q held own :=
  h.onRaise fun _ _ hs => hs.release

/-- The object is held while the program runs, and not after it. -/
theorem Triple.releasing {i : ℕ} {p : Prog ε α} {held : List ℕ}
    (h : Triple raises (i :: held) p (fun _ => i :: held) Q (i :: held) own) :
    Triple raises (i :: held) (releasing i p) (fun _ => held) Q held own :=
  h.onRaise_release.bind fun a ha => Triple.release (Triple.pure (fun _ => held) a ha)

theorem Triple.ensure {b : Bool} {x : ε} {rest : Unit → Prog ε α} (hown : b = false → own x)
    (h : b = true → Triple raises fail (rest ()) post Q fail own) :
    Triple raises fail (ensure b x >>= rest) post Q fail own := by
  cases b with
  | false => exact Triple.raise (.inr (hown rfl))
  | true => exact h rfl

theorem Triple.taking {answer : Except ε β} {read : ℕ → β → Prog ε α}
    (herror : ∀ x, answer = .error x → own x)
    (hread : ∀ i b, answer = .ok b → Triple raises (i :: fail) (read i b) post Q fail own) :
    Triple raises fail (taking answer read) post Q fail own := by
  cases answer with
  | error x => exact Triple.raise (.inr (herror x rfl))
  | ok b => exact Triple.acquire fun i => hread i b rfl

/-- The list of the library is held in the loop, and not after it. -/
theorem Triple.pushAll {list : ℕ} {p : β → Prog ε α} {f : β → α} {held : List ℕ} (bs : List β)
    (h : ∀ b, Triple raises (list :: held) (p b) (fun _ => list :: held) (· = f b) (list :: held)
      own) :
    Triple raises (list :: held) (pushAll list p bs) (fun _ => held) (· = bs.map f) held own := by
  induction bs with
  | nil => exact Triple.release (Triple.pure (fun _ => held) [] rfl)
  | cons b rest ih =>
      refine Triple.use List.mem_cons_self ((h b).onRaise_release.bind fun a ha => ?_)
      refine triple_call.onRaise_release.bind fun _ _ => ih.bind fun pushed hpushed => ?_
      exact Triple.pure (fun _ => held) (a :: pushed) (by rw [ha, hpushed]; rfl)

/-! ## Whole programs -/

/-- What a program leaves behind that holds nothing at the end: the objects that were live are
    live, each object that it has acquired has been released once, and none has been touched out of
    turn. -/
structure Settled (before after : State) (frame : List ℕ) : Prop where
  holds : Holds after frame
  released : ∀ i, Op.acquire i ∈ after.log → Op.acquire i ∉ before.log →
    after.log.count (.release i) = 1

/-- From every state the program settles what it has acquired, and returns a value with `Q`, or ends
    by an exception that a call has raised or by one of its own. -/
def Settles (raises : ℕ → Option ε) (p : Prog ε α) (Q : α → Prop) (own : ε → Prop) : Prop :=
  ∀ s frame, Holds s frame → Settled s (p raises s).2 frame ∧
    match (p raises s).1 with
    | .ok a => Q a
    | .error x => (∃ n, raises n = some x) ∨ own x

theorem Triple.settles {p : Prog ε α} (h : Triple raises [] p (fun _ => []) Q [] own) :
    Settles raises p Q own := by
  intro s frame hs
  have hrun := h s frame hs
  have hholds : Holds (p raises s).2 frame := by
    rcases heq : p raises s with ⟨x | a, s'⟩ <;> rw [heq] at hrun <;> exact hrun.1
  refine ⟨⟨hholds, fun i hi hnew => hholds.released_once hi fun hmem => ?_⟩, ?_⟩
  · exact hnew (hs.owns.live i hmem).1
  · rcases heq : p raises s with ⟨x | a, s'⟩ <;> rw [heq] at hrun <;> exact hrun.2

/-- The program settles, and its result is `r` unless a call has raised an exception. -/
def Implements (raises : ℕ → Option ε) (p : Prog ε α) (r : Except ε α) : Prop :=
  Settles raises p (fun a => r = .ok a) (fun x => r = .error x)

/-- The triple of a program with the result `r`, which holds nothing before and after it. -/
abbrev Yields (raises : ℕ → Option ε) (p : Prog ε α) (r : Except ε α) : Prop :=
  Triple raises [] p (fun _ => []) (fun a => r = .ok a) [] (fun x => r = .error x)

theorem Yields.implements {p : Prog ε α} {r : Except ε α} (h : Yields raises p r) :
    Implements raises p r :=
  Triple.settles h

/-- An object that is an answer is read, and released by what reads it. -/
theorem Yields.taking {answer : Except ε β} {read : ℕ → β → Prog ε α} {f : β → α}
    (hread : ∀ i b {own : ε → Prop}, Triple raises [i] (read i b) (fun _ => []) (· = f b) [] own) :
    Yields raises (taking answer read) (answer.map f) := by
  refine Triple.taking (fun x hx => ?_) fun i b hb => ?_
  · rw [hx]
    rfl
  · rw [hb]
    exact (hread i b).mono (fun a ha => congrArg Except.ok ha.symm) fun _ hx => hx

/-- The result of a program that goes on only if the condition holds. -/
def entered (b : Bool) (x : ε) (r : Except ε α) : Except ε α := if b then r else .error x

theorem Yields.entering {b : Bool} {x : ε} {p : Prog ε α} {r : Except ε α}
    (h : Yields raises p r) : Yields raises (entering b x p) (entered b x r) := by
  refine Triple.ensure (fun hb => ?_) fun hb => Triple.call ?_
  · rw [hb]
    rfl
  · rw [hb]
    exact h

end Custody
