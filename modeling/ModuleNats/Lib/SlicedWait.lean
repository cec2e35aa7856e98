import Mathlib.Data.Rat.Floor
import Mathlib.Tactic.Linarith

set_option autoImplicit false

/-! # Waiting in slices

A blocking wait that nothing can end early is made in slices: a loop looks for a cancellation, waits
for at most one slice, and goes on with the time that is left. The library says of every such loop
what its trace looks like (`WellSliced`), that it ends, and when its slices cannot be told from one
wait with the whole timeout: when the wait is `Additive`, which waits for one event are
(`WaitsFor.additive`). It also says when a loop that is cancelled ends (`CancelledAt.call_ends`). -/

namespace SlicedWait

variable {σ ε β : Type*}

/-! ## The loop -/

/-- How a wait ends: with a result, at its timeout, or with neither, after which it is made again
    with the same time left. -/
inductive Answer (β : Type*) where
  | done (b : β)
  | timedOut
  | again
deriving DecidableEq, Repr

/-- What the loop calls, over the states `σ` of the world around it. -/
structure World (σ ε β : Type*) where
  /-- is a cancellation pending? -/
  check : σ → Option ε × σ
  wait : ℤ → σ → Answer β × σ

/-- What the loop does. -/
inductive Event (ε β : Type*) where
  | check (pending : Option ε)
  | wait (ms : ℤ) (answer : Answer β)
  | countdown (remaining : ℤ)
deriving DecidableEq, Repr

/-- How the whole wait ends. -/
inductive Outcome (ε β : Type*) where
  | cancelled (e : ε)
  | done (b : β)
  | timedOut
deriving DecidableEq, Repr

/-- The length of the next slice. -/
def slice (q : ℤ) (infinite : Bool) (remaining : ℤ) : ℤ :=
  if infinite then q else if remaining > q then q else remaining

/-- The end of the loop, or the time that is left for the next pass. -/
abbrev Next (ε β : Type*) := Outcome ε β ⊕ ℤ

/-- One pass of the loop. -/
def pass (W : World σ ε β) (q : ℤ) (infinite : Bool) (remaining : ℤ) (s : σ) :
    Next ε β × List (Event ε β) × σ :=
  match W.check s with
  | (some e, s) => (.inl (.cancelled e), [.check (some e)], s)
  | (none, s) =>
      let ms := slice q infinite remaining
      match W.wait ms s with
      | (.done b, s) => (.inl (.done b), [.check none, .wait ms (.done b)], s)
      | (.again, s) => (.inr remaining, [.check none, .wait ms .again], s)
      | (.timedOut, s) =>
          if infinite then (.inr remaining, [.check none, .wait ms .timedOut], s)
          else
            (if remaining - ms ≤ 0 then .inl .timedOut else .inr (remaining - ms),
              [.check none, .wait ms .timedOut, .countdown (remaining - ms)], s)

/-- How far a wait has come: its outcome, if it has ended, and its trace. -/
structure Waited (σ ε β : Type*) where
  outcome : Option (Outcome ε β)
  events : List (Event ε β)
  world : σ

/-- The loop, for at most so many passes. -/
def loop (W : World σ ε β) (q : ℤ) (infinite : Bool) : ℕ → ℤ → σ → Waited σ ε β
  | 0, _, s => ⟨none, [], s⟩
  | n + 1, remaining, s =>
      match pass W q infinite remaining s with
      | (.inl outcome, events, s) => ⟨some outcome, events, s⟩
      | (.inr remaining, events, s) =>
          let rest := loop W q infinite n remaining s
          ⟨rest.outcome, events ++ rest.events, rest.world⟩

/-- A call looks for a cancellation before its loop as well. -/
def call (W : World σ ε β) (q : ℤ) (infinite : Bool) (passes : ℕ) (timeout : ℤ) (s : σ) :
    Waited σ ε β :=
  match W.check s with
  | (some e, s) => ⟨some (.cancelled e), [.check (some e)], s⟩
  | (none, s) =>
      let rest := loop W q infinite passes timeout s
      ⟨rest.outcome, .check none :: rest.events, rest.world⟩

/-! ## What a pass can do -/

inductive Pass (W : World σ ε β) (q : ℤ) (infinite : Bool) (remaining : ℤ) (s : σ) :
    Next ε β → List (Event ε β) → σ → Prop where
  | cancelled {e : ε} {s' : σ} (hcheck : W.check s = (some e, s')) :
      Pass W q infinite remaining s (.inl (.cancelled e)) [.check (some e)] s'
  | done {b : β} {s' s'' : σ} (hcheck : W.check s = (none, s'))
      (hwait : W.wait (slice q infinite remaining) s' = (.done b, s'')) :
      Pass W q infinite remaining s (.inl (.done b))
        [.check none, .wait (slice q infinite remaining) (.done b)] s''
  | again {s' s'' : σ} (hcheck : W.check s = (none, s'))
      (hwait : W.wait (slice q infinite remaining) s' = (.again, s'')) :
      Pass W q infinite remaining s (.inr remaining)
        [.check none, .wait (slice q infinite remaining) .again] s''
  | endless {s' s'' : σ} (hinfinite : infinite = true) (hcheck : W.check s = (none, s'))
      (hwait : W.wait q s' = (.timedOut, s'')) :
      Pass W q infinite remaining s (.inr remaining) [.check none, .wait q .timedOut] s''
  /-- the last slice takes all the time that is left -/
  | lastSlice {s' s'' : σ} (hfinite : infinite = false) (hlast : remaining ≤ q)
      (hcheck : W.check s = (none, s')) (hwait : W.wait remaining s' = (.timedOut, s'')) :
      Pass W q infinite remaining s (.inl .timedOut)
        [.check none, .wait remaining .timedOut, .countdown 0] s''
  | goesOn {s' s'' : σ} (hfinite : infinite = false) (hmore : q < remaining)
      (hcheck : W.check s = (none, s')) (hwait : W.wait q s' = (.timedOut, s'')) :
      Pass W q infinite remaining s (.inr (remaining - q))
        [.check none, .wait q .timedOut, .countdown (remaining - q)] s''

theorem pass_cases {W : World σ ε β} {q : ℤ} {infinite : Bool} {remaining : ℤ} {s s' : σ}
    {next : Next ε β} {events : List (Event ε β)}
    (h : pass W q infinite remaining s = (next, events, s')) :
    Pass W q infinite remaining s next events s' := by
  unfold pass at h
  split at h
  · next hcheck => cases h; exact .cancelled hcheck
  · next hcheck =>
      dsimp only at h
      split at h
      · next hwait => cases h; exact .done hcheck hwait
      · next hwait => cases h; exact .again hcheck hwait
      · next hwait =>
          cases infinite with
          | true => cases h; exact .endless rfl hcheck hwait
          | false =>
              by_cases hmore : remaining > q
              · have hleft : ¬ remaining - q ≤ 0 := by omega
                simp only [slice, Bool.false_eq_true, if_false, if_pos hmore, if_neg hleft]
                  at h hwait
                cases h
                exact .goesOn rfl hmore hcheck hwait
              · simp only [slice, Bool.false_eq_true, if_false, if_neg hmore, sub_self, le_refl,
                  if_true] at h hwait
                cases h
                exact .lastSlice rfl (not_lt.1 hmore) hcheck hwait

/-- The rule for properties of the loop: what holds of no pass and of the last one, and is kept
    when a pass is put before, holds of the whole loop. -/
theorem loop_rule {W : World σ ε β} {q : ℤ} {infinite : Bool}
    {P : ℤ → Option (Outcome ε β) → List (Event ε β) → Prop} (hnil : ∀ r, P r none [])
    (hlast : ∀ {r s outcome events s'}, Pass W q infinite r s (.inl outcome) events s' →
      P r (some outcome) events)
    (hmore : ∀ {r s r' events s' outcome rest}, Pass W q infinite r s (.inr r') events s' →
      P r' outcome rest → P r outcome (events ++ rest))
    (n : ℕ) (r : ℤ) (s : σ) :
    P r (loop W q infinite n r s).outcome (loop W q infinite n r s).events := by
  induction n generalizing r s with
  | zero => exact hnil r
  | succ n ih =>
      rw [loop]
      rcases hpass : pass W q infinite r s with ⟨outcome | r', events, s'⟩
      · exact hlast (pass_cases hpass)
      · exact hmore (pass_cases hpass) (ih r' s')

/-! ## The trace -/

/-- The slices that have timed out. -/
def timedOutSlices (events : List (Event ε β)) : List ℤ :=
  events.filterMap fun
    | .wait ms .timedOut => some ms
    | _ => none

@[simp] theorem timedOutSlices_nil : timedOutSlices ([] : List (Event ε β)) = [] := rfl

@[simp] theorem timedOutSlices_check (pending : Option ε) (rest : List (Event ε β)) :
    timedOutSlices (.check pending :: rest) = timedOutSlices rest := rfl

@[simp] theorem timedOutSlices_countdown (r : ℤ) (rest : List (Event ε β)) :
    timedOutSlices (.countdown r :: rest) = timedOutSlices rest := rfl

@[simp] theorem timedOutSlices_timedOut (ms : ℤ) (rest : List (Event ε β)) :
    timedOutSlices (.wait ms .timedOut :: rest) = ms :: timedOutSlices rest := rfl

@[simp] theorem timedOutSlices_done (ms : ℤ) (b : β) (rest : List (Event ε β)) :
    timedOutSlices (.wait ms (.done b) :: rest) = timedOutSlices rest := rfl

@[simp] theorem timedOutSlices_again (ms : ℤ) (rest : List (Event ε β)) :
    timedOutSlices (.wait ms .again :: rest) = timedOutSlices rest := rfl

/-- Every wait comes right after a check that has found nothing. -/
def Checked (events : List (Event ε β)) : Prop :=
  ∀ before ms answer after, events = before ++ .wait ms answer :: after →
    ∃ start, before = start ++ [.check none]

/-- Nothing comes after a check that has found a cancellation, which the outcome reports. -/
def Stops (outcome : Option (Outcome ε β)) (events : List (Event ε β)) : Prop :=
  ∀ before e after, events = before ++ .check (some e) :: after →
    after = [] ∧ outcome = some (.cancelled e)

/-- A slice is not longer than `q`, and the time that is left not longer than the timeout. -/
def Event.Within (q timeout : ℤ) : Event ε β → Prop
  | .wait ms _ => 0 ≤ ms ∧ ms ≤ q
  | .countdown r => 0 ≤ r ∧ r ≤ timeout
  | .check _ => True

theorem checked_nil : Checked ([] : List (Event ε β)) := by
  intro before ms answer after h
  cases before <;> cases h

theorem Checked.cons {events : List (Event ε β)} (h : Checked events) {event : Event ε β}
    (hevent : ∀ ms answer, event ≠ .wait ms answer) : Checked (event :: events) := by
  intro before ms answer after heq
  cases before with
  | nil => exact absurd (List.cons.inj heq).1 (hevent ms answer)
  | cons first before =>
      obtain ⟨rfl, hrest⟩ := List.cons.inj heq
      obtain ⟨start, rfl⟩ := h before ms answer after hrest
      exact ⟨event :: start, rfl⟩

theorem Checked.wait {events : List (Event ε β)} (h : Checked events) (ms : ℤ)
    (answer : Answer β) : Checked (.check none :: .wait ms answer :: events) := by
  intro before ms' answer' after heq
  match before with
  | [] => cases heq
  | [first] =>
      obtain ⟨rfl, -⟩ := List.cons.inj heq
      exact ⟨[], rfl⟩
  | first :: second :: before =>
      simp only [List.cons_append, List.cons.injEq] at heq
      obtain ⟨rfl, rfl, hrest⟩ := heq
      obtain ⟨start, rfl⟩ := h before ms' answer' after hrest
      exact ⟨.check none :: .wait ms answer :: start, rfl⟩

theorem checked_loop (W : World σ ε β) (q : ℤ) (infinite : Bool) (n : ℕ) (r : ℤ) (s : σ) :
    Checked (loop W q infinite n r s).events := by
  refine loop_rule (P := fun _ _ events => Checked events) (fun _ => checked_nil) ?_ ?_ n r s
  · intro r s outcome events s' hpass
    cases hpass with
    | cancelled => exact checked_nil.cons (by simp)
    | done => exact checked_nil.wait _ _
    | lastSlice => exact (checked_nil.cons (by simp)).wait _ _
  · intro r s r' events s' outcome rest hpass hrest
    cases hpass with
    | again | endless => exact hrest.wait _ _
    | goesOn => exact (hrest.cons (by simp)).wait _ _

theorem stops_nil : Stops none ([] : List (Event ε β)) := by
  intro before e after h
  cases before <;> cases h

theorem Stops.cons {outcome : Option (Outcome ε β)} {events : List (Event ε β)}
    (h : Stops outcome events) {event : Event ε β} (hevent : ∀ e, event ≠ .check (some e)) :
    Stops outcome (event :: events) := by
  intro before e after heq
  cases before with
  | nil => exact absurd (List.cons.inj heq).1 (hevent e)
  | cons first before => exact h before e after (List.cons.inj heq).2

theorem stops_cancelled (e : ε) :
    Stops (some (.cancelled e)) ([.check (some e)] : List (Event ε β)) := by
  intro before e' after heq
  cases before with
  | nil => cases heq; exact ⟨rfl, rfl⟩
  | cons first before => cases before <;> cases heq

theorem stops_of_forall {outcome : Option (Outcome ε β)} {events : List (Event ε β)}
    (h : ∀ e, .check (some e) ∉ events) : Stops outcome events := by
  rintro before e after rfl
  exact absurd (List.mem_append_right _ List.mem_cons_self) (h e)

theorem stops_loop (W : World σ ε β) (q : ℤ) (infinite : Bool) (n : ℕ) (r : ℤ) (s : σ) :
    Stops (loop W q infinite n r s).outcome (loop W q infinite n r s).events := by
  refine loop_rule (P := fun _ => Stops) (fun _ => stops_nil) ?_ ?_ n r s
  · intro r s outcome events s' hpass
    cases hpass with
    | cancelled => exact stops_cancelled _
    | done | lastSlice => exact stops_of_forall (by simp)
  · intro r s r' events s' outcome rest hpass hrest
    cases hpass with
    | again | endless => exact (hrest.cons (by simp)).cons (by simp)
    | goesOn => exact ((hrest.cons (by simp)).cons (by simp)).cons (by simp)

theorem slice_mem {q r : ℤ} {infinite : Bool} (hq : 0 ≤ q) (hr : infinite = true ∨ 0 ≤ r) :
    0 ≤ slice q infinite r ∧ slice q infinite r ≤ q := by
  cases infinite with
  | true => exact ⟨hq, le_rfl⟩
  | false =>
      have hnonneg : 0 ≤ r := hr.resolve_left Bool.false_ne_true
      simp only [slice, Bool.false_eq_true, if_false]
      split <;> omega

theorem slice_le (q r : ℤ) : slice q false r ≤ r := by
  simp only [slice, Bool.false_eq_true, if_false]
  split <;> omega

theorem within_loop (W : World σ ε β) {q : ℤ} (hq : 0 ≤ q) {infinite : Bool} (n : ℕ)
    {timeout : ℤ} (ht : infinite = true ∨ 0 ≤ timeout) (s : σ) :
    ∀ event ∈ (loop W q infinite n timeout s).events, event.Within q timeout := by
  refine loop_rule (P := fun r _ events => ∀ t, (infinite = true ∨ 0 ≤ r) → r ≤ t →
    ∀ event ∈ events, event.Within q t) (fun _ _ _ _ => by simp) ?_ ?_ n timeout s timeout ht
      le_rfl
  · intro r s outcome events s' hpass t hr hrt
    cases hpass with
    | cancelled => simp [Event.Within]
    | done => simpa [Event.Within] using slice_mem hq hr
    | lastSlice hfinite hlast =>
        have hnonneg : 0 ≤ r := hr.resolve_left (by simp [hfinite])
        simp [Event.Within, hnonneg, hlast, hnonneg.trans hrt]
  · intro r s r' events s' outcome rest hpass hrest t hr hrt
    cases hpass with
    | again => simpa [Event.Within, slice_mem hq hr] using hrest t hr hrt
    | endless hinfinite => simpa [Event.Within, hq] using hrest t hr hrt
    | goesOn hfinite hmore =>
        have hleft : 0 ≤ r - q ∧ r - q ≤ t := by omega
        simpa [Event.Within, hq, hleft.2, hmore.le] using hrest t (.inr hleft.1) hleft.2

/-- A wait that times out has waited for exactly its timeout. -/
theorem sum_loop (W : World σ ε β) (q : ℤ) (infinite : Bool) (n : ℕ) (timeout : ℤ) (s : σ)
    (h : (loop W q infinite n timeout s).outcome = some .timedOut) :
    infinite = false ∧ (timedOutSlices (loop W q infinite n timeout s).events).sum = timeout := by
  refine loop_rule (P := fun r outcome events => outcome = some .timedOut →
    infinite = false ∧ (timedOutSlices events).sum = r) (fun _ => nofun) ?_ ?_ n timeout s h
  · intro r s outcome events s' hpass hout
    cases hpass with
    | cancelled | done => cases hout
    | lastSlice hfinite => exact ⟨hfinite, by simp⟩
  · intro r s r' events s' outcome rest hpass hrest hout
    obtain ⟨hfinite, hsum⟩ := hrest hout
    cases hpass with
    | again => exact ⟨hfinite, hsum⟩
    | endless hinfinite => exact absurd (hinfinite.symm.trans hfinite) nofun
    | goesOn => exact ⟨hfinite, by simp [hsum]⟩

/-- All slices that time out but the last one are whole ones. -/
theorem count_loop (W : World σ ε β) (q : ℤ) (n : ℕ) (timeout : ℤ) (s : σ) :
    (timedOutSlices (loop W q false n timeout s).events).length ≤ 1 ∨
      ((timedOutSlices (loop W q false n timeout s).events).length - 1 : ℤ) * q < timeout := by
  refine loop_rule (P := fun r _ events => (timedOutSlices events).length ≤ 1 ∨
    ((timedOutSlices events).length - 1 : ℤ) * q < r) (fun _ => .inl (by simp)) ?_ ?_ n timeout s
  · intro r s outcome events s' hpass
    cases hpass <;> exact .inl (by simp)
  · intro r s r' events s' outcome rest hpass hrest
    cases hpass with
    | again => exact hrest
    | endless hinfinite => cases hinfinite
    | goesOn hfinite hmore =>
        simp only [List.cons_append, List.nil_append, timedOutSlices_check, timedOutSlices_timedOut,
          timedOutSlices_countdown, List.length_cons]
        rcases hrest with hfew | hmany
        · rcases Nat.le_one_iff_eq_zero_or_eq_one.1 hfew with hzero | hone
          · exact .inl (by omega)
          · exact .inr (by rw [hone]; push_cast; linarith)
        · right
          push_cast
          linarith

/-- A whole slice leaves a pass, and enough passes for the rest of the timeout. -/
theorem passes_left {q timeout : ℤ} {n : ℕ} (hmore : q < timeout) (ht : timeout ≤ (n + 1 : ℕ) * q) :
    1 ≤ n ∧ timeout - q ≤ n * q := by
  push_cast at ht
  have hleft : timeout - q ≤ n * q := by linarith
  refine ⟨?_, hleft⟩
  by_contra hnone
  obtain rfl : n = 0 := by omega
  rw [Nat.cast_zero, zero_mul] at hleft
  omega

/-- With so many passes as the timeout can need, and no wait that has to be made again, the loop
    ends. -/
theorem outcome_loop {W : World σ ε β} {q : ℤ} (hends : ∀ ms s, (W.wait ms s).1 ≠ .again)
    {n : ℕ} (hn : 1 ≤ n) {timeout : ℤ} (ht : timeout ≤ n * q) (s : σ) :
    (loop W q false n timeout s).outcome ≠ none := by
  induction n generalizing timeout s with
  | zero => omega
  | succ n ih =>
      rw [loop]
      rcases hpass : pass W q false timeout s with ⟨outcome | r', events, s'⟩
      · exact Option.some_ne_none outcome
      · cases pass_cases hpass with
        | again hcheck hwait => exact absurd (congrArg Prod.fst hwait) (hends _ _)
        | endless hinfinite => cases hinfinite
        | goesOn hfinite hmore =>
            obtain ⟨hn, hleft⟩ := passes_left hmore ht
            exact ih hn hleft s'

/-! ## The whole call -/

/-- What the trace of a wait in slices looks like. -/
structure WellSliced (q timeout : ℤ) (infinite : Bool) (w : Waited σ ε β) : Prop where
  checked : Checked w.events
  stops : Stops w.outcome w.events
  /-- the slices, and the time that is left after them -/
  within : ∀ event ∈ w.events, event.Within q timeout
  sum : w.outcome = some .timedOut → (timedOutSlices w.events).sum = timeout
  endless : infinite = true → w.outcome ≠ some .timedOut
  count : infinite = false →
    ((timedOutSlices w.events).length : ℤ) ≤ max 1 ⌈(timeout : ℚ) / q⌉

theorem length_le_ceil {q timeout : ℤ} (hq : 0 < q) {n : ℕ}
    (h : n ≤ 1 ∨ (n - 1 : ℤ) * q < timeout) : (n : ℤ) ≤ max 1 ⌈(timeout : ℚ) / q⌉ := by
  rcases h with hfew | hmany
  · exact le_max_of_le_left (by exact_mod_cast hfew)
  · refine le_max_of_le_right ?_
    have hlt : ((n - 1 : ℤ) : ℚ) < (timeout : ℚ) / q := by
      rw [lt_div_iff₀ (by exact_mod_cast hq)]
      exact_mod_cast hmany
    have := Int.lt_ceil.2 hlt
    omega

theorem loop_wellSliced (W : World σ ε β) {q : ℤ} (hq : 0 < q) {infinite : Bool} (n : ℕ)
    {timeout : ℤ} (ht : infinite = true ∨ 0 ≤ timeout) (s : σ) :
    WellSliced q timeout infinite (loop W q infinite n timeout s) where
  checked := checked_loop W q infinite n timeout s
  stops := stops_loop W q infinite n timeout s
  within := within_loop W hq.le n ht s
  sum h := (sum_loop W q infinite n timeout s h).2
  endless h hout := absurd (h.symm.trans (sum_loop W q infinite n timeout s hout).1) nofun
  count := by
    rintro rfl
    exact length_le_ceil hq (count_loop W q n timeout s)

/-- Every wait in slices, whatever the world around it does. -/
theorem call_wellSliced (W : World σ ε β) {q : ℤ} (hq : 0 < q) {infinite : Bool} (n : ℕ)
    {timeout : ℤ} (ht : infinite = true ∨ 0 ≤ timeout) (s : σ) :
    WellSliced q timeout infinite (call W q infinite n timeout s) := by
  rw [call]
  split
  · next e s' hcheck =>
      exact {
        checked := checked_nil.cons (by simp)
        stops := stops_cancelled e
        within := by simp [Event.Within]
        sum := nofun
        endless := nofun
        count := fun _ => length_le_ceil hq (.inl (by simp)) }
  · next s' hcheck =>
      have hloop := loop_wellSliced W hq n ht s'
      exact {
        checked := hloop.checked.cons (by simp)
        stops := hloop.stops.cons (by simp)
        within := by simpa [Event.Within] using hloop.within
        sum := hloop.sum
        endless := hloop.endless
        count := hloop.count }

/-- So many passes are enough for the timeout. -/
def Enough (q timeout : ℤ) (n : ℕ) : Prop := max 1 ⌈(timeout : ℚ) / q⌉ ≤ (n : ℤ)

theorem Enough.one_le {q timeout : ℤ} {n : ℕ} (h : Enough q timeout n) : 1 ≤ n := by
  exact_mod_cast (le_max_left _ _).trans h

theorem Enough.le_mul {q timeout : ℤ} (hq : 0 < q) {n : ℕ} (h : Enough q timeout n) :
    timeout ≤ n * q := by
  have hceil : (timeout : ℚ) / q ≤ n := by
    exact_mod_cast Int.ceil_le.1 ((le_max_right _ _).trans h)
  rw [div_le_iff₀ (by exact_mod_cast hq)] at hceil
  exact_mod_cast hceil

theorem outcome_call {W : World σ ε β} {q : ℤ} (hq : 0 < q)
    (hends : ∀ ms s, (W.wait ms s).1 ≠ .again) {n : ℕ} {timeout : ℤ}
    (henough : Enough q timeout n) (s : σ) : (call W q false n timeout s).outcome ≠ none := by
  rw [call]
  split
  · exact Option.some_ne_none _
  · exact outcome_loop hends henough.one_le (henough.le_mul hq) _

/-! ## One wait -/

/-- The end of a call that waits once. -/
def Answer.outcome : Answer β → Option (Outcome ε β)
  | .done b => some (.done b)
  | .timedOut => some .timedOut
  | .again => none

/-- A wait that can be cut in two. -/
def Additive (wait : ℤ → σ → Answer β × σ) : Prop :=
  ∀ a b s, 0 < a → 0 < b → wait (a + b) s =
    match wait a s with
    | (.timedOut, s) => wait b s
    | answer => answer

/-- No cancellation is pending, at any time. -/
def World.Quiet (W : World σ ε β) : Prop := ∀ s, W.check s = (none, s)

theorem loop_eq_wait {W : World σ ε β} (hquiet : W.Quiet) (hadd : Additive W.wait) {q : ℤ}
    (hq : 0 < q) (hends : ∀ ms s, (W.wait ms s).1 ≠ .again) {n : ℕ} (hn : 1 ≤ n) {timeout : ℤ}
    (ht : timeout ≤ n * q) (s : σ) :
    (loop W q false n timeout s).outcome = (W.wait timeout s).1.outcome ∧
    (loop W q false n timeout s).world = (W.wait timeout s).2 := by
  induction n generalizing timeout s with
  | zero => omega
  | succ n ih =>
      rw [loop]
      rcases hpass : pass W q false timeout s with ⟨next, events, s''⟩
      cases pass_cases hpass with
      | cancelled hcheck => exact absurd (congrArg Prod.fst ((hquiet s).symm.trans hcheck)) nofun
      | again hcheck hwait => exact absurd (congrArg Prod.fst hwait) (hends _ _)
      | endless hinfinite => cases hinfinite
      | lastSlice hfinite hlast hcheck hwait =>
          obtain ⟨-, rfl⟩ := Prod.mk.inj ((hquiet s).symm.trans hcheck)
          simp [hwait, Answer.outcome]
      | done hcheck hwait =>
          obtain ⟨-, rfl⟩ := Prod.mk.inj ((hquiet s).symm.trans hcheck)
          by_cases hmore : timeout > q
          · -- the rest of the timeout is not needed
            simp only [slice, Bool.false_eq_true, if_false, if_pos hmore] at hwait
            have hwhole := hadd q (timeout - q) s hq (by omega)
            rw [add_sub_cancel, hwait] at hwhole
            simp [hwhole, Answer.outcome]
          · simp only [slice, Bool.false_eq_true, if_false, if_neg hmore] at hwait
            simp [hwait, Answer.outcome]
      | goesOn hfinite hmore hcheck hwait =>
          obtain ⟨-, rfl⟩ := Prod.mk.inj ((hquiet s).symm.trans hcheck)
          have hwhole := hadd q (timeout - q) s hq (by omega)
          rw [add_sub_cancel, hwait] at hwhole
          obtain ⟨hn, hleft⟩ := passes_left hmore ht
          rw [hwhole]
          exact ih hn hleft s''

/-- The call cannot be told from one wait with the whole timeout. -/
theorem call_eq_wait {W : World σ ε β} (hquiet : W.Quiet) (hadd : Additive W.wait) {q : ℤ}
    (hq : 0 < q) (hends : ∀ ms s, (W.wait ms s).1 ≠ .again) {n : ℕ} {timeout : ℤ}
    (henough : Enough q timeout n) (s : σ) :
    (call W q false n timeout s).outcome = (W.wait timeout s).1.outcome ∧
    (call W q false n timeout s).world = (W.wait timeout s).2 := by
  rw [call, hquiet s]
  exact loop_eq_wait hquiet hadd hq hends henough.one_le (henough.le_mul hq) s

/-! ## Waits over the time

The world is the time that it is, in milliseconds. -/

/-- A wait for one event: when it comes and what it brings, if it ever comes. -/
structure WaitsFor (wait : ℤ → ℚ → Answer β × ℚ) (event : Option (ℚ × β)) : Prop where
  comes : ∀ (ms : ℤ) now t b, 0 < ms → event = some (t, b) → t ≤ now + ms →
    wait ms now = (.done b, max now t)
  timesOut : ∀ (ms : ℤ) now, 0 < ms → (∀ t b, event = some (t, b) → now + ms < t) →
    wait ms now = (.timedOut, now + ms)

theorem WaitsFor.additive {wait : ℤ → ℚ → Answer β × ℚ} {event : Option (ℚ × β)}
    (h : WaitsFor wait event) : Additive wait := by
  intro a b now ha hb
  have hb' : (0 : ℚ) < b := by exact_mod_cast hb
  by_cases hearly : ∃ t e, event = some (t, e) ∧ t ≤ now + a
  · obtain ⟨t, e, hevent, ht⟩ := hearly
    rw [h.comes a now t e ha hevent ht, h.comes (a + b) now t e (by omega) hevent]
    push_cast
    linarith
  · push Not at hearly
    rw [h.timesOut a now ha hearly]
    by_cases hlate : ∃ t e, event = some (t, e) ∧ t ≤ now + a + b
    · obtain ⟨t, e, hevent, ht⟩ := hlate
      have ha' : (0 : ℚ) < a := by exact_mod_cast ha
      have hafter := hearly t e hevent
      rw [h.comes (a + b) now t e (by omega) hevent (by push_cast; linarith)]
      simp only
      rw [h.comes b (now + a) t e hb hevent ht, max_eq_right (by linarith),
        max_eq_right hafter.le]
    · push Not at hlate
      rw [h.timesOut (a + b) now (by omega) fun t e hevent => by
        push_cast
        linarith [hlate t e hevent]]
      simp only
      rw [h.timesOut b (now + a) hb hlate]
      push_cast
      rw [add_assoc]

/-- A wait that asks anew each time it is made, for an answer that takes as long as `r`. -/
structure Restarts (wait : ℤ → ℚ → Answer β × ℚ) (r : ℚ) (b : β) : Prop where
  comes : ∀ (ms : ℤ) now, 0 ≤ ms → r ≤ ms → wait ms now = (.done b, now + r)
  timesOut : ∀ (ms : ℤ) now, 0 ≤ ms → ms < r → wait ms now = (.timedOut, now + ms)

/-- A slice that is too short for the answer. -/
theorem Restarts.slice_timedOut {wait : ℤ → ℚ → Answer β × ℚ} {r : ℚ} {b : β}
    (h : Restarts wait r b) {q : ℤ} (hq : 0 ≤ q) (hlong : q < r) {timeout : ℤ} (ht : 0 ≤ timeout)
    (now : ℚ) : (wait (slice q false timeout) now).1 = .timedOut := by
  obtain ⟨hnonneg, hle⟩ := slice_mem hq (.inr ht : false = true ∨ 0 ≤ timeout)
  have hshort : (slice q false timeout : ℚ) < r := lt_of_le_of_lt (by exact_mod_cast hle) hlong
  rw [h.timesOut _ now hnonneg hshort]

/-- An answer that takes longer than a slice never comes. -/
theorem Restarts.loop_of_lt {W : World ℚ ε β} {r : ℚ} {b : β} (h : Restarts W.wait r b) {q : ℤ}
    (hq : 0 ≤ q) (hlong : q < r) {n : ℕ} {timeout : ℤ} (ht : 0 ≤ timeout) (now : ℚ) (b' : β) :
    (loop W q false n timeout now).outcome ≠ some (.done b') := by
  induction n generalizing timeout now with
  | zero => exact nofun
  | succ n ih =>
      rw [loop]
      rcases hpass : pass W q false timeout now with ⟨next, events, now'⟩
      cases pass_cases hpass with
      | cancelled | lastSlice => exact nofun
      | endless hinfinite => cases hinfinite
      | goesOn hfinite hmore => exact ih (by omega) now'
      | again hcheck hwait => exact ih ht now'
      | done hcheck hwait =>
          exact absurd ((congrArg Prod.fst hwait).symm.trans (h.slice_timedOut hq hlong ht _)) nofun

theorem Restarts.call_of_lt {W : World ℚ ε β} {r : ℚ} {b : β} (h : Restarts W.wait r b) {q : ℤ}
    (hq : 0 ≤ q) (hlong : q < r) {n : ℕ} {timeout : ℤ} (ht : 0 ≤ timeout) (now : ℚ) (b' : β) :
    (call W q false n timeout now).outcome ≠ some (.done b') := by
  rw [call]
  split
  · exact nofun
  · exact h.loop_of_lt hq hlong ht _ b'

/-- An answer that comes within the first slice ends the call. -/
theorem Restarts.call_of_le {W : World ℚ ε β} (hquiet : W.Quiet) {r : ℚ} {b : β}
    (h : Restarts W.wait r b) {q : ℤ} (hq : 0 ≤ q) {n : ℕ} (hn : 1 ≤ n) {timeout : ℤ}
    (ht : 0 ≤ timeout) (hshort : r ≤ slice q false timeout) (now : ℚ) :
    (call W q false n timeout now).outcome = some (.done b) ∧
    (call W q false n timeout now).world = now + r := by
  obtain ⟨n, rfl⟩ := Nat.exists_eq_succ_of_ne_zero (by omega : n ≠ 0)
  obtain ⟨hnonneg, -⟩ := slice_mem hq (.inr ht : false = true ∨ 0 ≤ timeout)
  have hwait := h.comes _ now hnonneg hshort
  simp [call, loop, pass, hquiet now, hwait]

/-! ## Cancellation

Whatever the world is, it has a clock. -/

/-- From the time `tc` on the checks find the cancellation `e`, and before that none. A wait takes
    at most its timeout and `d`, and all of its timeout if it times out. `left` counts down the
    answers after which the wait is made again. -/
structure CancelledAt (W : World σ ε β) (time : σ → ℚ) (left : σ → ℕ) (tc : ℚ) (e : ε) (d : ℚ) :
    Prop where
  check : ∀ s, (W.check s).1 = if tc ≤ time s then some e else none
  check_time : ∀ s, time (W.check s).2 = time s
  check_left : ∀ s, left (W.check s).2 = left s
  forward : ∀ (ms : ℤ) s, 0 ≤ ms → time s ≤ time (W.wait ms s).2
  within : ∀ (ms : ℤ) s, 0 ≤ ms → time (W.wait ms s).2 ≤ time s + ms + d
  lasts : ∀ (ms : ℤ) s, 0 ≤ ms → (W.wait ms s).1 = .timedOut → time s + ms ≤ time (W.wait ms s).2
  left_le : ∀ ms s, left (W.wait ms s).2 ≤ left s
  again : ∀ ms s, (W.wait ms s).1 = .again → left (W.wait ms s).2 < left s

/-- No wait ends with a result. -/
def Silent (W : World σ ε β) : Prop := ∀ ms s b, (W.wait ms s).1 ≠ .done b

namespace CancelledAt

variable {W : World σ ε β} {time : σ → ℚ} {left : σ → ℕ} {tc d : ℚ} {e : ε} {q r : ℤ}
  {infinite : Bool} {s s' s'' : σ} {n : ℕ}

theorem of_some (h : CancelledAt W time left tc e d) {e' : ε} (hcheck : W.check s = (some e', s')) :
    e' = e ∧ time s' = time s := by
  have hfound := h.check s
  rw [hcheck] at hfound
  refine ⟨?_, by rw [← h.check_time s, hcheck]⟩
  split at hfound
  · exact Option.some.inj hfound
  · cases hfound

/-- A check that finds nothing is before the cancellation. -/
theorem of_none (h : CancelledAt W time left tc e d) (hcheck : W.check s = (none, s')) :
    time s < tc ∧ time s' = time s ∧ left s' = left s := by
  have hfound := h.check s
  rw [hcheck] at hfound
  refine ⟨?_, by rw [← h.check_time s, hcheck], by rw [← h.check_left s, hcheck]⟩
  by_contra hlate
  rw [if_pos (not_lt.1 hlate)] at hfound
  cases hfound

/-- A check that finds nothing, and the wait after it. -/
theorem waited (h : CancelledAt W time left tc e d) {ms : ℤ} (hms : 0 ≤ ms) {answer : Answer β}
    (hcheck : W.check s = (none, s')) (hwait : W.wait ms s' = (answer, s'')) :
    time s < tc ∧ time s ≤ time s'' ∧ time s'' ≤ time s + ms + d ∧
      (answer = .timedOut → time s + ms ≤ time s'') ∧ left s'' ≤ left s ∧
      (answer = .again → left s'' < left s) := by
  obtain ⟨hbefore, htime, hleft⟩ := h.of_none hcheck
  have hforward := h.forward ms s' hms
  have hwithin := h.within ms s' hms
  have hlasts := h.lasts ms s' hms
  have hle := h.left_le ms s'
  have hagain := h.again ms s'
  rw [hwait] at hforward hwithin hlasts hle hagain
  rw [htime] at hforward hwithin hlasts
  rw [hleft] at hle hagain
  exact ⟨hbefore, hforward, hwithin, hlasts, hle, hagain⟩

/-- The loop ends with so many passes as there are slices before the cancellation, and answers after
    which it waits again. -/
theorem outcome_loop (h : CancelledAt W time left tc e d) (hq : 0 ≤ q)
    (hr : infinite = true ∨ 0 ≤ r) {m : ℕ} (hm : tc ≤ time s + m * q) (hn : m + left s + 1 ≤ n) :
    (loop W q infinite n r s).outcome ≠ none := by
  induction n generalizing r s m with
  | zero => omega
  | succ n ih =>
      rw [loop]
      rcases hpass : pass W q infinite r s with ⟨outcome | r', events, s'⟩
      · exact Option.some_ne_none outcome
      · obtain ⟨hslice, -⟩ := slice_mem hq hr
        -- a slice that has timed out before the cancellation
        have hslept : ∀ {r' : ℤ} {s₁ s' : σ}, (infinite = true ∨ 0 ≤ r') →
            W.check s = (none, s₁) → W.wait q s₁ = (.timedOut, s') →
            (loop W q infinite n r' s').outcome ≠ none := by
          intro r' s₁ s' hr' hcheck hwait
          obtain ⟨hbefore, -, -, hlasts, hle, -⟩ := h.waited hq hcheck hwait
          obtain ⟨k, rfl⟩ := Nat.exists_eq_succ_of_ne_zero (n := m) (by
            rintro rfl
            rw [Nat.cast_zero, zero_mul] at hm
            linarith)
          refine ih (m := k) hr' ?_ (by omega)
          have hlong := hlasts rfl
          push_cast at hm
          linarith
        cases pass_cases hpass with
        | again hcheck hwait =>
            obtain ⟨-, hforward, -, -, -, hlt⟩ := h.waited hslice hcheck hwait
            have hfewer := hlt rfl
            exact ih (m := m) hr (by linarith) (by omega)
        | endless hinfinite hcheck hwait => exact hslept (.inl hinfinite) hcheck hwait
        | goesOn hfinite hmore hcheck hwait => exact hslept (.inr (by omega)) hcheck hwait

/-- The wait during which the cancellation comes is the last one. -/
theorem time_loop (h : CancelledAt W time left tc e d) (hq : 0 ≤ q)
    (hr : infinite = true ∨ 0 ≤ r) :
    time (loop W q infinite n r s).world ≤ max (time s) (tc + q + d) := by
  induction n generalizing r s with
  | zero => exact le_max_left _ _
  | succ n ih =>
      rw [loop]
      have hq' : (0 : ℚ) ≤ q := by exact_mod_cast hq
      obtain ⟨hslice, hle⟩ := slice_mem hq hr
      have hle' : (slice q infinite r : ℚ) ≤ q := by exact_mod_cast hle
      rcases hpass : pass W q infinite r s with ⟨next, events, s'⟩
      cases pass_cases hpass with
      | cancelled hcheck => exact (h.of_some hcheck).2 ▸ le_max_left _ _
      | done hcheck hwait =>
          obtain ⟨hbefore, -, hwithin, -⟩ := h.waited hslice hcheck hwait
          exact le_max_of_le_right (by linarith)
      | again hcheck hwait =>
          obtain ⟨hbefore, -, hwithin, -⟩ := h.waited hslice hcheck hwait
          exact (ih hr).trans (max_le (le_max_of_le_right (by linarith)) (le_max_right _ _))
      | endless hinfinite hcheck hwait =>
          obtain ⟨hbefore, -, hwithin, -⟩ := h.waited hq hcheck hwait
          exact (ih (.inl hinfinite)).trans
            (max_le (le_max_of_le_right (by linarith)) (le_max_right _ _))
      | lastSlice hfinite hlast hcheck hwait =>
          have hnonneg : 0 ≤ r := hr.resolve_left (by simp [hfinite])
          obtain ⟨hbefore, -, hwithin, -⟩ := h.waited hnonneg hcheck hwait
          have hlast' : (r : ℚ) ≤ q := by exact_mod_cast hlast
          exact le_max_of_le_right (by linarith)
      | goesOn hfinite hmore hcheck hwait =>
          obtain ⟨hbefore, -, hwithin, -⟩ := h.waited hq hcheck hwait
          exact (ih (.inr (by omega))).trans
            (max_le (le_max_of_le_right (by linarith)) (le_max_right _ _))

/-- With time left for a whole slice after the cancellation, nothing but a result ends the loop
    before it. -/
theorem silent_loop (h : CancelledAt W time left tc e d) (hsilent : Silent W) (hq : 0 ≤ q)
    (hr : infinite = true ∨ 0 ≤ r) (hlong : infinite = true ∨ tc + q ≤ time s + r)
    {outcome : Outcome ε β} (hout : (loop W q infinite n r s).outcome = some outcome) :
    outcome = .cancelled e := by
  induction n generalizing r s with
  | zero => cases hout
  | succ n ih =>
      rw [loop] at hout
      obtain ⟨hslice, -⟩ := slice_mem hq hr
      rcases hpass : pass W q infinite r s with ⟨next, events, s'⟩
      rw [hpass] at hout
      cases pass_cases hpass with
      | cancelled hcheck =>
          rw [(h.of_some hcheck).1] at hout
          exact (Option.some.inj hout).symm
      | done hcheck hwait => exact absurd (congrArg Prod.fst hwait) (hsilent _ _ _)
      | again hcheck hwait =>
          obtain ⟨-, hforward, -⟩ := h.waited hslice hcheck hwait
          exact ih hr (hlong.imp_right fun hlong => by linarith) hout
      | endless hinfinite hcheck hwait => exact ih (.inl hinfinite) (.inl hinfinite) hout
      | lastSlice hfinite hlast hcheck hwait =>
          obtain ⟨hbefore, -⟩ := h.of_none hcheck
          have hlate := hlong.resolve_left (by simp [hfinite])
          have hlast' : (r : ℚ) ≤ q := by exact_mod_cast hlast
          linarith
      | goesOn hfinite hmore hcheck hwait =>
          obtain ⟨-, -, -, hlasts, -⟩ := h.waited hq hcheck hwait
          have hlate := hlong.resolve_left (by simp [hfinite])
          have hslept := hlasts rfl
          refine ih (.inr (by omega)) (.inr ?_) hout
          push_cast
          linarith

/-- A call that is cancelled at `tc` ends, with enough passes, at most a slice and `d` after that,
    and with the cancellation unless it has a result or its timeout is over before. -/
theorem call_ends (h : CancelledAt W time left tc e d) (hq : 0 < q)
    (hr : infinite = true ∨ 0 ≤ r) (s : σ) :
    ∃ n₀, ∀ n, n₀ ≤ n → ∃ outcome, (call W q infinite n r s).outcome = some outcome ∧
      time (call W q infinite n r s).world ≤ max (time s) (tc + q + d) ∧
      (Silent W → infinite = true ∨ tc + q ≤ time s + r → outcome = .cancelled e) := by
  have hq' : (0 : ℚ) < q := by exact_mod_cast hq
  refine ⟨⌈(tc - time s) / q⌉₊ + left s + 1, fun n hn => ?_⟩
  rw [call]
  split
  · next e' s' hcheck =>
      obtain ⟨rfl, htime⟩ := h.of_some hcheck
      exact ⟨_, rfl, htime ▸ le_max_left _ _, fun _ _ => rfl⟩
  · next s' hcheck =>
      obtain ⟨-, htime, hleft⟩ := h.of_none hcheck
      have hslices : tc ≤ time s' + ⌈(tc - time s) / q⌉₊ * q := by
        have hceil := (div_le_iff₀ hq').1 (Nat.le_ceil ((tc - time s) / q))
        linarith
      obtain ⟨outcome, hout⟩ := Option.ne_none_iff_exists'.1
        (h.outcome_loop hq.le hr hslices (by omega : _ + left s' + 1 ≤ n))
      refine ⟨outcome, hout, htime ▸ h.time_loop hq.le hr, fun hsilent hlong => ?_⟩
      exact h.silent_loop hsilent hq.le hr (htime ▸ hlong) hout

end CancelledAt

end SlicedWait
