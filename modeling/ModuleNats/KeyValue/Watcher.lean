import ModuleNats.SlicedCall

set_option autoImplicit false

/-! # `QoreNatsKVWatcher::next()`

`next()` waits for an entry in slices. At the end of the initial values of a bucket
`kvWatcher_Next()` answers `NATS_OK` without an entry, and the call waits again: with as much time
left as before, however long it has waited for that answer. `next_keeps_timeout_iff` says when the
call keeps to its timeout all the same. -/

namespace ModuleNats.KVWatcher

open SlicedWait

variable {σ κ η : Type}

/-! ## The code -/

/-- How `next()` reads a status: without an entry it waits again. -/
def answer : WaitStatus (Option κ) → Answer (WaitStatus (Option κ))
  | .ok none => .again
  | .timeout => .timedOut
  | status => .done status

theorem status_of_done {status b : WaitStatus (Option κ)} (h : answer status = .done b) :
    (∃ entry, status = .ok (some entry)) ∨ ∃ statusText, status = .failed statusText := by
  rcases status with (_ | entry) | _ | statusText
  · cases h
  · exact .inl ⟨entry, rfl⟩
  · cases h
  · exact .inr ⟨statusText, rfl⟩

theorem status_of_again {status : WaitStatus (Option κ)} (h : answer status = .again) :
    status = .ok none := by
  rcases status with (_ | _) | _ | _ <;> first | rfl | cases h

theorem status_of_timedOut {status : WaitStatus (Option κ)} (h : answer status = .timedOut) :
    status = .timeout := by
  rcases status with (_ | _) | _ | _ <;> first | rfl | cases h

/-- What `next()` makes of a status. `toHash` is `nats_kv_entry_to_hash()`. -/
def returns (toHash : κ → Except ExceptionInfo η) :
    WaitStatus (Option κ) → Except ExceptionInfo (Option η)
  | .ok (some entry) => (toHash entry).map some
  | .ok none | .timeout => .ok none
  | .failed statusText => .error (natsError "NATS-KV-WATCH-ERROR" "watcher next failed" statusText)

/-- `QoreNatsKVWatcher::next()`: the result, if the call has ended, and the world after it. `valid`
    says whether there is a `kvWatcher`. -/
def next (env : SlicedEnv σ (WaitStatus (Option κ))) (toHash : κ → Except ExceptionInfo η)
    (valid : Bool) (passes : ℕ) (timeoutMs : Int64) (s : σ) :
    Option (Except ExceptionInfo (Option η)) × σ :=
  if valid then
    let w := slicedCall env answer false passes timeoutMs s
    (w.outcome.map (slicedResult .error (returns toHash) .timeout), w.world)
  else (some (.error ⟨"NATS-KV-WATCH-ERROR", "watcher is not valid"⟩), s)

/-! ## Sequences of answers -/

/-- What a call meets: what its checks find, what `kvWatcher_Next()` answers, and after how many
    milliseconds. -/
structure Answers (κ : Type) where
  cancelled : ℕ → Option ExceptionInfo
  status : ℕ → WaitStatus (Option κ)
  delay : ℕ → ℚ

/-- How far a call has come: its checks, its waits, and the time it has waited in the C client. -/
structure Progress where
  checks : ℕ
  waits : ℕ
  waited : ℚ

def isNull : WaitStatus (Option κ) → Bool
  | .ok none => true
  | _ => false

def isTimeout : WaitStatus (Option κ) → Bool
  | .timeout => true
  | _ => false

theorem isTimeout_iff {status : WaitStatus (Option κ)} : isTimeout status ↔ status = .timeout := by
  rcases status with (_ | _) | _ | _ <;> simp [isTimeout]

namespace Answers

def env (a : Answers κ) : SlicedEnv Progress (WaitStatus (Option κ)) where
  checkCancel s := (a.cancelled s.checks, { s with checks := s.checks + 1 })
  wait _ s := (a.status s.waits, ⟨s.checks, s.waits + 1, s.waited + a.delay s.waits⟩)

/-- How many of the first answers are timeouts. -/
def timeouts (a : Answers κ) : ℕ → ℕ
  | 0 => 0
  | i + 1 => a.timeouts i + if isTimeout (a.status i) then 1 else 0

/-- How long those of the first answers take that `p` holds of. -/
def time (a : Answers κ) (p : WaitStatus (Option κ) → Bool) : ℕ → ℚ
  | 0 => 0
  | i + 1 => a.time p i + if p (a.status i) then a.delay i else 0

variable (a : Answers κ) (timeout : ℤ)

/-- The time that the timeouts before the answer number `i` leave. -/
def left (i : ℕ) : ℤ := timeout - pollIntervalMs * a.timeouts i

/-- The answer number `i`, or the check before it, ends a call that waits for it. -/
def Ends (i : ℕ) : Prop :=
  a.cancelled (i + 1) ≠ none ∨
    match a.status i with
    | .ok none => False
    | .timeout => a.left timeout i ≤ pollIntervalMs
    | .ok (some _) | .failed _ => True

/-- The answer number `e` is the one that ends the call. -/
def EndsAt (e : ℕ) : Prop := a.Ends timeout e ∧ ∀ i < e, ¬ a.Ends timeout i

/-- How long the call waits for the answer that ends it. -/
def lastDelay (e : ℕ) : ℚ := if a.cancelled (e + 1) = none then a.delay e else 0

/-- Every answer comes within the slice that the C client is asked to wait for, as far as the call
    gets. -/
def Bounded : Prop :=
  ∀ i, (∀ j < i, ¬ a.Ends timeout j) →
    0 ≤ a.delay i ∧ a.delay i ≤ slice pollIntervalMs false (a.left timeout i)

/-- A call before its wait number `i`. -/
def progress (i : ℕ) : Progress := ⟨i + 1, i, a.time isNull i + a.time isTimeout i⟩

variable {a timeout}

theorem left_succ (i : ℕ) :
    a.left timeout (i + 1) =
      a.left timeout i - if isTimeout (a.status i) then pollIntervalMs else 0 := by
  rw [left, left, timeouts]
  split <;> push_cast <;> ring

/-- A check that finds nothing, and the wait after it. -/
theorem waited_once {i : ℕ} {ms : ℤ} {ans : Answer (WaitStatus (Option κ))} {s s' : Progress}
    (hcheck : (a.env.world answer).check (a.progress i) = (none, s))
    (hwait : (a.env.world answer).wait ms s = (ans, s')) :
    a.cancelled (i + 1) = none ∧ answer (a.status i) = ans ∧
      s' = ⟨i + 2, i + 1, (a.progress i).waited + a.delay i⟩ := by
  obtain ⟨hcancelled, rfl⟩ := Prod.mk.inj hcheck
  obtain ⟨hanswer, rfl⟩ := Prod.mk.inj hwait
  exact ⟨hcancelled, hanswer, rfl⟩

/-- One pass: the answer ends the call, or the call goes on to the next one. -/
theorem pass_progress {i : ℕ} {next : Next ExceptionInfo (WaitStatus (Option κ))}
    {events : List (Event ExceptionInfo (WaitStatus (Option κ)))} {s : Progress}
    (h : SlicedWait.pass (a.env.world answer) pollIntervalMs false (a.left timeout i)
      (a.progress i) = (next, events, s)) :
    a.Ends timeout i ∧ (∃ outcome, next = .inl outcome) ∧
        s.waited = a.time isNull i + a.time isTimeout i + a.lastDelay i ∨
      ¬ a.Ends timeout i ∧ next = .inr (a.left timeout (i + 1)) ∧ s = a.progress (i + 1) := by
  cases pass_cases h with
  | cancelled hcheck =>
      obtain ⟨hcancelled, rfl⟩ := Prod.mk.inj hcheck
      have hsome : a.cancelled (i + 1) ≠ none := fun hnone => by cases hnone.symm.trans hcancelled
      exact .inl ⟨.inl hsome, ⟨_, rfl⟩, by simp [progress, lastDelay, hsome]⟩
  | done hcheck hwait =>
      obtain ⟨hnone, hanswer, rfl⟩ := waited_once hcheck hwait
      have hends : a.Ends timeout i := by
        have hdone : (∃ entry, a.status i = .ok (some entry)) ∨
            ∃ statusText, a.status i = .failed statusText := status_of_done hanswer
        rcases hdone with ⟨entry, hi⟩ | ⟨statusText, hi⟩ <;> exact .inr (by simp [hi])
      exact .inl ⟨hends, ⟨_, rfl⟩, by simp [progress, lastDelay, hnone]⟩
  | again hcheck hwait =>
      obtain ⟨hnone, hanswer, rfl⟩ := waited_once hcheck hwait
      have hi := status_of_again hanswer
      refine .inr ⟨by simp [Ends, hnone, hi], by simp [left_succ, hi, isTimeout], ?_⟩
      simp [progress, time, hi, isNull, isTimeout]
      ring
  | endless hinfinite => cases hinfinite
  | lastSlice hfinite hlast hcheck hwait =>
      obtain ⟨hnone, hanswer, rfl⟩ := waited_once hcheck hwait
      have hi := status_of_timedOut hanswer
      exact .inl ⟨.inr (by simpa [hi] using hlast), ⟨_, rfl⟩,
        by simp [progress, lastDelay, hnone]⟩
  | goesOn hfinite hmore hcheck hwait =>
      obtain ⟨hnone, hanswer, rfl⟩ := waited_once hcheck hwait
      have hi := status_of_timedOut hanswer
      refine .inr ⟨by simp [Ends, hnone, hi, hmore], by simp [left_succ, hi, isTimeout], ?_⟩
      simp [progress, time, hi, isNull, isTimeout]
      ring

/-- How long a call waits that ends with the answer number `e`. -/
def total (a : Answers κ) (e : ℕ) : ℚ := a.time isNull e + a.time isTimeout e + a.lastDelay e

/-- So many passes from the answer number `i` on: the call has not ended, or one of the answers has
    ended it. -/
theorem loop_progress (a : Answers κ) (timeout : ℤ) (n i : ℕ) :
    (loop (a.env.world answer) pollIntervalMs false n (a.left timeout i)
          (a.progress i)).outcome = none ∧
        (∀ j, i ≤ j → j < i + n → ¬ a.Ends timeout j) ∨
      (loop (a.env.world answer) pollIntervalMs false n (a.left timeout i)
          (a.progress i)).outcome ≠ none ∧
        ∃ e, i ≤ e ∧ a.Ends timeout e ∧ (∀ j, i ≤ j → j < e → ¬ a.Ends timeout j) ∧
          (loop (a.env.world answer) pollIntervalMs false n (a.left timeout i)
            (a.progress i)).world.waited = a.total e := by
  induction n generalizing i with
  | zero => exact .inl ⟨rfl, fun j _ _ => by omega⟩
  | succ n ih =>
      rw [loop]
      rcases hpass : SlicedWait.pass (a.env.world answer) pollIntervalMs false (a.left timeout i)
        (a.progress i) with ⟨next, events, s⟩
      rcases pass_progress hpass with ⟨hends, ⟨outcome, rfl⟩, hwaited⟩ | ⟨hends, rfl, rfl⟩
      · exact .inr ⟨Option.some_ne_none _, i, le_rfl, hends, fun j hij hji => by omega, hwaited⟩
      · have hstep : ∀ {k}, (∀ j, i + 1 ≤ j → j < k → ¬ a.Ends timeout j) →
            ∀ j, i ≤ j → j < k → ¬ a.Ends timeout j := by
          intro k hall j hij hjk
          rcases Nat.eq_or_lt_of_le hij with rfl | hlt
          · exact hends
          · exact hall j hlt hjk
        rcases ih (i + 1) with ⟨hnone, hall⟩ | ⟨hsome, e, hie, he, hall, hwaited⟩
        · exact .inl ⟨hnone, hstep fun j hij hj => hall j hij (by omega)⟩
        · exact .inr ⟨hsome, e, by omega, he, hstep hall, hwaited⟩

theorem EndsAt.unique {e e' : ℕ} (h : a.EndsAt timeout e) (h' : a.EndsAt timeout e') : e = e' := by
  rcases Nat.lt_trichotomy e e' with hlt | heq | hgt
  · exact absurd h.1 (h'.2 e hlt)
  · exact heq
  · exact absurd h'.1 (h.2 e' hgt)

theorem time_isNull (hnull : ∀ i, a.status i ≠ .ok none) (i : ℕ) : a.time isNull i = 0 := by
  induction i with
  | zero => rfl
  | succ i ih =>
      have hentry : isNull (a.status i) = false := by
        have hi := hnull i
        revert hi
        rcases a.status i with (_ | _) | _ | _ <;> simp [isNull]
      rw [time, ih, hentry]
      simp

/-- While the call goes on, the timeouts keep to the time that has been counted down. -/
theorem Bounded.timeouts_le (h : a.Bounded timeout) (ht : 0 ≤ timeout) {i : ℕ}
    (hgoes : ∀ j < i, ¬ a.Ends timeout j) :
    0 ≤ a.left timeout i ∧ a.time isTimeout i ≤ timeout - a.left timeout i := by
  induction i with
  | zero => simpa [left, timeouts, time] using ht
  | succ i ih =>
      obtain ⟨hnonneg, hle⟩ := ih fun j hj => hgoes j (hj.trans (Nat.lt_succ_self i))
      rw [left_succ, time]
      by_cases hi : isTimeout (a.status i)
      · have hmore : pollIntervalMs < a.left timeout i := by
          have hends := (not_or.1 (hgoes i (Nat.lt_succ_self i))).2
          simpa [isTimeout_iff.1 hi] using hends
        have hdelay := (h i fun j hj => hgoes j (hj.trans (Nat.lt_succ_self i))).2
        simp only [slice, Bool.false_eq_true, if_false, gt_iff_lt, hmore, if_true] at hdelay
        simp only [hi, if_true]
        push_cast
        exact ⟨by omega, by linarith⟩
      · simpa [hi] using ⟨hnonneg, hle⟩

/-- The timeouts and the last answer take no longer than the timeout. -/
theorem Bounded.counted_le (h : a.Bounded timeout) (ht : 0 ≤ timeout) {e : ℕ}
    (he : a.EndsAt timeout e) : a.time isTimeout e + a.lastDelay e ≤ timeout := by
  obtain ⟨hnonneg, hle⟩ := h.timeouts_le ht he.2
  have hlast : a.lastDelay e ≤ a.left timeout e := by
    rw [lastDelay]
    split
    · refine (h e he.2).2.trans ?_
      exact_mod_cast slice_le _ _
    · exact_mod_cast hnonneg
  linarith

end Answers

/-- A call that has just begun. -/
def start : Progress := ⟨0, 0, 0⟩

/-- How a call goes that no cancellation keeps from beginning. -/
theorem next_progress {a : Answers κ} (hbegins : a.cancelled 0 = none)
    (toHash : κ → Except ExceptionInfo η) (passes : ℕ) (timeoutMs : Int64) :
    (next a.env toHash true passes timeoutMs start).1 = none ∧
        (∀ j < passes, ¬ a.Ends timeoutMs.toInt j) ∨
      (next a.env toHash true passes timeoutMs start).1 ≠ none ∧
        ∃ e, a.EndsAt timeoutMs.toInt e ∧
          (next a.env toHash true passes timeoutMs start).2.waited = a.total e := by
  have hcall : slicedCall a.env answer false passes timeoutMs start =
      let rest := loop (a.env.world answer) pollIntervalMs false passes (a.left timeoutMs.toInt 0)
        (a.progress 0)
      ⟨rest.outcome, .check none :: rest.events, rest.world⟩ := by
    simp [slicedCall, call, SlicedEnv.world, Answers.env, start, hbegins, Answers.left,
      Answers.timeouts, Answers.progress, Answers.time]
  simp only [next, if_true, hcall]
  rcases Answers.loop_progress a timeoutMs.toInt passes 0 with
    ⟨hnone, hall⟩ | ⟨hsome, e, -, he, hall, hwaited⟩
  · exact .inl ⟨by simp [hnone], fun j hj => hall j (Nat.zero_le j) (by omega)⟩
  · exact .inr ⟨by simpa using hsome, e, ⟨he, fun j hj => hall j (Nat.zero_le j) hj⟩, hwaited⟩

/-- The call ends, and has waited no longer than its timeout. -/
def KeepsTimeout (a : Answers κ) (toHash : κ → Except ExceptionInfo η) (timeoutMs : Int64) : Prop :=
  ∃ passes, (next a.env toHash true passes timeoutMs start).1 ≠ none ∧
    (next a.env toHash true passes timeoutMs start).2.waited ≤ timeoutMs.toInt

theorem keepsTimeout_of_endsAt {a : Answers κ} (hbegins : a.cancelled 0 = none)
    (toHash : κ → Except ExceptionInfo η) {timeoutMs : Int64} {e : ℕ}
    (he : a.EndsAt timeoutMs.toInt e) (htotal : a.total e ≤ timeoutMs.toInt) :
    KeepsTimeout a toHash timeoutMs := by
  refine ⟨e + 1, ?_⟩
  rcases next_progress hbegins toHash (e + 1) timeoutMs with ⟨-, hall⟩ | ⟨hends, e', he', hwaited⟩
  · exact absurd he.1 (hall e (Nat.lt_succ_self e))
  · exact ⟨hends, hwaited.trans_le (he.unique he' ▸ htotal)⟩

/-- Without an answer that has no entry every call keeps to its timeout. -/
theorem keepsTimeout_of_no_null {a : Answers κ} (hnull : ∀ i, a.status i ≠ .ok none)
    (toHash : κ → Except ExceptionInfo η) {timeoutMs : Int64} (h : a.Bounded timeoutMs.toInt)
    (ht : 0 ≤ timeoutMs.toInt) (hbegins : a.cancelled 0 = none) :
    KeepsTimeout a toHash timeoutMs := by
  have hends : ∃ e, a.Ends timeoutMs.toInt e := by
    by_contra hnever
    push Not at hnever
    -- every answer is a timeout, and each takes a slice from what is left
    have hleft : ∀ i : ℕ, a.left timeoutMs.toInt i = timeoutMs.toInt - pollIntervalMs * i := by
      intro i
      induction i with
      | zero => simp [Answers.left, Answers.timeouts]
      | succ i ih =>
          have hi : isTimeout (a.status i) := by
            have hgoes := (not_or.1 (hnever i)).2
            have hentry := hnull i
            revert hgoes hentry
            rcases a.status i with (_ | _) | _ | _ <;> simp [isTimeout]
          rw [Answers.left_succ, ih, if_pos hi]
          push_cast
          ring
    have hlast := (h.timeouts_le ht (i := timeoutMs.toInt.toNat + 1) fun j _ => hnever j).1
    rw [hleft] at hlast
    simp only [pollIntervalMs] at hlast
    omega
  classical
  have he : a.EndsAt timeoutMs.toInt (Nat.find hends) :=
    ⟨Nat.find_spec hends, fun j hj => Nat.find_min hends hj⟩
  refine keepsTimeout_of_endsAt hbegins toHash he ?_
  rw [Answers.total, Answers.time_isNull hnull, zero_add]
  exact h.counted_le ht he

theorem keepsTimeout_of_cancelled {a : Answers κ} {ex : ExceptionInfo}
    (hcancelled : a.cancelled 0 = some ex) (toHash : κ → Except ExceptionInfo η)
    {timeoutMs : Int64} (ht : 0 ≤ timeoutMs.toInt) : KeepsTimeout a toHash timeoutMs := by
  refine ⟨0, ?_⟩
  have hnow : (0 : ℚ) ≤ timeoutMs.toInt := by exact_mod_cast ht
  simpa [next, slicedCall, call, SlicedEnv.world, Answers.env, start, hcancelled] using hnow

theorem keepsTimeout_iff (a : Answers κ) (toHash : κ → Except ExceptionInfo η)
    {timeoutMs : Int64} (ht : 0 ≤ timeoutMs.toInt) :
    KeepsTimeout a toHash timeoutMs ↔
      a.cancelled 0 ≠ none ∨ ∃ e, a.EndsAt timeoutMs.toInt e ∧
        a.time isNull e ≤ timeoutMs.toInt - (a.time isTimeout e + a.lastDelay e) := by
  have hleft : ∀ e, a.time isNull e ≤ timeoutMs.toInt - (a.time isTimeout e + a.lastDelay e) ↔
      a.total e ≤ timeoutMs.toInt := by
    intro e
    rw [Answers.total, le_sub_iff_add_le, add_assoc]
  simp only [hleft]
  cases hbegins : a.cancelled 0 with
  | some ex =>
      exact iff_of_true (keepsTimeout_of_cancelled hbegins toHash ht)
        (.inl (Option.some_ne_none ex))
  | none =>
      constructor
      · rintro ⟨passes, hends, hwaited⟩
        rcases next_progress hbegins toHash passes timeoutMs with ⟨hnone, -⟩ | ⟨-, e, he, htotal⟩
        · exact absurd hnone hends
        · exact .inr ⟨e, he, htotal ▸ hwaited⟩
      · rintro (hcancelled | ⟨e, he, htotal⟩)
        · exact absurd rfl hcancelled
        · exact keepsTimeout_of_endsAt hbegins toHash he htotal

/-- The call keeps to its timeout if and only if an answer, or a cancellation, ends it, and the
    answers without an entry take no longer than the other answers leave; with no such answer it
    always does. -/
theorem next_keeps_timeout_iff (a : Answers κ) (toHash : κ → Except ExceptionInfo η)
    {timeoutMs : Int64} (ht : 0 ≤ timeoutMs) :
    (KeepsTimeout a toHash timeoutMs ↔
      a.cancelled 0 ≠ none ∨ ∃ e, a.EndsAt timeoutMs.toInt e ∧
        a.time isNull e ≤ timeoutMs.toInt - (a.time isTimeout e + a.lastDelay e)) ∧
    ((∀ i, a.status i ≠ .ok none) → a.Bounded timeoutMs.toInt →
      KeepsTimeout a toHash timeoutMs) := by
  have hnonneg : 0 ≤ timeoutMs.toInt := Int64.le_iff_toInt_le.1 ht
  refine ⟨keepsTimeout_iff a toHash hnonneg, fun hnull hbounded => ?_⟩
  cases hbegins : a.cancelled 0 with
  | some ex => exact keepsTimeout_of_cancelled hbegins toHash hnonneg
  | none => exact keepsTimeout_of_no_null hnull toHash hbounded hnonneg hbegins

/-- A slice without an answer, the end of the initial values, and then an entry. -/
def lateEntry : Answers ℕ where
  cancelled _ := none
  status
    | 0 => .timeout
    | 1 => .ok none
    | _ + 2 => .ok (some 1)
  delay
    | 0 => 500
    | 1 => 100
    | _ + 2 => 200

theorem next_keeps_timeout_iff_lateEntry : KeepsTimeout lateEntry (fun v => .ok v) 1200 := by
  have htoInt : (1200 : Int64).toInt = 1200 := by decide
  refine (next_keeps_timeout_iff lateEntry (fun v => .ok v) (by decide)).1.2 (.inr ⟨2, ?_, ?_⟩)
  · refine ⟨.inr trivial, fun i hi => ?_⟩
    match i with
    | 0 => simp [Answers.Ends, lateEntry, htoInt, Answers.left, Answers.timeouts, pollIntervalMs]
    | 1 => simp [Answers.Ends, lateEntry]
    | i + 2 => omega
  · norm_num [Answers.time, Answers.lastDelay, lateEntry, isNull, isTimeout, htoInt]

/-- The end of the initial values, and then no update. -/
def noUpdate : Answers ℕ where
  cancelled _ := none
  status
    | 0 => .ok none
    | _ + 1 => .timeout
  delay
    | 0 => 400
    | _ + 1 => 500

theorem noUpdate_endsAt : noUpdate.EndsAt 500 1 := by
  refine ⟨.inr (show noUpdate.left 500 1 ≤ pollIntervalMs by decide), fun i hi => ?_⟩
  obtain rfl : i = 0 := by omega
  simp [Answers.Ends, noUpdate]

theorem noUpdate_bounded : noUpdate.Bounded 500 := by
  intro i hgoes
  match i with
  | 0 => norm_num [noUpdate, Answers.left, Answers.timeouts, slice, pollIntervalMs]
  | 1 => norm_num [noUpdate, Answers.left, Answers.timeouts, slice, pollIntervalMs, isTimeout]
  | i + 2 => exact absurd noUpdate_endsAt.1 (hgoes 1 (by omega))

/-- A call with a timeout of 500 ms waits for 900 ms. -/
theorem next_waits_past_its_timeout :
    ¬ ∀ (a : Answers ℕ) (toHash : ℕ → Except ExceptionInfo ℕ) (timeoutMs : Int64),
      0 ≤ timeoutMs → a.Bounded timeoutMs.toInt → KeepsTimeout a toHash timeoutMs := by
  intro hall
  have htoInt : (500 : Int64).toInt = 500 := by decide
  obtain ⟨passes, hends, hwaited⟩ :=
    hall noUpdate (fun v => .ok v) 500 (by decide) (htoInt ▸ noUpdate_bounded)
  rcases next_progress (a := noUpdate) rfl (fun v => .ok v) passes 500 with
    ⟨hnone, -⟩ | ⟨-, e, he, htotal⟩
  · exact hends hnone
  · obtain rfl : e = 1 := he.unique (htoInt ▸ noUpdate_endsAt)
    rw [htotal, htoInt] at hwaited
    norm_num [Answers.total, Answers.time, Answers.lastDelay, noUpdate, isNull,
      isTimeout] at hwaited

end ModuleNats.KVWatcher
