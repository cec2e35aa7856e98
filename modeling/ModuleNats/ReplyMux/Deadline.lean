import ModuleNats.JetStream.Values
import ModuleNats.ReplyMux.Model
import ModuleNats.Subscription

set_option autoImplicit false

/-! # The deadline of a request

`request()` turns its timeout into a reading of the steady clock, and waits until the clock has got
there. The clock counts nanoseconds, what is left is taken in microseconds, and the condition waits
for milliseconds. The sum can leave the range of the clock, and the step down to microseconds is
rounded down, so a wait can be too short by less than a microsecond (`keepsDeadline_iff`). -/

namespace ModuleNats.ReplyMux

/-! ## The wait loop -/

/-- One pass of the loop: what is under the token of the call, the reading of the clock, and whether
    the wait, if there is one, is interrupted. -/
structure Wake where
  reply : Option NatsMsg
  now : Int64
  interrupted : Bool

/-- What the call does after it has read the clock. -/
inductive Look where
  | timeOut (now : Int64)
  | wait (now : Int64) (ms : ℤ)
deriving DecidableEq

/-- `deadline`, in nanoseconds of the clock. -/
def deadline (start timeoutMs : Int64) : Int64 :=
  start + msToNs (if timeoutMs > 0 then timeoutMs else 0)

/-- `remaining`, in microseconds. -/
def remaining (deadline now : Int64) : Int64 := (deadline - now) / 1000

/-- `wait_ms` -/
def waitMs (remaining : Int64) : Int64 := (remaining + 999) / 1000

/-- The timeout of the condition wait; where a wait cannot be interrupted, it is a slice. -/
def condWaitMs (cancellable : Bool) (waitMs : Int64) : ℤ :=
  if cancellable then waitMs.toInt else effectiveTimeout false waitMs.toInt

/-- The loop of `request()`: what the call does, and where it is then. -/
def awaitReply (cancellable : Bool) (deadline : Int64) : List Wake → List Look × RequestPc
  | [] => ([], .blocked)
  | w :: rest =>
      match w.reply with
      | some reply => ([], .holding reply)
      | none =>
          if remaining deadline w.now ≤ 0 then ([.timeOut w.now], .leaving .deadline)
          else
            let wait := Look.wait w.now
              (condWaitMs cancellable (waitMs (remaining deadline w.now)))
            if w.interrupted then ([wait], .leaving .cancelled)
            else
              let (looks, pc) := awaitReply cancellable deadline rest
              (wait :: looks, pc)

section

variable {cancellable : Bool} {deadline : Int64} {w : Wake} {rest : List Wake}

theorem awaitReply_timeOut (hreply : w.reply = none) (hpast : remaining deadline w.now ≤ 0) :
    awaitReply cancellable deadline (w :: rest) = ([.timeOut w.now], .leaving .deadline) := by
  rw [awaitReply, hreply]
  exact if_pos hpast

theorem awaitReply_interrupted (hreply : w.reply = none) (hpast : ¬ remaining deadline w.now ≤ 0)
    (hinterrupted : w.interrupted = true) :
    awaitReply cancellable deadline (w :: rest) =
      ([.wait w.now (condWaitMs cancellable (waitMs (remaining deadline w.now)))],
        .leaving .cancelled) := by
  simp only [awaitReply, hreply, hpast, hinterrupted, if_false, if_true]

theorem awaitReply_goesOn (hreply : w.reply = none) (hpast : ¬ remaining deadline w.now ≤ 0)
    (hinterrupted : w.interrupted = false) :
    awaitReply cancellable deadline (w :: rest) =
      (.wait w.now (condWaitMs cancellable (waitMs (remaining deadline w.now))) ::
        (awaitReply cancellable deadline rest).1, (awaitReply cancellable deadline rest).2) := by
  simp only [awaitReply, hreply, hpast, hinterrupted, if_false, Bool.false_eq_true]

end

/-- A pass is one of the system of all calls, with the clock past the deadline if `remaining` says
    so. -/
theorem pollReply_requests (s : State) (i : ℕ) (r : Request) (cancellable : Bool)
    (deadline : Int64) (w : Wake) (hreply : (s.replies.index r.token).lookup r.token = some w.reply)
    (hinterrupted : w.interrupted = false) :
    (s.pollReply i r (remaining deadline w.now ≤ 0)).requests =
      s.requests.set i { r with pc := (awaitReply cancellable deadline [w]).2 } := by
  simp only [State.pollReply, hreply]
  cases hw : w.reply with
  | some reply => simp [awaitReply, hw, State.setPc]
  | none =>
      by_cases hpast : remaining deadline w.now ≤ 0
      · rw [awaitReply_timeOut hw hpast]
        simp [hpast, State.setPc]
      · rw [awaitReply_goesOn hw hpast hinterrupted]
        simp [awaitReply, hpast, State.setPc]

/-! ## The clock -/

/-- The nanoseconds that are left at a reading. -/
def timeLeft (start timeoutMs now : Int64) : ℤ :=
  start.toInt + timeoutMs.toInt * 1000000 - now.toInt

/-- The deadline is in the range of the clock. -/
structure InRange (start timeoutMs : Int64) : Prop where
  product : FitsNs timeoutMs
  sum : start.toInt + timeoutMs.toInt * 1000000 ≤ Int64.maxValue.toInt

section

variable {start timeoutMs now : Int64}

theorem toInt_deadline (ht : 0 < timeoutMs) (h : InRange start timeoutMs) :
    (deadline start timeoutMs).toInt = start.toInt + timeoutMs.toInt * 1000000 := by
  have hpos : 0 < timeoutMs.toInt := Int64.lt_iff_toInt_lt.1 ht
  have hmin : -2 ^ 63 ≤ start.toInt := start.le_toInt
  have hsum := h.sum
  rw [Int64.toInt_maxValue] at hsum
  rw [deadline, if_pos ht, Int64.toInt_add, toInt_msToNs h.product]
  exact Int.bmod_eq_of_le (by omega) (by omega)

/-- What is left at a reading that is not before the start. -/
theorem timeLeft_le (h : InRange start timeoutMs) (hnow : start ≤ now) :
    timeLeft start timeoutMs now ≤ Int64.maxValue.toInt := by
  have hstart : start.toInt ≤ now.toInt := Int64.le_iff_toInt_le.1 hnow
  have hproduct := h.product.2
  rw [timeLeft]
  omega

theorem toInt_remaining_le (deadline now : Int64) :
    (remaining deadline now).toInt ≤ 9223372036854775 := by
  have hle : (deadline - now).toInt ≤ 9223372036854775807 := Int64.toInt_le _
  have h1000 : (1000 : Int64).toInt = 1000 := by decide
  rw [remaining, Int64.toInt_div_of_ne_right _ _ (by decide), h1000]
  exact Int.tdiv_le_tdiv (by decide) hle

/-- With a microsecond or more left, `remaining` is that in whole microseconds. -/
theorem toInt_remaining (ht : 0 < timeoutMs) (h : InRange start timeoutMs) (hnow : start ≤ now)
    (hleft : 1000 ≤ timeLeft start timeoutMs now) :
    (remaining (deadline start timeoutMs) now).toInt = timeLeft start timeoutMs now / 1000 := by
  have hle := timeLeft_le h hnow
  have h1000 : (1000 : Int64).toInt = 1000 := by decide
  rw [Int64.toInt_maxValue] at hle
  have hsub : (deadline start timeoutMs - now).toInt = timeLeft start timeoutMs now := by
    rw [Int64.toInt_sub, toInt_deadline ht h]
    exact Int.bmod_eq_of_le (by rw [timeLeft] at hleft; omega) (by rw [timeLeft] at hle; omega)
  rw [remaining, Int64.toInt_div_of_ne_right _ _ (by decide), hsub, h1000]
  exact Int.tdiv_eq_ediv_of_nonneg (by omega)

theorem toInt_waitMs {remaining : Int64} (hpos : 0 < remaining.toInt)
    (hle : remaining.toInt ≤ 9223372036854775) :
    (waitMs remaining).toInt = (remaining.toInt + 999) / 1000 := by
  have h1000 : (1000 : Int64).toInt = 1000 := by decide
  have h999 : (999 : Int64).toInt = 999 := by decide
  have hadd : (remaining + 999).toInt = remaining.toInt + 999 := by
    rw [Int64.toInt_add, h999]
    exact Int.bmod_eq_of_le (by omega) (by omega)
  rw [waitMs, Int64.toInt_div_of_ne_right _ _ (by decide), hadd, h1000]
  exact Int.tdiv_eq_ediv_of_nonneg (by omega)

end

/-! ## What the call does -/

/-- The call gives up only when less than a microsecond is left, and does not wait for less than
    what is left, slices apart. -/
def Look.Right (cancellable : Bool) (left : Int64 → ℤ) : Look → Prop
  | .timeOut now => left now < 1000
  | .wait now ms => left now ≤ ms * 1000000 ∨ cancellable = false ∧ ms = pollIntervalMs

/-- The milliseconds of the wait are not short of what is left: there is no rest that is lost with
    the microseconds, or the wait is a slice. -/
def WholeWait (cancellable : Bool) (left : ℤ) : Prop :=
  left % 1000000 = 0 ∨ 1000 ≤ left % 1000000 ∨ cancellable = false ∧ pollIntervalMs * 1000000 ≤ left

/-- From microseconds up to milliseconds. -/
theorem le_rounded_iff {left : ℤ} :
    left ≤ (left / 1000 + 999) / 1000 * 1000000 ↔ left % 1000000 = 0 ∨ 1000 ≤ left % 1000000 := by
  omega

theorem condWait_right_iff {cancellable : Bool} {left : ℤ} {ms : Int64}
    (hms : ms.toInt = (left / 1000 + 999) / 1000) :
    (left ≤ condWaitMs cancellable ms * 1000000 ∨
        cancellable = false ∧ condWaitMs cancellable ms = pollIntervalMs) ↔
      WholeWait cancellable left := by
  cases cancellable with
  | true =>
      simp only [condWaitMs, WholeWait, if_true, hms, Bool.true_eq_false, false_and, or_false]
      exact le_rounded_iff
  | false =>
      simp only [condWaitMs, WholeWait, effectiveTimeout, Bool.false_eq_true, if_false, hms,
        true_and, pollIntervalMs]
      split <;> omega

section

variable {start timeoutMs now : Int64}

theorem timeOut_right (ht : 0 < timeoutMs) (h : InRange start timeoutMs) (hnow : start ≤ now)
    (hremaining : remaining (deadline start timeoutMs) now ≤ 0) :
    timeLeft start timeoutMs now < 1000 := by
  by_contra hleft
  rw [not_lt] at hleft
  have hpos := toInt_remaining ht h hnow hleft
  have hle := Int64.le_iff_toInt_le.1 hremaining
  have h0 : (0 : Int64).toInt = 0 := by decide
  omega

theorem wait_right_iff (cancellable : Bool) (ht : 0 < timeoutMs) (h : InRange start timeoutMs)
    (hnow : start ≤ now) (hremaining : ¬ remaining (deadline start timeoutMs) now ≤ 0) :
    (Look.wait now (condWaitMs cancellable
        (waitMs (remaining (deadline start timeoutMs) now)))).Right cancellable
        (timeLeft start timeoutMs) ↔
      (1000 ≤ timeLeft start timeoutMs now →
        WholeWait cancellable (timeLeft start timeoutMs now)) := by
  have hpos : 0 < (remaining (deadline start timeoutMs) now).toInt := by
    rw [Int64.le_iff_toInt_le] at hremaining
    exact not_le.1 hremaining
  have hms := toInt_waitMs hpos (toInt_remaining_le _ _)
  by_cases hleft : 1000 ≤ timeLeft start timeoutMs now
  · rw [toInt_remaining ht h hnow hleft] at hms
    rw [forall_prop_of_true hleft]
    exact condWait_right_iff hms
  · -- the clock is past the deadline by so much that the difference has wrapped
    refine iff_of_true ?_ fun h => absurd h hleft
    have hwait : 1 ≤ condWaitMs cancellable
        (waitMs (remaining (deadline start timeoutMs) now)) := by
      cases cancellable <;>
        simp only [condWaitMs, effectiveTimeout, pollIntervalMs, hms, if_true, Bool.false_eq_true,
          if_false] <;> omega
    exact .inl (by omega)

end

/-- The deadline is what the timeout says, and the call keeps to it. -/
structure KeepsDeadline (cancellable : Bool) (start timeoutMs : Int64) (wakes : List Wake) :
    Prop where
  /-- the milliseconds as nanoseconds -/
  product : (msToNs timeoutMs).toInt = timeoutMs.toInt * 1000000
  sum : (deadline start timeoutMs).toInt = start.toInt + timeoutMs.toInt * 1000000
  looks : ∀ look ∈ (awaitReply cancellable (deadline start timeoutMs) wakes).1,
    look.Right cancellable (timeLeft start timeoutMs)
  timesOut : (awaitReply cancellable (deadline start timeoutMs) wakes).2 = .leaving .deadline →
    ∃ now, .timeOut now ∈ (awaitReply cancellable (deadline start timeoutMs) wakes).1 ∧
      timeLeft start timeoutMs now < 1000

/-- Wherever the loop goes on to wait, the wait is not short of what is left. -/
def WaitsWhole (cancellable : Bool) (left : Int64 → ℤ) (wakes : List Wake) : Prop :=
  ∀ before w after, wakes = before ++ w :: after →
    (∀ u ∈ before, u.reply = none ∧ u.interrupted = false) → w.reply = none →
      1000 ≤ left w.now → WholeWait cancellable (left w.now)

theorem waitsWhole_cons_iff {cancellable : Bool} {left : Int64 → ℤ} {w : Wake} {rest : List Wake} :
    WaitsWhole cancellable left (w :: rest) ↔
      (w.reply = none → (1000 ≤ left w.now → WholeWait cancellable (left w.now)) ∧
        (w.interrupted = false → WaitsWhole cancellable left rest)) := by
  constructor
  · intro h hreply
    refine ⟨h [] w rest rfl (by simp) hreply, ?_⟩
    intro hinterrupted before u after heq hbefore
    refine h (w :: before) u after (by rw [heq]; rfl) ?_
    exact List.forall_mem_cons.2 ⟨⟨hreply, hinterrupted⟩, hbefore⟩
  · intro h before u after heq hbefore
    cases before with
    | nil =>
        obtain ⟨rfl, rfl⟩ := List.cons.inj heq
        exact fun hreply => (h hreply).1
    | cons b before =>
        obtain ⟨rfl, hrest⟩ := List.cons.inj heq
        obtain ⟨⟨hreply, hinterrupted⟩, hbefore⟩ := List.forall_mem_cons.1 hbefore
        exact (h hreply).2 hinterrupted before u after hrest hbefore

theorem waitsWhole_of_late {cancellable : Bool} {left : Int64 → ℤ} {wakes : List Wake}
    (h : ∀ w ∈ wakes, left w.now < 1000) : WaitsWhole cancellable left wakes := by
  rintro before w after rfl - - hleft
  exact absurd (h w (by simp)) (not_lt.2 hleft)

section

variable {start timeoutMs : Int64} {cancellable : Bool} {wakes : List Wake}

theorem looks_right_iff (ht : 0 < timeoutMs) (h : InRange start timeoutMs)
    (hstart : ∀ w ∈ wakes, start ≤ w.now) (hsteady : wakes.Pairwise fun u w => u.now ≤ w.now) :
    (∀ look ∈ (awaitReply cancellable (deadline start timeoutMs) wakes).1,
        look.Right cancellable (timeLeft start timeoutMs)) ↔
      WaitsWhole cancellable (timeLeft start timeoutMs) wakes := by
  induction wakes with
  | nil =>
      refine iff_of_true (by simp [awaitReply]) ?_
      exact waitsWhole_of_late (by simp)
  | cons w rest ih =>
      obtain ⟨hnow, hstart⟩ := List.forall_mem_cons.1 hstart
      obtain ⟨hlater, hsteady⟩ := List.pairwise_cons.1 hsteady
      rw [waitsWhole_cons_iff]
      cases hreply : w.reply with
      | some reply => simp [awaitReply, hreply]
      | none =>
          rw [forall_prop_of_true rfl]
          by_cases hpast : remaining (deadline start timeoutMs) w.now ≤ 0
          · have hlate := timeOut_right ht h hnow hpast
            have hrest : ∀ u ∈ rest, timeLeft start timeoutMs u.now < 1000 := by
              intro u hu
              have hle := Int64.le_iff_toInt_le.1 (hlater u hu)
              rw [timeLeft] at hlate ⊢
              omega
            rw [awaitReply_timeOut hreply hpast]
            refine iff_of_true (by simpa [Look.Right] using hlate) ⟨?_, ?_⟩
            · intro hleft
              exact absurd hlate (not_lt.2 hleft)
            · intro _
              exact waitsWhole_of_late hrest
          · have hwait := wait_right_iff cancellable ht h hnow hpast
            cases hinterrupted : w.interrupted with
            | true =>
                rw [awaitReply_interrupted hreply hpast hinterrupted]
                simpa using hwait
            | false =>
                rw [awaitReply_goesOn hreply hpast hinterrupted, List.forall_mem_cons,
                  forall_prop_of_true rfl]
                exact and_congr hwait (ih hstart hsteady)

/-- A call that has given up has found the clock past the deadline. -/
theorem exists_timeOut {deadline : Int64}
    (h : (awaitReply cancellable deadline wakes).2 = .leaving .deadline) :
    ∃ now, .timeOut now ∈ (awaitReply cancellable deadline wakes).1 := by
  induction wakes with
  | nil => cases h
  | cons w rest ih =>
      cases hreply : w.reply with
      | some reply =>
          simp only [awaitReply, hreply] at h
          cases h
      | none =>
          by_cases hpast : remaining deadline w.now ≤ 0
          · rw [awaitReply_timeOut hreply hpast]
            exact ⟨w.now, List.mem_cons_self⟩
          · cases hinterrupted : w.interrupted with
            | true =>
                rw [awaitReply_interrupted hreply hpast hinterrupted] at h
                cases h
            | false =>
                rw [awaitReply_goesOn hreply hpast hinterrupted] at h ⊢
                obtain ⟨now, hnow⟩ := ih h
                exact ⟨now, List.mem_cons_of_mem _ hnow⟩

/-- With a steady clock, a request keeps to its deadline if and only if the deadline is in the range
    of the clock, and at every reading before a wait, no part of a microsecond is left over a whole
    millisecond, or the wait is a slice. -/
theorem keepsDeadline_iff (ht : 0 < timeoutMs)
    (hsteady : (start :: wakes.map Wake.now).Pairwise (· ≤ ·)) :
    KeepsDeadline cancellable start timeoutMs wakes ↔
      InRange start timeoutMs ∧ WaitsWhole cancellable (timeLeft start timeoutMs) wakes := by
  obtain ⟨hstart, hsteady⟩ := List.pairwise_cons.1 hsteady
  rw [List.forall_mem_map] at hstart
  rw [List.pairwise_map] at hsteady
  constructor
  · intro h
    have hrange : InRange start timeoutMs :=
      ⟨toInt_msToNs_iff.1 h.product, h.sum ▸ Int64.toInt_le _⟩
    exact ⟨hrange, (looks_right_iff ht hrange hstart hsteady).1 h.looks⟩
  · intro h
    obtain ⟨hrange, hwhole⟩ := h
    have hlooks := (looks_right_iff ht hrange hstart hsteady).2 hwhole
    refine ⟨toInt_msToNs_iff.2 hrange.product, toInt_deadline ht hrange, hlooks, ?_⟩
    intro hpc
    obtain ⟨now, hnow⟩ := exists_timeOut hpc
    exact ⟨now, hnow, hlooks _ hnow⟩

end

/-- The whole timeout is waited for, and it is over then. -/
theorem keepsDeadline_iff_twoSeconds :
    KeepsDeadline true 7000000000 2000
      [⟨none, 7000000000, false⟩, ⟨none, 9000000000, false⟩] := by
  have hrange : InRange 7000000000 2000 := ⟨by constructor <;> decide, by decide⟩
  refine (keepsDeadline_iff (by decide) (by simp)).2 ⟨hrange, ?_⟩
  rw [waitsWhole_cons_iff]
  refine fun _ => ⟨fun _ => .inl (by decide), fun _ => waitsWhole_of_late ?_⟩
  simp only [List.mem_singleton, forall_eq]
  decide

/-- A timeout of 293 years is over at once, and with 4000001 ns left the call waits for 4 ms. -/
theorem deadline_missed :
    (awaitReply true (deadline 0 9223372036855) [⟨none, 0, false⟩] =
        ([.timeOut 0], .leaving .deadline) ∧
      ¬ KeepsDeadline true 0 9223372036855 [⟨none, 0, false⟩]) ∧
    (awaitReply true (deadline 0 5) [⟨none, 999999, false⟩] = ([.wait 999999 4], .blocked) ∧
      ¬ KeepsDeadline true 0 5 [⟨none, 999999, false⟩]) := by
  have hlong : awaitReply true (deadline 0 9223372036855) [⟨none, 0, false⟩] =
      ([.timeOut 0], .leaving .deadline) := by decide
  have hshort : awaitReply true (deadline 0 5) [⟨none, 999999, false⟩] =
      ([.wait 999999 4], .blocked) := by decide
  refine ⟨⟨hlong, ?_⟩, hshort, ?_⟩
  · intro h
    have hlooks := h.looks (.timeOut 0) (by rw [hlong]; exact List.mem_cons_self)
    have hwrong : ¬ timeLeft 0 9223372036855 0 < 1000 := by decide
    exact hwrong hlooks
  · intro h
    have hlooks := h.looks (.wait 999999 4) (by rw [hshort]; exact List.mem_cons_self)
    have hwrong : ¬ (timeLeft 0 5 999999 ≤ 4 * 1000000 ∨ true = false ∧ (4 : ℤ) = 500) := by decide
    exact hwrong hlooks

end ModuleNats.ReplyMux
