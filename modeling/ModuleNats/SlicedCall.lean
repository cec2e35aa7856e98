import ModuleNats.Lib.SlicedWait
import ModuleNats.Subscription

set_option autoImplicit false

/-! # Blocking calls

The blocking calls of the wrappers are one loop around different functions of the C client: they
look for a cancellation, wait for a slice of at most `QORE_IO_POLL_INTERVAL_MS`, and go on after
`NATS_TIMEOUT` while time is left. The loop is that of `SlicedWait`; a wrapper adds how it reads the
status of its function, and what it makes of the end of the wait. -/

namespace ModuleNats

open SlicedWait

variable {σ α : Type}

/-- The answers of a function of the C client that waits. -/
inductive WaitStatus (α : Type) where
  | ok (a : α)
  | timeout
  | failed (statusText : String)
deriving DecidableEq, Repr

/-- Every status but `NATS_TIMEOUT` ends the wait. -/
def WaitStatus.answer : WaitStatus α → Answer (WaitStatus α)
  | .timeout => .timedOut
  | status => .done status

/-- A wrapper that raises an exception for every status but `NATS_OK`; `timeoutText` is the text of
    `NATS_TIMEOUT`. -/
def WaitStatus.orRaise (err desc timeoutText : String) : WaitStatus Unit → Except ExceptionInfo Unit
  | .ok () => .ok ()
  | .timeout => .error (natsError err desc timeoutText)
  | .failed statusText => .error (natsError err desc statusText)

/-- What a blocking call calls, over the states `σ` of the world around it. `α` are the statuses of
    the function of the C client that it waits in. -/
structure SlicedEnv (σ α : Type) where
  /-- `qore_check_cancel()` -/
  checkCancel : σ → Option ExceptionInfo × σ
  /-- the function of the C client, with its timeout in milliseconds -/
  wait : ℤ → σ → α × σ

/-- The world of the loop, for a wrapper that reads a status as `answer` says. -/
def SlicedEnv.world (env : SlicedEnv σ α) (answer : α → Answer α) : World σ ExceptionInfo α where
  check := env.checkCancel
  wait ms s := ((answer (env.wait ms s).1), (env.wait ms s).2)

/-- The loop of a blocking call, for at most so many passes. -/
def slicedCall (env : SlicedEnv σ α) (answer : α → Answer α) (infinite : Bool) (passes : ℕ)
    (timeoutMs : Int64) (s : σ) : Waited σ ExceptionInfo α :=
  call (env.world answer) pollIntervalMs infinite passes timeoutMs.toInt s

/-- What a blocking call makes of the end of its wait. -/
def slicedResult {ρ : Type} (raised : ExceptionInfo → ρ) (returns : α → ρ) (timeout : α) :
    Outcome ExceptionInfo α → ρ
  | .cancelled ex => raised ex
  | .done status => returns status
  | .timedOut => returns timeout

/-- The slices are those of the other models of the wrappers' loops. -/
theorem effectiveTimeout_eq_slice : effectiveTimeout = slice pollIntervalMs := rfl

/-! ## The trace -/

/-- What a blocking call does, whatever the C client answers. -/
structure Sliced (timeoutMs : Int64) (infinite : Bool) (w : Waited σ ExceptionInfo α) : Prop
    extends WellSliced pollIntervalMs timeoutMs.toInt infinite w where
  /-- the countdown stays in `int64` -/
  noOverflow : ∀ r, .countdown r ∈ w.events →
    Int64.minValue.toInt ≤ r ∧ r ≤ Int64.maxValue.toInt

theorem slicedCall_sliced (env : SlicedEnv σ α) (answer : α → Answer α) {infinite : Bool}
    (passes : ℕ) {timeoutMs : Int64} (ht : infinite = true ∨ 0 ≤ timeoutMs.toInt) (s : σ) :
    Sliced timeoutMs infinite (slicedCall env answer infinite passes timeoutMs s) := by
  have hsliced := call_wellSliced (env.world answer) (q := pollIntervalMs) (by decide) passes ht s
  refine ⟨hsliced, fun r hr => ?_⟩
  obtain ⟨hnonneg, hle⟩ := hsliced.within _ hr
  have hmin : Int64.minValue.toInt ≤ 0 := by decide
  exact ⟨hmin.trans hnonneg, hle.trans timeoutMs.toInt_le⟩

/-! ## One wait -/

/-- No thread is cancelled, and no `Program` interrupted. -/
def SlicedEnv.Quiet (env : SlicedEnv σ α) : Prop := ∀ s, env.checkCancel s = (none, s)

/-- A wrapper that goes on after `NATS_TIMEOUT`, and after nothing else. -/
def EndsBut (answer : α → Answer α) (timeout : α) : Prop :=
  ∀ status, answer status = .done status ∨ answer status = .timedOut ∧ status = timeout

theorem WaitStatus.endsBut : EndsBut (α := WaitStatus α) answer .timeout := by
  rintro (_ | _ | _) <;> simp [answer]

theorem EndsBut.wait_ne_again {answer : α → Answer α} {timeout : α} (h : EndsBut answer timeout)
    (env : SlicedEnv σ α) (ms : ℤ) (s : σ) : ((env.world answer).wait ms s).1 ≠ .again := by
  rcases h (env.wait ms s).1 with h | ⟨h, -⟩ <;> simp [SlicedEnv.world, h]

/-- With so many passes, a call with a finite timeout ends. -/
theorem slicedCall_ends (env : SlicedEnv σ α) {answer : α → Answer α} {timeout : α}
    (hends : EndsBut answer timeout) {passes : ℕ} {timeoutMs : Int64}
    (henough : Enough pollIntervalMs timeoutMs.toInt passes) (s : σ) :
    (slicedCall env answer false passes timeoutMs s).outcome ≠ none :=
  outcome_call (by decide) (hends.wait_ne_again env) henough s

/-- A call whose wait can be cut in two makes of the end of its wait what it makes of the status of
    one wait with the whole timeout. -/
theorem slicedCall_eq_wait {env : SlicedEnv σ α} (hquiet : env.Quiet) {answer : α → Answer α}
    {timeout : α} (hends : EndsBut answer timeout) (hadd : Additive (env.world answer).wait)
    {passes : ℕ} {timeoutMs : Int64} (henough : Enough pollIntervalMs timeoutMs.toInt passes)
    {ρ : Type} (raised : ExceptionInfo → ρ) (returns : α → ρ) (s : σ) :
    (slicedCall env answer false passes timeoutMs s).outcome.map
        (slicedResult raised returns timeout) =
      some (returns (env.wait timeoutMs.toInt s).1) ∧
    (slicedCall env answer false passes timeoutMs s).world = (env.wait timeoutMs.toInt s).2 := by
  obtain ⟨houtcome, hworld⟩ :=
    call_eq_wait (W := env.world answer) hquiet hadd (by decide) (hends.wait_ne_again env) henough s
  refine ⟨?_, hworld⟩
  rw [slicedCall, houtcome]
  rcases hends (env.wait timeoutMs.toInt s).1 with h | ⟨h, hstatus⟩
  · simp [SlicedEnv.world, h, Answer.outcome, slicedResult]
  · simp [SlicedEnv.world, hstatus ▸ h, hstatus, Answer.outcome, slicedResult]

/-- A function of the C client that waits for one event: it returns with the status of the event as
    soon as it has come, and with `NATS_TIMEOUT` if it has not come in time. -/
structure ReportsEvent (wait : ℤ → ℚ → α × ℚ) (timeout : α) (event : Option (ℚ × α)) : Prop where
  status : ∀ t a, event = some (t, a) → a ≠ timeout
  comes : ∀ (ms : ℤ) now t a, 0 < ms → event = some (t, a) → t ≤ now + ms →
    wait ms now = (a, max now t)
  timesOut : ∀ (ms : ℤ) now, 0 < ms → (∀ t a, event = some (t, a) → now + ms < t) →
    wait ms now = (timeout, now + ms)

theorem ReportsEvent.waitsFor {env : SlicedEnv ℚ α} {answer : α → Answer α} {timeout : α}
    (hends : EndsBut answer timeout) (htimeout : answer timeout = .timedOut)
    {event : Option (ℚ × α)} (h : ReportsEvent env.wait timeout event) :
    WaitsFor (env.world answer).wait event where
  comes ms now t a hms hevent ht := by
    have hdone : answer a = .done a :=
      (hends a).resolve_right fun hto => h.status t a hevent hto.2
    simp [SlicedEnv.world, h.comes ms now t a hms hevent ht, hdone]
  timesOut ms now hms hlate := by
    simp [SlicedEnv.world, h.timesOut ms now hms hlate, htimeout]

/-- Such a function. -/
def reportEvent (timeout : α) (event : Option (ℚ × α)) (ms : ℤ) (now : ℚ) : α × ℚ :=
  match event with
  | some (t, a) => if t ≤ now + ms then (a, max now t) else (timeout, now + ms)
  | none => (timeout, now + ms)

theorem reportEvent_reports {timeout : α} {event : Option (ℚ × α)}
    (h : ∀ t a, event = some (t, a) → a ≠ timeout) :
    ReportsEvent (reportEvent timeout event) timeout event where
  status := h
  comes ms now t a _ hevent ht := by simp [reportEvent, hevent, ht]
  timesOut ms now _ hlate := by
    cases event with
    | none => rfl
    | some e => simp [reportEvent, not_le.2 (hlate e.1 e.2 rfl)]

end ModuleNats
