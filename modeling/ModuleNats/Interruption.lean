import ModuleNats.Connection.Flush
import ModuleNats.KeyValue.Watcher
import ModuleNats.Subscription.Fetch
import ModuleNats.Subscription.NextMsg

set_option autoImplicit false

/-! # Interrupted calls

The C client offers no way to wake a wait, so the blocking calls wait in slices and look for a
cancellation of their thread, or an interruption of their `Program`, before each. The guide promises
that such a call ends within about 500 ms. `interrupted_calls_end` says so of the five calls that
wait in the C client, for any world with a clock: `d` is by how much a function of the C client can
overrun its timeout. -/

namespace ModuleNats.Interruption

open SlicedWait

variable {σ ρ μ η κ : Type}

/-- A call that starts in the state `s` and is interrupted at `tc`: for every number of passes that
    is large enough it has ended, a slice and `d` after `tc` at the latest, and as `interrupted`
    says if it is `certain` that nothing else ends it. -/
def EndsInTime (time : σ → ℚ) (s : σ) (tc d : ℚ) (certain : Prop) (interrupted : ρ)
    (f : ℕ → Option ρ × σ) : Prop :=
  ∃ passes₀, ∀ passes, passes₀ ≤ passes → ∃ result, (f passes).1 = some result ∧
    time (f passes).2 ≤ max (time s) (tc + pollIntervalMs + d) ∧
    (certain → result = interrupted)

/-- The wait of a call with this timeout brings nothing, and lasts for a slice after `tc`. -/
def Certain {ε β : Type} (W : World σ ε β) (time : σ → ℚ) (s : σ) (tc : ℚ) (infinite : Bool)
    (timeoutMs : ℤ) : Prop :=
  Silent W ∧ (infinite = true ∨ tc + pollIntervalMs ≤ time s + timeoutMs)

/-- A call that makes its result of the end of its wait. -/
theorem endsInTime_of_slicedCall {α : Type} {env : SlicedEnv σ α} {answer : α → Answer α}
    {time : σ → ℚ} {left : σ → ℕ} {tc d : ℚ} {ex : ExceptionInfo} {infinite : Bool}
    {timeoutMs : Int64} {f : ℕ → Option ρ × σ} {s : σ} (returns : Outcome ExceptionInfo α → ρ)
    (hf : ∀ passes, f passes =
      ((slicedCall env answer infinite passes timeoutMs s).outcome.map returns,
        (slicedCall env answer infinite passes timeoutMs s).world))
    (h : CancelledAt (env.world answer) time left tc ex d)
    (ht : infinite = true ∨ 0 ≤ timeoutMs.toInt) :
    EndsInTime time s tc d (Certain (env.world answer) time s tc infinite timeoutMs.toInt)
      (returns (.cancelled ex)) f := by
  obtain ⟨passes₀, hends⟩ := h.call_ends (q := pollIntervalMs) (by decide) ht s
  refine ⟨passes₀, fun passes hpasses => ?_⟩
  obtain ⟨outcome, hout, htime, hcancelled⟩ := hends passes hpasses
  rw [hf passes]
  refine ⟨returns outcome, ?_, htime, ?_⟩
  · rw [slicedCall, hout]
    rfl
  · rintro ⟨hsilent, hlong⟩
    rw [hcancelled hsilent hlong]

/-! ## `fetch()`

The loop of `fetch()` is that of the other calls. -/

section Fetch

open Fetch

/-- How the loop reads an answer. -/
def fetchAnswer : FetchAnswer μ → Answer (FetchAnswer μ)
  | .timeout => .timedOut
  | answer => .done answer

def fetchWorld (env : Env σ μ) (batch : ℕ) : World σ ExceptionInfo (FetchAnswer μ) where
  check s := (env.cancelled s, s)
  wait ms s := (fetchAnswer (env.natsFetch batch ms s).1, (env.natsFetch batch ms s).2)

/-- What `fetch()` makes of the end of its wait. -/
def fetchReturns (env : Env σ μ) (lastMsg : Option μ) :
    Outcome ExceptionInfo (FetchAnswer μ) → Except ExceptionInfo (List μ) × Option μ
  | .cancelled ex => (.error ex, lastMsg)
  | .done (.ok msgs) => toHashes env.conversion lastMsg msgs
  | .done (.failed statusText) =>
      (.error (natsError "NATS-SUBSCRIBE-ERROR" "failed to fetch messages" statusText), lastMsg)
  | .done .timeout | .timedOut => (.ok [], lastMsg)

/-- The loop, if the slices come to an end within so many passes. -/
theorem fetchLoop_eq {env : Env σ μ} {batch n : ℕ} {remainingMs : ℤ} {s : σ} {lastMsg : Option μ}
    {outcome : Outcome ExceptionInfo (FetchAnswer μ)}
    (hout : (loop (fetchWorld env batch) pollIntervalMs false n remainingMs s).outcome =
      some outcome) :
    fetchLoop env batch remainingMs s lastMsg =
      ((fetchReturns env lastMsg outcome).1, (fetchReturns env lastMsg outcome).2,
        (loop (fetchWorld env batch) pollIntervalMs false n remainingMs s).world) := by
  induction n generalizing remainingMs s with
  | zero => cases hout
  | succ n ih =>
      rw [fetchLoop, effectiveTimeout_eq_slice]
      cases hcancel : env.cancelled s with
      | some ex =>
          have hpass : SlicedWait.pass (fetchWorld env batch) pollIntervalMs false remainingMs s =
              (.inl (.cancelled ex), [.check (some ex)], s) := by
            simp only [SlicedWait.pass, fetchWorld, hcancel]
          rw [loop, hpass] at hout ⊢
          cases hout
          rfl
      | none =>
          rcases hfetch : env.natsFetch batch (slice pollIntervalMs false remainingMs) s with
            ⟨answer, s'⟩
          rw [loop, SlicedWait.pass] at hout ⊢
          simp only [fetchWorld, hcancel, hfetch] at hout ⊢
          cases answer with
          | ok msgs => cases hout; rfl
          | failed statusText => cases hout; rfl
          | timeout =>
              simp only [fetchAnswer, Bool.false_eq_true, if_false] at hout ⊢
              by_cases hleft : remainingMs - slice pollIntervalMs false remainingMs ≤ 0
              · simp only [if_pos hleft] at hout ⊢
                cases hout
                rfl
              · simp only [if_neg hleft] at hout ⊢
                exact ih hout

/-- The whole call: it looks for a cancellation first, as the others do. -/
theorem fetch_eq {env : Env σ μ} {batch n : ℕ} {timeoutMs : ℤ} {s : σ} {lastMsg : Option μ}
    {outcome : Outcome ExceptionInfo (FetchAnswer μ)}
    (hout : (call (fetchWorld env batch) pollIntervalMs false n timeoutMs s).outcome =
      some outcome) :
    fetch env true batch timeoutMs s lastMsg =
      ((fetchReturns env lastMsg outcome).1, (fetchReturns env lastMsg outcome).2,
        (call (fetchWorld env batch) pollIntervalMs false n timeoutMs s).world) := by
  rw [fetch, if_pos rfl]
  cases hcancel : env.cancelled s with
  | some ex =>
      simp only [call, fetchWorld, hcancel] at hout ⊢
      cases hout
      rfl
  | none =>
      simp only [call, fetchWorld, hcancel] at hout ⊢
      exact fetchLoop_eq hout

/-- `fetch()` has no number of passes: its loop ends by itself. -/
theorem endsInTime_fetch {env : Env σ μ} {batch : ℕ} {time : σ → ℚ} {left : σ → ℕ} {tc d : ℚ}
    {ex : ExceptionInfo} {timeoutMs : ℤ} {s : σ} (lastMsg : Option μ)
    (h : CancelledAt (fetchWorld env batch) time left tc ex d) (ht : 0 ≤ timeoutMs) :
    EndsInTime time s tc d (Certain (fetchWorld env batch) time s tc false timeoutMs)
      (.error ex, lastMsg) fun _ =>
        (some ((fetch env true batch timeoutMs s lastMsg).1,
          (fetch env true batch timeoutMs s lastMsg).2.1),
          (fetch env true batch timeoutMs s lastMsg).2.2) := by
  obtain ⟨passes₀, hends⟩ := h.call_ends (q := pollIntervalMs) (by decide) (.inr ht) s
  obtain ⟨outcome, hout, htime, hcancelled⟩ := hends passes₀ le_rfl
  refine ⟨0, fun _ _ => ?_⟩
  rw [fetch_eq hout]
  refine ⟨_, rfl, htime, ?_⟩
  rintro ⟨hsilent, hlong⟩
  rw [hcancelled hsilent hlong]
  rfl

end Fetch

/-! ## The calls -/

/-- Each of the calls that wait in the C client ends at most 500 ms and `d` after it is interrupted,
    whatever the C client answers, however long its timeout is, and also where `nextMsg()` has none;
    if nothing comes before, it ends with the exception of the interruption. -/
theorem interrupted_calls_end (μ η κ : Type) (time : σ → ℚ) (left : σ → ℕ) (tc d : ℚ)
    (ex : ExceptionInfo) (s : σ) (timeoutMs : Int64) :
    (∀ (env : SlicedEnv σ (NextMsgStatus μ)) (toHash : μ → Except ExceptionInfo η) lastMsg,
      CancelledAt (env.world NextMsgStatus.answer) time left tc ex d →
      EndsInTime time s tc d (Certain (env.world NextMsgStatus.answer) time s tc
          (timeoutMs < 0) timeoutMs.toInt) (.error ex, lastMsg)
        fun passes => nextMsg env toHash true passes timeoutMs s lastMsg) ∧
    (0 ≤ timeoutMs →
      (∀ (env : SlicedEnv σ (WaitStatus Unit)) (timeoutText : String),
        CancelledAt (env.world WaitStatus.answer) time left tc ex d →
        EndsInTime time s tc d (Certain (env.world WaitStatus.answer) time s tc false
            timeoutMs.toInt) (.error ex)
          (fun passes => waitForDrainCompletion env timeoutText true passes timeoutMs s) ∧
        EndsInTime time s tc d (Certain (env.world WaitStatus.answer) time s tc false
            timeoutMs.toInt) (.error ex)
          fun passes => flush env timeoutText true passes timeoutMs s) ∧
      (∀ (env : SlicedEnv σ (WaitStatus (Option κ))) (toHash : κ → Except ExceptionInfo η),
        CancelledAt (env.world KVWatcher.answer) time left tc ex d →
        EndsInTime time s tc d (Certain (env.world KVWatcher.answer) time s tc false
            timeoutMs.toInt) (.error ex)
          fun passes => KVWatcher.next env toHash true passes timeoutMs s) ∧
      ∀ (env : Fetch.Env σ μ) (batch : ℕ) lastMsg,
        CancelledAt (fetchWorld env batch) time left tc ex d →
        EndsInTime time s tc d (Certain (fetchWorld env batch) time s tc false timeoutMs.toInt)
          (.error ex, lastMsg) fun _ =>
            (some ((Fetch.fetch env true batch timeoutMs.toInt s lastMsg).1,
              (Fetch.fetch env true batch timeoutMs.toInt s lastMsg).2.1),
              (Fetch.fetch env true batch timeoutMs.toInt s lastMsg).2.2)) := by
  constructor
  · intro env toHash lastMsg h
    refine endsInTime_of_slicedCall (slicedResult (fun ex => (.error ex, lastMsg))
      (NextMsgStatus.returns toHash lastMsg) .timeout) (fun passes => rfl) h ?_
    rcases Int64.lt_or_le timeoutMs 0 with hneg | hnonneg
    · exact .inl (decide_eq_true hneg)
    · exact .inr (Int64.le_iff_toInt_le.1 hnonneg)
  · intro hnonneg
    have ht : 0 ≤ timeoutMs.toInt := Int64.le_iff_toInt_le.1 hnonneg
    refine ⟨?_, ?_, ?_⟩
    · intro env timeoutText h
      exact ⟨endsInTime_of_slicedCall (slicedResult .error (drainReturns timeoutText) .timeout)
          (fun passes => rfl) h (.inr ht),
        endsInTime_of_slicedCall (slicedResult .error (flushReturns timeoutText) .timeout)
          (fun passes => rfl) h (.inr ht)⟩
    · intro env toHash h
      exact endsInTime_of_slicedCall (slicedResult .error (KVWatcher.returns toHash) .timeout)
        (fun passes => rfl) h (.inr ht)
    · intro env batch lastMsg h
      exact endsInTime_fetch lastMsg h ht

def threadCancelled : ExceptionInfo := ⟨"THREAD-CANCELLED", "thread cancelled"⟩

/-- A subscription on which nothing arrives, for a thread that is cancelled after 700 ms. -/
def idle : SlicedEnv ℚ (NextMsgStatus ℕ) where
  checkCancel now := (if 700 ≤ now then some threadCancelled else none, now)
  wait ms now := (.timeout, now + ms)

theorem idle_cancelledAt :
    CancelledAt (idle.world NextMsgStatus.answer) id (fun _ => 0) 700 threadCancelled 0 where
  check _ := rfl
  check_time _ := rfl
  check_left _ := rfl
  forward ms now hms := le_add_of_nonneg_right (by exact_mod_cast hms)
  within ms now _ := (add_zero _).ge
  lasts _ _ _ _ := le_rfl
  left_le _ _ := le_rfl
  again _ _ h := by cases h

/-- A `nextMsg()` without a timeout. -/
theorem interrupted_calls_end_idle : ∃ passes t,
    nextMsg idle (fun m => .ok m) true passes (-1) 0 none =
      (some (.error threadCancelled, none), t) ∧ t ≤ 1200 := by
  obtain ⟨passes, hends⟩ := (interrupted_calls_end ℕ ℕ ℕ id (fun _ => 0) 700 0 threadCancelled 0
    (-1)).1 idle (fun m => .ok m) none idle_cancelledAt
  obtain ⟨result, hresult, htime, hcertain⟩ := hends passes le_rfl
  refine ⟨passes, (nextMsg idle (fun m => .ok m) true passes (-1) 0 none).2, ?_, ?_⟩
  · refine Prod.ext (hresult.trans (congrArg some (hcertain ⟨?_, .inl (by decide)⟩))) rfl
    intro ms now b h
    cases h
  · norm_num [pollIntervalMs] at htime
    exact htime

end ModuleNats.Interruption
