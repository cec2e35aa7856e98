import ModuleNats.SlicedCall

set_option autoImplicit false

/-! # `QoreNatsConnection::flush()`

`flush()` waits in slices, like the calls of a subscription. A flush is a round trip, though: each
`natsConnection_FlushTimeout()` sends a PING of its own and waits for the answer to that one, so the
slices do not add up. `flush_transparent_iff` says when they cannot be told from one call. -/

namespace ModuleNats

open SlicedWait

variable {σ : Type}

/-! ## The code -/

/-- What `flush()` makes of a status. -/
def flushReturns (timeoutText : String) : WaitStatus Unit → Except ExceptionInfo Unit :=
  WaitStatus.orRaise "NATS-CONNECTION-ERROR" "failed to flush connection" timeoutText

/-- `QoreNatsConnection::flush()`: the result, if the call has ended, and the world after it.
    `connected` says whether there is a `natsConnection`. -/
def flush (env : SlicedEnv σ (WaitStatus Unit)) (timeoutText : String) (connected : Bool)
    (passes : ℕ) (timeoutMs : Int64) (s : σ) : Option (Except ExceptionInfo Unit) × σ :=
  if connected then
    let w := slicedCall env WaitStatus.answer false passes timeoutMs s
    (w.outcome.map (slicedResult .error (flushReturns timeoutText) .timeout), w.world)
  else (some (.error ⟨"NATS-CONNECTION-ERROR", "not connected"⟩), s)

/-! ## Round trips -/

/-- What `natsConnection_FlushTimeout()` promises, over the time, when each PING is answered after
    `r` milliseconds: it waits for the answer to its own PING. -/
structure FlushDocumented (natsFlush : ℤ → ℚ → WaitStatus Unit × ℚ) (r : ℚ) : Prop where
  answered : ∀ (ms : ℤ) now, 0 ≤ ms → r ≤ ms → natsFlush ms now = (.ok (), now + r)
  timedOut : ∀ (ms : ℤ) now, 0 ≤ ms → ms < r → natsFlush ms now = (.timeout, now + ms)

theorem FlushDocumented.restarts {env : SlicedEnv ℚ (WaitStatus Unit)} {r : ℚ}
    (h : FlushDocumented env.wait r) : Restarts (env.world WaitStatus.answer).wait r (.ok ()) where
  comes ms now hms hr := by simp [SlicedEnv.world, h.answered ms now hms hr, WaitStatus.answer]
  timesOut ms now hms hr := by simp [SlicedEnv.world, h.timedOut ms now hms hr, WaitStatus.answer]

section

variable {env : SlicedEnv ℚ (WaitStatus Unit)} {r : ℚ} {timeoutMs : Int64} {passes : ℕ}

/-- A round trip that ends within the first slice. -/
theorem flush_of_le (hquiet : env.Quiet) (h : FlushDocumented env.wait r)
    (ht : 0 ≤ timeoutMs.toInt) (hr : r ≤ timeoutMs.toInt) (hslice : r ≤ pollIntervalMs)
    (hpasses : 1 ≤ passes) (timeoutText : String) (now : ℚ) :
    flush env timeoutText true passes timeoutMs now = (some (.ok ()), now + r) := by
  have hshort : r ≤ (slice pollIntervalMs false timeoutMs.toInt : ℤ) := by
    simp only [slice, Bool.false_eq_true, if_false]
    split
    · exact hslice
    · exact hr
  obtain ⟨houtcome, hworld⟩ := h.restarts.call_of_le (W := env.world WaitStatus.answer) hquiet
    (by decide) hpasses ht hshort now
  simp [flush, slicedCall, houtcome, hworld, slicedResult, flushReturns, WaitStatus.orRaise]

/-- A round trip that takes longer than a slice. -/
theorem flush_ne_ok (h : FlushDocumented env.wait r) (ht : 0 ≤ timeoutMs.toInt)
    (hslice : pollIntervalMs < r) (timeoutText : String) (now : ℚ) :
    (flush env timeoutText true passes timeoutMs now).1 ≠ some (.ok ()) := by
  have hnever := h.restarts.call_of_lt (n := passes) (by decide) hslice ht now
  intro hok
  obtain ⟨outcome, houtcome, hresult⟩ := Option.map_eq_some_iff.1 hok
  cases outcome with
  | done status =>
      exact hnever status houtcome
  | cancelled | timedOut => cases hresult

/-- One `natsConnection_FlushTimeout()` with the whole timeout succeeds, and the slices of `flush()`
    do if and only if the round trip is not longer than a slice. -/
theorem flush_transparent_iff (hquiet : env.Quiet) (hr : 0 ≤ r) (h : FlushDocumented env.wait r)
    (ht : r ≤ timeoutMs.toInt) (henough : Enough pollIntervalMs timeoutMs.toInt passes)
    (timeoutText : String) (now : ℚ) :
    (env.wait timeoutMs.toInt now).1 = .ok () ∧
    ((flush env timeoutText true passes timeoutMs now).1 = some (.ok ()) ∧
        (flush env timeoutText true passes timeoutMs now).2 - now ≤ timeoutMs.toInt ↔
      r ≤ pollIntervalMs) := by
  have hnonneg : 0 ≤ timeoutMs.toInt := by exact_mod_cast hr.trans ht
  refine ⟨by rw [h.answered _ now hnonneg ht], ?_⟩
  constructor
  · intro hok
    by_contra hslice
    exact flush_ne_ok h hnonneg (not_le.1 hslice) timeoutText now hok.1
  · intro hslice
    rw [flush_of_le hquiet h hnonneg ht hslice henough.one_le]
    exact ⟨rfl, by simpa using ht⟩

end

/-- A client whose PINGs are answered after `r` milliseconds. -/
def roundTrip (r : ℚ) (ms : ℤ) (now : ℚ) : WaitStatus Unit × ℚ :=
  if r ≤ ms then (.ok (), now + r) else (.timeout, now + ms)

theorem roundTrip_documented (r : ℚ) : FlushDocumented (roundTrip r) r where
  answered _ _ _ hr := if_pos hr
  timedOut _ _ _ hr := if_neg (not_le.2 hr)

theorem flush_transparent_iff_fast :
    (flush ⟨fun s => (none, s), roundTrip 20⟩ "Timeout" true 10 5000 0).1 = some (.ok ()) := by
  have htoInt : (5000 : Int64).toInt = 5000 := by decide
  refine ((flush_transparent_iff (fun _ => rfl) (by norm_num) (roundTrip_documented 20) ?_ ?_
    "Timeout" 0).2.2 ?_).1
  · norm_num [htoInt]
  · norm_num [Enough, pollIntervalMs, htoInt, Int.ceil_le]
  · norm_num [pollIntervalMs]

/-- Every PING is answered after 600 ms, and the call fails after ten PINGs and 5 s. -/
theorem flush_fails_on_slow_round_trips :
    ¬ ∀ (env : SlicedEnv ℚ (WaitStatus Unit)) (r : ℚ) (timeoutMs : Int64) (passes : ℕ)
      (timeoutText : String) (now : ℚ), env.Quiet → 0 ≤ r → FlushDocumented env.wait r →
      r ≤ timeoutMs.toInt → Enough pollIntervalMs timeoutMs.toInt passes →
      (flush env timeoutText true passes timeoutMs now).1 = some (.ok ()) ∧
        (flush env timeoutText true passes timeoutMs now).2 - now ≤ timeoutMs.toInt := by
  intro hall
  have htoInt : (5000 : Int64).toInt = 5000 := by decide
  have hok := hall ⟨fun s => (none, s), roundTrip 600⟩ 600 5000 10 "Timeout" 0 (fun _ => rfl)
    (by norm_num) (roundTrip_documented 600) (by norm_num [htoInt])
    (by norm_num [Enough, pollIntervalMs, htoInt, Int.ceil_le])
  exact flush_ne_ok (roundTrip_documented 600) (by norm_num [htoInt])
    (by norm_num [pollIntervalMs]) "Timeout" 0 hok.1

end ModuleNats
