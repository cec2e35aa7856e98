import ModuleNats.SlicedCall

set_option autoImplicit false

/-! # `nextMsg()` and `waitForDrainCompletion()`

Both calls of `QoreNatsSubscription` wait in slices. The slices cannot be told from one wait of the
C client with the whole timeout: a message that arrives between two of them is in the queue when the
next one begins, and a drain that has completed is complete. -/

namespace ModuleNats

open SlicedWait

variable {σ μ η : Type}

/-! ## The code -/

/-- The answers of `natsSubscription_NextMsg()`. -/
inductive NextMsgStatus (μ : Type) where
  | ok (msg : μ)
  | timeout
  | maxDeliveredMsgs
  | invalidSubscription
  | failed (statusText : String)
deriving DecidableEq, Repr

/-- Every status but `NATS_TIMEOUT` ends the wait. -/
def NextMsgStatus.answer : NextMsgStatus μ → Answer (NextMsgStatus μ)
  | .timeout => .timedOut
  | status => .done status

/-- What `nextMsg()` makes of a status: its result, and the new `lastMsg`. `toHash` is
    `nats_msg_to_hash()`. -/
def NextMsgStatus.returns (toHash : μ → Except ExceptionInfo η) (lastMsg : Option μ) :
    NextMsgStatus μ → Except ExceptionInfo (Option η) × Option μ
  | .ok msg => ((toHash msg).map some, some msg)
  | .timeout | .maxDeliveredMsgs | .invalidSubscription => (.ok none, lastMsg)
  | .failed statusText =>
      (.error (natsError "NATS-SUBSCRIBE-ERROR" "failed to get next message" statusText), lastMsg)

/-- The wait in `nextMsg()`. -/
def nextMsgWait (env : SlicedEnv σ (NextMsgStatus μ)) (passes : ℕ) (timeoutMs : Int64) (s : σ) :
    Waited σ ExceptionInfo (NextMsgStatus μ) :=
  slicedCall env NextMsgStatus.answer (timeoutMs < 0) passes timeoutMs s

/-- `QoreNatsSubscription::nextMsg()`: the result and `lastMsg`, if the call has ended, and the
    world after it. `valid` says whether there is a `natsSubscription`. -/
def nextMsg (env : SlicedEnv σ (NextMsgStatus μ)) (toHash : μ → Except ExceptionInfo η)
    (valid : Bool) (passes : ℕ) (timeoutMs : Int64) (s : σ) (lastMsg : Option μ) :
    Option (Except ExceptionInfo (Option η) × Option μ) × σ :=
  if valid then
    let w := nextMsgWait env passes timeoutMs s
    (w.outcome.map (slicedResult (fun ex => (.error ex, lastMsg))
      (NextMsgStatus.returns toHash lastMsg) .timeout), w.world)
  else (some (.error ⟨"NATS-SUBSCRIBE-ERROR", "subscription is not valid"⟩, lastMsg), s)

/-- What `waitForDrainCompletion()` makes of a status. -/
def drainReturns (timeoutText : String) : WaitStatus Unit → Except ExceptionInfo Unit :=
  WaitStatus.orRaise "NATS-SUBSCRIBE-ERROR" "failed waiting for drain completion" timeoutText

/-- The wait in `waitForDrainCompletion()`. -/
def drainWait (env : SlicedEnv σ (WaitStatus Unit)) (passes : ℕ) (timeoutMs : Int64) (s : σ) :
    Waited σ ExceptionInfo (WaitStatus Unit) :=
  slicedCall env WaitStatus.answer false passes timeoutMs s

/-- `QoreNatsSubscription::waitForDrainCompletion()`. -/
def waitForDrainCompletion (env : SlicedEnv σ (WaitStatus Unit)) (timeoutText : String)
    (valid : Bool) (passes : ℕ) (timeoutMs : Int64) (s : σ) :
    Option (Except ExceptionInfo Unit) × σ :=
  if valid then
    let w := drainWait env passes timeoutMs s
    (w.outcome.map (slicedResult .error (drainReturns timeoutText) .timeout), w.world)
  else (some (.error ⟨"NATS-SUBSCRIBE-ERROR", "subscription is not valid"⟩), s)

/-! ## One pass -/

/-- The status, with the message of `NATS_OK`. -/
def NextStatus.withMsg : NextStatus → Option μ → NextMsgStatus μ
  | .ok, some msg => .ok msg
  | .ok, none | .timeout, _ => .timeout
  | .maxDeliveredMsgs, _ => .maxDeliveredMsgs
  | .invalidSubscription, _ => .invalidSubscription
  | .failed statusText, _ => .failed statusText

/-- How `nextMsg()` goes on after a pass of its loop. -/
def nextResult (toHash : μ → Except ExceptionInfo μ) :
    Next ExceptionInfo (NextMsgStatus μ) → NextResult μ
  | .inr remainingMs => .again remainingMs
  | .inl outcome =>
      match (slicedResult (fun ex => (.error ex, none)) (NextMsgStatus.returns toHash none) .timeout
        outcome).1 with
      | .ok (some msg) => .message msg
      | .ok none => .nothing
      | .error ex => .raised ex

/-- Only `NATS_OK` takes a message, and it always does. -/
theorem Subscription.answer_cases {s : Subscription μ} {status : NextStatus} {msg : Option μ}
    {pending : List μ} (h : s.answer status = some (msg, pending)) :
    status = .ok ∧ msg.isSome ∨ status ≠ .ok ∧ msg = none ∧ pending = s.pending := by
  cases status with
  | ok =>
      simp only [Subscription.answer] at h
      split at h
      · split at h <;> cases h
        exact .inl ⟨rfl, rfl⟩
      · cases h
  | timeout | maxDeliveredMsgs | invalidSubscription =>
      simp only [Subscription.answer] at h
      split at h <;> cases h
      exact .inr ⟨by simp, rfl, rfl⟩
  | failed =>
      cases h
      exact .inr ⟨by simp, rfl, rfl⟩

/-- One pass of the loop over the queue of the C client is the poll of the other model. -/
theorem nextPoll_eq_pass {s : Subscription μ} {status : NextStatus} {msg : Option μ}
    {pending : List μ} (h : s.answer status = some (msg, pending)) (infinite : Bool)
    (remainingMs : ℤ) {conversion : Option ExceptionInfo} {toHash : μ → Except ExceptionInfo μ}
    (htoHash : ∀ m, toHash m = conversion.elim (.ok m) .error) :
    nextPoll s infinite remainingMs status conversion =
      some (nextResult toHash (SlicedWait.pass (SlicedEnv.world ⟨fun s => (none, s),
          fun _ s => (status.withMsg msg, s)⟩ NextMsgStatus.answer) pollIntervalMs infinite
          remainingMs s).1,
        { s with
          pending := pending
          lastMsg := ((status.withMsg msg).returns toHash s.lastMsg).2 }) := by
  rcases Subscription.answer_cases h with ⟨rfl, hmsg⟩ | ⟨hstatus, rfl, rfl⟩
  · obtain ⟨m, rfl⟩ := Option.isSome_iff_exists.1 hmsg
    cases conversion <;>
      simp [nextPoll, h, SlicedWait.pass, SlicedEnv.world, NextStatus.withMsg, NextMsgStatus.answer,
        nextResult, slicedResult, NextMsgStatus.returns, htoHash, Except.map]
  · cases status with
    | ok => exact absurd rfl hstatus
    | timeout =>
        simp only [nextPoll, h, SlicedWait.pass, SlicedEnv.world, NextStatus.withMsg,
          NextMsgStatus.answer, effectiveTimeout_eq_slice, Option.map_some]
        cases infinite with
        | true => simp [nextResult, NextMsgStatus.returns]
        | false =>
            by_cases hleft : remainingMs - slice pollIntervalMs false remainingMs ≤ 0 <;>
              simp [hleft, nextResult, slicedResult, NextMsgStatus.returns]
    | maxDeliveredMsgs | invalidSubscription | failed =>
        simp [nextPoll, h, SlicedWait.pass, SlicedEnv.world, NextStatus.withMsg,
          NextMsgStatus.answer, nextResult, slicedResult, NextMsgStatus.returns]

/-! ## The trace -/

theorem nextMsgWait_sliced (env : SlicedEnv σ (NextMsgStatus μ)) (passes : ℕ) (timeoutMs : Int64)
    (s : σ) : Sliced timeoutMs (timeoutMs < 0) (nextMsgWait env passes timeoutMs s) := by
  refine slicedCall_sliced env _ passes ?_ s
  rcases Int64.lt_or_le timeoutMs 0 with hneg | hnonneg
  · exact .inl (decide_eq_true hneg)
  · exact .inr (Int64.le_iff_toInt_le.1 hnonneg)

theorem drainWait_sliced (env : SlicedEnv σ (WaitStatus Unit)) (passes : ℕ) {timeoutMs : Int64}
    (ht : 0 < timeoutMs) (s : σ) : Sliced timeoutMs false (drainWait env passes timeoutMs s) :=
  slicedCall_sliced env _ passes (.inr (Int64.lt_iff_toInt_lt.1 ht).le) s

/-! ## One wait -/

theorem NextMsgStatus.endsBut : EndsBut (α := NextMsgStatus μ) answer .timeout := by
  rintro (_ | _ | _ | _ | _) <;> simp [answer]

/-- A timeout that is not negative is finite. -/
theorem nextMsgWait_of_nonneg (env : SlicedEnv σ (NextMsgStatus μ)) (passes : ℕ) {timeoutMs : Int64}
    (ht : 0 ≤ timeoutMs) (s : σ) : nextMsgWait env passes timeoutMs s =
      slicedCall env NextMsgStatus.answer false passes timeoutMs s := by
  have hfinite : decide (timeoutMs < 0) = false := by simpa [Int64.not_lt] using ht
  rw [nextMsgWait, hfinite]

theorem nextMsg_eq_wait (toHash : μ → Except ExceptionInfo η) {timeoutMs : Int64}
    (ht : 0 ≤ timeoutMs) {passes : ℕ} (henough : Enough pollIntervalMs timeoutMs.toInt passes)
    {env : SlicedEnv ℚ (NextMsgStatus μ)} (hquiet : env.Quiet)
    {event : Option (ℚ × NextMsgStatus μ)} (h : ReportsEvent env.wait .timeout event) (now : ℚ)
    (lastMsg : Option μ) :
    nextMsg env toHash true passes timeoutMs now lastMsg =
      (some ((env.wait timeoutMs.toInt now).1.returns toHash lastMsg),
        (env.wait timeoutMs.toInt now).2) := by
  have hadd := (h.waitsFor NextMsgStatus.endsBut rfl).additive
  obtain ⟨hresult, hworld⟩ := slicedCall_eq_wait hquiet NextMsgStatus.endsBut hadd henough
    (fun ex => (.error ex, lastMsg)) (NextMsgStatus.returns toHash lastMsg) now
  simp [nextMsg, nextMsgWait_of_nonneg env passes ht, hresult, hworld]

theorem waitForDrainCompletion_eq_wait (timeoutText : String) {timeoutMs : Int64} {passes : ℕ}
    (henough : Enough pollIntervalMs timeoutMs.toInt passes)
    {env : SlicedEnv ℚ (WaitStatus Unit)} (hquiet : env.Quiet)
    {event : Option (ℚ × WaitStatus Unit)} (h : ReportsEvent env.wait .timeout event) (now : ℚ) :
    waitForDrainCompletion env timeoutText true passes timeoutMs now =
      (some (drainReturns timeoutText (env.wait timeoutMs.toInt now).1),
        (env.wait timeoutMs.toInt now).2) := by
  have hadd := (h.waitsFor WaitStatus.endsBut rfl).additive
  obtain ⟨hresult, hworld⟩ := slicedCall_eq_wait hquiet WaitStatus.endsBut hadd henough
    .error (drainReturns timeoutText) now
  simp [waitForDrainCompletion, drainWait, hresult, hworld]

/-- Every wait keeps the bounds of its timeout, a finite one ends, and the slices cannot be told
    from one wait of the C client with the whole timeout. -/
theorem slices_transparent {μ η : Type} (timeoutMs : Int64) (passes : ℕ) :
    ((∀ {σ : Type} (env : SlicedEnv σ (NextMsgStatus μ)) (s : σ),
        Sliced timeoutMs (timeoutMs < 0) (nextMsgWait env passes timeoutMs s)) ∧
      (0 ≤ timeoutMs → Enough pollIntervalMs timeoutMs.toInt passes →
        (∀ {σ : Type} (env : SlicedEnv σ (NextMsgStatus μ)) (s : σ),
          (nextMsgWait env passes timeoutMs s).outcome ≠ none) ∧
        ∀ (env : SlicedEnv ℚ (NextMsgStatus μ)) (event : Option (ℚ × NextMsgStatus μ))
          (toHash : μ → Except ExceptionInfo η) (now : ℚ) (lastMsg : Option μ), env.Quiet →
          ReportsEvent env.wait .timeout event →
          nextMsg env toHash true passes timeoutMs now lastMsg =
            (some ((env.wait timeoutMs.toInt now).1.returns toHash lastMsg),
              (env.wait timeoutMs.toInt now).2))) ∧
    (0 < timeoutMs →
      (∀ {σ : Type} (env : SlicedEnv σ (WaitStatus Unit)) (s : σ),
        Sliced timeoutMs false (drainWait env passes timeoutMs s)) ∧
      (Enough pollIntervalMs timeoutMs.toInt passes →
        (∀ {σ : Type} (env : SlicedEnv σ (WaitStatus Unit)) (s : σ),
          (drainWait env passes timeoutMs s).outcome ≠ none) ∧
        ∀ (env : SlicedEnv ℚ (WaitStatus Unit)) (event : Option (ℚ × WaitStatus Unit))
          (timeoutText : String) (now : ℚ), env.Quiet → ReportsEvent env.wait .timeout event →
          waitForDrainCompletion env timeoutText true passes timeoutMs now =
            (some (drainReturns timeoutText (env.wait timeoutMs.toInt now).1),
              (env.wait timeoutMs.toInt now).2))) := by
  refine ⟨⟨?_, ?_⟩, ?_⟩
  · intro σ env s
    exact nextMsgWait_sliced env passes timeoutMs s
  · intro ht henough
    constructor
    · intro σ env s
      rw [nextMsgWait_of_nonneg env passes ht]
      exact slicedCall_ends env NextMsgStatus.endsBut henough s
    · intro env event toHash now lastMsg hquiet h
      exact nextMsg_eq_wait toHash ht henough hquiet h now lastMsg
  · intro ht
    refine ⟨fun env s => drainWait_sliced env passes ht s, ?_⟩
    intro henough
    constructor
    · intro σ env s
      exact slicedCall_ends env WaitStatus.endsBut henough s
    · intro env event timeoutText now hquiet h
      exact waitForDrainCompletion_eq_wait timeoutText henough hquiet h now

/-- A message that arrives in the second slice. -/
def arrival : Option (ℚ × NextMsgStatus ℕ) := some (700, .ok 1)

theorem slices_transparent_arrival :
    nextMsg ⟨fun s => (none, s), reportEvent .timeout arrival⟩ (fun m => .ok m) true 3 1200 0 none =
      (some (.ok (some 1), some 1), 700) := by
  have hreports : ReportsEvent (reportEvent .timeout arrival) .timeout arrival :=
    reportEvent_reports (by simp [arrival])
  have htoInt : (1200 : Int64).toInt = 1200 := by decide
  have henough : Enough pollIntervalMs (1200 : Int64).toInt 3 := by
    norm_num [Enough, pollIntervalMs, htoInt, Int.ceil_le]
  rw [((slices_transparent 1200 3).1.2 (by decide) henough).2 _ arrival _ 0 none (fun _ => rfl)
    hreports]
  norm_num [reportEvent, arrival, NextMsgStatus.returns, htoInt, Except.map]

end ModuleNats
