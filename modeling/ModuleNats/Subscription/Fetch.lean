import Mathlib.Data.List.TakeWhile
import Mathlib.Data.Rat.Floor
import Mathlib.Tactic.Linarith
import ModuleNats.Subscription

set_option autoImplicit false

/-! # `QoreNatsSubscription::fetch()`

`fetch()` waits in slices of at most 500 ms, so that a cancelled thread ends soon. A slice that ends
with at least one message ends the call: messages that one `natsSubscription_Fetch()` with the whole
timeout would still have waited for are left out. `fetch_eq_iff` says when the slices cannot be told
from one call.

`natsSubscription_Fetch()` itself belongs to the C client; what its documentation promises over a
schedule of arrivals is `FetchDocumented`. -/

namespace ModuleNats.Fetch

variable {σ μ : Type}

/-! ## The code -/

/-- The answers of `natsSubscription_Fetch()`. -/
inductive FetchAnswer (μ : Type) where
  | ok (msgs : List μ)
  | timeout
  | failed (statusText : String)
deriving DecidableEq, Repr

/-- The messages of an answer. -/
def FetchAnswer.messages : FetchAnswer μ → List μ
  | .ok msgs => msgs
  | .timeout | .failed _ => []

/-- What `fetch()` calls, over the states `σ` of the world around it. -/
structure Env (σ μ : Type) where
  /-- `qore_check_cancel()` -/
  cancelled : σ → Option ExceptionInfo
  /-- `natsSubscription_Fetch()` with a batch size and a timeout -/
  natsFetch : ℕ → ℤ → σ → FetchAnswer μ × σ
  /-- the exception of `nats_msg_to_hash()`, if it raises one -/
  conversion : μ → Option ExceptionInfo

/-- The loop over the messages of a list: the result, and the last message taken from it. -/
def toHashes (conversion : μ → Option ExceptionInfo) (lastMsg : Option μ) :
    List μ → Except ExceptionInfo (List μ) × Option μ
  | [] => (.ok [], lastMsg)
  | m :: rest =>
      match conversion m with
      | some ex => (.error ex, some m)
      | none =>
          let (result, last) := toHashes conversion (some m) rest
          (result.map (m :: ·), last)

/-- The `while` loop: the result, `lastMsg` and the state of the world after it. -/
def fetchLoop (env : Env σ μ) (batch : ℕ) (remainingMs : ℤ) (s : σ) (lastMsg : Option μ) :
    Except ExceptionInfo (List μ) × Option μ × σ :=
  match env.cancelled s with
  | some ex => (.error ex, lastMsg, s)
  | none =>
      match env.natsFetch batch (effectiveTimeout false remainingMs) s with
      | (.ok msgs, s') =>
          let (result, last) := toHashes env.conversion lastMsg msgs
          (result, last, s')
      | (.timeout, s') =>
          if remainingMs - effectiveTimeout false remainingMs ≤ 0 then (.ok [], lastMsg, s')
          else fetchLoop env batch (remainingMs - effectiveTimeout false remainingMs) s' lastMsg
      | (.failed statusText, s') =>
          (.error (natsError "NATS-SUBSCRIBE-ERROR" "failed to fetch messages" statusText),
            lastMsg, s')
termination_by remainingMs.toNat
decreasing_by
  next hleft =>
    have hpos := effectiveTimeout_pos hleft
    omega

/-- `fetch()`; `valid` says whether there is a `natsSubscription`. -/
def fetch (env : Env σ μ) (valid : Bool) (batch : ℕ) (timeoutMs : ℤ) (s : σ) (lastMsg : Option μ) :
    Except ExceptionInfo (List μ) × Option μ × σ :=
  if valid then
    match env.cancelled s with
    | some ex => (.error ex, lastMsg, s)
    | none => fetchLoop env batch timeoutMs s lastMsg
  else (.error ⟨"NATS-SUBSCRIBE-ERROR", "subscription is not valid"⟩, lastMsg, s)

/-- The messages of a list that have all been converted are returned, and the last of them is
    kept. -/
theorem toHashes_ok {conversion : μ → Option ExceptionInfo} {lastMsg : Option μ}
    {msgs hashes : List μ} (h : (toHashes conversion lastMsg msgs).1 = .ok hashes) :
    hashes = msgs ∧ (toHashes conversion lastMsg msgs).2 = msgs.getLast?.or lastMsg := by
  induction msgs generalizing lastMsg hashes with
  | nil => exact ⟨(Except.ok.inj h).symm, rfl⟩
  | cons m rest ih =>
      rw [toHashes] at h ⊢
      cases hm : conversion m with
      | some ex => rw [hm] at h; cases h
      | none =>
          rw [hm] at h
          cases hrest : (toHashes conversion (some m) rest).1 with
          | error ex => simp [hrest, Except.map] at h
          | ok tail =>
              obtain ⟨rfl, hlast⟩ := ih hrest
              simp only [hrest, Except.map, Except.ok.injEq] at h
              refine ⟨h.symm, hlast.trans ?_⟩
              rw [List.getLast?_cons]
              cases tail.getLast? <;> rfl

/-- A call that has not received a list leaves the last message, and returns none. -/
theorem fetchLoop_cases (env : Env σ μ) (batch : ℕ) (remainingMs : ℤ) (s : σ)
    (lastMsg : Option μ) :
    (∀ msgs, (fetchLoop env batch remainingMs s lastMsg).1 = .ok msgs → msgs = []) ∧
        (fetchLoop env batch remainingMs s lastMsg).2.1 = lastMsg ∨
      ∃ msgs, (fetchLoop env batch remainingMs s lastMsg).1 =
          (toHashes env.conversion lastMsg msgs).1 ∧
        (fetchLoop env batch remainingMs s lastMsg).2.1 =
          (toHashes env.conversion lastMsg msgs).2 := by
  fun_induction fetchLoop env batch remainingMs s lastMsg with
  | case1 => exact .inl ⟨nofun, rfl⟩
  | case2 _ _ _ msgs _ _ _ _ hhashes => exact .inr ⟨msgs, by rw [hhashes], by rw [hhashes]⟩
  | case3 => exact .inl ⟨fun msgs h => (Except.ok.inj h).symm, rfl⟩
  | case4 _ _ _ _ _ _ ih => exact ih
  | case5 => exact .inl ⟨nofun, rfl⟩

/-- After a call that returns messages, the last message is the last of them. -/
theorem fetch_lastMsg {env : Env σ μ} {valid : Bool} {batch : ℕ} {timeoutMs : ℤ} {s : σ}
    {lastMsg : Option μ} {msgs : List μ} (hne : msgs ≠ [])
    (h : (fetch env valid batch timeoutMs s lastMsg).1 = .ok msgs) :
    (fetch env valid batch timeoutMs s lastMsg).2.1 = msgs.getLast? := by
  unfold fetch at h ⊢
  cases valid with
  | false => cases h
  | true =>
      cases hcancel : env.cancelled s with
      | some ex => simp [hcancel] at h
      | none =>
          simp only [if_true, hcancel] at h ⊢
          rcases fetchLoop_cases env batch timeoutMs s lastMsg with
            ⟨hempty, -⟩ | ⟨list, hresult, hlast⟩
          · exact absurd (hempty msgs h) hne
          · obtain ⟨rfl, hkept⟩ := toHashes_ok (hresult.symm.trans h)
            rw [hlast, hkept, List.getLast?_eq_some_getLast hne]
            rfl

/-! ## Arrivals -/

/-- When messages arrive, in milliseconds since the call. -/
structure Schedule (μ : Type) where
  arrivals : List (ℚ × μ)
  sorted : arrivals.Pairwise fun a b => a.1 ≤ b.1

namespace Schedule

/-- What has arrived at the time `t`. -/
def arrivedBy (w : Schedule μ) (t : ℚ) : List (ℚ × μ) := w.arrivals.filter fun a => a.1 ≤ t

/-- The first messages that arrive within the timeout, as many as the batch holds. -/
def fetched (w : Schedule μ) (batch : ℕ) (timeoutMs : ℤ) : List μ :=
  ((w.arrivedBy timeoutMs).take batch).map Prod.snd

end Schedule

/-- The C client in the middle of a call. -/
structure Waiting (μ : Type) where
  now : ℚ
  schedule : Schedule μ

/-- What has arrived when a wait of `ms` from now is over. -/
def Waiting.arrivedAfter (s : Waiting μ) (ms : ℤ) : List (ℚ × μ) :=
  s.schedule.arrivedBy (s.now + ms)

/-- What `natsSubscription_Fetch()` promises. -/
structure FetchDocumented (natsFetch : ℕ → ℤ → Waiting μ → FetchAnswer μ × Waiting μ) : Prop where
  /-- it returns when the batch is full -/
  full : ∀ batch ms s, 1 ≤ batch → batch ≤ (s.arrivedAfter ms).length →
    (natsFetch batch ms s).1 = .ok (((s.arrivedAfter ms).take batch).map Prod.snd)
  /-- at its timeout it returns what it has, if that is at least one message -/
  ended : ∀ batch ms s, (s.arrivedAfter ms).length < batch → s.arrivedAfter ms ≠ [] →
    (natsFetch batch ms s).1 = .ok ((s.arrivedAfter ms).map Prod.snd)
  /-- without a message it reports the timeout -/
  timedOut : ∀ batch ms s, 1 ≤ batch → s.arrivedAfter ms = [] →
    natsFetch batch ms s = (.timeout, { s with now := s.now + ms })

/-! ## What has arrived -/

namespace Schedule

variable {w : Schedule μ}

theorem mem_arrivedBy {t : ℚ} {a : ℚ × μ} : a ∈ w.arrivedBy t ↔ a ∈ w.arrivals ∧ a.1 ≤ t := by
  simp [arrivedBy]

theorem sorted_arrivedBy (w : Schedule μ) (t : ℚ) :
    (w.arrivedBy t).Pairwise fun a b => a.1 ≤ b.1 := w.sorted.filter _

/-- What has arrived earlier stands first. -/
theorem arrivedBy_eq_takeWhile {e t : ℚ} (h : e ≤ t) :
    w.arrivedBy e = (w.arrivedBy t).takeWhile fun a => a.1 ≤ e := by
  have hfilter : w.arrivedBy e = (w.arrivedBy t).filter fun a => a.1 ≤ e := by
    rw [arrivedBy, arrivedBy, List.filter_filter]
    refine List.filter_congr fun a _ => ?_
    simpa using fun he : a.1 ≤ e => he.trans h
  rw [hfilter]
  generalize hl : w.arrivedBy t = l
  have hsorted : l.Pairwise fun a b => a.1 ≤ b.1 := hl ▸ w.sorted_arrivedBy t
  clear hl hfilter
  induction l with
  | nil => rfl
  | cons a l ih =>
      obtain ⟨ha, hl⟩ := List.pairwise_cons.1 hsorted
      by_cases hae : a.1 ≤ e
      · simp [hae, ih hl]
      · have hnone : l.filter (fun b => decide (b.1 ≤ e)) = [] := by
          simpa [List.filter_eq_nil_iff] using fun c m hb => lt_of_lt_of_le (not_le.1 hae) (ha _ hb)
        simp [hae, hnone]

/-- The first messages by the time `e` are the first ones by the later time `t` if and only if
    they all have arrived at `e`. -/
theorem take_arrivedBy_eq_iff {e t : ℚ} (h : e ≤ t) (batch : ℕ) :
    ((w.arrivedBy e).take batch).map Prod.snd = ((w.arrivedBy t).take batch).map Prod.snd ↔
      ∀ a ∈ (w.arrivedBy t).take batch, a.1 ≤ e := by
  rw [arrivedBy_eq_takeWhile h, List.take_takeWhile]
  constructor
  · intro heq
    have hlength := congrArg List.length heq
    rw [List.length_map, List.length_map] at hlength
    have hall := (List.takeWhile_prefix _).eq_of_length hlength
    simpa using List.takeWhile_eq_self_iff.1 hall
  · intro hall
    rw [List.takeWhile_eq_self_iff.2 (by simpa using hall)]

end Schedule

/-! ## The slices -/

/-- The end of the slice in which a message arrives at the time `a`. -/
def sliceEnd (timeoutMs : ℤ) (a : ℚ) : ℚ := min timeoutMs (500 * max 1 ⌈a / 500⌉ : ℤ)

/-- The end of the slice that ends the call: the one in which the first message arrives. -/
def lastSliceEnd (w : Schedule μ) (timeoutMs : ℤ) : ℚ :=
  match w.arrivedBy timeoutMs with
  | first :: _ => sliceEnd timeoutMs first.1
  | [] => timeoutMs

/-- All messages that are waited for arrive in one slice. -/
def InOneSlice (w : Schedule μ) (batch : ℕ) (timeoutMs : ℤ) : Prop :=
  ∀ a ∈ (w.arrivedBy timeoutMs).take batch, a.1 ≤ lastSliceEnd w timeoutMs

theorem effectiveTimeout_eq_min (remainingMs : ℤ) :
    effectiveTimeout false remainingMs = min 500 remainingMs := by
  simp only [effectiveTimeout, pollIntervalMs, Bool.false_eq_true, if_false]
  omega

/-- The slice number `k` ends 500 ms after its start, or with the call. -/
theorem add_effectiveTimeout (timeoutMs : ℤ) (k : ℕ) :
    500 * (k : ℚ) + (effectiveTimeout false (timeoutMs - 500 * k) : ℤ) =
      min (timeoutMs : ℚ) (500 * (k : ℚ) + 500) := by
  rw [effectiveTimeout_eq_min]
  push_cast
  rcases le_total (500 : ℚ) (timeoutMs - 500 * k) with hlong | hshort
  · rw [min_eq_left hlong, min_eq_right (by linarith)]
  · rw [min_eq_right hshort, min_eq_left (by linarith)]
    ring

/-- A slice that is not the last one is a whole one. -/
theorem effectiveTimeout_of_more {remainingMs : ℤ}
    (h : ¬ remainingMs - effectiveTimeout false remainingMs ≤ 0) :
    effectiveTimeout false remainingMs = 500 := by
  rw [effectiveTimeout_eq_min] at h ⊢
  omega

theorem lastSliceEnd_le (w : Schedule μ) (timeoutMs : ℤ) :
    lastSliceEnd w timeoutMs ≤ timeoutMs := by
  unfold lastSliceEnd
  split
  · exact min_le_left _ _
  · exact le_rfl

/-- The slice number `k` is the one in which a message arrives that has not arrived before it. -/
theorem sliceEnd_eq {timeoutMs : ℤ} {a : ℚ} {k : ℕ} (hbefore : k = 0 ∨ 500 * (k : ℚ) < a)
    (ha : a ≤ 500 * (k : ℚ) + 500) :
    sliceEnd timeoutMs a = min (timeoutMs : ℚ) (500 * (k : ℚ) + 500) := by
  have hceil : max 1 ⌈a / 500⌉ = (k : ℤ) + 1 := by
    have hle : ⌈a / 500⌉ ≤ (k : ℤ) + 1 := by
      rw [Int.ceil_le]
      push_cast
      linarith
    rcases hbefore with rfl | hlt
    · omega
    · have hgt : (k : ℤ) < ⌈a / 500⌉ := by
        rw [Int.lt_ceil]
        push_cast
        linarith
      omega
  rw [sliceEnd, hceil]
  push_cast
  ring_nf

/-- A slice that gets a message gets the first messages, and no others. -/
theorem natsFetch_eq {natsFetch : ℕ → ℤ → Waiting μ → FetchAnswer μ × Waiting μ}
    (h : FetchDocumented natsFetch) {batch : ℕ} (hbatch : 1 ≤ batch) {ms : ℤ} {s : Waiting μ}
    (hsome : s.arrivedAfter ms ≠ []) :
    (natsFetch batch ms s).1 = .ok (((s.arrivedAfter ms).take batch).map Prod.snd) := by
  rcases Nat.lt_or_ge (s.arrivedAfter ms).length batch with hlt | hge
  · rw [h.ended batch ms s hlt hsome, List.take_of_length_le hlt.le]
  · exact h.full batch ms s hbatch hge

theorem toHashes_eq (lastMsg : Option μ) (msgs : List μ) :
    (toHashes (fun _ => none) lastMsg msgs).1 = .ok msgs := by
  induction msgs generalizing lastMsg with
  | nil => rfl
  | cons m msgs ih => simp [toHashes, ih, Except.map]

/-- The call ends with the slice in which the first message arrives. -/
theorem lastSliceEnd_eq {w : Schedule μ} {timeoutMs : ℤ} {k : ℕ}
    (hbefore : k = 0 ∨ ∀ a ∈ w.arrivals, 500 * (k : ℚ) < a.1)
    (hsome : w.arrivedBy (min (timeoutMs : ℚ) (500 * (k : ℚ) + 500)) ≠ []) :
    lastSliceEnd w timeoutMs = min (timeoutMs : ℚ) (500 * (k : ℚ) + 500) := by
  have hcut := Schedule.arrivedBy_eq_takeWhile (w := w)
    (min_le_left (timeoutMs : ℚ) (500 * (k : ℚ) + 500))
  cases hall : w.arrivedBy timeoutMs with
  | nil => simp [hcut, hall] at hsome
  | cons first rest =>
      have hmem : first ∈ w.arrivals :=
        (Schedule.mem_arrivedBy.1 (hall ▸ List.mem_cons_self)).1
      have hfirst : first.1 ≤ min (timeoutMs : ℚ) (500 * (k : ℚ) + 500) := by
        by_contra hlate
        rw [hcut, hall, List.takeWhile_cons_of_neg (by simpa using hlate)] at hsome
        exact hsome rfl
      rw [lastSliceEnd, hall]
      exact sliceEnd_eq (hbefore.imp id fun h => h first hmem) (hfirst.trans (min_le_right _ _))

section Loop

variable {natsFetch : ℕ → ℤ → Waiting μ → FetchAnswer μ × Waiting μ}

/-- The world of a call that is not cancelled, over messages that can be converted. -/
def quietEnv (natsFetch : ℕ → ℤ → Waiting μ → FetchAnswer μ × Waiting μ) : Env (Waiting μ) μ :=
  ⟨fun _ => none, natsFetch, fun _ => none⟩

theorem fetchLoop_timeout {batch : ℕ} {remainingMs : ℤ} {s s' : Waiting μ} {lastMsg : Option μ}
    (h : natsFetch batch (effectiveTimeout false remainingMs) s = (.timeout, s')) :
    fetchLoop (quietEnv natsFetch) batch remainingMs s lastMsg =
      if remainingMs - effectiveTimeout false remainingMs ≤ 0 then (.ok [], lastMsg, s')
      else fetchLoop (quietEnv natsFetch) batch
        (remainingMs - effectiveTimeout false remainingMs) s' lastMsg := by
  rw [fetchLoop]
  simp [quietEnv, h]

theorem fetchLoop_ok {batch : ℕ} {remainingMs : ℤ} {s : Waiting μ} {msgs : List μ}
    (h : (natsFetch batch (effectiveTimeout false remainingMs) s).1 = .ok msgs)
    (lastMsg : Option μ) :
    (fetchLoop (quietEnv natsFetch) batch remainingMs s lastMsg).1 = .ok msgs := by
  rw [fetchLoop]
  rcases hfetch : natsFetch batch (effectiveTimeout false remainingMs) s with ⟨answer, s'⟩
  obtain rfl : answer = .ok msgs := by rw [hfetch] at h; exact h
  simp [quietEnv, hfetch, toHashes_eq]

/-- From the slice number `k` on, if nothing has arrived before: the call returns what has arrived
    at the end of the slice of the first message. -/
theorem fetchLoop_eq (h : FetchDocumented natsFetch) {batch : ℕ} (hbatch : 1 ≤ batch)
    {timeoutMs : ℤ} {w : Schedule μ} {k : ℕ} (hleft : 500 * (k : ℤ) < timeoutMs)
    (hbefore : k = 0 ∨ ∀ a ∈ w.arrivals, 500 * (k : ℚ) < a.1) (lastMsg : Option μ) :
    (fetchLoop (quietEnv natsFetch) batch (timeoutMs - 500 * k) ⟨500 * k, w⟩ lastMsg).1 =
      .ok (((w.arrivedBy (lastSliceEnd w timeoutMs)).take batch).map Prod.snd) := by
  induction hn : (timeoutMs - 500 * k).toNat using Nat.strong_induction_on generalizing k with
  | _ n ih =>
  have hend := add_effectiveTimeout timeoutMs k
  have harrived : Waiting.arrivedAfter ⟨500 * k, w⟩ (effectiveTimeout false (timeoutMs - 500 * k)) =
      w.arrivedBy (min (timeoutMs : ℚ) (500 * (k : ℚ) + 500)) := by
    rw [Waiting.arrivedAfter, hend]
  by_cases hsome : w.arrivedBy (min (timeoutMs : ℚ) (500 * (k : ℚ) + 500)) = []
  · have hfetch := h.timedOut batch _ ⟨500 * k, w⟩ hbatch (harrived.trans hsome)
    rw [fetchLoop_timeout hfetch]
    split
    · next hover =>
        -- the last slice
        have htimeout : min (timeoutMs : ℚ) (500 * (k : ℚ) + 500) = timeoutMs := by
          refine min_eq_left ?_
          have hle : timeoutMs ≤ 500 * (k : ℤ) + 500 := by
            rw [effectiveTimeout_eq_min] at hover
            omega
          exact_mod_cast hle
        rw [htimeout] at hsome
        rw [lastSliceEnd, hsome]
        simp [hsome]
    · next hmore =>
        have hslice := effectiveTimeout_of_more hmore
        have hwhole : timeoutMs - 500 * (k : ℤ) - effectiveTimeout false (timeoutMs - 500 * k) =
            timeoutMs - 500 * ((k + 1 : ℕ) : ℤ) := by
          rw [hslice]
          push_cast
          ring
        have hnow : (500 * (k : ℚ)) + (effectiveTimeout false (timeoutMs - 500 * k) : ℤ) =
            500 * ((k + 1 : ℕ) : ℚ) := by
          rw [hslice]
          push_cast
          ring
        rw [hwhole, hnow]
        refine ih _ ?_ ?_ (Or.inr fun a ha => ?_) rfl
        · omega
        · push_cast
          omega
        · -- nothing has arrived in this slice
          by_contra hearly
          refine List.eq_nil_iff_forall_not_mem.1 hsome a (Schedule.mem_arrivedBy.2 ⟨ha, ?_⟩)
          rw [← hend, hnow]
          exact not_lt.1 hearly
  · rw [lastSliceEnd_eq hbefore hsome]
    refine fetchLoop_ok ?_ lastMsg
    rw [natsFetch_eq h hbatch (harrived ▸ hsome), harrived]

/-- A call that is not cancelled returns what has arrived at the end of the slice of the first
    message. -/
theorem fetch_eq (h : FetchDocumented natsFetch) {batch : ℕ} (hbatch : 1 ≤ batch) {timeoutMs : ℤ}
    (htimeout : 0 < timeoutMs) (w : Schedule μ) (lastMsg : Option μ) :
    (fetch (quietEnv natsFetch) true batch timeoutMs ⟨0, w⟩ lastMsg).1 =
      .ok (((w.arrivedBy (lastSliceEnd w timeoutMs)).take batch).map Prod.snd) := by
  have hloop := fetchLoop_eq h hbatch (k := 0) (w := w) (by simpa using htimeout) (Or.inl rfl)
    lastMsg
  simpa [fetch, quietEnv] using hloop

/-- One call with the whole timeout. -/
theorem natsFetch_messages (h : FetchDocumented natsFetch) {batch : ℕ} (hbatch : 1 ≤ batch)
    (timeoutMs : ℤ) (w : Schedule μ) :
    (natsFetch batch timeoutMs ⟨0, w⟩).1.messages = w.fetched batch timeoutMs := by
  have harrived : Waiting.arrivedAfter ⟨0, w⟩ timeoutMs = w.arrivedBy timeoutMs := by
    rw [Waiting.arrivedAfter, zero_add]
  by_cases hsome : w.arrivedBy timeoutMs = []
  · rw [h.timedOut batch timeoutMs ⟨0, w⟩ hbatch (harrived.trans hsome), Schedule.fetched, hsome]
    simp [FetchAnswer.messages]
  · rw [natsFetch_eq h hbatch (harrived ▸ hsome), harrived]
    rfl

/-- The slices cannot be told from one call with the whole timeout if and only if all messages that
    are waited for arrive in the slice of the first one. -/
theorem fetch_eq_iff (h : FetchDocumented natsFetch) {batch : ℕ} (hbatch : 1 ≤ batch)
    {timeoutMs : ℤ} (htimeout : 0 < timeoutMs) (w : Schedule μ) (lastMsg : Option μ) :
    (natsFetch batch timeoutMs ⟨0, w⟩).1.messages = w.fetched batch timeoutMs ∧
    ((fetch (quietEnv natsFetch) true batch timeoutMs ⟨0, w⟩ lastMsg).1 =
      .ok (w.fetched batch timeoutMs) ↔ InOneSlice w batch timeoutMs) := by
  refine ⟨natsFetch_messages h hbatch timeoutMs w, ?_⟩
  rw [fetch_eq h hbatch htimeout, Except.ok.injEq, Schedule.fetched,
    Schedule.take_arrivedBy_eq_iff (lastSliceEnd_le w timeoutMs)]
  rfl

end Loop

/-! ## A client -/

/-- A C client that behaves as documented. -/
def client (batch : ℕ) (ms : ℤ) (s : Waiting μ) : FetchAnswer μ × Waiting μ :=
  let arrived := s.arrivedAfter ms
  let returns := if batch ≤ arrived.length then ((arrived.take batch).map Prod.fst).foldl max s.now
    else s.now + ms
  if arrived.isEmpty then (.timeout, { s with now := s.now + ms })
  else (.ok ((arrived.take batch).map Prod.snd),
    ⟨returns, s.schedule.arrivals.drop (min batch arrived.length), s.schedule.sorted.drop⟩)

theorem client_documented : FetchDocumented (client (μ := μ)) where
  full batch ms s hbatch hle := by
    have hsome : (s.arrivedAfter ms).isEmpty = false := by
      cases hnil : s.arrivedAfter ms with
      | nil => rw [hnil] at hle; simp at hle; omega
      | cons => rfl
    simp [client, hsome]
  ended batch ms s hlt hsome := by
    simp [client, hsome, List.take_of_length_le hlt.le]
  timedOut batch ms s _ hnone := by simp [client, hnone]

/-- Two messages that arrive in the first slice. -/
def together : Schedule ℕ := ⟨[(100, 1), (200, 2)], by norm_num⟩

theorem fetch_eq_iff_together :
    (fetch (quietEnv client) true 2 5000 ⟨0, together⟩ none).1 = .ok (together.fetched 2 5000) := by
  refine (fetch_eq_iff client_documented (by decide) (by decide) together none).2.2 ?_
  norm_num [InOneSlice, lastSliceEnd, sliceEnd, Schedule.arrivedBy, together]

/-- A message that arrives in the first slice, and one in the second. -/
def apart : Schedule ℕ := ⟨[(100, 1), (700, 2)], by norm_num⟩

/-- The call ends after the first slice, long before its timeout, with one message of two. -/
theorem fetch_leaves_out_later_messages :
    ¬ ∀ (natsFetch : ℕ → ℤ → Waiting ℕ → FetchAnswer ℕ × Waiting ℕ) (batch : ℕ) (timeoutMs : ℤ)
      (w : Schedule ℕ) (lastMsg : Option ℕ), FetchDocumented natsFetch → 1 ≤ batch →
      0 < timeoutMs →
      (fetch (quietEnv natsFetch) true batch timeoutMs ⟨0, w⟩ lastMsg).1 =
        .ok (w.fetched batch timeoutMs) := by
  intro hall
  have h := hall client 10 5000 apart none client_documented (by decide) (by decide)
  rw [fetch_eq client_documented (by decide) (by decide)] at h
  norm_num [lastSliceEnd, sliceEnd, Schedule.fetched, Schedule.arrivedBy, apart] at h

end ModuleNats.Fetch
