import ModuleNats.DateTime
import ModuleNats.JetStream.Values
import ModuleNats.NatsHelper

set_option autoImplicit false

/-! # Pausing a consumer

`pauseConsumer()` hands its date to the C client in nanoseconds, and makes a date of the nanoseconds
of the response. Nothing checks that the date has a number of nanoseconds in 64 bits, and a number
that is not positive is not read back (`pause_round_trip_iff`). -/

namespace ModuleNats.JetStream

/-! ## The code -/

structure JsConsumerPauseResponse where
  paused : Bool
  /-- nanoseconds since the epoch -/
  pauseUntil : Int64
  /-- nanoseconds -/
  pauseRemaining : Int64
deriving DecidableEq

structure NatsJSConsumerPauseResponse where
  paused : Bool
  pauseUntil : Option DateTimeNode
  pauseRemainingMs : Option Int64
deriving DecidableEq

/-- What a call meets. -/
structure PauseEnv where
  /-- the context has a `jsCtx` -/
  valid : Bool
  cancelled : Option ExceptionInfo
  /-- `js_PauseConsumer()`: the response, or the text of the status and the JetStream error code -/
  jsPauseConsumer : CString → CString → UInt64 → Except (String × ℕ) JsConsumerPauseResponse
  /-- the exception of `new QoreHashNode()`, if it raises one -/
  newHash : Option ExceptionInfo

/-- The hash that is made of a response. -/
def pauseResponseToHash (cpr : JsConsumerPauseResponse) : NatsJSConsumerPauseResponse where
  paused := cpr.paused
  pauseUntil :=
    if h : 0 < cpr.pauseUntil.toInt then some (DateTimeNode.ofNs cpr.pauseUntil h) else none
  pauseRemainingMs :=
    if 0 < cpr.pauseRemaining.toInt then some (nsToMs cpr.pauseRemaining) else none

/-- `QoreNatsJetStream::pauseConsumer()` -/
def pauseConsumerNs (env : PauseEnv) (stream consumer : CString) (pauseUntilEpochNs : Int64) :
    Except ExceptionInfo NatsJSConsumerPauseResponse :=
  if !env.valid then .error ⟨"NATS-JETSTREAM-ERROR", "JetStream context is not valid"⟩
  else match env.cancelled with
    | some ex => .error ex
    | none =>
        match env.jsPauseConsumer stream consumer pauseUntilEpochNs.toUInt64 with
        | .error (statusText, jerr) => .error (natsJsError "NATS-JETSTREAM-ERROR"
            ("failed to pause consumer '" ++ consumer.text ++ "' on stream '" ++ stream.text ++ "'")
            statusText jerr)
        | .ok cpr =>
            match env.newHash with
            | some ex => .error ex
            | none => .ok (pauseResponseToHash cpr)

/-- `JetStreamContext::pauseConsumer()` -/
def pauseConsumer (env : PauseEnv) (stream consumer : String) (pauseUntil : DateTimeNode) :
    Except ExceptionInfo NatsJSConsumerPauseResponse :=
  pauseConsumerNs env (CString.add stream) (CString.add consumer) pauseUntil.toNs

/-! ## The round trip -/

/-- The response has the time that the consumer was to be paused until. -/
def PauseEnv.Echoes (env : PauseEnv) : Prop :=
  ∀ stream consumer ns cpr, env.jsPauseConsumer stream consumer ns = .ok cpr →
    cpr.pauseUntil = ns.toInt64

/-- Over every C client that echoes the time, a call with the date gives it back or raises an
    exception. -/
def PauseRoundTrips (d : DateTimeNode) : Prop :=
  ∀ env : PauseEnv, env.Echoes → ∀ stream consumer,
    (∃ ex, pauseConsumer env stream consumer d = .error ex) ∨
      ∃ response, pauseConsumer env stream consumer d = .ok response ∧
        response.pauseUntil = some d

/-- A call that returns has read the response of the C client to the nanoseconds of the date. -/
theorem exists_response {env : PauseEnv} {stream consumer : String} {d : DateTimeNode}
    {response : NatsJSConsumerPauseResponse}
    (h : pauseConsumer env stream consumer d = .ok response) :
    ∃ cpr, env.jsPauseConsumer (CString.add stream) (CString.add consumer) d.toNs.toUInt64 =
      .ok cpr ∧ response = pauseResponseToHash cpr := by
  unfold pauseConsumer pauseConsumerNs at h
  split at h
  · cases h
  · split at h
    · cases h
    · split at h
      · cases h
      · next cpr hcpr =>
          split at h
          · cases h
          · cases h
            exact ⟨cpr, hcpr, rfl⟩

/-- The date of a response is the one that its nanoseconds stand for. -/
theorem pauseUntil_eq_some_iff {cpr : JsConsumerPauseResponse} {d : DateTimeNode}
    (h : cpr.pauseUntil = d.toNs) :
    (pauseResponseToHash cpr).pauseUntil = some d ↔ d.Representable := by
  rw [← DateTimeNode.ofNs_toNs_iff]
  simp only [pauseResponseToHash, h]
  split
  · next hpos => simp [hpos]
  · next hneg => simp [hneg]

/-- A C client that pauses every consumer, for as long as it is asked to. -/
def echo : PauseEnv where
  valid := true
  cancelled := none
  jsPauseConsumer _ _ ns := .ok ⟨true, ns.toInt64, 0⟩
  newHash := none

theorem echo_echoes : echo.Echoes := by
  intro stream consumer ns cpr h
  cases h
  rfl

/-- A date comes back, or an exception is raised, if and only if the date is after the epoch and its
    nanoseconds fit in `int64`. -/
theorem pause_round_trip_iff (d : DateTimeNode) : PauseRoundTrips d ↔ d.Representable := by
  constructor
  · intro h
    rcases h echo echo_echoes "stream" "consumer" with ⟨ex, hraised⟩ | ⟨response, hok, hdate⟩
    · cases hraised
    · cases hok
      exact (pauseUntil_eq_some_iff (Int64.toInt64_toUInt64 _)).1 hdate
  · intro hd env hechoes stream consumer
    cases hcall : pauseConsumer env stream consumer d with
    | error ex => exact .inl ⟨ex, rfl⟩
    | ok response =>
        obtain ⟨cpr, hcpr, rfl⟩ := exists_response hcall
        have hecho : cpr.pauseUntil = d.toNs :=
          (hechoes _ _ _ _ hcpr).trans (Int64.toInt64_toUInt64 _)
        exact .inr ⟨_, rfl, (pauseUntil_eq_some_iff hecho).2 hd⟩

/-- The 18 446 744 075th second after the epoch, in the year 2554. -/
def farFuture : DateTimeNode := ⟨18446744075, 0, by decide⟩

example : (pauseResponseToHash ⟨true, farFuture.toNs, 0⟩).pauseUntil =
    some ⟨1, 290448, by decide⟩ := by decide

/-- It comes back as a date in 1970: the number of its nanoseconds has wrapped. -/
theorem far_future_wraps : ¬ ∀ d, PauseRoundTrips d := by
  intro hclaim
  rcases hclaim farFuture echo echo_echoes "stream" "consumer" with
    ⟨ex, hraised⟩ | ⟨response, hok, hdate⟩
  · cases hraised
  · cases hok
    have hsame := (pauseUntil_eq_some_iff (Int64.toInt64_toUInt64 _)).1 hdate
    exact absurd hsame (by decide)

end ModuleNats.JetStream
