import ModuleNats.ChannelSubscription.Ending
import ModuleNats.EventProvider.Silence

set_option autoImplicit false

/-! # The JetStream push provider acknowledges nothing

`js_SubscribeSync()` without options makes a consumer with explicit acknowledgement: the server
sends a message again whenever its ack wait passes and it has not been acknowledged. The provider
over such a consumer raises an event for every message that arrives, and none of its layers calls
`ack()`. So every event is raised again and again, unless the stream is empty
(`acknowledged_iff_empty`).

The system here is the provider together with the stream and its consumer. -/

namespace ModuleNats.JetStreamPush

open EventProvider (Provider ObserverRequest natsJSSubscribe Silent silent_init silent_step
  csub_step)

variable {δ : Type}

/-! ## The data -/

/-- A message of the stream: its position there and what it contains. -/
structure StreamMsg (δ : Type) where
  sequence : ℕ
  content : δ
deriving DecidableEq, Repr

structure State (δ : Type) where
  provider : EventProvider.State (StreamMsg δ) := {}
  /-- how many messages of the stream the consumer has delivered -/
  delivered : ℕ := 0

inductive Action (δ : Type) where
  /-- the server delivers the next message of the stream -/
  | deliver
  /-- the ack wait of a message passes, and the server delivers it again -/
  | redeliver (sequence : ℕ)
  /-- an observer calls `ack()`, with the error of the C client, if any -/
  | ack (failure : Option String)
  /-- a step of the provider or of what surrounds it -/
  | provider (a : EventProvider.Action (StreamMsg δ))
deriving DecidableEq, Repr

/-! ## The steps -/

/-- The messages that the server has seen acknowledged. -/
def State.acked (s : State δ) : List (StreamMsg δ) :=
  match s.provider.csub with
  | some csub => csub.nsub.acked
  | none => []

/-- Messages arrive from the stream only. -/
def fromServer : EventProvider.Action (StreamMsg δ) → Bool
  | .csub (.arrive _) | .csub (.offer _) => true
  | _ => false

def State.stepProvider (p : Provider) (s : State δ) (a : EventProvider.Action (StreamMsg δ)) :
    Option (State δ) :=
  (EventProvider.step p s.provider a).map fun provider => { s with provider := provider }

/-- `QoreNatsSubscription::ack()`; its exception goes to the caller. -/
def State.ack (s : State δ) (failure : Option String) : State δ :=
  match s.provider.csub with
  | none => s
  | some csub =>
      match csub.nsub.ack failure with
      | .error _ => s
      | .ok nsub =>
          { s with provider := { s.provider with csub := some { csub with nsub := nsub } } }

def step (p : Provider) (stream : List δ) (s : State δ) : Action δ → Option (State δ)
  | .deliver =>
      stream[s.delivered]?.bind fun content =>
        (s.stepProvider p (.csub (.arrive ⟨s.delivered, content⟩))).map fun s' =>
          { s' with delivered := s.delivered + 1 }
  | .redeliver sequence =>
      if sequence < s.delivered ∧ ∀ m ∈ s.acked, m.sequence ≠ sequence then
        stream[sequence]?.bind fun content =>
          s.stepProvider p (.csub (.arrive ⟨sequence, content⟩))
      else none
  | .ack failure => some (s.ack failure)
  | .provider a => if fromServer a then none else s.stepProvider p a

/-- The push provider of an observer request, over a stream. -/
def system (req : ObserverRequest) (stream : List δ) : TransitionSystem (State δ) (Action δ) :=
  ⟨{}, step (natsJSSubscribe req) stream⟩

/-! ## Fair behaviors -/

/-- Observers that do nothing but look: no exception, no acknowledgement. -/
def Observes : Action δ → Prop
  | .ack _ | .provider (.observed (some _)) => False
  | _ => True

/-- The steps of the background thread. -/
def ByBackground : Action δ → Prop
  | .provider (.csub a) => ChannelSubscription.ByLoop a
  | _ => False

/-- The steps of the listening loop. -/
def ByListener : Action δ → Prop
  | .provider .next | .provider (.iteratorFails _) | .provider .check | .provider .notify
  | .provider (.observed _) => True
  | _ => False

/-- There is no background thread, or it has exited. -/
def BackgroundOver (s : State δ) : Prop := ∀ c, s.provider.csub = some c → c.bg = .exited

/-- The listening loop has nothing to do: it has not been started, it is over, or it waits for the
    next message. -/
def ListenerWaits (s : State δ) : Prop :=
  match s.provider.loop with
  | .notStarted | .ended | .died _ => True
  | .next => ∀ c, s.provider.csub = some c → c.chan.buffer = [] ∧ c.chan.closed = false
  | .check _ | .raising _ | .observing _ => False

/-- Both threads are scheduled, and no blocked send lasts for ever. -/
structure Fair {req : ObserverRequest} {stream : List δ} (b : (system req stream).Behavior) :
    Prop where
  background : b.Progresses ByBackground BackgroundOver
  listener : b.Progresses ByListener ListenerWaits

/-- The observers only observe. -/
def OnlyObserved {req : ObserverRequest} {stream : List δ} (b : (system req stream).Behavior) :
    Prop :=
  ∀ n a, b.act n = some a → Observes a

/-- Every message with a MESSAGE event is acknowledged. -/
def Acknowledges {req : ObserverRequest} {stream : List δ} (b : (system req stream).Behavior) :
    Prop :=
  ∀ n, ∀ m ∈ (b.state n).provider.messages, ∃ k, m ∈ (b.state k).acked

/-- No message has two MESSAGE events. -/
def RaisesOnce {req : ObserverRequest} {stream : List δ} (b : (system req stream).Behavior) :
    Prop :=
  ∀ n, (b.state n).provider.messages.Nodup

/-! ## What the steps keep -/

theorem stepProvider_cases {p : Provider} {s s' : State δ}
    {a : EventProvider.Action (StreamMsg δ)} (h : s.stepProvider p a = some s') :
    EventProvider.Step p s.provider a s'.provider ∧ s'.delivered = s.delivered := by
  obtain ⟨provider, hstep, rfl⟩ := Option.map_eq_some_iff.1 h
  exact ⟨EventProvider.step_cases hstep, rfl⟩

/-- A step of the whole system: an acknowledgement of an observer, a message of the stream that
    arrives, or another step of the provider. -/
theorem step_cases {p : Provider} {stream : List δ} {s s' : State δ} {a : Action δ}
    (h : step p stream s a = some s') :
    (∃ failure, a = .ack failure ∧ s' = s.ack failure) ∨
    (∃ i content, stream[i]? = some content ∧
      EventProvider.Step p s.provider (.csub (.arrive ⟨i, content⟩)) s'.provider) ∨
    (∃ b, a = .provider b ∧ fromServer b = false ∧
      EventProvider.Step p s.provider b s'.provider) := by
  cases a with
  | deliver =>
      obtain ⟨content, hcontent, h⟩ := Option.bind_eq_some_iff.1 h
      obtain ⟨t, ht, rfl⟩ := Option.map_eq_some_iff.1 h
      exact Or.inr (Or.inl ⟨_, content, hcontent, (stepProvider_cases ht).1⟩)
  | redeliver i =>
      simp only [step] at h
      split at h
      · obtain ⟨content, hcontent, h⟩ := Option.bind_eq_some_iff.1 h
        exact Or.inr (Or.inl ⟨i, content, hcontent, (stepProvider_cases h).1⟩)
      · cases h
  | ack failure => cases h; exact Or.inl ⟨failure, rfl, rfl⟩
  | provider b =>
      simp only [step] at h
      split at h
      · cases h
      · next hb =>
          exact Or.inr (Or.inr ⟨b, rfl, Bool.not_eq_true _ ▸ hb, (stepProvider_cases h).1⟩)

/-- No message of the subscription has been acknowledged. -/
def Unacknowledged (s : State δ) : Prop := ∀ c, s.provider.csub = some c → c.nsub.acked = []

theorem unacknowledged_init : Unacknowledged ({} : State δ) := EventProvider.csub_init

theorem acked_eq_nil {s : State δ} (h : Unacknowledged s) : s.acked = [] := by
  rw [State.acked]
  split
  · next c hc => exact h c hc
  · rfl

/-- The steps of the channel subscription acknowledge nothing. -/
theorem acked_csub {c c' : ChannelSubscription.State (StreamMsg δ)}
    {a : ChannelSubscription.Action (StreamMsg δ)} (hs : ChannelSubscription.Step c a c') :
    c'.nsub.acked = c.nsub.acked := by
  cases hs <;> rfl

theorem unacknowledged_step {p : Provider} {stream : List δ} {s s' : State δ} {a : Action δ}
    (h : Unacknowledged s) (ha : Observes a) (hs : step p stream s a = some s') :
    Unacknowledged s' := by
  have hprovider : ∀ b, EventProvider.Step p s.provider b s'.provider → Unacknowledged s' :=
    fun b hb => csub_step (I := fun c => c.nsub.acked = []) rfl
      (fun c _ c' _ _ hc hstep => (acked_csub hstep).trans hc) h hb
  rcases step_cases hs with ⟨failure, rfl, -⟩ | ⟨i, content, -, hb⟩ | ⟨b, -, -, hb⟩
  · cases ha
  · exact hprovider _ hb
  · exact hprovider b hb

/-- As long as the observers only observe, nothing is acknowledged. -/
theorem acked_of_observes {req : ObserverRequest} {stream : List δ}
    (b : (system req stream).Behavior) (hobs : OnlyObserved b) (n : ℕ) :
    (b.state n).acked = [] :=
  acked_eq_nil (b.invariant_of_acts (I := Unacknowledged) unacknowledged_init
    (fun _ _ _ h ha hs => unacknowledged_step h ha hs) hobs n)

/-- Over an empty stream nothing reaches the observers, whatever they do. -/
theorem silent_of_empty {p : Provider} {s s' : State δ} {a : Action δ} (h : Silent s.provider)
    (hs : step p [] s a = some s') : Silent s'.provider := by
  rcases step_cases hs with ⟨failure, rfl, rfl⟩ | ⟨i, content, hcontent, -⟩ | ⟨b, rfl, hb, hstep⟩
  · rw [State.ack]
    split
    · exact h
    · next c hc =>
        split
        · exact h
        · next nsub hack =>
            refine ⟨fun d hd => ?_, h.loop, h.messages⟩
            obtain rfl := Option.some.inj hd
            have hpending : nsub.pending = c.nsub.pending := by
              simp only [Subscription.ack] at hack
              split at hack <;> cases hack
              rfl
            exact ⟨hpending.trans (h.csub c hc).pending, (h.csub c hc).bg, (h.csub c hc).buffer⟩
  · cases hcontent
  · refine silent_step h (fun m hm => ?_) hstep
    subst hm
    cases hb

/-! ## A message that is raised again and again -/

section Redelivery

variable (req : ObserverRequest) (content : δ) (rest : List δ)

/-- `observersReady()`, and the first message of the stream arrives. -/
def firstDelivery : List (Action δ) :=
  [.provider .observersReady, .provider (.subscribe none), .deliver]

/-- The message goes through the channel to the observers, who look at it; after that its ack wait
    passes. -/
def redeliveryCycle : List (Action δ) :=
  [.provider (.csub .check), .provider (.csub (.poll .ok none)), .provider (.csub .send),
    .provider .next, .provider .check, .provider .notify, .provider (.observed none),
    .redeliver 0]

/-- The state after the message has been raised `r` times. -/
def redelivered (r : ℕ) : State δ :=
  let msg : StreamMsg δ := ⟨0, content⟩
  { delivered := 1
    provider := {
      started := true
      ready := .returned
      loop := .next
      events := List.replicate r (.message msg)
      csub := some { ChannelSubscription.State.start false 100 with
        nsub := { pending := [msg], lastMsg := match r with
          | 0 => none
          | _ + 1 => some msg }
        sent := List.replicate r msg
        received := List.replicate r msg } } }

theorem exec_firstDelivery :
    (system req (content :: rest)).exec {} firstDelivery = some (redelivered content 0) := rfl

theorem exec_redeliveryCycle (r : ℕ) :
    (system req (content :: rest)).exec (redelivered content r) redeliveryCycle
      = some (redelivered content (r + 1)) := by
  simp only [redelivered, List.replicate_succ']
  rfl

/-- The server delivers the first message of the stream over and over. -/
def redeliveryBehavior : (system req (content :: rest)).Behavior :=
  .ofCycle firstDelivery redeliveryCycle (redelivered content) (List.cons_ne_nil _ _)
    (exec_firstDelivery req content rest) (exec_redeliveryCycle req content rest)

theorem redeliveryBehavior_fair : Fair (redeliveryBehavior req content rest) where
  background := TransitionSystem.Behavior.ofCycle_progresses _ _ _ List.mem_cons_self trivial _
  listener := by
    have hnext : .provider .next ∈ (redeliveryCycle : List (Action δ)) := by
      simp [redeliveryCycle]
    exact TransitionSystem.Behavior.ofCycle_progresses _ _ _ hnext trivial _

theorem redeliveryBehavior_observed : OnlyObserved (redeliveryBehavior req content rest) := by
  intro n a h
  have hmem := TransitionSystem.Behavior.ofCycle_act _ _ _ h
  simp only [firstDelivery, redeliveryCycle, List.mem_cons, List.not_mem_nil, or_false] at hmem
  rcases hmem with (rfl | rfl | rfl) | rfl | rfl | rfl | rfl | rfl | rfl | rfl | rfl <;> trivial

/-- Any number of MESSAGE events of the one message. -/
theorem redeliveryBehavior_messages (r : ℕ) :
    ∃ n, ((redeliveryBehavior req content rest).state n).provider.messages
      = List.replicate r ⟨0, content⟩ := by
  have hstate := TransitionSystem.Behavior.ofCycle_state (List.cons_ne_nil _ _)
    (exec_firstDelivery req content rest) (exec_redeliveryCycle req content rest) r
  refine ⟨_, (congrArg (fun s => s.provider.messages) hstate).trans ?_⟩
  simp [redelivered, EventProvider.State.messages]

end Redelivery

/-! ## The condition -/

/-- Observers that only observe see every message acknowledged and none twice, in every fair
    behavior, if and only if the stream is empty. -/
theorem acknowledged_iff_empty (req : ObserverRequest) (stream : List δ) :
    (∀ b : (system req stream).Behavior, Fair b → OnlyObserved b →
      Acknowledges b ∧ RaisesOnce b) ↔ stream = [] := by
  constructor
  · intro hclaim
    cases stream with
    | nil => rfl
    | cons content rest =>
        obtain ⟨-, honce⟩ := hclaim (redeliveryBehavior req content rest)
          (redeliveryBehavior_fair req content rest)
          (redeliveryBehavior_observed req content rest)
        obtain ⟨n, hn⟩ := redeliveryBehavior_messages req content rest 2
        have htwice := honce n
        rw [hn] at htwice
        simp at htwice
  · rintro rfl b - -
    have hnone : ∀ n, (b.state n).provider.messages = [] := fun n =>
      (b.invariant (I := fun s => Silent s.provider)
        (fun r => r.invariant silent_init fun _ _ _ h hs => silent_of_empty h hs) n).messages
    constructor
    · intro n m hm
      rw [hnone n] at hm
      cases hm
    · intro n
      rw [hnone n]
      exact List.nodup_nil

/-- One message in the stream: it is raised twice, and never acknowledged. -/
theorem message_raised_twice :
    ∃ b : (system ⟨some "orders", none, none⟩ ["created"]).Behavior,
      Fair b ∧ OnlyObserved b ∧ ¬ Acknowledges b ∧ ¬ RaisesOnce b := by
  have hobs := redeliveryBehavior_observed ⟨some "orders", none, none⟩ "created" []
  obtain ⟨n, hn⟩ := redeliveryBehavior_messages ⟨some "orders", none, none⟩ "created" [] 2
  refine ⟨_, redeliveryBehavior_fair _ _ _, hobs, fun hack => ?_, fun honce => ?_⟩
  · obtain ⟨k, hk⟩ := hack n ⟨0, "created"⟩ (by rw [hn]; exact List.mem_cons_self)
    rw [acked_of_observes _ hobs k] at hk
    cases hk
  · have htwice := honce n
    rw [hn] at htwice
    simp at htwice

end ModuleNats.JetStreamPush
