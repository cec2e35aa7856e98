import Mathlib.Data.Nat.Init
import ModuleNats.ChannelSubscription.Ending
import ModuleNats.EventProvider.Silence

set_option autoImplicit false

/-! # The pull provider delivers nothing

The messages of a pull subscription come only in answer to `natsSubscription_Fetch()`, and no layer
under the provider calls it: the channel subscription polls `nextMsg()`, which the C client answers
with `NATS_INVALID_SUBSCRIPTION`. So no MESSAGE event is ever raised, and the stream is delivered
only if there is nothing to deliver (`pull_delivers_iff`). -/

namespace ModuleNats.EventProvider

open State

variable {μ : Type}

/-! ## What is delivered -/

/-- The messages that have become available to the consumer. -/
def State.available (s : State μ) : List μ :=
  match s.csub with
  | some c => c.nsub.available
  | none => []

/-- The MESSAGE events are the available messages: never anything else, and in the end all. -/
def Delivers {p : Provider} (b : (system (μ := μ) p).Behavior) : Prop :=
  (∀ n, (b.state n).messages <+: (b.state n).available) ∧
    ∀ n, ∃ k, (b.state n).available <+: (b.state k).messages

/-- The subscription of the provider, once there is one, is a pull subscription. -/
def Pulls (s : State μ) : Prop := ∀ c, s.csub = some c → c.nsub.pull = true

theorem pulls_init : Pulls ({} : State μ) := csub_init

theorem pulls_step {p : Provider} (hpull : p.subscribe.pull = true) {s s' : State μ} {a : Action μ}
    (h : Pulls s) (hs : Step p s a s') : Pulls s' := by
  refine csub_step (I := fun c => c.nsub.pull = true) hpull (fun c b c' _ _ hc hs => ?_) h hs
  cases hs <;> exact hc

/-- Nothing arrives on a pull subscription, so its observers see no message. -/
theorem silent_run {p : Provider} (hpull : p.subscribe.pull = true)
    (run : (system (μ := μ) p).Run) : Silent run.final := by
  refine (run.invariant (I := fun s => Pulls s ∧ Silent s) ⟨pulls_init, silent_init⟩ ?_).2
  rintro s a s' ⟨hpulls, hsilent⟩ hstep
  have hs := step_cases hstep
  refine ⟨pulls_step hpull hpulls hs, silent_step hsilent (fun m ha => ?_) hs⟩
  subst ha
  cases hs with
  | csub hof hc harrive =>
      cases ChannelSubscription.step_cases harrive with
      | arrive hphase => rw [hpulls _ hc] at hphase; cases hphase.1

/-- In every behavior of the pull provider, with any stream, any schedule and any errors: the stream
    is delivered if and only if no message ever becomes available. -/
theorem pull_delivers_iff (req : ObserverRequest)
    (b : (system (μ := μ) (natsJSPullSubscribe req)).Behavior) :
    Delivers b ↔ ∀ n, (b.state n).available = [] := by
  have hsilent : ∀ n, (b.state n).messages = [] := fun n =>
    (b.invariant (I := Silent) (silent_run rfl) n).messages
  constructor
  · rintro ⟨_, hall⟩ n
    obtain ⟨k, hk⟩ := hall n
    rw [hsilent k] at hk
    exact List.prefix_nil.1 hk
  · intro hnone
    exact ⟨fun n => by rw [hsilent n]; exact List.nil_prefix,
      fun n => ⟨n, by rw [hnone n]; exact List.nil_prefix⟩⟩

/-! ## A stream that is not delivered -/

/-- Neither a stop nor an error. -/
def Smooth : Action μ → Prop
  | .stopEvents | .closeCsub | .iteratorFails _ | .subscribe (some _) | .flush (some _)
  | .observed (some _) => False
  | .csub a => ¬ ChannelSubscription.Interrupts a
  | _ => True

def pullProvider : Provider := natsJSPullSubscribe ⟨none, none, some "worker"⟩

/-- The provider listens, the background thread is at the head of its loop, and one message is
    available. -/
def pullState : State ℕ :=
  { started := true
    ready := .returned
    loop := .next
    csub := some { ChannelSubscription.State.start true 100 with
      nsub := { pull := true, available := [7] } } }

/-- One message becomes available, and the background thread polls from then on. -/
def pullBehavior : (system (μ := ℕ) pullProvider).Behavior :=
  .ofCycle [.observersReady, .subscribe none, .csub (.offer 7)]
    [.csub .check, .csub (.poll .invalidSubscription none)] (fun _ => pullState)
    (List.cons_ne_nil _ _) rfl fun _ => rfl

/-- A run without a stop or an error, in which the background thread never rests, does not deliver
    the message. -/
theorem pull_message_not_delivered :
    ¬ ∀ b : (system (μ := ℕ) pullProvider).Behavior,
      (∀ n a, b.act n = some a → Smooth a) →
      (∀ n, ∃ k a, n ≤ k ∧ b.act k = some (.csub a) ∧ ChannelSubscription.ByLoop a) →
      Delivers b := by
  intro hclaim
  have hdelivers := hclaim pullBehavior ?_ ?_
  · -- the message is available, and no MESSAGE event is ever raised
    have hstate : pullBehavior.state 3 = pullState :=
      TransitionSystem.Behavior.ofCycle_state _ _ _ 0
    obtain ⟨k, hk⟩ := hdelivers.2 3
    have hsilent : (pullBehavior.state k).messages = [] :=
      (pullBehavior.invariant (I := Silent) (silent_run rfl) k).messages
    rw [hsilent, hstate] at hk
    cases List.prefix_nil.1 hk
  · intro n a hact
    have hmem := TransitionSystem.Behavior.ofCycle_act _ _ _ hact
    simp only [List.mem_cons, List.not_mem_nil, or_false] at hmem
    rcases hmem with (rfl | rfl | rfl) | rfl | rfl <;> simp [Smooth, ChannelSubscription.Interrupts]
  · intro n
    obtain ⟨k, hk, hact⟩ : ∃ k, n ≤ k ∧ pullBehavior.act k = some (.csub .check) :=
      TransitionSystem.Behavior.ofCycle_again _ _ _ List.mem_cons_self n
    exact ⟨k, _, hk, hact, trivial⟩

end ModuleNats.EventProvider
