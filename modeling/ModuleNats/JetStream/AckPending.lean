import Mathlib.Data.List.Pairwise
import Mathlib.Order.Bounds.Basic
import ModuleNats.JetStream.ConsumerConfig
import ModuleNats.Lib.Transition

set_option autoImplicit false

/-! # `ack_pending`

`consumerInfoToHash()` is to report how many messages of a consumer are delivered and not yet
acknowledged, and reports the acknowledgement floor: the number up to which all deliveries are
acknowledged. The server's side is a machine here, with deliveries, acknowledgements in any order
and redeliveries; `ackPending_right_iff` says when the two agree. -/

namespace ModuleNats.AckPending

open JetStream

/-- A consumer on the server. -/
structure Consumer where
  /-- the number of the last delivery -/
  delivered : ℕ := 0
  /-- the messages delivered and not acknowledged: the numbers of their first deliveries -/
  outstanding : List ℕ := []
deriving DecidableEq

inductive Action where
  | deliver
  /-- the message first delivered under this number is acknowledged -/
  | ack (number : ℕ)
  | redeliver (number : ℕ)
deriving DecidableEq

/-- The acknowledgement floor: all deliveries up to it are acknowledged. -/
def Consumer.ackFloor (c : Consumer) : ℕ :=
  match c.outstanding with
  | [] => c.delivered
  | first :: _ => first - 1

def step (c : Consumer) : Action → Option Consumer
  | .deliver => some ⟨c.delivered + 1, c.outstanding ++ [c.delivered + 1]⟩
  | .ack number =>
      if number ∈ c.outstanding then some { c with outstanding := c.outstanding.erase number }
      else none
  -- a redelivery has a number of its own, but the message stays outstanding under the first one
  | .redeliver number =>
      if number ∈ c.outstanding then some { c with delivered := c.delivered + 1 } else none

def server : TransitionSystem Consumer Action where
  init := {}
  step := step

/-- What the server reports of a consumer. -/
def Reports (c : Consumer) (info : JsConsumerInfo) : Prop :=
  info.delivered = UInt64.ofNat c.delivered ∧ info.ackFloor = UInt64.ofNat c.ackFloor

/-- `ack_pending` is the number of outstanding messages. -/
def Right (c : Consumer) : Prop :=
  ∀ info, Reports c info → (consumerInfoToHash info).ackPending.toInt = c.outstanding.length

/-! ## The floor -/

/-- The outstanding messages stand in the order of their deliveries. -/
structure Ordered (c : Consumer) : Prop where
  sorted : c.outstanding.Pairwise (· < ·)
  bounds : ∀ number ∈ c.outstanding, 0 < number ∧ number ≤ c.delivered

theorem ordered_step {c c' : Consumer} {a : Action} (h : Ordered c) (hs : step c a = some c') :
    Ordered c' := by
  cases a with
  | deliver =>
      cases hs
      constructor
      · refine List.pairwise_append.2 ⟨h.sorted, List.pairwise_singleton _ _, ?_⟩
        intro m hm n hn
        have hbound := (h.bounds m hm).2
        rw [List.mem_singleton.1 hn]
        omega
      · intro m hm
        rcases List.mem_append.1 hm with hm | hm
        · have hbound := h.bounds m hm
          dsimp only
          omega
        · rw [List.mem_singleton.1 hm]
          dsimp only
          omega
  | ack number =>
      simp only [step] at hs
      split at hs
      · cases hs
        refine ⟨h.sorted.sublist List.erase_sublist, fun m hm => ?_⟩
        exact h.bounds m (List.mem_of_mem_erase hm)
      · cases hs
  | redeliver number =>
      simp only [step] at hs
      split at hs
      · cases hs
        exact ⟨h.sorted, fun m hm => (h.bounds m hm).imp id fun hle => hle.trans (Nat.le_succ _)⟩
      · cases hs

/-- The floor is the last delivery before those of all outstanding messages. -/
theorem ackFloor_isGreatest {c : Consumer} (h : Ordered c) :
    IsGreatest {n | n ≤ c.delivered ∧ ∀ number ∈ c.outstanding, n < number} c.ackFloor := by
  obtain ⟨delivered, outstanding⟩ := c
  cases outstanding with
  | nil => exact ⟨⟨le_rfl, fun _ hm => absurd hm List.not_mem_nil⟩, fun n hn => hn.1⟩
  | cons first rest =>
      have hfirst := h.bounds first List.mem_cons_self
      refine ⟨⟨?_, ?_⟩, ?_⟩
      · show first - 1 ≤ delivered
        have hle : first ≤ delivered := hfirst.2
        omega
      · intro m hm
        show first - 1 < m
        rcases List.mem_cons.1 hm with rfl | hm
        · omega
        · have hlt := (List.pairwise_cons.1 h.sorted).1 m hm
          omega
      · intro n hn
        have hlt := hn.2 first List.mem_cons_self
        show n ≤ first - 1
        omega

theorem ordered (r : server.Run) : Ordered r.final :=
  r.invariant (I := Ordered) ⟨List.Pairwise.nil, fun _ hm => absurd hm List.not_mem_nil⟩
    fun _ _ _ h hs => ordered_step h hs

/-! ## What is reported -/

/-- A report of the server; the code does not read the other fields. -/
def report (c : Consumer) : JsConsumerInfo :=
  ⟨none, UInt64.ofNat c.delivered, UInt64.ofNat c.ackFloor, 0, 0, 0⟩

theorem right_iff (c : Consumer) :
    Right c ↔ (UInt64.ofNat c.ackFloor).toInt64.toInt = c.outstanding.length :=
  ⟨fun h => h (report c) ⟨rfl, rfl⟩, fun h info hinfo => by
    rw [← h, ← hinfo.2]
    rfl⟩

/-- While the numbers of the deliveries are numbers of `int64`, the floor is the number reported. -/
theorem right_iff_ackFloor {c : Consumer} (h : Ordered c)
    (hsmall : c.delivered < 9223372036854775808) : Right c ↔ c.ackFloor = c.outstanding.length := by
  have hle : c.ackFloor ≤ c.delivered := (ackFloor_isGreatest h).1.1
  rw [right_iff, toInt_ofNat_toInt64 (by omega)]
  exact Int.ofNat_inj

/-- A delivery leaves the floor, and adds an outstanding message. -/
theorem ackFloor_deliver (c : Consumer) :
    Consumer.ackFloor ⟨c.delivered + 1, c.outstanding ++ [c.delivered + 1]⟩ = c.ackFloor := by
  unfold Consumer.ackFloor
  cases c.outstanding <;> rfl

theorem not_right_of_deliver {c c' : Consumer} (hs : step c .deliver = some c') (h : Right c) :
    ¬ Right c' := by
  cases hs
  rw [right_iff] at h ⊢
  rw [ackFloor_deliver, h, List.length_append, List.length_singleton]
  push_cast
  omega

/-- Without a delivery there is nothing to acknowledge, and nothing happens. -/
theorem init_of_not_deliver {c c' : Consumer} {a : Action} (h : c = {}) (ha : a ≠ .deliver)
    (hs : step c a = some c') : c' = {} := by
  subst h
  cases a with
  | deliver => exact absurd rfl ha
  | ack | redeliver => simp [step] at hs

/-- `ack_pending` is right in every state that a run comes through if and only if the run delivers
    no message. In a single state it is right when the floor happens to be the number of the
    outstanding messages. -/
theorem ackPending_right_iff (r : server.Run) :
    ((∀ c, r.Reached c → Right c) ↔ r.All fun _ a => a ≠ .deliver) ∧
    (r.final.delivered < 9223372036854775808 →
      (Right r.final ↔ r.final.ackFloor = r.final.outstanding.length)) := by
  refine ⟨⟨?_, ?_⟩, right_iff_ackFloor (ordered r)⟩
  · intro h c a c' hocc ha
    subst ha
    exact not_right_of_deliver hocc.step (h c hocc.reached.1) (h c' hocc.reached.2)
  · intro h c hc
    have hinit : c = {} := TransitionSystem.Run.reached_invariant_of_all (I := fun c => c = {}) rfl
      (fun _ _ _ hI ha hs => init_of_not_deliver hI ha hs) h hc
    rw [hinit, right_iff]
    rfl

/-- Of two messages that are delivered the first one is acknowledged. -/
def ackedRun : server.Run := server.runOf [.deliver, .deliver, .ack 1] rfl

/-- It is right in the end, and has not been right throughout. -/
theorem ackPending_right_iff_acked :
    Right ackedRun.final ∧ ¬ ∀ c, ackedRun.Reached c → Right c := by
  obtain ⟨hrun, hfinal⟩ := ackPending_right_iff ackedRun
  have hdelivers : ackedRun.Occurs {} .deliver ⟨1, [1]⟩ := ⟨[], [.deliver, .ack 1], rfl, rfl, rfl⟩
  exact ⟨(hfinal (by decide)).2 rfl, fun h => hrun.1 h _ _ _ hdelivers rfl⟩

/-- One message is delivered and not acknowledged, and no message is reported. -/
theorem ackPending_misses_delivery :
    ¬ ∀ (r : server.Run) (info : JsConsumerInfo), Reports r.final info →
      (consumerInfoToHash info).ackPending.toInt = r.final.outstanding.length := by
  intro hall
  have hreport := hall (server.runOf [.deliver] rfl) (report _) ⟨rfl, rfl⟩
  revert hreport
  decide

end ModuleNats.AckPending
