import ModuleNats.EventProvider.Steps

set_option autoImplicit false

/-! # Nothing comes from nothing

As long as no message arrives on its subscription, a provider raises no MESSAGE event: none of the
places on the way to the observers makes up a message. -/

namespace ModuleNats.ChannelSubscription

variable {μ : Type}

/-- No message is on its way through the channel subscription. -/
structure Empty (s : State μ) : Prop where
  pending : s.nsub.pending = []
  bg : ∀ m, s.bg ≠ .sending m
  buffer : s.chan.buffer = []

theorem empty_step {s s' : State μ} {a : Action μ} (h : Empty s) (ha : ∀ m, a ≠ .arrive m)
    (hs : Step s a s') : Empty s' := by
  cases hs with
  | arrive hphase => exact absurd rfl (ha _)
  | message hbg hphase hpending => rw [h.pending] at hpending; cases hpending
  | unconverted hbg hpending => rw [h.pending] at hpending; cases hpending
  | sendClosed hbg | send hbg | sendFails hbg | handOver hbg => exact absurd hbg (h.bg _)
  | receive hreceive =>
      have hspec := (Channel.receive_spec hreceive).1
      rw [h.buffer] at hspec
      cases hspec
  | stop | goOn | timedOut | again | finished | failed | cancel | exit =>
      exact ⟨h.pending, nofun, h.buffer⟩
  | _ => exact ⟨h.pending, h.bg, h.buffer⟩

end ModuleNats.ChannelSubscription

namespace ModuleNats.EventProvider

open State

variable {μ : Type}

theorem arrive_of_mem_csubActs {s : State μ} {a : Action μ} {m : μ}
    (h : .arrive m ∈ csubActs s a) : a = .csub (.arrive m) := by
  rcases mem_csubActs h with h | ⟨-, h⟩ | ⟨-, h⟩
  · exact h
  · cases h
  · cases h

/-- No message is on its way to the observers, and none has reached them. -/
structure Silent (s : State μ) : Prop where
  csub : ∀ c, s.csub = some c → ChannelSubscription.Empty c
  loop : ∀ m, s.loop ≠ .check m ∧ s.loop ≠ .raising (.message m)
  messages : s.messages = []

theorem silent_init : Silent ({} : State μ) := ⟨csub_init, fun _ => ⟨nofun, nofun⟩, rfl⟩

theorem silent_step {p : Provider} {s s' : State μ} {a : Action μ} (h : Silent s)
    (ha : ∀ m, a ≠ .csub (.arrive m)) (hs : Step p s a s') : Silent s' := by
  have hcsub : ∀ c, s'.csub = some c → ChannelSubscription.Empty c := by
    refine csub_step ⟨rfl, nofun, rfl⟩ (fun c b c' _ hb hc hstep => ?_) h.csub hs
    refine ChannelSubscription.empty_step hc (fun m hm => ?_) hstep
    exact ha m (arrive_of_mem_csubActs (hm ▸ hb))
  cases hs with
  | received hloop hc hbuffer hstep => rw [(h.csub _ hc).buffer] at hbuffer; cases hbuffer
  | goesOn hloop => exact absurd hloop (h.loop _).1
  | @notify e hloop =>
      refine ⟨hcsub, fun m => ⟨nofun, nofun⟩, ?_⟩
      cases e with
      | message m => exact absurd hloop (h.loop m).2
      | complete => simpa [State.messages, List.filterMap_append] using h.messages
      | error ex => simpa [State.messages, List.filterMap_append] using h.messages
  | subscribedStarts | flushed | exhausted | iteratorFails | breaks | observedMessage =>
      exact ⟨hcsub, fun m => ⟨nofun, nofun⟩, h.messages⟩
  | observedTerminal | observerThrows | observerThrowsAtError =>
      exact ⟨hcsub, fun m => ⟨nofun, nofun⟩, h.messages⟩
  | _ => exact ⟨hcsub, h.loop, h.messages⟩

end ModuleNats.EventProvider
