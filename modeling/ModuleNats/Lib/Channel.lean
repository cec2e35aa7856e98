import Mathlib.Data.List.Basic
import Mathlib.Tactic.Common

set_option autoImplicit false

/-! # Bounded channels

A channel is a FIFO buffer with a capacity and a closed flag. Sending needs room and an open
channel; a closed channel still hands out what it holds. The bound is a field, so a channel that
holds too much cannot be built. -/

/-- A bounded FIFO channel. -/
structure Channel (α : Type*) where
  capacity : ℕ
  buffer : List α := []
  closed : Bool := false
  bounded : buffer.length ≤ capacity := by simp

namespace Channel

variable {α : Type*}

/-- Sends an item, if the channel is open and has room. -/
def send (c : Channel α) (x : α) : Option (Channel α) :=
  if h : c.closed = false ∧ c.buffer.length < c.capacity then
    some { c with buffer := c.buffer ++ [x], bounded := by rw [List.length_append]; exact h.2 }
  else none

/-- Takes the oldest item. -/
def receive (c : Channel α) : Option (α × Channel α) :=
  match h : c.buffer with
  | [] => none
  | x :: rest => some (x, { c with
      buffer := rest
      bounded := by have := c.bounded; rw [h] at this; exact Nat.le_of_succ_le this })

/-- No items are accepted from now on. -/
def close (c : Channel α) : Channel α := { c with closed := true }

theorem send_spec {c c' : Channel α} {x : α} (h : c.send x = some c') :
    c.closed = false ∧ c'.closed = false ∧ c'.buffer = c.buffer ++ [x] := by
  simp only [send] at h
  split at h
  · next hopen => cases h; exact ⟨hopen.1, hopen.1, rfl⟩
  · cases h

theorem receive_spec {c c' : Channel α} {x : α} (h : c.receive = some (x, c')) :
    c.buffer = x :: c'.buffer ∧ c'.closed = c.closed := by
  simp only [receive] at h
  split at h
  · cases h
  · next hbuffer => cases h; exact ⟨hbuffer, rfl⟩

theorem exists_receive {c : Channel α} (h : c.buffer ≠ []) : ∃ x c', c.receive = some (x, c') := by
  simp only [receive]
  split
  · next hempty => exact absurd hempty h
  · exact ⟨_, _, rfl⟩

end Channel
