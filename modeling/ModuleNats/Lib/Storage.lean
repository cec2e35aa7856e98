import Mathlib.Data.List.Basic
import Mathlib.Tactic.Common

set_option autoImplicit false

/-! # Pointers into a growing container

A program adds strings to a container and keeps a pointer to the characters of each. Some strings
have their characters inside of the string object (`inline`), others in a block of their own. A
vector that is full moves its objects to a larger block: then the pointers to the characters of the
former dangle, those of the latter do not. A deque moves nothing.

Every pointer can be read as long as the vector need not grow (`map_read_addAll`), and in general
only then (`readable_iff`). -/

namespace Storage

variable {α : Type*}

/-- The strings of a container with the places of their characters, in order; a place is used once.
    A container without a capacity never moves what it contains. -/
structure Container (α : Type*) where
  cells : List (ℕ × α) := []
  next : ℕ := 0
  capacity : Option ℕ

namespace Container

/-- What a pointer to the place `p` points to. -/
def read (s : Container α) (p : ℕ) : Option α := (s.cells.find? (·.1 == p)).map Prod.snd

/-- A full vector moves its objects to a block with twice the capacity. -/
def grow (inline : α → Bool) (s : Container α) : Container α where
  cells := s.cells.map fun c => (if inline c.2 then s.next + c.1 else c.1, c.2)
  next := s.next + s.next
  capacity := s.capacity.map fun n => max 1 (n + n)

/-- The container before an element is added. -/
def room (inline : α → Bool) (s : Container α) : Container α :=
  if s.capacity = some s.cells.length then s.grow inline else s

/-- `emplace_back()`, and a pointer to the characters of `back()`. -/
def emplaceBack (inline : α → Bool) (s : Container α) (a : α) : ℕ × Container α :=
  ((s.room inline).next,
    { s.room inline with
      cells := (s.room inline).cells ++ [((s.room inline).next, a)]
      next := (s.room inline).next + 1 })

/-- The pointers to all strings that are added. -/
def addAll (inline : α → Bool) (s : Container α) : List α → List ℕ × Container α
  | [] => ([], s)
  | a :: l =>
      let (p, s') := s.emplaceBack inline a
      let (ps, s'') := addAll inline s' l
      (p :: ps, s'')

/-- An empty vector after `reserve(n)`. -/
def reserved (n : ℕ) : Container α := { capacity := some n }

/-- An empty deque. -/
def deque : Container α := { capacity := none }

/-! ## Pointers that stay -/

/-- The places so far are below the next one. -/
def Fresh (s : Container α) : Prop := ∀ c ∈ s.cells, c.1 < s.next

/-- The container has room for `n` more elements. -/
def HasRoom (s : Container α) (n : ℕ) : Prop := ∀ c ∈ s.capacity, s.cells.length + n ≤ c

variable {inline : α → Bool} {s : Container α}

theorem room_eq {n : ℕ} (h : s.HasRoom (n + 1)) : s.room inline = s := by
  have hfull : s.capacity ≠ some s.cells.length := by
    intro hc
    have hle := h _ hc
    omega
  rw [room, if_neg hfull]

theorem emplaceBack_eq (inline : α → Bool) {n : ℕ} (h : s.HasRoom (n + 1)) (a : α) :
    s.emplaceBack inline a =
      (s.next, { s with cells := s.cells ++ [(s.next, a)], next := s.next + 1 }) := by
  rw [emplaceBack, room_eq h]

theorem fresh_append (h : s.Fresh) (a : α) :
    Fresh { s with cells := s.cells ++ [(s.next, a)], next := s.next + 1 } := by
  intro c hc
  rcases List.mem_append.1 hc with hold | hnew
  · exact Nat.lt_succ_of_lt (h c hold)
  · rw [List.mem_singleton.1 hnew]
    exact Nat.lt_succ_self s.next

theorem find?_next (h : s.Fresh) : s.cells.find? (·.1 == s.next) = none := by
  refine List.find?_eq_none.2 fun c hc => ?_
  simpa using Nat.ne_of_lt (h c hc)

/-- A pointer is not affected by what is added later. -/
theorem read_of_isPrefix {s' : Container α} (h : s.cells <+: s'.cells) {p : ℕ} {a : α}
    (hp : s.read p = some a) : s'.read p = some a := by
  obtain ⟨rest, hrest⟩ := h
  obtain ⟨c, hc, rfl⟩ := Option.map_eq_some_iff.1 hp
  rw [read, ← hrest, List.find?_append, hc]
  rfl

theorem HasRoom.mono {n k : ℕ} (h : s.HasRoom n) (hk : k ≤ n) : s.HasRoom k := by
  intro c hc
  have hle := h c hc
  omega

/-- What there is after `emplace_back()`, if there is room for one element and `n` more. -/
structure Added (s s' : Container α) (p : ℕ) (a : α) (n : ℕ) : Prop where
  kept : s.cells <+: s'.cells
  fresh : s'.Fresh
  room : s'.HasRoom n
  read : s'.read p = some a

theorem added (inline : α → Bool) {n : ℕ} (hfresh : s.Fresh) (hroom : s.HasRoom (n + 1)) (a : α) :
    Added s (s.emplaceBack inline a).2 (s.emplaceBack inline a).1 a n := by
  rw [emplaceBack_eq inline hroom a]
  refine ⟨List.prefix_append _ _, fresh_append hfresh a, fun c hc => ?_, ?_⟩
  · have hle := hroom c hc
    rw [List.length_append, List.length_singleton]
    omega
  · simp [read, List.find?_append, find?_next hfresh]

theorem addAll_stable (l : List α) (hfresh : s.Fresh) (hroom : s.HasRoom l.length) :
    s.cells <+: (s.addAll inline l).2.cells ∧
      (s.addAll inline l).1.map (s.addAll inline l).2.read = l.map some := by
  induction l generalizing s with
  | nil => exact ⟨List.prefix_refl _, rfl⟩
  | cons a l ih =>
      have hadded := added inline hfresh hroom a
      obtain ⟨hkept, hrest⟩ := ih hadded.fresh hadded.room
      refine ⟨hadded.kept.trans hkept, ?_⟩
      have hcons : s.addAll inline (a :: l) = ((s.emplaceBack inline a).1 ::
          ((s.emplaceBack inline a).2.addAll inline l).1,
          ((s.emplaceBack inline a).2.addAll inline l).2) := rfl
      rw [hcons, List.map_cons, hrest, read_of_isPrefix hkept hadded.read]
      rfl

/-- Every string can be read where its pointer points to, if the container need not grow. -/
theorem map_read_addAll (inline : α → Bool) {l : List α} (hfresh : s.Fresh)
    (hroom : s.HasRoom l.length) :
    (s.addAll inline l).1.map (s.addAll inline l).2.read = l.map some :=
  (addAll_stable l hfresh hroom).2

theorem fresh_reserved (n : ℕ) : (reserved n : Container α).Fresh := fun _ hc => by cases hc

theorem hasRoom_reserved {n k : ℕ} (h : k ≤ n) : (reserved n : Container α).HasRoom k := by
  rintro c ⟨⟩
  simpa [reserved] using h

theorem fresh_deque : (deque : Container α).Fresh := fun _ hc => by cases hc

theorem hasRoom_deque (n : ℕ) : (deque : Container α).HasRoom n := by
  rintro c ⟨⟩

/-! ## Pointers that dangle -/

/-- The place is one from which the characters were moved. -/
def Lost (s : Container α) (p : ℕ) : Prop := p < s.next ∧ ∀ c ∈ s.cells, c.1 ≠ p

theorem Lost.read {p : ℕ} (h : s.Lost p) : s.read p = none := by
  have hnone : s.cells.find? (·.1 == p) = none :=
    List.find?_eq_none.2 fun c hc => by simpa using h.2 c hc
  rw [Container.read, hnone]
  rfl

theorem Lost.room (inline : α → Bool) {p : ℕ} (h : s.Lost p) : (s.room inline).Lost p := by
  unfold Container.room
  split
  · refine ⟨Nat.lt_of_lt_of_le h.1 (Nat.le_add_right _ _), fun c hc => ?_⟩
    obtain ⟨d, hd, rfl⟩ := List.mem_map.1 hc
    dsimp only
    split
    · have hlt := h.1
      omega
    · exact h.2 d hd
  · exact h

theorem Lost.emplaceBack {p : ℕ} (h : s.Lost p) (a : α) :
    (s.emplaceBack inline a).2.Lost p := by
  obtain ⟨hlt, hnot⟩ := h.room inline
  refine ⟨Nat.lt_succ_of_lt hlt, fun c hc => ?_⟩
  rcases List.mem_append.1 hc with hold | hnew
  · exact hnot c hold
  · rw [List.mem_singleton.1 hnew]
    exact Nat.ne_of_gt hlt

theorem Lost.addAll {p : ℕ} (h : s.Lost p) (l : List α) : (s.addAll inline l).2.Lost p := by
  induction l generalizing s with
  | nil => exact h
  | cons a l ih => exact ih (h.emplaceBack a)

/-- A full vector loses all places of characters that are inside of its objects. -/
theorem lost_grow (hinline : ∀ c ∈ s.cells, inline c.2 = true) {p : ℕ} (hp : p < s.next) :
    (s.grow inline).Lost p := by
  refine ⟨Nat.lt_of_lt_of_le hp (Nat.le_add_right _ _), fun c hc => ?_⟩
  obtain ⟨d, hd, rfl⟩ := List.mem_map.1 hc
  rw [if_pos (hinline d hd)]
  dsimp only
  omega

/-- The place of a string in a vector is lost when more are added than there is room for. -/
theorem lost_addAll {l : List α} {n p : ℕ} (hcapacity : s.capacity = some n)
    (hle : s.cells.length ≤ n) (hlt : n < s.cells.length + l.length) (hp : p < s.next)
    (hinline : ∀ c ∈ s.cells, inline c.2 = true) (hl : ∀ a ∈ l, inline a = true) :
    (s.addAll inline l).2.Lost p := by
  induction l generalizing s with
  | nil => exact absurd hlt (Nat.not_lt.2 hle)
  | cons a l ih =>
      obtain ⟨ha, hl⟩ := List.forall_mem_cons.1 hl
      by_cases hfull : s.cells.length = n
      · -- the vector is full and grows
        have hroom : s.room inline = s.grow inline := by
          rw [room, if_pos (by rw [hcapacity, hfull])]
        have hlost : (s.emplaceBack inline a).2.Lost p := by
          obtain ⟨hlt', hnot⟩ := lost_grow hinline hp
          rw [Container.emplaceBack, hroom]
          refine ⟨Nat.lt_succ_of_lt hlt', fun c hc => ?_⟩
          rcases List.mem_append.1 hc with hold | hnew
          · exact hnot c hold
          · rw [List.mem_singleton.1 hnew]
            exact Nat.ne_of_gt hlt'
        exact hlost.addAll l
      · have hroom : s.HasRoom 1 := by
          intro c hc
          obtain rfl : n = c := Option.some.inj (hcapacity.symm.trans hc)
          omega
        show (Container.addAll inline (s.emplaceBack inline a).2 l).2.Lost p
        rw [emplaceBack_eq inline hroom a]
        refine ih hcapacity ?_ ?_ (Nat.lt_succ_of_lt hp) ?_ hl
        · simp only [List.length_append, List.length_singleton]
          omega
        · simp only [List.length_append, List.length_singleton]
          rw [List.length_cons] at hlt
          omega
        · intro c hc
          rcases List.mem_append.1 hc with hold | hnew
          · exact hinline c hold
          · rw [List.mem_singleton.1 hnew]
            exact ha

/-- After `reserve(n)`, `k` strings of any kind can be added and read by their pointers if and only
    if the vector does not grow, or has nothing to move when it grows. -/
theorem readable_iff {inline : α → Bool} {a : α} (ha : inline a = true) (n k : ℕ) :
    (∀ l : List α, l.length = k → ((reserved n).addAll inline l).1.map
      ((reserved n).addAll inline l).2.read = l.map some) ↔ k ≤ max 1 n := by
  constructor
  · intro h
    by_contra hk
    obtain ⟨m, rfl⟩ : ∃ m, k = m + 1 := ⟨k - 1, by omega⟩
    have hread := h (List.replicate (m + 1) a) (List.length_replicate ..)
    rw [List.replicate_succ] at hread
    have hlost : (((reserved n : Container α).emplaceBack inline a).2.addAll inline
        (List.replicate m a)).2.Lost ((reserved n : Container α).emplaceBack inline a).1 := by
      have hall : ∀ b ∈ List.replicate m a, inline b = true := by
        intro b hb
        rw [List.eq_of_mem_replicate hb]
        exact ha
      refine lost_addAll (n := max 1 n) ?_ ?_ ?_ (Nat.lt_succ_self _) ?_ hall
      · cases n <;> simp [Container.emplaceBack, Container.room, reserved, grow]
      · cases n <;> simp [Container.emplaceBack, Container.room, reserved, grow]
      · rw [List.length_replicate]
        cases n <;> simp [Container.emplaceBack, Container.room, reserved, grow] <;> omega
      · intro c hc
        have hcell : c.2 = a := by
          cases n <;> simp [Container.emplaceBack, Container.room, reserved, grow] at hc <;> rw [hc]
        rw [hcell, ha]
    have hfirst := congrArg List.head? hread
    simp only [Container.addAll, List.map_cons, List.head?_cons, hlost.read] at hfirst
    cases hfirst
  · intro hk l hl
    by_cases hle : k ≤ n
    · exact map_read_addAll inline (fresh_reserved n) (hasRoom_reserved (hl ▸ hle))
    · obtain ⟨rfl, rfl⟩ : n = 0 ∧ k = 1 := by omega
      obtain ⟨b, rfl⟩ := List.length_eq_one_iff.1 hl
      simp [Container.addAll, Container.emplaceBack, Container.room, reserved, grow,
        Container.read]

end Container

end Storage
