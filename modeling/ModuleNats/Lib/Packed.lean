import Mathlib.Algebra.Ring.Nat
import Mathlib.Tactic.Common

set_option autoImplicit false

/-! # Packed numbers

Binary formats have little-endian numbers at fixed places of a byte string, records of such numbers,
and items that start at multiples of an alignment. A record is read as a whole, if it lies inside
the bytes (`unpackFrom`); what is read is then the number at each place (`field`). -/

namespace Packed

/-! ## Slices -/

section Slices

variable {α : Type*}

/-- The entries from `start` up to `stop`, as far as there are any. -/
def slice (data : List α) (start stop : ℕ) : List α := (data.take stop).drop start

theorem slice_of_drop {data a rest : List α} {start : ℕ} (h : data.drop start = a ++ rest) :
    slice data start (start + a.length) = a := by
  rw [slice, List.drop_take, h, Nat.add_sub_cancel_left, List.take_left]

theorem drop_of_drop {data a rest : List α} {start : ℕ} (h : data.drop start = a ++ rest) :
    data.drop (start + a.length) = rest := by
  rw [← List.drop_drop, h, List.drop_left]

/-- What follows at an offset that lies inside is the end of the list. -/
theorem length_of_drop {data rest : List α} {start : ℕ} (hle : start ≤ data.length)
    (h : data.drop start = rest) : data.length = start + rest.length := by
  rw [← h, List.length_drop]
  omega

end Slices

/-! ## Numbers -/

/-- The number that the bytes stand for, the first one being the lowest. -/
def number : List UInt8 → ℕ
  | [] => 0
  | b :: bytes => b.toNat + 256 * number bytes

/-- The bytes of a number. -/
def encode : ℕ → ℕ → List UInt8
  | 0, _ => []
  | width + 1, n => UInt8.ofNat n :: encode width (n / 256)

@[simp] theorem length_encode (width n : ℕ) : (encode width n).length = width := by
  induction width generalizing n with
  | zero => rfl
  | succ width ih => rw [encode, List.length_cons, ih]

theorem number_encode {width n : ℕ} (h : n < 256 ^ width) : number (encode width n) = n := by
  induction width generalizing n with
  | zero =>
      rw [Nat.pow_zero, Nat.lt_one_iff] at h
      rw [h]
      rfl
  | succ width ih =>
      have hdiv : n / 256 < 256 ^ width := by
        rw [Nat.div_lt_iff_lt_mul (by decide)]
        rwa [Nat.pow_succ] at h
      rw [encode, number, ih hdiv, UInt8.toNat_ofNat']
      exact Nat.mod_add_div n 256

/-- The number of so many bytes at an offset. -/
def field (data : List UInt8) (offset width : ℕ) : ℕ := number ((data.drop offset).take width)

theorem field_of_drop {data rest : List UInt8} {offset width n : ℕ} (hn : n < 256 ^ width)
    (h : data.drop offset = encode width n ++ rest) : field data offset width = n := by
  have htake : (encode width n ++ rest).take width = encode width n := by
    rw [List.take_append_of_le_length (by simp), List.take_of_length_le (by simp)]
  rw [field, h, htake, number_encode hn]

/-! ## Records -/

/-- An item of a format: bytes that are skipped, or a number. -/
inductive Item where
  | skip (bytes : ℕ)
  | uint (width : ℕ)
deriving DecidableEq, Repr

def Item.size : Item → ℕ
  | .skip n | .uint n => n

def size (format : List Item) : ℕ := (format.map Item.size).sum

/-- The numbers of a record at an offset. -/
def unpack (data : List UInt8) : ℕ → List Item → List ℕ
  | _, [] => []
  | offset, .skip n :: format => unpack data (offset + n) format
  | offset, .uint n :: format => field data offset n :: unpack data (offset + n) format

/-- The numbers of a record at an offset, if it lies inside the bytes. -/
def unpackFrom (format : List Item) (data : List UInt8) (offset : ℕ) : Option (List ℕ) :=
  if offset + size format ≤ data.length then some (unpack data offset format) else none

theorem unpackFrom_of_le {format : List Item} {data : List UInt8} {offset : ℕ}
    (h : offset + size format ≤ data.length) :
    unpackFrom format data offset = some (unpack data offset format) := if_pos h

/-! ## Alignment -/

/-- The bits of `n` that are not bits of `m`. -/
def andNot (n m : ℕ) : ℕ := n ^^^ (n &&& m)

theorem testBit_andNot (n m i : ℕ) :
    (andNot n m).testBit i = (n.testBit i && !m.testBit i) := by
  rw [andNot, Nat.testBit_xor, Nat.testBit_and]
  cases n.testBit i <;> cases m.testBit i <;> rfl

/-- Without its low bits, a number is a multiple of a power of two. -/
theorem andNot_two_pow_sub_one (n k : ℕ) : andNot n (2 ^ k - 1) = 2 ^ k * (n / 2 ^ k) := by
  refine Nat.eq_of_testBit_eq fun i => ?_
  rw [testBit_andNot, Nat.testBit_two_pow_sub_one, Nat.testBit_two_pow_mul,
    Nat.testBit_div_two_pow]
  by_cases hi : i < k
  · simp [hi, Nat.not_le.2 hi]
  · simp [hi, Nat.not_lt.1 hi]

/-- The first multiple of the alignment, a power of two, that is not before `value`. -/
def align (value alignment : ℕ) : ℕ := andNot (value + alignment - 1) (alignment - 1)

/-- How many bytes bring a length to a multiple of the alignment. -/
def padding (alignment length : ℕ) : ℕ := (alignment - length % alignment) % alignment

/-- The two cases of the padding: nothing is missing, or what the remainder leaves. -/
theorem padding_cases {alignment : ℕ} (h : 0 < alignment) (length : ℕ) :
    (length % alignment = 0 ∧ padding alignment length = 0) ∨
      (0 < length % alignment ∧ padding alignment length = alignment - length % alignment) := by
  rw [padding]
  rcases Nat.eq_zero_or_pos (length % alignment) with hzero | hpos
  · exact Or.inl ⟨hzero, by rw [hzero, Nat.sub_zero, Nat.mod_self]⟩
  · exact Or.inr ⟨hpos, Nat.mod_eq_of_lt (by omega)⟩

theorem align_eq (value k : ℕ) : align value (2 ^ k) = value + padding (2 ^ k) value := by
  rw [align, andNot_two_pow_sub_one]
  have hpos : 0 < 2 ^ k := Nat.two_pow_pos k
  generalize 2 ^ k = a at hpos
  have hvalue : value / a * a + value % a = value := Nat.div_add_mod' value a
  have hlt : value % a < a := Nat.mod_lt value hpos
  have hsucc : (value / a + 1) * a = value / a * a + a := Nat.add_one_mul _ _
  rw [Nat.mul_comm]
  rcases padding_cases hpos value with ⟨hzero, hpad⟩ | ⟨hrest, hpad⟩
  · have hdiv : (value + a - 1) / a = value / a :=
      Nat.div_eq_of_lt_le (by omega) (by omega)
    rw [hdiv, hpad]
    omega
  · have hsucc' : (value / a + 1 + 1) * a = (value / a + 1) * a + a := Nat.add_one_mul _ _
    have hdiv : (value + a - 1) / a = value / a + 1 :=
      Nat.div_eq_of_lt_le (by omega) (by omega)
    rw [hdiv, hpad]
    omega

/-- An offset only moves on. -/
theorem le_align (value k : ℕ) : value ≤ align value (2 ^ k) := by
  rw [align_eq]
  omega

/-- The padding after an offset that is a multiple of the alignment does not depend on it. -/
theorem padding_add {alignment start : ℕ} (h : start % alignment = 0) (length : ℕ) :
    padding alignment (start + length) = padding alignment length := by
  rw [padding, padding, Nat.add_mod, h, Nat.zero_add, Nat.mod_mod]

/-- After an item at a multiple of the alignment, the padding leads to the next multiple. -/
theorem add_padding_mod {alignment start : ℕ} (h : 0 < alignment) (hstart : start % alignment = 0)
    (length : ℕ) : (start + length + padding alignment length) % alignment = 0 := by
  rw [Nat.add_assoc, Nat.add_mod, hstart, Nat.zero_add, Nat.mod_mod]
  rcases padding_cases h length with ⟨hzero, hpad⟩ | ⟨hrest, hpad⟩
  · rw [hpad, Nat.add_zero, hzero]
  · have hlength : length / alignment * alignment + length % alignment = length :=
      Nat.div_add_mod' length alignment
    have hlt : length % alignment < alignment := Nat.mod_lt length h
    have hsum : length + padding alignment length = (length / alignment + 1) * alignment := by
      rw [hpad, Nat.add_one_mul]
      omega
    rw [hsum, Nat.mul_mod_left]

end Packed
