import Mathlib.Data.List.TakeWhile
import ModuleNats.Lib.Record

set_option autoImplicit false

/-! # Values on both sides of the C client

Qore strings, integers and lists become C strings, fixed-width integers and arrays with a length.
Every conversion of the JetStream wrapper stands here with the condition under which converting
back gives the same value. -/

namespace ModuleNats

/-! ## Strings -/

/-- The character that ends a C string. -/
def nul : Char := Char.ofNat 0

/-- A C string: the characters before its terminating NUL. -/
@[ext] structure CString where
  text : String
  no_nul : nul ∉ text.toList
deriving DecidableEq

/-- `NatsStringStorage::add()`: the C client reads the copy up to the first NUL. -/
def CString.add (s : String) : CString where
  text := String.ofList (s.toList.takeWhile (· != nul))
  no_nul := by
    rw [String.toList_ofList]
    intro h
    simpa using List.mem_takeWhile_imp h

theorem CString.text_add_eq (s : String) :
    (CString.add s).text = String.ofList (s.toList.takeWhile (· != nul)) := rfl

theorem CString.text_add {s : String} (h : nul ∉ s.toList) : (CString.add s).text = s := by
  have hall : s.toList.takeWhile (· != nul) = s.toList := by
    rw [List.takeWhile_eq_self_iff]
    intro c hc
    exact bne_iff_ne.2 fun hnul => h (hnul ▸ hc)
  rw [text_add_eq, hall, String.ofList_toList]

theorem CString.add_text (c : CString) : CString.add c.text = c :=
  CString.ext (text_add c.no_nul)

/-! ## Integers -/

/-- Milliseconds to nanoseconds: a product of `int64_t`. -/
def msToNs (ms : Int64) : Int64 := ms * 1000000

/-- Nanoseconds to milliseconds: a quotient of `int64_t`. -/
def nsToMs (ns : Int64) : Int64 := ns / 1000000

/-- The duration has a number of nanoseconds in `int64_t`. -/
def FitsNs (ms : Int64) : Prop :=
  Int64.minValue.toInt ≤ ms.toInt * 1000000 ∧ ms.toInt * 1000000 ≤ Int64.maxValue.toInt

theorem toInt_msToNs {ms : Int64} (h : FitsNs ms) : (msToNs ms).toInt = ms.toInt * 1000000 := by
  rw [msToNs, Int64.toInt_mul]
  exact Int.bmod_eq_of_le h.1 (Int.lt_add_one_of_le h.2)

/-- The product does not wrap if and only if the duration fits. -/
theorem toInt_msToNs_iff {ms : Int64} : (msToNs ms).toInt = ms.toInt * 1000000 ↔ FitsNs ms := by
  refine ⟨fun h => ?_, toInt_msToNs⟩
  rw [FitsNs, ← h]
  exact ⟨Int64.minValue_le_toInt _, Int64.toInt_le _⟩

theorem nsToMs_msToNs {ms : Int64} (h : FitsNs ms) : nsToMs (msToNs ms) = ms := by
  rw [← Int64.toInt_inj, nsToMs, Int64.toInt_div_of_ne_right _ _ (by decide), toInt_msToNs h]
  exact Int.mul_tdiv_cancel _ (by decide)

/-- The number of nanoseconds is one of whole milliseconds. -/
def WholeMs (ns : Int64) : Prop := msToNs (nsToMs ns) = ns

/-- The value fits in `int`. -/
def FitsInt (v : Int64) : Prop :=
  Int32.minValue.toInt ≤ v.toInt ∧ v.toInt ≤ Int32.maxValue.toInt

/-- `(int)v`, or `(int32_t)v`, widened again. -/
theorem toInt64_toInt32 {v : Int64} (h : FitsInt v) : v.toInt32.toInt64 = v := by
  rw [← Int64.toInt_inj, Int32.toInt_toInt64, Int64.toInt_toInt32]
  exact Int.bmod_eq_of_le h.1 (Int.lt_add_one_of_le h.2)

/-- `(int)v` is the value if and only if it fits. -/
theorem toInt_toInt32_iff {v : Int64} : v.toInt32.toInt = v.toInt ↔ FitsInt v := by
  constructor
  · intro h
    rw [FitsInt, ← h]
    exact ⟨Int32.minValue_le_toInt _, Int32.toInt_le _⟩
  · intro h
    rw [← Int32.toInt_toInt64, toInt64_toInt32 h]

/-- The value fits in `uint8_t`. -/
def FitsByte (v : Int64) : Prop := 0 ≤ v.toInt ∧ v.toInt < 256

/-- `(int)v`, into a `uint8_t`. -/
def toByte (v : Int64) : UInt8 := v.toInt32.toInt8.toUInt8

theorem toNat_toByte (v : Int64) : ((toByte v).toNat : ℤ) = v.toInt % 256 := by
  have hcond : v.toInt32.toInt8.toInt = if 2 * (toByte v).toNat < 2 ^ 8 then ((toByte v).toNat : ℤ)
      else ((toByte v).toNat : ℤ) - (2 ^ 8 : ℕ) := BitVec.toInt_eq_toNat_cond _
  have hlt : (toByte v).toNat < 2 ^ 8 := (toByte v).toNat_lt
  rw [Int32.toInt_toInt8, Int64.toInt_toInt32, Int.bmod_bmod_of_dvd (by decide),
    Int.bmod_def] at hcond
  omega

theorem toNat_toByte_iff {v : Int64} : ((toByte v).toNat : ℤ) = v.toInt ↔ FitsByte v := by
  rw [toNat_toByte, FitsByte]
  omega

/-- `(uint64_t)v` is the value if and only if it is not negative. -/
theorem toNat_toUInt64_iff {v : Int64} : (v.toUInt64.toNat : ℤ) = v.toInt ↔ 0 ≤ v.toInt := by
  have hcond : v.toInt = if 2 * v.toUInt64.toNat < 2 ^ 64 then (v.toUInt64.toNat : ℤ)
      else (v.toUInt64.toNat : ℤ) - (2 ^ 64 : ℕ) := BitVec.toInt_eq_toNat_cond v.toBitVec
  have hlt : v.toUInt64.toNat < 2 ^ 64 := v.toUInt64.toNat_lt
  split at hcond <;> omega

/-- `(int64)` of a `uint64_t`. -/
theorem toInt_ofNat_toInt64 {n : ℕ} (h : n < 9223372036854775808) :
    (UInt64.ofNat n).toInt64.toInt = n := by
  have hbmod : (UInt64.ofNat n).toInt64.toInt = Int.bmod (UInt64.ofNat n).toNat (2 ^ 64) :=
    BitVec.toInt_eq_toNat_bmod _
  have hnat : (UInt64.ofNat n).toNat = n :=
    UInt64.toNat_ofNat_of_lt (by simp only [UInt64.size]; omega)
  rw [hbmod, hnat]
  exact Int.bmod_eq_of_le (by omega) (by omega)

/-- The value fits in an enumeration, which is an `unsigned int`. -/
def FitsEnum (v : Int64) : Prop := 0 ≤ v.toInt ∧ v.toInt < 4294967296

/-- The cast to an enumeration. -/
def toEnum (v : Int64) : UInt32 := v.toUInt64.toUInt32

/-- `(int64)` of an enumeration. -/
def ofEnum (e : UInt32) : Int64 := e.toUInt64.toInt64

theorem ofEnum_toEnum {v : Int64} (h : FitsEnum v) : ofEnum (toEnum v) = v := by
  have hnat : (v.toUInt64.toNat : ℤ) = v.toInt := toNat_toUInt64_iff.2 h.1
  have hsmall : v.toUInt64.toNat < 4294967296 := by
    have hlt := h.2
    omega
  rw [ofEnum, toEnum, UInt64.toUInt64_toUInt32]
  have hmod : v.toUInt64 % 4294967296 = v.toUInt64 := by
    rw [← UInt64.toNat_inj, UInt64.toNat_mod]
    exact Nat.mod_eq_of_lt hsmall
  rw [hmod, Int64.toInt64_toUInt64]

theorem toEnum_ofEnum (e : UInt32) : toEnum (ofEnum e) = e := by
  rw [toEnum, ofEnum, UInt64.toUInt64_toInt64, UInt32.toUInt32_toUInt64]

/-! ## Arrays -/

/-- An array of the C client with its length; the array can be `NULL`. -/
structure CArray (α : Type) where
  len : Int32
  entries : Option (List α)
  length_entries : ∀ l, entries = some l → l.length = len.toInt.toNat
deriving DecidableEq

namespace CArray

variable {α : Type}

/-- A length, and no array. -/
def unallocated (len : Int32) : CArray α := ⟨len, none, nofun⟩

theorem toInt_ofNat_le (n : ℕ) : (Int32.ofNat n).toInt.toNat ≤ n := by
  rw [Int32.toInt_ofNat', Int.bmod_def, Int32.size]
  split <;> omega

/-- The length of the list fits in `int`. -/
def FitsLength (l : List α) : Prop := l.length ≤ Int32.maxValue.toInt

/-- The length of the list as an `int`, and an array of that many entries. -/
def ofList (l : List α) : CArray α where
  len := Int32.ofNat l.length
  entries := some (l.take (Int32.ofNat l.length).toInt.toNat)
  length_entries := by
    intro taken h
    rw [← Option.some.inj h, List.length_take]
    exact Nat.min_eq_left (toInt_ofNat_le l.length)

/-- `len > 0 && entries`: the entries, if there are any. -/
def read (a : CArray α) : Option (List α) := if 0 < a.len.toInt then a.entries else none

theorem toInt_length {l : List α} (h : FitsLength l) :
    (Int32.ofNat l.length).toInt = l.length := by
  refine Int32.toInt_ofNat_of_lt ?_
  rw [FitsLength, Int32.toInt_maxValue] at h
  omega

/-- The length is an `int`. -/
theorem length_read_le {a : CArray α} {l : List α} (h : a.read = some l) :
    l.length ≤ Int32.maxValue.toInt := by
  unfold read at h
  split at h
  · next hpos =>
      rw [a.length_entries l h, Int.toNat_of_nonneg (Int.le_of_lt hpos)]
      exact Int32.toInt_le _
  · cases h

theorem ne_nil_of_read {a : CArray α} {l : List α} (h : a.read = some l) : l ≠ [] := by
  unfold read at h
  split at h
  · next hpos =>
      rintro rfl
      have hlength := a.length_entries [] h
      rw [List.length_nil] at hlength
      omega
  · cases h

theorem len_ofList (l : List α) : (ofList l).len = Int32.ofNat l.length := rfl

theorem entries_ofList (l : List α) :
    (ofList l).entries = some (l.take (Int32.ofNat l.length).toInt.toNat) := rfl

theorem read_ofList {l : List α} (hne : l ≠ []) (hlen : FitsLength l) :
    (ofList l).read = some l := by
  have hint : (Int32.ofNat l.length).toInt = l.length := toInt_length hlen
  have hpos : 0 < l.length := List.length_pos_iff.2 hne
  rw [read, len_ofList, entries_ofList, hint, if_pos (by omega), Int.toNat_natCast,
    List.take_length]

end CArray

/-! ## Fields of a configuration

What is read from each kind of field after the assignment of a value that may be missing. -/

section Field

open Record (assign assign_of_some read_assign)

theorem read_string {v : Option String} {old : Option CString}
    (h : ∀ s, v = some s → nul ∉ s.toList) :
    (assign v (fun s => some (CString.add s)) old).map CString.text
      = v.or (old.map CString.text) :=
  read_assign (fun s => some (CString.add s)) (·.map CString.text) fun s hs =>
    congrArg some (CString.text_add (h s hs))

theorem read_duration {v : Option Int64} {old : Int64} (h : ∀ ms, v = some ms → FitsNs ms) :
    some (nsToMs (assign v msToNs old)) = v.or (some (nsToMs old)) :=
  read_assign msToNs (fun ns => some (nsToMs ns)) fun ms hms =>
    congrArg some (nsToMs_msToNs (h ms hms))

theorem read_enum {v : Option Int64} {old : UInt32} (h : ∀ n, v = some n → FitsEnum n) :
    some (ofEnum (assign v toEnum old)) = v.or (some (ofEnum old)) :=
  read_assign toEnum (fun e => some (ofEnum e)) fun n hn => congrArg some (ofEnum_toEnum (h n hn))

theorem read_int {v : Option Int64} {old : Int64} (h : ∀ n, v = some n → FitsInt n) :
    some (assign v (fun n => n.toInt32.toInt64) old) = v.or (some old) :=
  read_assign (fun n : Int64 => n.toInt32.toInt64) some fun n hn =>
    congrArg some (toInt64_toInt32 (h n hn))

/-- A value that is read back after the cast to `int` fits in it. -/
theorem fitsInt_of_read_int {v : Option Int64} {old n : Int64} (hv : v = some n)
    (h : some (assign v (fun n => n.toInt32.toInt64) old) = some n) : FitsInt n := by
  rw [assign_of_some hv] at h
  rw [← toInt_toInt32_iff, ← Int32.toInt_toInt64, Option.some.inj h]

theorem read_int32 {v : Option Int64} {old : Int32} (h : ∀ n, v = some n → FitsInt n) :
    some (assign v Int64.toInt32 old).toInt64 = v.or (some old.toInt64) :=
  read_assign Int64.toInt32 (fun n => some n.toInt64) fun n hn =>
    congrArg some (toInt64_toInt32 (h n hn))

theorem read_uint64 {v : Option Int64} {old : UInt64} :
    some (assign v Int64.toUInt64 old).toInt64 = v.or (some old.toInt64) :=
  read_assign Int64.toUInt64 (fun n => some n.toInt64) fun n _ => congrArg some n.toInt64_toUInt64

/-- A field of the same type on both sides. -/
theorem read_same {α : Type} {v : Option α} {old : α} : some (assign v id old) = v.or (some old) :=
  read_assign id some fun _ _ => rfl

/-- The strings of an array that was made of a list. -/
theorem read_ofList_strings {l : List String}
    (h : l ≠ [] ∧ CArray.FitsLength l ∧ ∀ s ∈ l, nul ∉ s.toList) :
    (CArray.ofList (l.map CString.add)).read.map (·.map CString.text) = some l := by
  obtain ⟨hne, hlen, hnul⟩ := h
  have htext : l.map (fun s => (CString.add s).text) = l :=
    List.map_congr_left (fun s hs => CString.text_add (hnul s hs)) |>.trans l.map_id
  rw [CArray.read_ofList (by simpa using hne) (by simpa [CArray.FitsLength] using hlen),
    Option.map_some, List.map_map]
  exact congrArg some htext

theorem read_strings {v : Option (List String)} {old : CArray CString}
    (h : ∀ l, v = some l → l ≠ [] ∧ CArray.FitsLength l ∧ ∀ s ∈ l, nul ∉ s.toList) :
    (assign v (fun l => CArray.ofList (l.map CString.add)) old).read.map (·.map CString.text)
      = v.or (old.read.map (·.map CString.text)) :=
  read_assign (fun l : List String => CArray.ofList (l.map CString.add))
    (fun a : CArray CString => a.read.map (·.map CString.text)) fun l hl =>
      read_ofList_strings (h l hl)

/-! Nothing changes when what was read is assigned again. -/

theorem write_string (old : Option CString) :
    assign (old.map CString.text) (fun s => some (CString.add s)) old = old := by
  cases old with
  | none => rfl
  | some c => exact congrArg some c.add_text

theorem write_duration {old : Int64} (h : WholeMs old) :
    assign (some (nsToMs old)) msToNs old = old := h

theorem write_enum (old : UInt32) : assign (some (ofEnum old)) toEnum old = old :=
  toEnum_ofEnum old

theorem write_int {old : Int64} (h : FitsInt old) :
    assign (some old) (fun n => n.toInt32.toInt64) old = old :=
  toInt64_toInt32 h

theorem write_int32 (old : Int32) : assign (some old.toInt64) Int64.toInt32 old = old :=
  old.toInt32_toInt64

theorem write_uint64 (old : UInt64) : assign (some old.toInt64) Int64.toUInt64 old = old :=
  old.toUInt64_toInt64

theorem write_same {α : Type} (old : α) : assign (some old) id old = old := rfl

/-! A field has the value that was assigned to it if and only if the value fits. -/

theorem assign_duration_iff {v : Option Int64} {old ms : Int64} (hv : v = some ms) :
    (assign v msToNs old).toInt = ms.toInt * 1000000 ↔ FitsNs ms := by
  rw [assign_of_some hv]
  exact toInt_msToNs_iff

theorem assign_int32_iff {v : Option Int64} {old : Int32} {n : Int64} (hv : v = some n) :
    (assign v Int64.toInt32 old).toInt = n.toInt ↔ FitsInt n := by
  rw [assign_of_some hv]
  exact toInt_toInt32_iff

theorem assign_int_iff {v : Option Int64} {old n : Int64} (hv : v = some n) :
    (assign v (fun n => n.toInt32.toInt64) old).toInt = n.toInt ↔ FitsInt n := by
  rw [assign_of_some hv, Int32.toInt_toInt64]
  exact toInt_toInt32_iff

theorem assign_byte_iff {v : Option Int64} {old : UInt8} {n : Int64} (hv : v = some n) :
    ((assign v toByte old).toNat : ℤ) = n.toInt ↔ FitsByte n := by
  rw [assign_of_some hv]
  exact toNat_toByte_iff

theorem assign_uint64_iff {v : Option Int64} {old : UInt64} {n : Int64} (hv : v = some n) :
    ((assign v Int64.toUInt64 old).toNat : ℤ) = n.toInt ↔ 0 ≤ n.toInt := by
  rw [assign_of_some hv]
  exact toNat_toUInt64_iff

theorem assign_same_iff {v : Option Int64} {old n : Int64} (hv : v = some n) :
    (assign v id old).toInt = n.toInt ↔ True := by
  rw [assign_of_some hv]
  exact iff_true_intro rfl

end Field

end ModuleNats
