import Mathlib.Data.Int.Notation
import Mathlib.Tactic.Common

set_option autoImplicit false

/-! # Dates and nanoseconds

The C client counts nanoseconds since the epoch in 64 bits; a Qore date has seconds and
microseconds. An absolute date is the same date in every time zone, so the zone is left out.
`ofNs_toNs_iff` says which dates come back after both conversions. -/

namespace ModuleNats

/-! ## The quotients of a non-negative number -/

theorem toInt_div_thousand {n : Int64} (h : 0 ≤ n.toInt) : (n / 1000).toInt = n.toInt / 1000 := by
  rw [Int64.toInt_div_of_ne_right _ _ (by decide), Int.tdiv_eq_ediv_of_nonneg h]
  rfl

theorem toInt_div_million {n : Int64} (h : 0 ≤ n.toInt) :
    (n / 1000000).toInt = n.toInt / 1000000 := by
  rw [Int64.toInt_div_of_ne_right _ _ (by decide), Int.tdiv_eq_ediv_of_nonneg h]
  rfl

theorem toInt_mod_million {n : Int64} (h : 0 ≤ n.toInt) :
    (n % 1000000).toInt = n.toInt % 1000000 := by
  rw [Int64.toInt_mod, Int.tmod_eq_emod_of_nonneg h]
  rfl

/-! ## Dates -/

/-- An absolute `DateTimeNode`. -/
@[ext] structure DateTimeNode where
  epochSeconds : Int64
  microsecond : Int64
  inRange : 0 ≤ microsecond.toInt ∧ microsecond.toInt < 1000000
deriving DecidableEq

namespace DateTimeNode

/-- `getEpochSecondsUTC() * 1000000000LL + getMicrosecond() * 1000LL` -/
def toNs (d : DateTimeNode) : Int64 := d.epochSeconds * 1000000000 + d.microsecond * 1000

/-- The nanoseconds since the epoch, in integers without a bound. -/
def exactNs (d : DateTimeNode) : ℤ := d.epochSeconds.toInt * 1000000000 + d.microsecond.toInt * 1000

theorem div_thousand_nonneg {ns : Int64} (h : 0 < ns.toInt) : 0 ≤ (ns / 1000).toInt := by
  rw [toInt_div_thousand (Int.le_of_lt h)]
  omega

/-- `makeAbsolute(currentTZ(), us / 1000000, (int)(us % 1000000))` for the microseconds of a
    positive number of nanoseconds. -/
def ofNs (ns : Int64) (h : 0 < ns.toInt) : DateTimeNode where
  epochSeconds := ns / 1000 / 1000000
  microsecond := ns / 1000 % 1000000
  inRange := by
    rw [toInt_mod_million (div_thousand_nonneg h)]
    omega

theorem ofNs_spec {ns : Int64} (h : 0 < ns.toInt) :
    (ofNs ns h).epochSeconds.toInt = ns.toInt / 1000 / 1000000 ∧
      (ofNs ns h).microsecond.toInt = ns.toInt / 1000 % 1000000 := by
  have hus : (ns / 1000).toInt = ns.toInt / 1000 := toInt_div_thousand (Int.le_of_lt h)
  have hpos : 0 ≤ (ns / 1000).toInt := div_thousand_nonneg h
  rw [← hus]
  exact ⟨toInt_div_million hpos, toInt_mod_million hpos⟩

/-- The date of a number of nanoseconds is the one with as many whole microseconds. -/
theorem ofNs_eq_iff {ns : Int64} {h : 0 < ns.toInt} {d : DateTimeNode} :
    ofNs ns h = d ↔ d.exactNs ≤ ns.toInt ∧ ns.toInt < d.exactNs + 1000 := by
  obtain ⟨hseconds, hmicros⟩ := ofNs_spec h
  have hrange := d.inRange
  rw [DateTimeNode.ext_iff, ← Int64.toInt_inj, ← Int64.toInt_inj, hseconds, hmicros, exactNs]
  constructor
  · rintro ⟨hs, hm⟩
    omega
  · rintro ⟨hle, hlt⟩
    omega

/-- Modulo `2 ^ 64`, the code's number of nanoseconds is the exact one. -/
theorem toInt_toNs (d : DateTimeNode) :
    d.toNs.toInt = Int.bmod d.exactNs 18446744073709551616 := by
  have hbillion : Int64.toInt 1000000000 = 1000000000 := by decide
  have hthousand : Int64.toInt 1000 = 1000 := by decide
  rw [toNs, exactNs, Int64.toInt_add, Int64.toInt_mul, Int64.toInt_mul, hbillion, hthousand,
    Int.bmod_add_bmod, Int.add_bmod_bmod]

/-! ## The round trip -/

/-- The date is after the epoch, and its nanoseconds fit in `int64`. -/
def Representable (d : DateTimeNode) : Prop := 0 < d.exactNs ∧ d.exactNs ≤ 9223372036854775807

instance (d : DateTimeNode) : Decidable d.Representable :=
  inferInstanceAs (Decidable (_ ∧ _))

/-- A date comes back from its nanoseconds if and only if it is representable. -/
theorem ofNs_toNs_iff {d : DateTimeNode} :
    (∃ h : 0 < d.toNs.toInt, ofNs d.toNs h = d) ↔ d.Representable := by
  have hns : d.toNs.toInt = Int.bmod d.exactNs 18446744073709551616 := d.toInt_toNs
  constructor
  · rintro ⟨hpos, hback⟩
    obtain ⟨hle, hlt⟩ := ofNs_eq_iff.1 hback
    have hmax : d.toNs.toInt ≤ 9223372036854775807 := Int64.toInt_le _
    -- both numbers are in the same thousand, so they cannot be 2 ^ 64 apart
    have hsame : d.toNs.toInt = d.exactNs := by
      rw [Int.bmod_def] at hns
      split at hns <;> omega
    exact ⟨hsame ▸ hpos, hsame ▸ hmax⟩
  · rintro ⟨hpos, hmax⟩
    have hsame : d.toNs.toInt = d.exactNs := by
      rw [hns]
      exact Int.bmod_eq_of_le (by omega) (by omega)
    exact ⟨hsame ▸ hpos, ofNs_eq_iff.2 (by omega)⟩

end DateTimeNode

end ModuleNats
