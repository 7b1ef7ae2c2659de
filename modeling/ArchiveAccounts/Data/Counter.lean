/-!
# Counters

Numbers from 0 to 2^64-1 that stop at either end instead of wrapping. Each operation has a lemma
that gives its value as a natural number.
-/

namespace ArchiveAccounts
set_option autoImplicit false

/-- A 64-bit number that stands still at its ends. -/
abbrev Counter := UInt64

namespace Counter

/-- The greatest value. -/
def maxNat : Nat := 0xFFFFFFFFFFFFFFFF

/-- A natural number, or the greatest value if it is beyond. -/
def ofNatCapped (n : Nat) : Counter := .ofNat (min n maxNat)

/-- The sum, or the greatest value if it is beyond. -/
def plus (a b : Counter) : Counter := ofNatCapped (a.toNat + b.toNat)

/-- The product, or the greatest value if it is beyond. -/
def times (a : Counter) (n : Nat) : Counter := ofNatCapped (a.toNat * n)

/-- The difference, or zero if it is below. -/
def minus (a b : Counter) : Counter := ofNatCapped (a.toNat - b.toNat)

/-- The smaller one. -/
def least (a b : Counter) : Counter := ofNatCapped (min a.toNat b.toNat)

/-- Moved by a signed amount, as far as the ends allow. -/
def shift (a : Counter) (delta : Int) : Counter := ofNatCapped (a.toNat + delta).toNat

/-- The greatest value of a signed 64-bit number. -/
def maxSigned : Int := 0x7FFFFFFFFFFFFFFF

/-- The least value of a signed 64-bit number. -/
def minSigned : Int := -0x8000000000000000

/-- The nearest signed 64-bit number. -/
def clampSigned (i : Int) : Int := max minSigned (min i maxSigned)

/-- The value as a signed 64-bit number, or the greatest one if it is beyond. -/
def toSigned (a : Counter) : Int := min a.toNat maxSigned

/-- A signed number as a counter; zero where it is negative. -/
def ofSigned (i : Int) : Counter := ofNatCapped i.toNat

/-- Whether a counter is a signed 64-bit number. -/
def FitsSigned (a : Counter) : Prop := (a.toNat : Int) ≤ maxSigned

instance (a : Counter) : Decidable a.FitsSigned := inferInstanceAs (Decidable (_ ≤ _))

theorem toNat_le_maxNat (a : Counter) : a.toNat ≤ maxNat := by
  have := a.toNat_lt
  simp only [maxNat]
  omega

@[simp] theorem toNat_ofNatCapped (n : Nat) : (ofNatCapped n).toNat = min n maxNat := by
  simp only [ofNatCapped, UInt64.toNat_ofNat']
  exact Nat.mod_eq_of_lt (by simp only [maxNat]; omega)

@[simp] theorem ofNatCapped_toNat (a : Counter) : ofNatCapped a.toNat = a :=
  UInt64.toNat_inj.1 (by have := toNat_le_maxNat a; simp; omega)

@[simp] theorem toNat_plus (a b : Counter) : (plus a b).toNat = min (a.toNat + b.toNat) maxNat :=
  toNat_ofNatCapped _

theorem plus_ofNatCapped (n m : Nat) :
    plus (ofNatCapped n) (ofNatCapped m) = ofNatCapped (n + m) := by
  apply UInt64.toNat_inj.1
  simp only [toNat_plus, toNat_ofNatCapped]
  omega

@[simp] theorem toNat_times (a : Counter) (n : Nat) :
    (times a n).toNat = min (a.toNat * n) maxNat :=
  toNat_ofNatCapped _

@[simp] theorem toNat_minus (a b : Counter) : (minus a b).toNat = a.toNat - b.toNat := by
  have := toNat_le_maxNat a
  simp only [minus, toNat_ofNatCapped]
  omega

@[simp] theorem toNat_least (a b : Counter) : (least a b).toNat = min a.toNat b.toNat := by
  have := toNat_le_maxNat a
  simp only [least, toNat_ofNatCapped]
  omega

@[simp] theorem toNat_shift (a : Counter) (delta : Int) :
    (shift a delta).toNat = min (a.toNat + delta).toNat maxNat :=
  toNat_ofNatCapped _

theorem toNat_shift_neg (a : Counter) (n : Nat) : (shift a (-(n : Int))).toNat = a.toNat - n := by
  have := toNat_le_maxNat a
  rw [toNat_shift]
  omega

@[simp] theorem shift_zero (a : Counter) : shift a 0 = a := by
  apply UInt64.toNat_inj.1
  exact toNat_shift_neg a 0

theorem FitsSigned.toSigned_eq {a : Counter} (h : FitsSigned a) : toSigned a = a.toNat :=
  Int.min_eq_left h

@[simp] theorem ofSigned_toNat (a : Counter) : ofSigned a.toNat = a := by
  rw [ofSigned, Int.toNat_natCast, ofNatCapped_toNat]

@[simp] theorem toNat_eq_zero {a : Counter} : a.toNat = 0 ↔ a = 0 := by
  rw [← UInt64.toNat_inj]
  rfl

@[simp] theorem plus_zero (a : Counter) : plus a 0 = a := by
  apply UInt64.toNat_inj.1
  have := toNat_le_maxNat a
  rw [toNat_plus, UInt64.toNat_zero, Nat.add_zero, Nat.min_eq_left this]

@[simp] theorem minus_zero (a : Counter) : minus a 0 = a := by
  apply UInt64.toNat_inj.1
  rw [toNat_minus, UInt64.toNat_zero, Nat.sub_zero]

@[simp] theorem zero_least (a : Counter) : least 0 a = 0 := by
  apply UInt64.toNat_inj.1
  rw [toNat_least, UInt64.toNat_zero, Nat.zero_min]

end Counter

end ArchiveAccounts
