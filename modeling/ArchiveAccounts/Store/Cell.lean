import ArchiveAccounts.Data.Counter

/-!
# Cells of a numeric column

A column of signed 64-bit numbers. A sum beyond them is kept as the nearest double, which is a whole
number there; a double that fits turns into a number again when it is stored.
-/

namespace ArchiveAccounts
set_option autoImplicit false

/-- The content of a cell. -/
inductive Cell where
  | integer (value : Int)
  /-- A double beyond the signed 64-bit numbers. -/
  | real (value : Int)
  deriving DecidableEq, Repr

namespace Cell

/-- The bits of a double's significand. -/
def significandBits : Nat := 53

/-- The nearest whole number of 53 significant bits; a half goes to the even neighbour. -/
def roundNat (n : Nat) : Nat :=
  let unit := 1 <<< (n.log2 + 1 - significandBits)
  let quotient := n / unit
  let twice := 2 * (n % unit)
  (if unit < twice ∨ (unit = twice ∧ quotient % 2 = 1) then quotient + 1 else quotient) * unit

/-- The nearest double of a whole number. -/
def round (i : Int) : Int := if i < 0 then -roundNat i.natAbs else roundNat i.natAbs

/-- Whether a number has 64 bits with its sign. -/
def fits (i : Int) : Bool :=
  decide (Counter.minSigned ≤ i) && decide (i ≤ Counter.maxSigned)

/-- A cell that is given a double. -/
def ofReal (value : Int) : Cell :=
  if Counter.minSigned < value ∧ value ≤ Counter.maxSigned then integer value else real value

/-- A cell that is given a counter; beyond the signed numbers it holds the greatest of them. -/
def ofCounter (n : Counter) : Cell := integer n.toSigned

/-- The counter in a cell, if it is no double. -/
def counter? : Cell → Option Counter
  | integer value => some (Counter.ofSigned value)
  | real _ => none

/-- The cell after a signed number was added to it. -/
def plus (cell : Cell) (i : Int) : Cell :=
  match cell with
  | integer value =>
    if fits (value + i) then integer (value + i) else ofReal (round (round value + round i))
  | real value => ofReal (round (value + round i))

/-- The cell, or zero if it is below. -/
def floored : Cell → Cell
  | integer value => integer (max 0 value)
  | real value => if value < 0 then integer 0 else real value

@[simp] theorem counter?_ofCounter (n : Counter) :
    (ofCounter n).counter? = some (.ofSigned n.toSigned) :=
  rfl

/-- A signed counter is read back. -/
theorem counter?_ofCounter_of_fits {n : Counter} (h : n.FitsSigned) :
    (ofCounter n).counter? = some n := by
  rw [counter?_ofCounter, h.toSigned_eq, Counter.ofSigned_toNat]

theorem fits_iff {i : Int} : fits i = true ↔ Counter.minSigned ≤ i ∧ i ≤ Counter.maxSigned := by
  simp only [fits, Bool.and_eq_true, decide_eq_true_eq]

/-- A sum of signed numbers that is a signed counter. -/
theorem ofCounter_plus {n sum : Counter} {i : Int} (h : n.FitsSigned) (fitsSum : sum.FitsSigned)
    (same : n.toNat + i = sum.toNat) : (ofCounter n).plus i = ofCounter sum := by
  have fitsHere : fits (n.toSigned + i) = true := by
    rw [h.toSigned_eq, same, fits_iff]
    exact ⟨by simp only [Counter.minSigned]; omega, fitsSum⟩
  rw [ofCounter, plus, if_pos fitsHere, ofCounter, h.toSigned_eq, fitsSum.toSigned_eq, same]

/-- A signed counter moved by a signed amount, not below zero. -/
theorem floored_ofCounter_plus {n : Counter} {delta : Int} (h : n.FitsSigned)
    (fitsDelta : fits delta = true) (fitsAfter : (Counter.shift n delta).FitsSigned) :
    ((ofCounter n).plus delta).floored = ofCounter (Counter.shift n delta) := by
  rw [fits_iff] at fitsDelta
  have bound : ((Counter.shift n delta).toNat : Int) ≤ Counter.maxSigned := fitsAfter
  rw [Counter.toNat_shift] at bound
  simp only [Counter.minSigned, Counter.maxSigned, Counter.maxNat] at fitsDelta bound
  have fitsHere : fits (n.toSigned + delta) = true := by
    rw [h.toSigned_eq, fits_iff]
    simp only [Counter.minSigned, Counter.maxSigned]
    omega
  rw [ofCounter, plus, if_pos fitsHere, floored, ofCounter, fitsAfter.toSigned_eq, h.toSigned_eq,
    Counter.toNat_shift]
  congr 1
  simp only [Counter.maxNat]
  omega

end Cell

end ArchiveAccounts
