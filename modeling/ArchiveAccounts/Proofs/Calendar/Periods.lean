import ArchiveAccounts.Proofs.Calendar.Months
import ArchiveAccounts.Proofs.Calendar.RoundTrip
import ArchiveAccounts.Proofs.Text.ByteOrder

/-!
# Keys of periods

Moments have the same period exactly if they are in the same month, at whatever offsets they are
shown, and with years of four digits the bytes of the keys are in the order of the months. Main
statement: `period_identifiesMonth`.
-/

namespace ArchiveAccounts
set_option autoImplicit false

namespace Text.Decimal

theorem digit_lt_digit : ∀ n < 10, ∀ m < n, digit m < digit n := by decide

theorem padded_inj {width m n : Nat} (same : padded width m = padded width n) : m = n := by
  have read := numberFrom?_padded width m
  rw [same, numberFrom?_padded] at read
  exact (Option.some.inj read).symm

theorem digits_of_lt {n : Nat} (small : n < 10) : digits n = [digit n] := by
  rw [digits, if_pos small]

/-- A padded number is its last digit after the padded rest. -/
theorem padded_succ (width n : Nat) :
    padded (width + 2) n = padded (width + 1) (n / 10) ++ [digit (n % 10)] := by
  by_cases small : n < 10
  · have zero : digits 0 = ['0'] := digits_of_lt (by decide)
    rw [Nat.div_eq_of_lt small, Nat.mod_eq_of_lt small, padded, padded, digits_of_lt small, zero]
    exact congrArg (· ++ _) List.replicate_succ'
  · have whole : digits n = digits (n / 10) ++ [digit (n % 10)] := by rw [digits, if_neg small]
    rw [padded, padded, whole, List.append_assoc, List.length_append, List.length_singleton,
      Nat.add_sub_add_right (width + 1) 1]

/-- Numbers of the same width are in the order of their characters, whatever follows. -/
theorem padded_lt_padded {width m n : Nat} (less : m < n) (fits : n < 10 ^ (width + 1))
    (s t : List Char) : padded (width + 1) m ++ s < padded (width + 1) n ++ t := by
  induction width generalizing m n s t with
  | zero =>
    have small : n < 10 := by simpa using fits
    rw [padded, padded, digits_of_lt small, digits_of_lt (Nat.lt_trans less small)]
    exact .rel (digit_lt_digit n small m less)
  | succ width ih =>
    rw [padded_succ, padded_succ, List.append_assoc, List.append_assoc]
    -- The digits before the last one decide, unless they are the same.
    by_cases high : m / 10 < n / 10
    · exact ih high (by rw [Nat.pow_succ] at fits; omega) _ _
    · rw [show m / 10 = n / 10 by omega]
      exact List.append_left_lt
        (.rel (digit_lt_digit (n % 10) (Nat.mod_lt n (by decide)) (m % 10) (by omega)))

end Text.Decimal

namespace Calendar

open Text

/-! ## Years -/

namespace Moment

theorem periodYear_ne_of_neg {y z : Int} (negative : y < 0) (notNegative : ¬z < 0) :
    periodYear y ≠ periodYear z := by
  rw [periodYear, periodYear, if_pos negative, if_neg notNegative]
  intro same
  have sign : '-' ∈ Decimal.padded 4 z.natAbs := same ▸ List.mem_cons_self
  exact absurd (Decimal.isDigit_of_mem_padded sign) (by decide)

/-- A year is read from its characters: from the sign, and from the digits after it. -/
theorem periodYear_inj {y z : Int} (same : periodYear y = periodYear z) : y = z := by
  by_cases negative : y < 0
  · by_cases negativeToo : z < 0
    · rw [periodYear, periodYear, if_pos negative, if_pos negativeToo] at same
      have := Decimal.padded_inj (List.cons.inj same).2
      omega
    · exact absurd same (periodYear_ne_of_neg negative negativeToo)
  · by_cases negativeToo : z < 0
    · exact absurd same.symm (periodYear_ne_of_neg negativeToo negative)
    · rw [periodYear, periodYear, if_neg negative, if_neg negativeToo] at same
      have := Decimal.padded_inj same
      omega

end Moment

/-- Whether a year is written in four digits. -/
def IsFourDigit (year : Int) : Prop := 0 ≤ year ∧ year ≤ 9999

/-! ## The key of a month -/

namespace Month

/-- The key of a month. -/
def key (month : Month) : List Char :=
  Moment.periodYear month.year ++ '-' :: Decimal.padded 2 month.number

theorem length_padded_number (month : Month) : (Decimal.padded 2 month.number).length = 2 :=
  Decimal.length_padded (Nat.lt_of_le_of_lt month.toTwelve (by decide))

/-- A key is that of one month: the number of the month takes up the last two characters. -/
theorem key_inj {p q : Month} (same : p.key = q.key) : p = q := by
  obtain ⟨year, number⟩ := List.append_inj' same
    (by rw [List.length_cons, List.length_cons, length_padded_number, length_padded_number])
  exact Month.ext (Moment.periodYear_inj year) (Decimal.padded_inj (List.cons.inj number).2)

/-- Keys with years of four digits are in the order of the months. -/
theorem key_lt_key {p q : Month} (yearOfP : IsFourDigit p.year) (yearOfQ : IsFourDigit q.year)
    (before : p.index < q.index) : p.key < q.key := by
  obtain ⟨notNegative, _⟩ := yearOfP
  obtain ⟨notNegativeToo, fourDigits⟩ := yearOfQ
  have := p.fromOne
  have := q.toTwelve
  simp only [index] at before
  rw [key, key, Moment.periodYear, Moment.periodYear, if_neg (Int.not_lt.2 notNegative),
    if_neg (Int.not_lt.2 notNegativeToo)]
  by_cases earlier : p.year < q.year
  · exact Decimal.padded_lt_padded (by omega) (by omega) _ _
  · rw [show p.year = q.year by omega]
    have number : Decimal.padded 2 p.number ++ [] < Decimal.padded 2 q.number ++ [] :=
      Decimal.padded_lt_padded (by omega) (by omega) [] []
    rw [List.append_nil, List.append_nil] at number
    exact List.append_left_lt (.cons number)

end Month

/-! ## Periods -/

theorem toList_period (m : Moment) : m.period.toList = m.utcMonth.key := String.toList_ofList

theorem period_eq_iff {a b : Moment} : a.period = b.period ↔ a.utcMonth = b.utcMonth := by
  rw [← String.toList_inj, toList_period, toList_period]
  exact ⟨Month.key_inj, congrArg Month.key⟩

section Order

variable {a b : Moment} (yearOfA : IsFourDigit a.utcMonth.year)
  (yearOfB : IsFourDigit b.utcMonth.year)

include yearOfA yearOfB

theorem bytes_period_lt (before : a.utcMonth.index < b.utcMonth.index) :
    Utf8.bytes a.period < Utf8.bytes b.period := by
  rw [Utf8.bytes, Utf8.bytes, toList_period, toList_period]
  exact Utf8.encode_lt (Month.key_lt_key yearOfA yearOfB before)

theorem bytes_period_lt_iff : Utf8.bytes a.period < Utf8.bytes b.period
    ↔ a.utcMonth.index < b.utcMonth.index := by
  constructor
  · intro less
    rcases Int.lt_trichotomy a.utcMonth.index b.utcMonth.index with before | same | after
    · exact before
    · rw [period_eq_iff.2 (Month.index_inj.1 same)] at less
      exact absurd less (List.lt_irrefl _)
    · exact absurd less (List.lt_asymm (bytes_period_lt yearOfB yearOfA after))
  · exact bytes_period_lt yearOfA yearOfB

end Order

/-- Each moment is in one month of the calendar in UTC, and the moments that can be given a period
are those of the years from -9999 to 9999. Two moments, at whatever offsets they are shown, have the
same period exactly if they are in the same month. With years of four digits the bytes of the
periods are in the order in which the months follow one another, so that the period of a moment is
never above that of a later one. -/
theorem period_identifiesMonth :
    (∀ m : Moment, ∃! month, m.IsIn month) ∧
    (∀ (m : Moment) (month : Month), m.IsIn month →
      (m.isInUtcCalendar = true ↔ -9999 ≤ month.year ∧ month.year ≤ 9999)) ∧
    ∀ (a b : Moment) (p q : Month), a.IsIn p → b.IsIn q →
      (a.period = b.period ↔ p = q) ∧
      (IsFourDigit p.year → IsFourDigit q.year →
        (Utf8.bytes a.period < Utf8.bytes b.period ↔ p.Precedes q) ∧
        (a.instant ≤ b.instant → Utf8.bytes a.period ≤ Utf8.bytes b.period)) := by
  refine ⟨?_, ?_, ?_⟩
  · intro m
    exact ⟨m.utcMonth, m.isIn_utcMonth, fun month inMonth => Moment.isIn_iff.1 inMonth⟩
  · intro m month inMonth
    rw [Moment.isIn_iff.1 inMonth]
    exact m.isInUtcCalendar_iff
  · intro a b p q inP inQ
    obtain rfl := Moment.isIn_iff.1 inP
    obtain rfl := Moment.isIn_iff.1 inQ
    refine ⟨period_eq_iff, fun yearOfA yearOfB => ⟨?_, ?_⟩⟩
    · rw [Month.precedes_iff]
      exact bytes_period_lt_iff yearOfA yearOfB
    · intro notLater
      rw [← List.not_lt, bytes_period_lt_iff yearOfB yearOfA, ← Month.precedes_iff]
      intro precedes
      exact absurd (precedes b a inQ inP) (Int.not_lt.2 notLater)

/-- The last moment of a leap year's February and the next one, each seen where the date is already,
or still, in the other month. -/
theorem period_identifiesMonth_leapDay :
    let february : Month := { year := 2024, number := 2 }
    let march : Month := { year := 2024, number := 3 }
    let a : Moment := { seconds := 1709251199, nanos := 999999999, offset := 19800 }
    let b : Moment := { seconds := 1709251200, offset := -3600 }
    a.date = ⟨2024, 3, 1⟩ ∧ b.date = ⟨2024, 2, 29⟩ ∧ a.period = "2024-02" ∧ b.period = "2024-03" ∧
      a.IsIn february ∧ b.IsIn march ∧ IsFourDigit february.year ∧ IsFourDigit march.year ∧
      a.instant ≤ b.instant ∧
      (a.isInUtcCalendar = true ↔ -9999 ≤ february.year ∧ february.year ≤ 9999) ∧
      (a.period = b.period ↔ february = march) ∧
      (Utf8.bytes a.period < Utf8.bytes b.period ↔ february.Precedes march) ∧
      Utf8.bytes a.period ≤ Utf8.bytes b.period := by
  intro february march a b
  have inFebruary : a.IsIn february := Moment.isIn_iff.2 (by decide)
  have inMarch : b.IsIn march := Moment.isIn_iff.2 (by decide)
  have fourDigits : IsFourDigit 2024 := ⟨by decide, by decide⟩
  have notLater : a.instant ≤ b.instant := by decide
  obtain ⟨_, dated, keys⟩ := period_identifiesMonth
  obtain ⟨same, ordered⟩ := keys a b february march inFebruary inMarch
  obtain ⟨order, monotone⟩ := ordered fourDigits fourDigits
  exact ⟨by decide, by decide, by decide +kernel, by decide +kernel, inFebruary, inMarch, fourDigits,
    fourDigits, notLater, dated a february inFebruary, same, order, monotone notLater⟩

end Calendar

end ArchiveAccounts
