import ArchiveAccounts.Calendar.Rfc3339
import Mathlib.Algebra.Ring.Nat

/-!
# Timestamps that are read can be printed

The year of a date is the year of its day, and the four digits and the offset of a timestamp keep
within what can be written. Main statement: `Rfc3339.isPrintable_of_parse?`, every moment that a text
writes has a text.
-/

namespace ArchiveAccounts.Calendar
set_option autoImplicit false

open Text

/-! ## The year of a date -/

theorem daysBeforeYear_mono {a b : Int} (h : a ≤ b) : daysBeforeYear a ≤ daysBeforeYear b := by
  simp only [daysBeforeYear]
  omega

/-- A day is in a year or after it exactly if it is not before the start of the year. -/
theorem le_yearOfDay_iff {year day : Int} : year ≤ yearOfDay day ↔ daysBeforeYear year ≤ day := by
  obtain ⟨start, stop⟩ := daysBeforeYear_yearOfDay day
  constructor
  · intro notAfter
    exact Int.le_trans (daysBeforeYear_mono notAfter) start
  · intro started
    refine Int.not_lt.1 fun after => ?_
    have := daysBeforeYear_mono (show yearOfDay day + 1 ≤ year from after)
    omega

/-- Only one year holds a day. -/
theorem yearOfDay_eq {day year : Int} (start : daysBeforeYear year ≤ day)
    (stop : day < daysBeforeYear (year + 1)) : yearOfDay day = year := by
  have notBefore := le_yearOfDay_iff.2 start
  have notAfter := le_yearOfDay_iff.not.2 (Int.not_le.2 stop)
  omega

theorem totalLength_append (s t : List Nat) :
    totalLength (s ++ t) = totalLength s + totalLength t := by
  induction s with
  | nil => exact (Nat.zero_add _).symm
  | cons length s ih => rw [List.cons_append, totalLength, totalLength, ih, Nat.add_assoc]

/-- The months up to one are those before it and that one. -/
theorem totalLength_take_succ {lengths : List Nat} {month length : Nat}
    (isThere : lengths[month]? = some length) :
    totalLength (lengths.take (month + 1)) = totalLength (lengths.take month) + length := by
  rw [List.take_add_one, isThere, totalLength_append]
  rfl

/-- A month and those before it are no longer than all. -/
theorem totalLength_take_add_le {lengths : List Nat} {month length : Nat}
    (isThere : lengths[month]? = some length) :
    totalLength (lengths.take month) + length ≤ totalLength lengths := by
  have whole := totalLength_append (lengths.take (month + 1)) (lengths.drop (month + 1))
  rw [List.take_append_drop, totalLength_take_succ isThere] at whole
  omega

/-- The day of a date of the calendar is in the year of the date. -/
theorem Date.year_ofDay_toDay {d : Date} (valid : d.isValid = true) :
    (Date.ofDay d.toDay).year = d.year := by
  simp only [isValid, Bool.and_eq_true, decide_eq_true_eq] at valid
  obtain ⟨fromOne, inMonth⟩ := valid
  rw [daysInMonth] at inMonth
  split at inMonth
  · omega
  · cases isThere : (monthLengths (isLeap d.year))[d.month - 1]? with
    | none =>
      rw [isThere, Option.getD_none] at inMonth
      omega
    | some length =>
      rw [isThere, Option.getD_some] at inMonth
      have inYear := totalLength_take_add_le isThere
      apply yearOfDay_eq
      · rw [toDay]
        omega
      · rw [toDay, daysBeforeYear_succ]
        omega

/-! ## What is read -/

namespace Rfc3339

theorem digit?_lt {c : Char} {d : Nat} (h : Decimal.digit? c = some d) : d < 10 := by
  rw [Decimal.digit?] at h
  split at h
  · next isDigit =>
    obtain rfl := Option.some.inj h
    rw [Char.isDigit_iff_toNat] at isDigit
    have range : '9'.toNat = '0'.toNat + 9 := rfl
    omega
  · cases h

/-- A number of so many digits more. -/
theorem digits?_lt {n count m : Nat} {s rest : List Char} (h : digits? n count s = some (m, rest)) :
    m < (n + 1) * 10 ^ count := by
  induction count generalizing n s with
  | zero =>
    obtain ⟨rfl, rfl⟩ := Prod.mk.inj (Option.some.inj h)
    omega
  | succ count ih =>
    cases s with
    | nil => cases h
    | cons c s =>
      obtain ⟨d, digit, h⟩ := Option.bind_eq_some_iff.1 h
      have small := digit?_lt digit
      calc m < (n * 10 + d + 1) * 10 ^ count := ih h
        _ ≤ ((n + 1) * 10) * 10 ^ count := Nat.mul_le_mul_right _ (by omega)
        _ = (n + 1) * 10 ^ (count + 1) := by rw [Nat.pow_succ', Nat.mul_assoc]

/-- A date that is read has a year of four digits. -/
theorem year_of_date? {s rest : List Char} {date : Date} (h : date? s = some (date, rest)) :
    0 ≤ date.year ∧ date.year ≤ 9999 := by
  obtain ⟨⟨year, s⟩, yearRead, h⟩ := Option.bind_eq_some_iff.1 h
  obtain ⟨s, _, h⟩ := Option.bind_eq_some_iff.1 h
  obtain ⟨⟨month, s⟩, _, h⟩ := Option.bind_eq_some_iff.1 h
  obtain ⟨s, _, h⟩ := Option.bind_eq_some_iff.1 h
  obtain ⟨⟨day, s⟩, _, h⟩ := Option.bind_eq_some_iff.1 h
  obtain ⟨rfl, rfl⟩ := Prod.mk.inj (Option.some.inj h)
  have fourDigits := digits?_lt yearRead
  dsimp only
  omega

/-- Hours and minutes that are read after a sign are whole minutes below a day. -/
theorem bounds_of_signed {signum : Int} (sign : signum = 1 ∨ signum = -1) {s : List Char}
    {offset : Int}
    (h : (do
      let (hours, rest) ← digits? 0 2 s
      let rest ← expect? ':' rest
      let (minutes, rest) ← digits? 0 2 rest
      if rest.isEmpty && decide (hours ≤ 23) && decide (minutes ≤ 59) then
        some (signum * ((hours * 60 + minutes) * 60))
      else none) = some offset) : offset.natAbs < 86400 ∧ offset % 60 = 0 := by
  obtain ⟨⟨hours, s⟩, _, h⟩ := Option.bind_eq_some_iff.1 h
  obtain ⟨s, _, h⟩ := Option.bind_eq_some_iff.1 h
  obtain ⟨⟨minutes, s⟩, _, h⟩ := Option.bind_eq_some_iff.1 h
  dsimp only at h
  split at h
  · next inRange =>
    obtain rfl := Option.some.inj h
    simp only [Bool.and_eq_true, decide_eq_true_eq] at inRange
    rcases sign with rfl | rfl <;> omega
  · cases h

theorem bounds_of_zone? {s : List Char} {offset : Int} (h : zone? s = some offset) :
    offset.natAbs < 86400 ∧ offset % 60 = 0 := by
  unfold zone? at h
  split at h
  · split at h
    · obtain rfl := Option.some.inj h
      decide
    · cases h
  · dsimp only at h
    split at h
    · exact bounds_of_signed (.inl rfl) h
    · split at h
      · exact bounds_of_signed (.inr rfl) h
      · cases h
  · cases h

/-- What a text writes: a date of the calendar, a second of the day and an offset. -/
theorem shown_of_parse? {text : String} {m : Moment} (h : parse? text = some m) :
    ∃ (date : Date) (secondOfDay : Nat), date.isValid = true ∧ (0 ≤ date.year ∧ date.year ≤ 9999) ∧
      secondOfDay < 86400 ∧ (m.offset.natAbs < 86400 ∧ m.offset % 60 = 0) ∧
      m.shown = date.toDay * 86400 + secondOfDay := by
  obtain ⟨⟨date, s⟩, dateRead, h⟩ := Option.bind_eq_some_iff.1 h
  cases s with
  | nil => cases h
  | cons separator s =>
    dsimp only at h
    split at h
    · obtain ⟨s, _, h⟩ := Option.bind_eq_some_iff.1 h
      obtain ⟨⟨⟨hour, minute, second⟩, s⟩, _, h⟩ := Option.bind_eq_some_iff.1 h
      obtain ⟨⟨nanos, s⟩, _, h⟩ := Option.bind_eq_some_iff.1 h
      obtain ⟨offset, offsetRead, h⟩ := Option.bind_eq_some_iff.1 h
      dsimp only at h
      split at h
      · next inCalendar =>
        simp only [Bool.and_eq_true, decide_eq_true_eq] at inCalendar
        obtain ⟨⟨⟨valid, hours⟩, minutes⟩, seconds⟩ := inCalendar
        generalize (if (second == 60) = true then 999999999 else nanos) = nanos at h
        split at h
        · cases h
        · split at h
          · obtain rfl := Option.some.inj h
            refine ⟨date, hour * 3600 + minute * 60 + min second 59, valid,
              year_of_date? dateRead, by omega, bounds_of_zone? offsetRead, ?_⟩
            simp only [Moment.shown]
            omega
          · cases h
      · cases h
    · cases h

/-- Every moment that a text writes has a text. -/
theorem isPrintable_of_parse? {text : String} {m : Moment} (h : parse? text = some m) :
    isPrintable m = true := by
  obtain ⟨date, secondOfDay, valid, ⟨fromZero, fourDigits⟩, inDay, ⟨short, whole⟩, shown⟩ :=
    shown_of_parse? h
  have day : m.shown / 86400 = date.toDay := by omega
  have year : m.date.year = date.year := by
    rw [Moment.date, day]
    exact Date.year_ofDay_toDay valid
  simp only [isPrintable, year, Bool.and_eq_true, decide_eq_true_eq]
  exact ⟨⟨⟨fromZero, fourDigits⟩, short⟩, whole⟩

end Rfc3339

end ArchiveAccounts.Calendar
