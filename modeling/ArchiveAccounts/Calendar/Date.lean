/-!
# Calendar dates

The proleptic Gregorian calendar: days counted from 1970-01-01 and the year, month and day that
each one is. Main statement: `Date.ofDay_spec`, every day has a date in the calendar, which is on
that day.
-/

namespace ArchiveAccounts.Calendar
set_option autoImplicit false

/-- Whether a year has a 29th of February. -/
def isLeap (year : Int) : Bool :=
  decide (year % 4 = 0) && (!decide (year % 100 = 0) || decide (year % 400 = 0))

/-- The days from 1970-01-01 to the first day of a year. -/
def daysBeforeYear (year : Int) : Int :=
  365 * (year - 1970) + (year - 1) / 4 - (year - 1) / 100 + (year - 1) / 400 - 477

/-- The year that holds a day: an estimate from the mean length of a year, set right by one. -/
def yearOfDay (day : Int) : Int :=
  let guess := 1970 + 400 * day / 146097
  if day < daysBeforeYear guess then guess - 1
  else if daysBeforeYear (guess + 1) ≤ day then guess + 1
  else guess

/-- The lengths of the months of a year. -/
def monthLengths (leap : Bool) : List Nat :=
  [31, if leap then 29 else 28, 31, 30, 31, 30, 31, 31, 30, 31, 30, 31]

/-- The month and the day in it, both from zero, of a day of the months given. -/
def monthOfDay (day : Nat) : List Nat → Nat × Nat
  | [] => (0, day)
  | length :: rest =>
    if day < length then (0, day)
    else
      let (month, inMonth) := monthOfDay (day - length) rest
      (month + 1, inMonth)

/-- The length of several months. -/
def totalLength : List Nat → Nat
  | [] => 0
  | length :: rest => length + totalLength rest

/-- A year, a month from 1 to 12 and a day of the month from 1 on. -/
structure Date where
  year : Int
  month : Nat
  day : Nat
  deriving DecidableEq, Repr

/-- The length of a month of a year; 0 where there is no such month. -/
def daysInMonth (year : Int) (month : Nat) : Nat :=
  if month = 0 then 0 else (monthLengths (isLeap year))[month - 1]?.getD 0

/-- Whether the calendar has the date. -/
def Date.isValid (d : Date) : Bool :=
  decide (1 ≤ d.day) && decide (d.day ≤ daysInMonth d.year d.month)

/-- The date of the day that is `day` days after 1970-01-01. -/
def Date.ofDay (day : Int) : Date :=
  let year := yearOfDay day
  let (month, inMonth) := monthOfDay (day - daysBeforeYear year).toNat (monthLengths (isLeap year))
  ⟨year, month + 1, inMonth + 1⟩

/-- How many days after 1970-01-01 a date is. -/
def Date.toDay (d : Date) : Int :=
  daysBeforeYear d.year + totalLength ((monthLengths (isLeap d.year)).take (d.month - 1))
    + d.day - 1

theorem daysBeforeYear_succ (year : Int) :
    daysBeforeYear (year + 1) = daysBeforeYear year + totalLength (monthLengths (isLeap year)) := by
  have h : (totalLength (monthLengths (isLeap year)) : Int) = if isLeap year then 366 else 365 := by
    cases isLeap year <;> rfl
  rw [h]
  simp only [daysBeforeYear, isLeap, Bool.and_eq_true, Bool.or_eq_true, Bool.not_eq_true',
    decide_eq_true_eq, decide_eq_false_iff_not]
  split <;> omega

/-- The year of a day holds it. -/
theorem daysBeforeYear_yearOfDay (day : Int) :
    daysBeforeYear (yearOfDay day) ≤ day ∧ day < daysBeforeYear (yearOfDay day + 1) := by
  simp only [yearOfDay]
  generalize hg : 1970 + 400 * day / 146097 = guess
  split
  · rename_i h
    rw [show guess - 1 + 1 = guess by omega]
    refine ⟨?_, h⟩
    simp only [daysBeforeYear] at *
    omega
  · split
    · rename_i h
      refine ⟨h, ?_⟩
      simp only [daysBeforeYear] at *
      omega
    · omega

/-- A day of a year is in one of its months, after all days of the months before. -/
theorem monthOfDay_spec (lengths : List Nat) (day : Nat) (h : day < totalLength lengths) :
    ∃ length, lengths[(monthOfDay day lengths).1]? = some length ∧
      (monthOfDay day lengths).2 < length ∧
      totalLength (lengths.take (monthOfDay day lengths).1) + (monthOfDay day lengths).2 = day := by
  induction lengths generalizing day with
  | nil => exact absurd h (Nat.not_lt_zero day)
  | cons first rest ih =>
    rw [monthOfDay]
    split
    · next inside => exact ⟨first, rfl, inside, Nat.zero_add day⟩
    · next later =>
      rw [totalLength] at h
      obtain ⟨length, isThere, inside, sum⟩ := ih (day - first) (by omega)
      refine ⟨length, isThere, inside, ?_⟩
      simp only [List.take_succ_cons, totalLength]
      omega

theorem length_monthLengths (leap : Bool) : (monthLengths leap).length = 12 := rfl

theorem le_of_mem_monthLengths {leap : Bool} {length : Nat} (h : length ∈ monthLengths leap) :
    length ≤ 31 := by
  revert length
  cases leap <;> decide

namespace Date

/-- What `ofDay` gives: a date of the calendar, on that day. -/
theorem ofDay_spec (day : Int) :
    (ofDay day).isValid = true ∧ (ofDay day).toDay = day ∧ (ofDay day).month ≤ 12 ∧
      (ofDay day).day ≤ 31 := by
  obtain ⟨start, stop⟩ := daysBeforeYear_yearOfDay day
  rw [daysBeforeYear_succ] at stop
  obtain ⟨length, isThere, inside, sum⟩ :=
    monthOfDay_spec (monthLengths (isLeap (yearOfDay day)))
      (day - daysBeforeYear (yearOfDay day)).toNat (by omega)
  obtain ⟨month, _⟩ := List.getElem?_eq_some_iff.1 isThere
  rw [length_monthLengths] at month
  have short := le_of_mem_monthLengths (List.mem_of_getElem? isThere)
  refine ⟨?_, ?_, ?_, ?_⟩
  · have days : daysInMonth (ofDay day).year (ofDay day).month = length := by
      show (monthLengths _)[_]?.getD 0 = length
      exact congrArg (Option.getD · 0) isThere
    simp only [isValid, days, Bool.and_eq_true, decide_eq_true_eq]
    simp only [ofDay]
    omega
  · simp only [toDay, ofDay, Nat.add_one_sub_one]
    omega
  · simp only [ofDay]
    omega
  · simp only [ofDay]
    omega

end Date

end ArchiveAccounts.Calendar
