import ArchiveAccounts.Calendar.Date
import ArchiveAccounts.Text.Decimal

/-!
# Moments

A point in time as a clock at some distance from UTC shows it. Moments are compared as points in
time; the offset only decides how one is written. The calendar ends with the year 9999 on either
side, as the clock at the moment's own offset shows it.
-/

namespace ArchiveAccounts.Calendar
set_option autoImplicit false

/-- A point in time and the offset at which it is shown. -/
structure Moment where
  /-- Whole seconds since 1970-01-01T00:00:00Z. -/
  seconds : Int
  /-- Nanoseconds after that second. -/
  nanos : Nat := 0
  /-- How far ahead of UTC the clock is, in seconds. -/
  offset : Int := 0
  nanos_lt : nanos < 1000000000 := by decide
  deriving DecidableEq, Repr

/-- The first second that the calendar holds. -/
def firstSecond : Int := -377705116800

/-- The last second that the calendar holds. -/
def lastSecond : Int := 253402300799

namespace Moment

/-- The start of a second, as a clock in UTC shows it. -/
def ofSeconds (seconds : Int) : Moment := { seconds }

instance : Inhabited Moment := ⟨ofSeconds 0⟩

/-- Nanoseconds since 1970-01-01T00:00:00Z. -/
def instant (m : Moment) : Int := m.seconds * 1000000000 + m.nanos

/-- Whether `a` is earlier than `b`. -/
def isBefore (a b : Moment) : Bool := decide (a.instant < b.instant)

/-- What the clock shows, in seconds since its own 1970-01-01T00:00:00. -/
def shown (m : Moment) : Int := m.seconds + m.offset

/-- The date that the clock shows. -/
def date (m : Moment) : Date := .ofDay (m.shown / 86400)

/-- The second of the day that the clock shows. -/
def secondOfDay (m : Moment) : Nat := (m.shown % 86400).toNat

/-- The same point in time at the offset zero. -/
def inUtc (m : Moment) : Moment := { m with offset := 0 }

/-- Whether a clock at UTC could show the moment. -/
def isInUtcCalendar (m : Moment) : Bool :=
  decide (firstSecond ≤ m.seconds) && decide (m.seconds ≤ lastSecond)

/-- The moment some seconds later, while the calendar holds it. -/
def addSeconds? (m : Moment) (by_ : Int) : Option Moment :=
  if firstSecond ≤ m.shown + by_ ∧ m.shown + by_ ≤ lastSecond then
    some { m with seconds := m.seconds + by_ }
  else none

/-- The last moment of the calendar at the offset of `m`. -/
def calendarEnd (m : Moment) : Moment :=
  { seconds := lastSecond - m.offset, nanos := 999999999, offset := m.offset }

/-- The moment some seconds later, or the calendar's end if that comes first. -/
def addSecondsCapped (m : Moment) (count : Nat) : Moment :=
  (m.addSeconds? count).getD m.calendarEnd

/-- A year of at least four characters, the sign among them. -/
def periodYear (year : Int) : List Char :=
  if year < 0 then '-' :: Text.Decimal.padded 3 year.natAbs
  else Text.Decimal.padded 4 year.natAbs

/-- The key of the calendar month in UTC, such as `2024-05`. -/
def period (m : Moment) : String :=
  let date := m.inUtc.date
  String.ofList (periodYear date.year ++ '-' :: Text.Decimal.padded 2 date.month)

end Moment

end ArchiveAccounts.Calendar
