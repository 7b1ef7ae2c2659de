import ArchiveAccounts.Proofs.Calendar.Printable
import Mathlib.Algebra.Order.Ring.Int
import Mathlib.Order.Monotone.Basic

/-!
# Months, counted off

The months of the calendar follow one another in both directions from 1970-01-01, each as long as
its days. Main statements: `startsOn_iff`, a month starts on the day of its first date;
`Moment.isIn_iff`, each moment is in one month, the one of its date in UTC; and
`Month.precedes_iff`, months stand in time as they follow one another.
-/

namespace ArchiveAccounts.Calendar
set_option autoImplicit false

/-- A month of a year, numbered from 1 to 12. -/
@[ext]
structure Month where
  year : Int
  number : Nat
  fromOne : 1 ≤ number := by decide
  toTwelve : number ≤ 12 := by decide
  deriving DecidableEq, Repr

namespace Month

/-- How many days a month has. -/
def days (month : Month) : Nat := daysInMonth month.year month.number

/-- The month that follows. -/
def next (month : Month) : Month :=
  if last : month.number = 12 then { year := month.year + 1, number := 1 }
  else
    { year := month.year, number := month.number + 1
      fromOne := Nat.le_add_left 1 _
      toTwelve := Nat.lt_of_le_of_ne month.toTwelve last }

end Month

/-- Which day each month starts on, counted off month by month in both directions from 1970-01-01,
which is day 0. -/
inductive StartsOn : Month → Int → Prop
  | epoch : StartsOn { year := 1970, number := 1 } 0
  | next {month : Month} {day : Int} :
    StartsOn month day → StartsOn month.next (day + month.days)
  | previous {month : Month} {day : Int} :
    StartsOn month.next (day + month.days) → StartsOn month day

/-- Whether a moment is in a month, as a clock in UTC shows it: not before the first day of the
month, and before the first day after it. -/
def Moment.IsIn (m : Moment) (month : Month) : Prop :=
  ∃ first, StartsOn month first ∧
    first * 86400 ≤ m.seconds ∧ m.seconds < (first + month.days) * 86400

/-- Whether each moment of a month is earlier than each one of another month. -/
def Month.Precedes (p q : Month) : Prop :=
  ∀ a b : Moment, a.IsIn p → b.IsIn q → a.instant < b.instant

/-! ## First days -/

namespace Month

/-- The day of the first date of a month. -/
def firstDay (month : Month) : Int := Date.toDay ⟨month.year, month.number, 1⟩

theorem length_eq (month : Month) :
    (monthLengths (isLeap month.year))[month.number - 1]? = some month.days := by
  have inYear : month.number - 1 < (monthLengths (isLeap month.year)).length := by
    have := month.fromOne
    have := month.toTwelve
    rw [length_monthLengths]
    omega
  rw [days, daysInMonth, if_neg (Nat.one_le_iff_ne_zero.1 month.fromOne),
    List.getElem?_eq_getElem inYear, Option.getD_some]

theorem days_pos (month : Month) : 0 < month.days := by
  have positive : ∀ leap, ∀ length ∈ monthLengths leap, 0 < length := by decide
  exact positive _ _ (List.mem_of_getElem? month.length_eq)

/-- A month ends where the months of its year up to it end. -/
theorem firstDay_add_days (month : Month) : month.firstDay + month.days
    = daysBeforeYear month.year
      + totalLength ((monthLengths (isLeap month.year)).take month.number) := by
  have whole := totalLength_take_succ month.length_eq
  rw [Nat.sub_add_cancel month.fromOne] at whole
  rw [whole, firstDay, Date.toDay]
  dsimp only
  omega

/-- A month starts where the month before it ends. -/
theorem firstDay_next (month : Month) : month.next.firstDay = month.firstDay + month.days := by
  rw [firstDay_add_days, next]
  split
  · next last =>
    rw [last, List.take_of_length_le (Nat.le_of_eq (length_monthLengths _)), ← daysBeforeYear_succ]
    simp only [firstDay, Date.toDay, Nat.sub_self, List.take_zero, totalLength]
    omega
  · simp only [firstDay, Date.toDay, Nat.add_sub_cancel]
    omega

/-! ## Months in a row -/

/-- How many months there are before a month, from the start of the year 0 on. -/
def index (month : Month) : Int := month.year * 12 + month.number - 1

/-- The month that has so many months before it. -/
def ofIndex (i : Int) : Month where
  year := i / 12
  number := (i % 12).toNat + 1
  fromOne := Nat.le_add_left 1 _
  toTwelve := by omega

theorem ofIndex_index (month : Month) : ofIndex month.index = month := by
  have := month.fromOne
  have := month.toTwelve
  apply Month.ext
  · simp only [ofIndex, index]
    omega
  · simp only [ofIndex, index]
    omega

theorem index_next (month : Month) : month.next.index = month.index + 1 := by
  rw [next]
  split
  · next last =>
    simp only [index, last]
    omega
  · simp only [index]
    omega

theorem index_ofIndex (i : Int) : (ofIndex i).index = i := by
  simp only [ofIndex, index]
  omega

theorem next_ofIndex (i : Int) : (ofIndex i).next = ofIndex (i + 1) := by
  rw [← ofIndex_index (ofIndex i).next, index_next, index_ofIndex]

theorem index_inj {p q : Month} : p.index = q.index ↔ p = q := by
  constructor
  · intro same
    rw [← ofIndex_index p, same, ofIndex_index]
  · exact congrArg index

theorem firstDay_le {p q : Month} (notAfter : p.index ≤ q.index) : p.firstDay ≤ q.firstDay := by
  have inOrder : Monotone fun i => (ofIndex i).firstDay := by
    refine monotone_int_of_le_succ fun i => ?_
    rw [← next_ofIndex, firstDay_next]
    omega
  have starts : (ofIndex p.index).firstDay ≤ (ofIndex q.index).firstDay := inOrder notAfter
  rwa [ofIndex_index, ofIndex_index] at starts

/-- A month ends before a later one starts. -/
theorem firstDay_add_days_le {p q : Month} (later : p.index < q.index) :
    p.firstDay + p.days ≤ q.firstDay := by
  rw [← firstDay_next]
  exact firstDay_le (by rw [index_next]; exact later)

end Month

/-- Counting off comes to every month: those after January 1970 one by one, and those before it by
the way back. -/
theorem startsOn_ofIndex (i : Int) : StartsOn (Month.ofIndex (i + 1970 * 12))
    (Month.ofIndex (i + 1970 * 12)).firstDay := by
  induction i with
  | zero => exact .epoch
  | succ i ih =>
    have after := ih.next
    rwa [← Month.firstDay_next, Month.next_ofIndex, Int.add_right_comm] at after
  | pred i ih =>
    apply StartsOn.previous
    rwa [← Month.firstDay_next, Month.next_ofIndex, Int.add_right_comm, Int.sub_add_cancel]

/-- Counting off comes to the first day of each month, and to no other day. -/
theorem startsOn_iff {month : Month} {day : Int} : StartsOn month day ↔ day = month.firstDay := by
  constructor
  · intro starts
    induction starts with
    | epoch => decide
    | next _ ih => rw [ih, Month.firstDay_next]
    | previous _ ih =>
      rw [Month.firstDay_next] at ih
      omega
  · rintro rfl
    have here := startsOn_ofIndex (month.index - 1970 * 12)
    rwa [Int.sub_add_cancel, Month.ofIndex_index] at here

/-! ## Moments in months -/

theorem Date.toDay_eq (d : Date) : d.toDay = toDay ⟨d.year, d.month, 1⟩ + d.day - 1 := by
  simp only [toDay]
  omega

namespace Moment

/-- The month of the date that a clock in UTC shows. -/
def utcMonth (m : Moment) : Month where
  year := m.inUtc.date.year
  number := m.inUtc.date.month
  fromOne := Nat.le_add_left 1 _
  toTwelve := (Date.ofDay_spec _).2.2.1

theorem isIn_iff_seconds {m : Moment} {month : Month} : m.IsIn month ↔
    month.firstDay * 86400 ≤ m.seconds ∧ m.seconds < (month.firstDay + month.days) * 86400 := by
  constructor
  · rintro ⟨first, starts, inMonth⟩
    rwa [startsOn_iff.1 starts] at inMonth
  · exact fun inMonth => ⟨month.firstDay, startsOn_iff.2 rfl, inMonth⟩

theorem isIn_utcMonth (m : Moment) : m.IsIn m.utcMonth := by
  obtain ⟨valid, sameDay, _⟩ := Date.ofDay_spec (m.inUtc.shown / 86400)
  simp only [Date.isValid, Bool.and_eq_true, decide_eq_true_eq] at valid
  have first := Date.toDay_eq (Date.ofDay (m.inUtc.shown / 86400))
  have isShown : m.inUtc.shown = m.seconds := Int.add_zero _
  rw [sameDay, isShown] at first
  rw [isShown] at valid
  rw [isIn_iff_seconds]
  simp only [Month.firstDay, Month.days, utcMonth, date, isShown]
  omega

/-- A moment is before the end of its month, and so before the start of each later one. -/
theorem IsIn.index_le {m : Moment} {p q : Month} (inP : m.IsIn p) (inQ : m.IsIn q) :
    q.index ≤ p.index := by
  by_contra later
  have := Month.firstDay_add_days_le (Int.not_le.1 later)
  rw [isIn_iff_seconds] at inP inQ
  omega

/-- Each moment is in one month. -/
theorem isIn_iff {m : Moment} {month : Month} : m.IsIn month ↔ month = m.utcMonth := by
  constructor
  · intro inMonth
    exact Month.index_inj.1
      (Int.le_antisymm (m.isIn_utcMonth.index_le inMonth) (inMonth.index_le m.isIn_utcMonth))
  · rintro rfl
    exact m.isIn_utcMonth

/-- A clock in UTC shows the moments of the years from -9999 to 9999. -/
theorem isInUtcCalendar_iff (m : Moment) :
    m.isInUtcCalendar = true ↔ -9999 ≤ m.utcMonth.year ∧ m.utcMonth.year ≤ 9999 := by
  have isShown : m.inUtc.shown = m.seconds := Int.add_zero _
  have year : m.utcMonth.year = yearOfDay (m.seconds / 86400) := by
    rw [← isShown]
    rfl
  have first : -9999 ≤ yearOfDay (m.seconds / 86400)
      ↔ daysBeforeYear (-9999) ≤ m.seconds / 86400 := le_yearOfDay_iff
  have last : 10000 ≤ yearOfDay (m.seconds / 86400)
      ↔ daysBeforeYear 10000 ≤ m.seconds / 86400 := le_yearOfDay_iff
  have start : daysBeforeYear (-9999) * 86400 = firstSecond := by decide
  have stop : daysBeforeYear 10000 * 86400 = lastSecond + 1 := by decide
  simp only [isInUtcCalendar, Bool.and_eq_true, decide_eq_true_eq, year]
  omega

/-- The start of a month, as a clock in UTC shows it. -/
theorem isIn_ofSeconds (month : Month) : (ofSeconds (month.firstDay * 86400)).IsIn month := by
  have := month.days_pos
  rw [isIn_iff_seconds, ofSeconds]
  dsimp only
  omega

end Moment

/-- Months stand in time as they follow one another. -/
theorem Month.precedes_iff {p q : Month} : p.Precedes q ↔ p.index < q.index := by
  constructor
  · intro precedes
    by_contra notBefore
    -- The starts of the two months are among their moments.
    have before := precedes _ _ (Moment.isIn_ofSeconds p) (Moment.isIn_ofSeconds q)
    have := firstDay_le (Int.not_lt.1 notBefore)
    simp only [Moment.instant, Moment.ofSeconds] at before
    omega
  · intro before a b inP inQ
    have := firstDay_add_days_le before
    have := a.nanos_lt
    rw [Moment.isIn_iff_seconds] at inP inQ
    simp only [Moment.instant]
    omega

end ArchiveAccounts.Calendar
