import ArchiveAccounts.Calendar.Moment

/-!
# RFC 3339 timestamps

The text of a moment at its own offset, and the moments that texts write. A moment has a text when
its clock shows a year from 0 to 9999 and its offset is in whole minutes below a day.
-/

namespace ArchiveAccounts.Calendar.Rfc3339
set_option autoImplicit false

open Text

/-- Whether a moment has a text. -/
def isPrintable (m : Moment) : Bool :=
  decide (0 ≤ m.date.year) && decide (m.date.year ≤ 9999) && decide (m.offset.natAbs < 86400)
    && decide (m.offset % 60 = 0)

/-- The digits of a fraction of a second without zeros at the end; none where it is zero. -/
def fraction (nanos : Nat) : List Char :=
  if nanos = 0 then []
  else '.' :: ((Decimal.padded 9 nanos).reverse.dropWhile (· == '0')).reverse

/-- The offset of a clock: `Z`, or hours and minutes with a sign. -/
def zone (offset : Int) : List Char :=
  if offset = 0 then ['Z']
  else
    let minutes := offset.natAbs / 60
    (if offset < 0 then '-' else '+') :: Decimal.padded 2 (minutes / 60)
      ++ ':' :: Decimal.padded 2 (minutes % 60)

/-- The text of a moment that has one. -/
def print? (m : Moment) : Option String :=
  if isPrintable m then
    let date := m.date
    let time := m.secondOfDay
    some <| String.ofList <|
      Decimal.padded 4 date.year.natAbs ++ '-' :: Decimal.padded 2 date.month
        ++ '-' :: Decimal.padded 2 date.day ++ 'T' :: Decimal.padded 2 (time / 3600)
        ++ ':' :: Decimal.padded 2 (time / 60 % 60) ++ ':' :: Decimal.padded 2 (time % 60)
        ++ fraction m.nanos ++ zone m.offset
  else none

/-- Reads exactly `count` digits after those of `n`. -/
def digits? (n : Nat) : Nat → List Char → Option (Nat × List Char)
  | 0, s => some (n, s)
  | _ + 1, [] => none
  | count + 1, c :: s => (Decimal.digit? c).bind fun d => digits? (n * 10 + d) count s

/-- Reads one given character. -/
def expect? (c : Char) : List Char → Option (List Char)
  | [] => none
  | x :: rest => if x = c then some rest else none

/-- The nanoseconds that the digits of a fraction write; digits after the ninth do not count. -/
def nanosOf (fractionDigits : List Char) : Nat :=
  let kept := (fractionDigits ++ List.replicate 9 '0').take 9
  (Decimal.number? kept).getD 0

/-- Reads the fraction of a second, if there is one. -/
def fraction? : List Char → Option (Nat × List Char)
  | '.' :: more =>
    let written := more.takeWhile Char.isDigit
    if written.isEmpty then none else some (nanosOf written, more.dropWhile Char.isDigit)
  | s => some (0, s)

/-- Reads the offset at the end of a timestamp. -/
def zone? : List Char → Option Int
  | [c] => if c = 'Z' ∨ c = 'z' then some 0 else none
  | sign :: rest => do
    let signum : Int ← if sign = '+' then some 1 else if sign = '-' then some (-1) else none
    let (hours, rest) ← digits? 0 2 rest
    let rest ← expect? ':' rest
    let (minutes, rest) ← digits? 0 2 rest
    if rest.isEmpty && decide (hours ≤ 23) && decide (minutes ≤ 59) then
      some (signum * ((hours * 60 + minutes) * 60))
    else none
  | [] => none

/-- Whether a second of UTC is the last one of a month, the only place of a leap second. -/
def isLastOfMonth (seconds : Int) : Bool :=
  let date := Date.ofDay (seconds / 86400)
  decide (seconds % 86400 = 86399) && date.day == daysInMonth date.year date.month

/-- Reads a date. -/
def date? (s : List Char) : Option (Date × List Char) := do
  let (year, rest) ← digits? 0 4 s
  let rest ← expect? '-' rest
  let (month, rest) ← digits? 0 2 rest
  let rest ← expect? '-' rest
  let (day, rest) ← digits? 0 2 rest
  return (⟨year, month, day⟩, rest)

/-- Reads an hour, a minute and a second. -/
def clock? (s : List Char) : Option ((Nat × Nat × Nat) × List Char) := do
  let (hour, rest) ← digits? 0 2 s
  let rest ← expect? ':' rest
  let (minute, rest) ← digits? 0 2 rest
  let rest ← expect? ':' rest
  let (second, rest) ← digits? 0 2 rest
  return ((hour, minute, second), rest)

/-- The moment that a text writes. The second 60 is read as the end of the second 59. -/
def parse? (text : String) : Option Moment := do
  let (date, rest) ← date? text.toList
  let rest ← match rest with
    | separator :: rest => if separator.toNat < 0x80 then some rest else none
    | [] => none
  let ((hour, minute, second), rest) ← clock? rest
  let (nanos, rest) ← fraction? rest
  let offset ← zone? rest
  if date.isValid && decide (hour ≤ 23) && decide (minute ≤ 59) && decide (second ≤ 60) then
    let leap := second == 60
    let seconds := date.toDay * 86400 + (hour * 3600 + minute * 60 + min second 59 : Nat) - offset
    if leap && !isLastOfMonth seconds then none
    else if h : (if leap then 999999999 else nanos) < 1000000000 then
      some { seconds, nanos := if leap then 999999999 else nanos, offset, nanos_lt := h }
    else none
  else none

end ArchiveAccounts.Calendar.Rfc3339
