/-!
# Hexadecimal digits

Main statement: `digit?_lowerDigit`, a written digit reads back.
-/

namespace ArchiveAccounts.Text.Hex
set_option autoImplicit false

/-- The value of a hexadecimal digit of either case. -/
def digit? (c : Char) : Option Nat :=
  if '0' ≤ c ∧ c ≤ '9' then some (c.toNat - '0'.toNat)
  else if 'a' ≤ c ∧ c ≤ 'f' then some (c.toNat - 'a'.toNat + 10)
  else if 'A' ≤ c ∧ c ≤ 'F' then some (c.toNat - 'A'.toNat + 10)
  else none

/-- The upper case digit of a value below sixteen. -/
def upperDigit (n : Nat) : Char := Char.ofNat (if n < 10 then '0'.toNat + n else 'A'.toNat + n - 10)

/-- The lower case digit of a value below sixteen. -/
def lowerDigit (n : Nat) : Char := Char.ofNat (if n < 10 then '0'.toNat + n else 'a'.toNat + n - 10)

/-- A byte as two upper case digits. -/
def upperByte (b : UInt8) : List Char := [upperDigit (b.toNat / 16), upperDigit (b.toNat % 16)]

/-- A byte as two lower case digits. -/
def lowerByte (b : UInt8) : List Char := [lowerDigit (b.toNat / 16), lowerDigit (b.toNat % 16)]

/-- Bytes as lower case digits. -/
def lowerBytes (bytes : List UInt8) : String := String.ofList (bytes.flatMap lowerByte)

/-- A number in lower case digits without leading zeros. -/
def lowerNumber (n : Nat) : List Char := (Nat.toDigits 16 n)

/-- The number that hexadecimal digits write; `none` where one is no digit or there is none. -/
def number? (digits : List Char) : Option Nat :=
  if digits.isEmpty then none
  else digits.foldl (fun n c => n.bind fun n => (digit? c).map (n * 16 + ·)) (some 0)

theorem digit?_lowerDigit : ∀ n < 16, digit? (lowerDigit n) = some n := by decide

end ArchiveAccounts.Text.Hex
