import ArchiveAccounts.Text.Blank
import ArchiveAccounts.Text.Hex

/-!
# IPv4 addresses as hosts

One to four numbers with dots, each decimal, octal after `0` or hexadecimal after `0x`; the last one
fills the bytes that are left.
-/

namespace ArchiveAccounts.Url.Ipv4
set_option autoImplicit false

open Text

/-- The number that digits of a base write; `none` where one is no such digit. -/
def inBase? (base : Nat) (digits : List Char) : Option Nat :=
  digits.foldl (fun n c => n.bind fun n => (Hex.digit? c).bind fun d =>
    if d < base then some (n * base + d) else none) (some 0)

/-- One number of an address. -/
def number? : List Char → Option Nat
  | [] => none
  | '0' :: 'x' :: digits | '0' :: 'X' :: digits => inBase? 16 digits
  | '0' :: c :: digits => inBase? 8 (c :: digits)
  | digits => inBase? 10 digits

/-- The parts between dots, one dot at the end left out. -/
def parts (domain : List Char) : List (List Char) :=
  match (splitAt '.' domain).reverse with
  | [] :: rest@(_ :: _) => rest.reverse
  | _ => splitAt '.' domain

/-- Whether a domain can only be meant as an address: its last part is a number. -/
def endsInNumber (domain : List Char) : Bool :=
  match (parts domain).getLast? with
  | none => false
  | some last => (!last.isEmpty && last.all Char.isDigit) || (number? last).isSome

/-- The value of the numbers: each but the last is one byte. -/
def assemble? : List Nat → Nat → Option Nat
  | [], _ => none
  | [last], free => if last < Nat.pow 256 free then some last else none
  | byte :: rest, free =>
    if byte < 256 then (assemble? rest (free - 1)).map (byte * Nat.pow 256 (free - 1) + ·) else none

/-- The address of a domain that ends in a number. -/
def parse? (domain : List Char) : Option Nat := do
  let parts := parts domain
  if parts.length > 4 then none
  else assemble? (← parts.mapM number?) 4

end ArchiveAccounts.Url.Ipv4
