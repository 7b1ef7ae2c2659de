import ArchiveAccounts.Text.Blank
import ArchiveAccounts.Text.Decimal
import ArchiveAccounts.Text.Hex

/-!
# IPv6 addresses

Eight pieces of one to four hexadecimal digits with colons between them. `::` stands once for one or
more zero pieces, and the last two pieces may be written as an IPv4 address.
-/

namespace ArchiveAccounts.Url.Ipv6
set_option autoImplicit false

open Text

/-- One piece. -/
def piece? (digits : List Char) : Option Nat :=
  if digits.length ≤ 4 then Hex.number? digits else none

/-- One byte in decimal, without zeros in front. -/
def byte? (digits : List Char) : Option Nat :=
  match digits with
  | '0' :: _ :: _ => none
  | _ => (Decimal.number? digits).bind fun n => if n < 256 then some n else none

/-- The two pieces that four bytes write. -/
def dotted? (s : List Char) : Option (List Nat) := do
  match ← (splitAt '.' s).mapM byte? with
  | [a, b, c, d] => some [a * 256 + b, c * 256 + d]
  | _ => none

/-- Pieces with colons between them; the last one may be an IPv4 address where `mayDot` says so. -/
def pieces? (mayDot : Bool) : List (List Char) → Option (List Nat)
  | [] => some []
  | [last] => if mayDot && last.contains '.' then dotted? last else (piece? last).map ([·])
  | first :: rest => do
    let piece ← piece? first
    let pieces ← pieces? mayDot rest
    some (piece :: pieces)

/-- The pieces of one side of a gap, which may be empty. -/
def side? (mayDot : Bool) (s : List Char) : Option (List Nat) :=
  if s.isEmpty then some [] else pieces? mayDot (splitAt ':' s)

/-- The parts before and after the first `::`. -/
def cutAtGap : List Char → Option (List Char × List Char)
  | ':' :: ':' :: rest => some ([], rest)
  | c :: rest => (cutAtGap rest).map fun (before, after) => (c :: before, after)
  | [] => none

/-- The eight pieces of an address. -/
def parse? (s : List Char) : Option (List Nat) := do
  match cutAtGap s with
  | none =>
    let pieces ← pieces? true (splitAt ':' s)
    if pieces.length = 8 then some pieces else none
  | some (before, after) =>
    let left ← side? false before
    let right ← side? true after
    if left.length + right.length ≤ 7 then
      some (left ++ List.replicate (8 - left.length - right.length) 0 ++ right)
    else none

end ArchiveAccounts.Url.Ipv6
