import ArchiveAccounts.Text.Blank
import ArchiveAccounts.Text.Hex

/-!
# Tables of characters

A property of many characters, written in rows: a code point or a range of them in hexadecimal
digits, a sign, and what the property is. `1E00-1E94:>1E01` is the row of every second character
from U+1E00 to U+1E94, with the sign `>` and the value `1E01`.

Main statement: `CharTable.row?_eq_some`, a row that is found speaks of the character.
-/

namespace ArchiveAccounts.Text
set_option autoImplicit false

/-- Whether a text has ASCII characters only, of which most tables say nothing. -/
def isAscii (s : List Char) : Bool := s.all fun c => decide (c.toNat < 0x80)

/-- Characters that share a property. -/
structure CharRow where
  first : Nat
  last : Nat
  /-- Whether every second character is left out. -/
  isAlternate : Bool
  sign : Char
  value : List Char
deriving DecidableEq

namespace CharRow

/-- Whether a row speaks of a character. -/
def covers (row : CharRow) (c : Char) : Bool :=
  decide (row.first ≤ c.toNat) && decide (c.toNat ≤ row.last) &&
    (!row.isAlternate || (c.toNat - row.first) % 2 == 0)

/-- The hexadecimal digits at the front, and what follows them. -/
def spanHex (s : List Char) : List Char × List Char :=
  (s.takeWhile fun c => (Hex.digit? c).isSome, s.dropWhile fun c => (Hex.digit? c).isSome)

/-- A row from its text. -/
def read? (s : List Char) : Option CharRow := do
  let (digits, rest) := spanHex s
  let first ← Hex.number? digits
  let (last, rest) ← match rest with
    | '-' :: rest => (Hex.number? (spanHex rest).1).map fun last => (last, (spanHex rest).2)
    | rest => some (first, rest)
  match rest with
  | ':' :: sign :: value => some { first, last, isAlternate := true, sign, value }
  | sign :: value => some { first, last, isAlternate := false, sign, value }
  | [] => none

/-- The characters that a row's value names: code points with points between them. -/
def characters (row : CharRow) : List Char :=
  (splitAt '.' row.value).filterMap fun digits => (Hex.number? digits).map Char.ofNat

end CharRow

/-- A table of characters: the first row that speaks of a character counts. -/
abbrev CharTable := List CharRow

namespace CharTable

/-- The table in a text, with blanks and line ends between its rows. -/
def ofText (s : String) : CharTable :=
  ((s.toList.splitBy fun a b => isBlank a == isBlank b).filterMap CharRow.read?)

/-- The row of a character. -/
def row? (table : CharTable) (c : Char) : Option CharRow := table.find? fun row => row.covers c

theorem row?_eq_some {table : CharTable} {c : Char} {row : CharRow} (h : table.row? c = some row) :
    row ∈ table ∧ row.covers c = true := by
  rw [row?] at h
  have found := List.find?_some h
  exact ⟨List.mem_of_find?_eq_some h, found⟩

end CharTable

end ArchiveAccounts.Text
