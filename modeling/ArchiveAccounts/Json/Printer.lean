import ArchiveAccounts.Datum
import ArchiveAccounts.Text.Decimal
import ArchiveAccounts.Text.Hex

/-!
# Writing JSON

Data as JSON text, on one line or indented by two spaces.
-/

namespace ArchiveAccounts.Json
set_option autoImplicit false

open Text

/-- One character inside quotes. -/
def escape (c : Char) : List Char :=
  if c = '"' then ['\\', '"']
  else if c = '\\' then ['\\', '\\']
  else if c = '\n' then ['\\', 'n']
  else if c = '\r' then ['\\', 'r']
  else if c = '\t' then ['\\', 't']
  else if c = '\x08' then ['\\', 'b']
  else if c = '\x0c' then ['\\', 'f']
  else if c.toNat < 0x20 then
    ['\\', 'u', '0', '0', Hex.lowerDigit (c.toNat / 16), Hex.lowerDigit (c.toNat % 16)]
  else [c]

/-- A text in quotes; one that is not whole is written as half of a surrogate pair. -/
def quote : Option String → List Char
  | some s => '"' :: s.toList.flatMap escape ++ ['"']
  | none => ['"', '\\', 'u', 'd', '8', '0', '0', '"']

/-- Where a value starts when it is written over several lines; `none` keeps it on one line. -/
abbrev Layout := Option Nat

/-- The end of a line, and the indent of the next one. -/
def Layout.newLine : Layout → List Char
  | none => []
  | some depth => '\n' :: List.replicate (2 * depth) ' '

/-- One level further in. -/
def Layout.deeper (layout : Layout) : Layout := layout.map (· + 1)

/-- What stands between a name and its value. -/
def Layout.colon : Layout → List Char
  | none => [':']
  | some _ => [':', ' ']

mutual

/-- The characters of a value. -/
def chars (layout : Layout) : Datum → List Char
  | .null => "null".toList
  | .bool true => "true".toList
  | .bool false => "false".toList
  | .int i => Decimal.integer i
  | .number lexeme => lexeme.toList
  | .text s => quote s
  | .list [] => ['[', ']']
  | .list (item :: items) =>
    '[' :: layout.deeper.newLine ++ chars layout.deeper item ++ moreItems layout.deeper items
      ++ layout.newLine ++ [']']
  | .fields [] => ['\x7b', '\x7d']
  | .fields ((name, value) :: entries) =>
    '\x7b' :: layout.deeper.newLine ++ quote name ++ layout.colon ++ chars layout.deeper value
      ++ moreFields layout.deeper entries ++ layout.newLine ++ ['\x7d']

/-- The items after the first one. -/
def moreItems (layout : Layout) : List Datum → List Char
  | [] => []
  | item :: items => ',' :: layout.newLine ++ chars layout item ++ moreItems layout items

/-- The fields after the first one. -/
def moreFields (layout : Layout) : List (Option String × Datum) → List Char
  | [] => []
  | (name, value) :: entries =>
    ',' :: layout.newLine ++ quote name ++ layout.colon ++ chars layout value
      ++ moreFields layout entries

end

/-- The data on one line. -/
def print (d : Datum) : String := String.ofList (chars none d)

/-- The data over several lines. -/
def printIndented (d : Datum) : String := String.ofList (chars (some 0) d)

end ArchiveAccounts.Json
