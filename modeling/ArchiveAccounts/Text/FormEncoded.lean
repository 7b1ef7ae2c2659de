import ArchiveAccounts.Text.Blank
import ArchiveAccounts.Text.Percent

/-!
# Form-encoded pairs

A query `name=value&name=value`, with `+` for a space and percent escapes.
-/

namespace ArchiveAccounts.Text.FormEncoded
set_option autoImplicit false

/-- A name or a value: `+` is a space, escapes are read as UTF-8. -/
def decodePart (part : List Char) : String :=
  let spaced := part.map fun c => if c = '+' then ' ' else c
  String.ofList (Utf8.decode (Percent.decodeBytes (Utf8.encode spaced)))

/-- One piece; without `=` its value is empty. -/
def decodePair (piece : List Char) : String × String :=
  match cutAt '=' piece with
  | some (name, value) => (decodePart name, decodePart value)
  | none => (decodePart piece, "")

/-- The pairs of a query, empty pieces left out. -/
def decode (query : List Char) : List (String × String) :=
  ((splitAt '&' query).filter fun piece => !piece.isEmpty).map decodePair

end ArchiveAccounts.Text.FormEncoded
