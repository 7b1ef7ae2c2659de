import ArchiveAccounts.Text.Hex
import ArchiveAccounts.Text.Unshown

/-!
# Quoted text

A text between double quotes, with the quote, the backslash and every character that is not shown
as it is written as an escape. Error messages quote the values that they refuse this way.
-/

namespace ArchiveAccounts.Text.Quoted
set_option autoImplicit false

/-- One character inside quotes. -/
def escape (c : Char) : List Char :=
  if c = '"' then ['\\', '"']
  else if c = '\\' then ['\\', '\\']
  else if c = '\n' then ['\\', 'n']
  else if c = '\r' then ['\\', 'r']
  else if c = '\t' then ['\\', 't']
  else if c = '\x00' then ['\\', '0']
  else if isUnshown c then ['\\', 'u', '\x7b'] ++ Hex.lowerNumber c.toNat ++ ['\x7d']
  else [c]

/-- A text in quotes. -/
def quote (s : String) : String := String.ofList ('"' :: s.toList.flatMap escape ++ ['"'])

end ArchiveAccounts.Text.Quoted
