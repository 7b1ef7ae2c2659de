import ArchiveAccounts.Data.SortedMap
import ArchiveAccounts.Text.Blank

/-!
# Dotenv files

Lines `key=value`, each with an optional `export` in front and optional quotes around the value.
Empty lines, comments and blank values do not count; of equal keys the last one does.
-/

namespace ArchiveAccounts.Dotenv
set_option autoImplicit false

open Text

/-- The text between two quotes of one kind. -/
def unquoteWith? (quote : Char) (s : List Char) : Option (List Char) :=
  (dropLead? [quote] s).bind (dropTail? [quote])

/-- A value without the quotes around it. -/
def unquote (s : List Char) : List Char :=
  ((unquoteWith? '"' s).or (unquoteWith? '\'' s)).getD s

/-- A line without the word `export` in front. -/
def dropExport (line : List Char) : List Char := (dropLead? "export ".toList line).getD line

/-- The assignment on a line, if there is one. -/
def assignment? (line : List Char) : Option (String × String) := do
  let line := trimChars line
  if line.isEmpty || line.head? == some '#' then none
  else
    let (rawKey, rawValue) ← cutAt '=' (trimChars (dropExport line))
    let key := trimChars rawKey
    let value := unquote (trimChars rawValue)
    if key.isEmpty || value.all isBlank then none
    else some (String.ofList key, String.ofList value)

/-- The assignments of a file. -/
def parse (contents : String) : SortedMap String String :=
  .ofList ((splitAt '\n' contents.toList).filterMap assignment?)

end ArchiveAccounts.Dotenv
