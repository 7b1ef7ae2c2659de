import ArchiveAccounts.Text.Blank
import ArchiveAccounts.Text.Decimal

/-!
# Log filters

A filter is a list of directives with commas between them. A directive is a level, a target or a
span in brackets, which may name fields in braces, with or without a level after `=`.
-/

namespace ArchiveAccounts.LogFilter
set_option autoImplicit false

open Text

/-- Whether a text is a level: a name in either case, a number up to 5, or nothing. -/
def isLevel (s : List Char) : Bool :=
  s.isEmpty
    || ["error", "warn", "info", "debug", "trace", "off"].contains
      (String.ofList (s.map Char.toLower))
    || (Decimal.counter? s).any fun n => decide (n ≤ 5)

/-- What of a directive has been read. -/
inductive Part where
  | start
  | name
  | span
  | field (isEmpty : Bool)
  | fields
  | spanEnd
  /-- A level follows, from the given position on. -/
  | level (position : Nat)
  deriving DecidableEq, Repr

/-- Whether a name may start with a character. -/
def startsName (c : Char) : Bool :=
  c == '-' || c == ':' || c == '_' || c.isAlphanum || decide (0x80 ≤ c.toNat)

/-- Reads the character at a position. -/
def Part.next? (c : Char) (position : Nat) : Part → Option Part
  | .start => if c = '[' then some .span else if startsName c then some .name else none
  | .name =>
    some (if c = '=' then .level (position + 1) else if c = '[' then .span else .name)
  | .span => some (if c = ']' then .spanEnd else if c = '\x7b' then .field true else .span)
  | .field isEmpty =>
    if c ≠ '\x7d' then some (.field false) else if isEmpty then none else some .fields
  | .fields => if c = ']' then some .spanEnd else none
  | .spanEnd => if c = '=' then some (.level (position + 1)) else none
  | .level position => some (.level position)

/-- Reads the characters from a position on. -/
def Part.run? : Part → Nat → List Char → Option Part
  | part, _, [] => some part
  | part, position, c :: rest =>
    (part.next? c position).bind fun part => part.run? (position + 1) rest

/-- Whether a text is a directive, blanks around it aside. The place of a level is found without the
blanks in front and then looked up with them. -/
def isDirective (directive : List Char) : Bool :=
  match Part.start.run? 0 (trimChars directive) with
  | some .name | some .spanEnd => true
  | some (.level position) => isLevel (directive.drop position)
  | _ => false

/-- Whether a text is a filter. -/
def isValid (filter : String) : Bool :=
  (splitAt ',' filter.toList).all fun directive => directive.isEmpty || isDirective directive

end ArchiveAccounts.LogFilter
