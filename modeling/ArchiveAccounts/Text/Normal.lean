import ArchiveAccounts.Text.CombiningClass
import ArchiveAccounts.Text.Composition

/-!
# The composed form of a text

Texts that look the same can be written with composed characters or with marks. The composed form
takes all characters apart, puts the marks into order and composes again what can be composed.
-/

namespace ArchiveAccounts.Text
set_option autoImplicit false

/-- Puts a mark in front of marks of higher classes; a character of class zero stops it. -/
def insertMark (c : Char) : List Char → List Char
  | [] => [c]
  | d :: rest =>
    if combiningClass d ≠ 0 ∧ combiningClass d < combiningClass c then d :: insertMark c rest
    else c :: d :: rest

/-- The characters with the marks after each one in the order of their classes. -/
def orderMarks : List Char → List Char
  | [] => []
  | c :: rest =>
    if combiningClass c = 0 then c :: orderMarks rest else insertMark c (orderMarks rest)

/-- Composes `starter` with what follows: `kept` are the marks that stay after it, the last one of
class `last`, and a mark is reached only over marks of lower classes. -/
def composeFrom (starter : Char) : List Char → Nat → List Char → List Char
  | kept, _, [] => starter :: kept
  | kept, last, c :: rest =>
    let isReached := kept.isEmpty || decide (last < combiningClass c)
    match if isReached then compose? starter c else none with
    | some composed => composeFrom composed kept last rest
    | none =>
      if combiningClass c = 0 then starter :: kept ++ composeFrom c [] 0 rest
      else composeFrom starter (kept ++ [c]) (combiningClass c) rest

/-- Composes the characters of an ordered text; marks in front of all others stay. -/
def composeAll (s : List Char) : List Char :=
  let isLoose := fun c => combiningClass c != 0
  match s.dropWhile isLoose with
  | [] => s
  | starter :: rest => s.takeWhile isLoose ++ composeFrom starter [] 0 rest

/-- The composed form of a text; ASCII is in that form as it is. -/
def composedForm (s : List Char) : List Char :=
  if isAscii s then s else composeAll (orderMarks (s.flatMap decompose))

end ArchiveAccounts.Text
