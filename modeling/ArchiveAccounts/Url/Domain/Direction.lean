import ArchiveAccounts.Text.Direction

/-!
# Labels in two directions

Where a domain name holds anything written from right to left, each label goes in one direction, so
that a name has one reading.
-/

namespace ArchiveAccounts.Url.Domain
set_option autoImplicit false

open Text

/-- Whether a direction makes a name one of two directions. -/
def isBackward : Direction → Bool
  | .rightToLeft | .arabicLetter | .arabicDigit => true
  | _ => false

/-- What stands in a label of either direction. -/
def isShared : Direction → Bool
  | .digit | .digitSeparator | .digitSign | .commonSeparator | .mark | .neutralFormat | .neutral =>
    true
  | _ => false

/-- The last direction of a label, marks left out. -/
def lastDirection? (label : List Direction) : Option Direction :=
  (label.reverse.dropWhile fun d => d == .mark).head?

/-- Whether a label keeps to the direction that it starts in. -/
def keepsDirection (label : List Direction) : Bool :=
  match label.head? with
  | none => true
  | some .leftToRight =>
    label.all (fun d => d == .leftToRight || isShared d) &&
      (lastDirection? label).any fun d => d == .leftToRight || d == .digit
  | some .rightToLeft | some .arabicLetter =>
    label.all (fun d => isBackward d || isShared d) &&
      ((lastDirection? label).any fun d => isBackward d || d == .digit) &&
      !(label.contains .digit && label.contains .arabicDigit)
  | some _ => false

/-- Whether the labels of a name can be read in one way, as they can in ASCII. -/
def directionsAgree (labels : List (List Char)) : Bool :=
  let directions := labels.map fun label => label.map Direction.of
  labels.all isAscii || !(directions.any fun label => label.any isBackward) ||
    directions.all keepsDirection

end ArchiveAccounts.Url.Domain
