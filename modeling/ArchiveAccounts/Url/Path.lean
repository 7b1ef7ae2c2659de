import ArchiveAccounts.Text.Blank
import ArchiveAccounts.Text.Percent

/-!
# URL paths

A path is a list of segments. Reading one takes out the segments that stand for this place and for
the place above, and escapes what a path may not hold.
-/

namespace ArchiveAccounts.Url
set_option autoImplicit false

open Text

/-- Controls, which no part of a URL may hold. -/
def isControl (c : Char) : Bool := c.toNat < 0x20 || c.toNat == 0x7F

/-- What a fragment may not hold. -/
def isFragmentReserved (c : Char) : Bool :=
  isControl c || c == ' ' || c == '"' || c == '<' || c == '>' || c == '\x60'

/-- What a path may not hold. -/
def isPathReserved (c : Char) : Bool :=
  isFragmentReserved c || c == '#' || c == '?' || c == '\x7b' || c == '\x7d'

/-- What a name or a password may not hold. -/
def isUserReserved (c : Char) : Bool :=
  isPathReserved c || ['/', ':', ';', '=', '@', '[', '\\', ']', '^', '|'].contains c

/-- What a query may not hold. -/
def isQueryReserved (c : Char) : Bool :=
  isControl c || c == ' ' || c == '"' || c == '#' || c == '<' || c == '>'

/-- What the query of a special URL may not hold. -/
def isSpecialQueryReserved (c : Char) : Bool := isQueryReserved c || c == '\''

/-- A segment with its escaped dots read. -/
def readDots : List Char → List Char
  | '%' :: '2' :: 'e' :: rest | '%' :: '2' :: 'E' :: rest => '.' :: readDots rest
  | c :: rest => c :: readDots rest
  | [] => []

/-- Whether a segment stands for this place. -/
def isHere (segment : List Char) : Bool := readDots segment == ['.']

/-- Whether a segment stands for the place above. -/
def isAbove (segment : List Char) : Bool := readDots segment == ['.', '.']

/-- A letter and a colon or a bar: the name of a drive. -/
def isDriveLetter : List Char → Bool
  | [letter, mark] => letter.isAlpha && (mark == ':' || mark == '|')
  | _ => false

/-- The segments without the last one, which stays if it names a drive. -/
def shorten (segments : List (List Char)) : List (List Char) :=
  match segments.getLast? with
  | none => []
  | some last => if isDriveLetter last then segments else segments.dropLast

/-- Takes in one more segment; where the last one is no segment of its own, the path ends with a
slash. -/
def pushSegment (segments : List (List Char)) (segment : List Char) (isLast : Bool) :
    List (List Char) :=
  let endSlash := if isLast then [[]] else []
  if isAbove segment then shorten segments ++ endSlash
  else if isHere segment then segments ++ endSlash
  else segments ++ [segment]

/-- Takes in segments in order. -/
def pushSegments (segments : List (List Char)) : List (List Char) → List (List Char)
  | [] => segments
  | [last] => pushSegment segments last true
  | segment :: rest => pushSegments (pushSegment segments segment false) rest

/-- The segments of the text of a path. -/
def segmentsOf (special : Bool) (text : List Char) : List (List Char) :=
  let slashed := if special then text.map fun c => if c = '\\' then '/' else c else text
  let relative := match slashed with
    | '/' :: rest => rest
    | _ => slashed
  pushSegments [] ((splitAt '/' relative).map (Percent.escape isPathReserved))

/-- Segments with a slash in front of each. -/
def joinSegments (segments : List (List Char)) : List Char := segments.flatMap ('/' :: ·)

end ArchiveAccounts.Url
