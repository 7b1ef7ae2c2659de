import ArchiveAccounts.Datum
import ArchiveAccounts.Text.Decimal
import ArchiveAccounts.Text.Hex

/-!
# Reading JSON

The data that a JSON text writes. Every step that reads a part gives the rest of the text; each
value read takes one unit of fuel, and there are no more values than characters.
-/

namespace ArchiveAccounts.Json
set_option autoImplicit false

open Text

/-- The white space of JSON. -/
def isSpace (c : Char) : Bool := c == ' ' || c == '\t' || c == '\n' || c == '\r'

/-- The text from the next character that is no white space. -/
def skip (s : List Char) : List Char := s.dropWhile isSpace

/-- What a backslash and a character write, other than `\u`. -/
def shortEscape? (c : Char) : Option Nat :=
  List.lookup c [('"', 0x22), ('\\', 0x5C), ('/', 0x2F), ('b', 0x8), ('f', 0xC), ('n', 0xA),
    ('r', 0xD), ('t', 0x9)]

/-- Reads a text up to its closing quote, as code points and escaped UTF-16 units. -/
def units? : List Char → Option (List Nat × List Char)
  | [] => none
  | '"' :: rest => some ([], rest)
  | '\\' :: 'u' :: a :: b :: c :: d :: rest => do
    let unit ← Hex.number? [a, b, c, d]
    let (units, rest) ← units? rest
    some (unit :: units, rest)
  | '\\' :: c :: rest => do
    let unit ← shortEscape? c
    let (units, rest) ← units? rest
    some (unit :: units, rest)
  | c :: rest =>
    if c.toNat < 0x20 then none
    else do
      let (units, rest) ← units? rest
      some (c.toNat :: units, rest)

/-- The first half of a surrogate pair. -/
def isHighSurrogate (n : Nat) : Bool := decide (0xD800 ≤ n) && decide (n < 0xDC00)

/-- The second half of a surrogate pair. -/
def isLowSurrogate (n : Nat) : Bool := decide (0xDC00 ≤ n) && decide (n < 0xE000)

/-- The characters of code points and units; none where half of a pair stands alone. -/
def joinUnits? : List Nat → Option (List Char)
  | [] => some []
  | [n] => if isHighSurrogate n || isLowSurrogate n then none else some [Char.ofNat n]
  | n :: m :: rest =>
    if isHighSurrogate n && isLowSurrogate m then
      (joinUnits? rest).map (Char.ofNat (0x10000 + (n - 0xD800) * 0x400 + (m - 0xDC00)) :: ·)
    else if isHighSurrogate n || isLowSurrogate n then none
    else (joinUnits? (m :: rest)).map (Char.ofNat n :: ·)

/-- Reads a text after its opening quote. -/
def text? (s : List Char) : Option (Option String × List Char) := do
  let (units, rest) ← units? s
  some ((joinUnits? units).map String.ofList, rest)

/-- The digits at the front and the rest. -/
def spanDigits (s : List Char) : List Char × List Char :=
  (s.takeWhile Char.isDigit, s.dropWhile Char.isDigit)

/-- Digits of an integer: one, or several that do not start with zero. -/
def isIntegerPart (digits : List Char) : Bool :=
  match digits with
  | [] => false
  | ['0'] => true
  | '0' :: _ => false
  | _ => true

/-- Reads the fraction of a number, if there is one. -/
def fraction? : List Char → Option (List Char × List Char)
  | '.' :: s =>
    let (digits, rest) := spanDigits s
    if digits.isEmpty then none else some ('.' :: digits, rest)
  | s => some ([], s)

/-- Reads the digits of an exponent. -/
def exponentDigits? (mark : List Char) (s : List Char) : Option (List Char × List Char) :=
  let (digits, rest) := spanDigits s
  if digits.isEmpty then none else some (mark ++ digits, rest)

/-- Reads the exponent of a number, if there is one. -/
def exponent? : List Char → Option (List Char × List Char)
  | c :: s =>
    if c = 'e' ∨ c = 'E' then
      match s with
      | '+' :: s => exponentDigits? [c, '+'] s
      | '-' :: s => exponentDigits? [c, '-'] s
      | s => exponentDigits? [c] s
    else some ([], c :: s)
  | [] => some ([], [])

/-- The number that a sign, digits, a fraction and an exponent write. Minus zero is no integer. -/
def makeNumber (negative : Bool) (digits tail : List Char) : Datum :=
  let value := (Decimal.number? digits).getD 0
  if tail.isEmpty && !(negative && value == 0) then .int (if negative then -value else value)
  else .number (String.ofList ((if negative then ['-'] else []) ++ digits ++ tail))

/-- Reads a number. -/
def number? (s : List Char) : Option (Datum × List Char) := do
  let (negative, s) := match s with
    | '-' :: rest => (true, rest)
    | s => (false, s)
  let (digits, s) := spanDigits s
  if isIntegerPart digits then
    let (fraction, s) ← fraction? s
    let (exponent, s) ← exponent? s
    some (makeNumber negative digits (fraction ++ exponent), s)
  else none

/-- Reads a given word. -/
def word? (word : List Char) (value : Datum) (s : List Char) : Option (Datum × List Char) :=
  if word.isPrefixOf s then some (value, s.drop word.length) else none

mutual

/-- Reads one value, white space before it included. -/
def value? : Nat → List Char → Option (Datum × List Char)
  | 0, _ => none
  | fuel + 1, s =>
    match skip s with
    | '"' :: s => (text? s).map fun (t, s) => (.text t, s)
    | '[' :: s =>
      match skip s with
      | ']' :: s => some (.list [], s)
      | s => (items? fuel s).map fun (items, s) => (.list items, s)
    | '\x7b' :: s =>
      match skip s with
      | '\x7d' :: s => some (.fields [], s)
      | s => (entries? fuel s).map fun (entries, s) => (.fields entries, s)
    | 'n' :: s => word? "ull".toList .null s
    | 't' :: s => word? "rue".toList (.bool true) s
    | 'f' :: s => word? "alse".toList (.bool false) s
    | s => number? s

/-- Reads the items of a list up to its end. -/
def items? : Nat → List Char → Option (List Datum × List Char)
  | 0, _ => none
  | fuel + 1, s => do
    let (item, s) ← value? fuel s
    match skip s with
    | ',' :: s =>
      let (items, s) ← items? fuel s
      some (item :: items, s)
    | ']' :: s => some ([item], s)
    | _ => none

/-- Reads named fields up to the end of the object. -/
def entries? : Nat → List Char → Option (List (Option String × Datum) × List Char)
  | 0, _ => none
  | fuel + 1, s => do
    match skip s with
    | '"' :: s =>
      let (name, s) ← text? s
      match skip s with
      | ':' :: s =>
        let (value, s) ← value? fuel s
        match skip s with
        | ',' :: s =>
          let (entries, s) ← entries? fuel s
          some ((name, value) :: entries, s)
        | '\x7d' :: s => some ([(name, value)], s)
        | _ => none
      | _ => none
    | _ => none

end

/-- The data of a JSON text, with nothing after the value. -/
def parse? (text : String) : Option Datum := do
  let s := text.toList
  let (value, rest) ← value? (s.length + 1) s
  if (skip rest).isEmpty then some value else none

end ArchiveAccounts.Json
