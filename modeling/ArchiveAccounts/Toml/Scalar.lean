import ArchiveAccounts.Calendar.Date
import ArchiveAccounts.Datum
import ArchiveAccounts.Text.Decimal
import ArchiveAccounts.Text.Hex

/-!
# Texts, numbers and dates of TOML

Each reader answers what stands at the front of the text and the rest after it.
-/

namespace ArchiveAccounts.Toml
set_option autoImplicit false

open Text

/-- The white space inside a line. -/
def isSpace (c : Char) : Bool := c == ' ' || c == '\t'

/-- The text from the next character that is no white space. -/
def skipSpace (s : List Char) : List Char := s.dropWhile isSpace

/-- Whether a character may stand as it is in a text or comment: no control character but the
tab. -/
def isPlain (c : Char) : Bool :=
  c == '\t' || (decide (0x20 ≤ c.toNat) && !decide (c.toNat = 0x7F))

/-- The text after the end of a line. -/
def newline? : List Char → Option (List Char)
  | '\n' :: s => some s
  | '\r' :: '\n' :: s => some s
  | _ => none

/-! ## Texts -/

/-- The character with the code point that hexadecimal digits write. -/
def codePoint? (digits : List Char) : Option Char := do
  let n ← Hex.number? digits
  if n.isValidChar then some (Char.ofNat n) else none

/-- What a backslash and a character write, other than a code point. -/
def escape? (c : Char) : Option Char :=
  List.lookup c [('"', '"'), ('\\', '\\'), ('b', '\x08'), ('f', '\x0c'), ('n', '\n'), ('r', '\r'),
    ('t', '\t')]

/-- Puts a character in front of what was read. -/
def prepend (c : Char) : List Char × List Char → List Char × List Char
  | (read, rest) => (c :: read, rest)

/-- Reads a text with escapes on one line, after its opening quote. -/
def basic? : List Char → Option (List Char × List Char)
  | [] => none
  | '"' :: s => some ([], s)
  | '\\' :: 'u' :: a :: b :: c :: d :: s => do
    let x ← codePoint? [a, b, c, d]
    (basic? s).map (prepend x)
  | '\\' :: 'U' :: a :: b :: c :: d :: e :: f :: g :: h :: s => do
    let x ← codePoint? [a, b, c, d, e, f, g, h]
    (basic? s).map (prepend x)
  | '\\' :: c :: s => do
    let x ← escape? c
    (basic? s).map (prepend x)
  | c :: s => if isPlain c then (basic? s).map (prepend c) else none

/-- Reads a text without escapes on one line, after its opening quote. -/
def literal? : List Char → Option (List Char × List Char)
  | [] => none
  | '\'' :: s => some ([], s)
  | c :: s => if isPlain c then (literal? s).map (prepend c) else none

/-- Reads a text with escapes on several lines, after its opening quotes. One or two quotes more
than the closing three belong to the text. After a backslash at the end of a line (`joining`), white
space and line ends do not. -/
def basicLines? (joining : Bool) : List Char → Option (List Char × List Char)
  | [] => none
  | '"' :: '"' :: '"' :: '"' :: '"' :: s => some (['"', '"'], s)
  | '"' :: '"' :: '"' :: '"' :: s => some (['"'], s)
  | '"' :: '"' :: '"' :: s => some ([], s)
  | '\r' :: '\n' :: s =>
    if joining then basicLines? true s else (basicLines? false s).map (prepend '\n')
  | '\n' :: s => if joining then basicLines? true s else (basicLines? false s).map (prepend '\n')
  | '\\' :: 'u' :: a :: b :: c :: d :: s => do
    let x ← codePoint? [a, b, c, d]
    (basicLines? false s).map (prepend x)
  | '\\' :: 'U' :: a :: b :: c :: d :: e :: f :: g :: h :: s => do
    let x ← codePoint? [a, b, c, d, e, f, g, h]
    (basicLines? false s).map (prepend x)
  | '\\' :: c :: s =>
    match escape? c with
    | some x => (basicLines? false s).map (prepend x)
    | none => if (newline? (skipSpace (c :: s))).isSome then basicLines? true (c :: s) else none
  | c :: s =>
    if joining && isSpace c then basicLines? true s
    else if isPlain c then (basicLines? false s).map (prepend c)
    else none

/-- Reads a text without escapes on several lines, after its opening quotes. -/
def literalLines? : List Char → Option (List Char × List Char)
  | [] => none
  | '\'' :: '\'' :: '\'' :: '\'' :: '\'' :: s => some (['\'', '\''], s)
  | '\'' :: '\'' :: '\'' :: '\'' :: s => some (['\''], s)
  | '\'' :: '\'' :: '\'' :: s => some ([], s)
  | '\r' :: '\n' :: s => (literalLines? s).map (prepend '\n')
  | '\n' :: s => (literalLines? s).map (prepend '\n')
  | c :: s => if isPlain c then (literalLines? s).map (prepend c) else none

/-- A text without the line end at its front. -/
def dropNewline (s : List Char) : List Char := (newline? s).getD s

/-! ## Numbers -/

/-- The digits at the front, without the single underscores between them. -/
def spanRun (isDigit : Char → Bool) : List Char → List Char × List Char
  | [] => ([], [])
  | '_' :: d :: s => if isDigit d then spanRun isDigit (d :: s) else ([], '_' :: d :: s)
  | c :: s => if isDigit c then prepend c (spanRun isDigit s) else ([], c :: s)

/-- At least one digit at the front. -/
def run? (isDigit : Char → Bool) (s : List Char) : Option (List Char × List Char) :=
  if s.head?.any isDigit then some (spanRun isDigit s) else none

/-- The integer that digits of a base write, if it has 64 bits. -/
def integer? (negative : Bool) (base : Nat) (digits : List Char) : Option Datum := do
  let n ← digits.foldlM (fun n c => (Hex.digit? c).map (n * base + ·)) 0
  if negative then if n ≤ 0x8000000000000000 then some (.int (-n)) else none
  else if n < 0x8000000000000000 then some (.int n) else none

/-- The integer digits of a decimal number: one zero, or digits that do not start with it. -/
def wholeDigits? : List Char → Option (List Char × List Char)
  | '0' :: s => some (['0'], s)
  | s => run? Char.isDigit s

/-- Reads the fraction of a number, if there is one. -/
def fraction? : List Char → Option (List Char × List Char)
  | '.' :: s => run? Char.isDigit s
  | s => some ([], s)

/-- Reads the exponent of a number, if there is one. -/
def exponent? : List Char → Option (Option Int × List Char)
  | c :: s =>
    if c = 'e' ∨ c = 'E' then do
      let (negative, s) := match s with
        | '+' :: s => (false, s)
        | '-' :: s => (true, s)
        | s => (false, s)
      let (digits, s) ← run? Char.isDigit s
      let n ← Decimal.number? digits
      some (some (if negative then -n else n), s)
    else some (none, c :: s)
  | [] => some (none, [])

/-- Whether `n · 10^e` lies beyond the largest double, so that the nearest double is infinite. -/
def isTooLarge (n : Nat) (e : Int) : Bool :=
  let size := (Decimal.digits n).length + e
  if n = 0 ∨ size < 308 then false
  else if 310 < size then true
  else
    decide (((1 <<< 54) - 1) * (1 <<< 970) * Nat.pow 10 (-e).toNat ≤ n * Nat.pow 10 e.toNat)

/-- Reads a decimal number after its sign. -/
def decimal? (negative : Bool) (s : List Char) : Option (Datum × List Char) := do
  let (whole, s) ← wholeDigits? s
  let (fraction, s) ← fraction? s
  let (exponent, s) ← exponent? s
  if fraction.isEmpty && exponent.isNone then (integer? negative 10 whole).map fun d => (d, s)
  else
    let n ← Decimal.number? (whole ++ fraction)
    if !negative && isTooLarge n (exponent.getD 0 - fraction.length) then none
    else some (.number (String.ofList (whole ++ '.' :: fraction)), s)

/-- Reads an infinity or what is no number, after its sign. -/
def special? : List Char → Option (Datum × List Char)
  | 'i' :: 'n' :: 'f' :: s => some (.number "inf", s)
  | 'n' :: 'a' :: 'n' :: s => some (.number "nan", s)
  | _ => none

/-- Reads a number. -/
def number? : List Char → Option (Datum × List Char)
  | '0' :: 'x' :: s => do
    let (digits, s) ← run? (fun c => (Hex.digit? c).isSome) s
    (integer? false 16 digits).map fun d => (d, s)
  | '0' :: 'o' :: s => do
    let (digits, s) ← run? (fun c => c.isDigit && c != '8' && c != '9') s
    (integer? false 8 digits).map fun d => (d, s)
  | '0' :: 'b' :: s => do
    let (digits, s) ← run? (fun c => c == '0' || c == '1') s
    (integer? false 2 digits).map fun d => (d, s)
  | '+' :: s => (special? s).or (decimal? false s)
  | '-' :: s => (special? s).or (decimal? true s)
  | s => decimal? false s

/-! ## Dates and times -/

/-- The number that two digits write. -/
def pair? (tens ones : Char) : Option Nat := Decimal.number? [tens, ones]

/-- Reads a time of day. -/
def time? : List Char → Option (List Char)
  | a :: b :: ':' :: c :: d :: ':' :: e :: f :: s => do
    let hour ← pair? a b
    let minute ← pair? c d
    let second ← pair? e f
    if hour < 24 ∧ minute < 60 ∧ second ≤ 60 then
      match s with
      | '.' :: x :: s =>
        some (if x.isDigit then s.dropWhile Char.isDigit else '.' :: x :: s)
      | s => some s
    else none
  | _ => none

/-- Reads an offset from UTC, if there is one. -/
def offset? : List Char → Option (List Char)
  | c :: s =>
    if c = 'Z' ∨ c = 'z' then some s
    else if c = '+' ∨ c = '-' then
      match s with
      | a :: b :: ':' :: c :: d :: s => do
        if (← pair? a b) < 24 ∧ (← pair? c d) < 60 then some s else none
      | _ => none
    else some (c :: s)
  | [] => some []

/-- Reads the time and the offset that may follow a date. -/
def timeAfterDate? : List Char → Option (List Char)
  | c :: s =>
    if c = 'T' ∨ c = 't' ∨ c = ' ' then
      match time? s with
      | some s => offset? s
      | none => some (c :: s)
    else some (c :: s)
  | [] => some []

/-- Reads a date, a time, or both. -/
def moment? : List Char → Option (List Char)
  | a :: b :: c :: d :: '-' :: e :: f :: '-' :: g :: h :: s => do
    let year ← Decimal.number? [a, b, c, d]
    let date : Calendar.Date := ⟨year, ← pair? e f, ← pair? g h⟩
    if date.isValid then timeAfterDate? s else none
  | s => time? s

/-- Reads a date, a time or a number. Dates and times hold nothing that has a name. -/
def quantity? (s : List Char) : Option (Datum × List Char) :=
  match moment? s with
  | some s => some (.fields [], s)
  | none => number? s

end ArchiveAccounts.Toml
