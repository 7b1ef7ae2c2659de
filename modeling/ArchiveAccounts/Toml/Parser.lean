import ArchiveAccounts.Toml.Scalar
import ArchiveAccounts.Toml.Table

/-!
# Reading TOML

The data that a TOML document writes, if it is one: its lines, and the tables that they make up.
-/

namespace ArchiveAccounts.Toml
set_option autoImplicit false

/-- One more than the names that a key may have, and than the lists and tables that may stand inside
each other. -/
def depthLimit : Nat := 80

/-- The text from the next character that is no white space, line end or comment. -/
def skipLines (inComment : Bool) : List Char → Option (List Char)
  | [] => if inComment then none else some []
  | '\n' :: s => skipLines false s
  | '\r' :: '\n' :: s => skipLines false s
  | c :: s =>
    if inComment then if isPlain c then skipLines true s else none
    else if isSpace c then skipLines false s
    else if c = '#' then skipLines true s
    else some (c :: s)

/-- The rest after white space and a comment up to the end of the line. -/
def lineEnd? (s : List Char) : Option (List Char) :=
  let s := match skipSpace s with
    | '#' :: s => s.dropWhile isPlain
    | s => s
  if s.isEmpty then some [] else newline? s

/-- Whether a character may stand in a key without quotes. -/
def isBare (c : Char) : Bool := c.isAlphanum || c == '-' || c == '_'

/-- Reads one name of a key. -/
def name? : List Char → Option (String × List Char)
  | '"' :: s => (basic? s).map fun (name, s) => (String.ofList name, s)
  | '\'' :: s => (literal? s).map fun (name, s) => (String.ofList name, s)
  | s =>
    if s.head?.any isBare then some (String.ofList (s.takeWhile isBare), s.dropWhile isBare)
    else none

/-- Reads the names of a key, of which there may be `count`, with white space around each. -/
def names? : Nat → List Char → Option (Key × List Char)
  | 0, _ => none
  | count + 1, s => do
    let (name, s) ← name? (skipSpace s)
    match skipSpace s with
    | '.' :: s =>
      let (key, s) ← names? count s
      some ({ key with lead := name :: key.lead }, s)
    | s => some (⟨[], name⟩, s)

/-- Reads a key. -/
def key? (s : List Char) : Option (Key × List Char) := names? (depthLimit - 1) s

/-- Reads a text that starts with a quote. -/
def text? : List Char → Option (List Char × List Char)
  | '"' :: '"' :: '"' :: s => basicLines? false (dropNewline s)
  | '"' :: s => basic? s
  | '\'' :: '\'' :: '\'' :: s => literalLines? (dropNewline s)
  | '\'' :: s => literal? s
  | _ => none

mutual

/-- Reads a value that may hold `depth` levels of lists and tables. Each step takes one unit of
fuel, and there are no more steps than characters. -/
def value? : Nat → Nat → List Char → Option (Datum × List Char)
  | 0, _, _ => none
  | fuel + 1, depth, s =>
    match s with
    | '[' :: s =>
      if depth = 0 then none
      else (items? fuel (depth - 1) s).map fun (items, s) => (.list items, s)
    | '\x7b' :: s => do
      if depth = 0 then none
      else
        match skipSpace s with
        | '\x7d' :: s => some (.fields [], s)
        | s =>
          let (pairs, s) ← pairs? fuel (depth - 1) s
          some (← Entries.inline? pairs, s)
    | 't' :: 'r' :: 'u' :: 'e' :: s => some (.bool true, s)
    | 'f' :: 'a' :: 'l' :: 's' :: 'e' :: s => some (.bool false, s)
    | 'i' :: _ => special? s
    | 'n' :: _ => special? s
    | c :: _ =>
      if c = '"' ∨ c = '\'' then (text? s).map fun (t, s) => (.ofText (String.ofList t), s)
      else quantity? s
    | [] => none

/-- Reads the items of a list up to its end; a comma may follow the last one. -/
def items? : Nat → Nat → List Char → Option (List Datum × List Char)
  | 0, _, _ => none
  | fuel + 1, depth, s => do
    match ← skipLines false s with
    | ']' :: s => some ([], s)
    | s =>
      let (item, s) ← value? fuel depth s
      match ← skipLines false s with
      | ']' :: s => some ([item], s)
      | ',' :: s =>
        let (items, s) ← items? fuel depth s
        some (item :: items, s)
      | _ => none

/-- Reads the pairs of an inline table up to its end. -/
def pairs? : Nat → Nat → List Char → Option (List (Key × Datum) × List Char)
  | 0, _, _ => none
  | fuel + 1, depth, s => do
    let (key, s) ← key? s
    match s with
    | '=' :: s =>
      let (data, s) ← value? fuel depth (skipSpace s)
      match skipSpace s with
      | '\x7d' :: s => some ([(key, data)], s)
      | ',' :: s =>
        let (pairs, s) ← pairs? fuel depth s
        some ((key, data) :: pairs, s)
      | _ => none
    | _ => none

end

/-- Reads a line that is not empty. -/
def line? (s : List Char) : Option (Line × List Char) :=
  match s with
  | '[' :: '[' :: s => do
    let (key, s) ← key? s
    match s with
    | ']' :: ']' :: s => some (.item key, s)
    | _ => none
  | '[' :: s => do
    let (key, s) ← key? s
    match s with
    | ']' :: s => some (.table key, s)
    | _ => none
  | s => do
    let (key, s) ← key? s
    match s with
    | '=' :: s =>
      let (data, s) ← value? (s.length + 1) (depthLimit - 1) (skipSpace s)
      some (.assign key data, s)
    | _ => none

/-- Reads the lines of a document, of which there may be fewer than `fuel`. -/
def lines? : Nat → List Char → Option (List Line)
  | 0, _ => none
  | fuel + 1, s =>
    match skipSpace s with
    | [] => some []
    | '#' :: s => (lineEnd? ('#' :: s)).bind (lines? fuel)
    | '\n' :: s => lines? fuel s
    | '\r' :: '\n' :: s => lines? fuel s
    | s => do
      let (line, s) ← line? s
      let lines ← lines? fuel (← lineEnd? s)
      some (line :: lines)

/-- The data of a document, which may start with a byte order mark. -/
def parse? (document : String) : Option Datum :=
  let s := match document.toList with
    | '\uFEFF' :: s => s
    | s => s
  (lines? (s.length + 1) s).bind Outline.data?

end ArchiveAccounts.Toml
