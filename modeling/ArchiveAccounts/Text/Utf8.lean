/-!
# UTF-8

Text as bytes, and bytes read back as text: each longest beginning of a character that is cut off
reads as U+FFFD.
-/

namespace ArchiveAccounts.Text.Utf8
set_option autoImplicit false

/-- The UTF-8 form of a list of characters. -/
def encode (s : List Char) : List UInt8 := s.flatMap String.utf8EncodeChar

/-- The UTF-8 form of a text. -/
def bytes (s : String) : List UInt8 := encode s.toList

/-- A character of which some bytes are still to come. -/
structure Pending where
  /-- How many bytes are still to come. -/
  owed : Nat
  /-- The least value that the next byte may have. -/
  low : UInt8
  /-- The greatest value that the next byte may have. -/
  high : UInt8
  /-- The bits read so far. -/
  value : Nat

/-- Stands where bytes are no character. -/
def replacement : Char := Char.ofNat 0xFFFD

/-- Reads a byte between characters. -/
def first (b : UInt8) : List Char × Option Pending :=
  let n := b.toNat
  if n < 0x80 then ([Char.ofNat n], none)
  else if n < 0xC2 then ([replacement], none)
  else if n < 0xE0 then ([], some ⟨1, 0x80, 0xBF, n - 0xC0⟩)
  else if n = 0xE0 then ([], some ⟨2, 0xA0, 0xBF, 0⟩)
  else if n = 0xED then ([], some ⟨2, 0x80, 0x9F, 0xD⟩)
  else if n < 0xF0 then ([], some ⟨2, 0x80, 0xBF, n - 0xE0⟩)
  else if n = 0xF0 then ([], some ⟨3, 0x90, 0xBF, 0⟩)
  else if n < 0xF4 then ([], some ⟨3, 0x80, 0xBF, n - 0xF0⟩)
  else if n = 0xF4 then ([], some ⟨3, 0x80, 0x8F, 4⟩)
  else ([replacement], none)

/-- Reads a byte; one that cannot go on with the pending character ends it and starts afresh. -/
def step : Option Pending → UInt8 → List Char × Option Pending
  | none, b => first b
  | some p, b =>
    if p.low ≤ b ∧ b ≤ p.high then
      let value := p.value * 64 + (b.toNat - 0x80)
      if p.owed ≤ 1 then ([Char.ofNat value], none) else ([], some ⟨p.owed - 1, 0x80, 0xBF, value⟩)
    else
      let (chars, next) := first b
      (replacement :: chars, next)

/-- Reads bytes from a given state on. -/
def run : Option Pending → List UInt8 → List Char
  | none, [] => []
  | some _, [] => [replacement]
  | state, b :: rest =>
    let (chars, next) := step state b
    chars ++ run next rest

/-- The characters of a list of bytes. -/
def decode (b : List UInt8) : List Char := run none b

end ArchiveAccounts.Text.Utf8
