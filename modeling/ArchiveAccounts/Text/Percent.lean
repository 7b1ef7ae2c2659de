import ArchiveAccounts.Text.Hex
import ArchiveAccounts.Text.Utf8

/-!
# Percent encoding

The bytes of a text, each either written as it is or as `%` and two digits. The strict form of
signed requests keeps unreserved characters only; the form of URL parts is given by the set of
characters that it may not hold.
-/

namespace ArchiveAccounts.Text.Percent
set_option autoImplicit false

/-- Whether the strict form keeps `/` or writes it as `%2F`. -/
inductive Slash where
  | kept
  | encoded
  deriving DecidableEq, Repr

/-- Letters, digits, `-`, `_`, `.` and `~`, as bytes. -/
def isUnreserved (b : UInt8) : Bool :=
  let c := Char.ofNat b.toNat
  b < 0x80 && (c.isAlphanum || c == '-' || c == '_' || c == '.' || c == '~')

/-- Whether the strict form writes a byte as it is. -/
def isKept (slash : Slash) (b : UInt8) : Bool :=
  isUnreserved b || (slash == .kept && b == 0x2F)

/-- The strict form of one byte. -/
def encodeByte (slash : Slash) (b : UInt8) : List Char :=
  if isKept slash b then [Char.ofNat b.toNat] else '%' :: Hex.upperByte b

/-- The strict form of a text. -/
def encode (slash : Slash) (s : String) : String :=
  String.ofList ((Utf8.bytes s).flatMap (encodeByte slash))

/-- Writes each byte of the characters in `reserved`, and of all beyond ASCII, as an escape. -/
def escape (reserved : Char → Bool) (s : List Char) : List Char :=
  s.flatMap fun c =>
    if reserved c || c.toNat ≥ 0x80 then (String.utf8EncodeChar c).flatMap ('%' :: Hex.upperByte ·)
    else [c]

/-- The value of a byte that stands for a hexadecimal digit. -/
def hexByte? (b : UInt8) : Option Nat := Hex.digit? (Char.ofNat b.toNat)

/-- The bytes with every escape read; a `%` without two digits stands for itself. -/
def decodeBytes : List UInt8 → List UInt8
  | [] => []
  | [b] => [b]
  | [b, c] => [b, c]
  | b :: high :: low :: rest =>
    match (if b = 0x25 then hexByte? high else none), hexByte? low with
    | some x, some y => UInt8.ofNat (x * 16 + y) :: decodeBytes rest
    | _, _ => b :: decodeBytes (high :: low :: rest)

/-- The text with every escape read, as UTF-8. -/
def decode (s : String) : String := String.ofList (Utf8.decode (decodeBytes (Utf8.bytes s)))

end ArchiveAccounts.Text.Percent
