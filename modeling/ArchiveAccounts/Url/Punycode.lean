/-!
# Punycode

A label of any characters as one of letters, digits and hyphens: first its ASCII characters, then
for each other one, in ascending order, how far to go on through all places and characters to come
to it.
-/

namespace ArchiveAccounts.Url.Punycode
set_option autoImplicit false

/-- The digit of a value below 36: letters, then decimal digits. -/
def digit (n : Nat) : Char :=
  Char.ofNat (if n < 26 then 'a'.toNat + n else '0'.toNat + n - 26)

/-- The value of a digit of either case. -/
def digit? (c : Char) : Option Nat :=
  if 'a' ≤ c ∧ c ≤ 'z' then some (c.toNat - 'a'.toNat)
  else if 'A' ≤ c ∧ c ≤ 'Z' then some (c.toNat - 'A'.toNat)
  else if '0' ≤ c ∧ c ≤ '9' then some (c.toNat - '0'.toNat + 26)
  else none

/-- How the threshold of digits goes with the size of the last distance. -/
def adaptFrom (delta k : Nat) : Nat :=
  if delta > 455 then adaptFrom (delta / 35) (k + 36) else k + 36 * delta / (delta + 38)
  termination_by delta

/-- The bias after a distance; the first one counts less. -/
def adapt (delta length : Nat) (isFirst : Bool) : Nat :=
  let delta := if isFirst then delta / 700 else delta / 2
  adaptFrom (delta + delta / length) 0

/-- The least digit that a number may go on after, at the weight `k`. -/
def threshold (k bias : Nat) : Nat := max 1 (min 26 (k - bias))

/-- A distance in digits, least significant first. -/
def distance (bias k q : Nat) : List Char :=
  let t := threshold k bias
  if h : q < t then [digit q]
  else digit (t + (q - t) % (36 - t)) :: distance bias (k + 36) ((q - t) / (36 - t))
  termination_by q
  decreasing_by
    have ht : 1 ≤ threshold k bias := Nat.le_max_left _ _
    have := Nat.div_le_self (q - threshold k bias) (36 - threshold k bias)
    omega

/-- Where writing stands. -/
structure Writer where
  /-- The least character not yet written. -/
  next : Nat := 128
  delta : Nat := 0
  bias : Nat := 72
  /-- How many characters are written. -/
  handled : Nat
  basic : Nat
  output : List Char

/-- Goes over one character of the label while the character `m` is written. -/
def Writer.pass (m : Nat) (w : Writer) (c : Nat) : Writer :=
  if c < m then { w with delta := w.delta + 1 }
  else if c = m then
    { w with
      output := w.output ++ distance w.bias 36 w.delta
      bias := adapt w.delta (w.handled + 1) (w.handled == w.basic)
      delta := 0
      handled := w.handled + 1 }
  else w

/-- Writes all occurrences of the character `m`. -/
def Writer.write (label : List Nat) (w : Writer) (m : Nat) : Writer :=
  let w := { w with delta := w.delta + (m - w.next) * (w.handled + 1), next := m }
  let w := label.foldl (Writer.pass m) w
  { w with delta := w.delta + 1, next := m + 1 }

/-- The distinct values from `128` on, ascending. -/
def extended (label : List Nat) : List Nat :=
  ((label.filter (128 ≤ ·)).mergeSort).eraseDups

/-- The Punycode form of a label. -/
def encode (label : List Char) : List Char :=
  let points := label.map Char.toNat
  let basic := label.filter fun c => c.toNat < 128
  let start := if basic.isEmpty then [] else basic ++ ['-']
  let writer : Writer := { handled := basic.length, basic := basic.length, output := start }
  ((extended points).foldl (Writer.write points) writer).output

/-- Reads one distance: its value added to `i`, and the digits after it. -/
def readDistance (bias : Nat) : Nat → Nat → Nat → List Char → Option (Nat × List Char)
  | _, _, _, [] => none
  | k, weight, i, c :: rest => do
    let d ← digit? c
    let i := i + d * weight
    let t := threshold k bias
    if d < t then some (i, rest) else readDistance bias (k + 36) (weight * (36 - t)) i rest

/-- Puts a value at a place. -/
def insertAt {α : Type} (value : α) : Nat → List α → List α
  | 0, l => value :: l
  | _ + 1, [] => [value]
  | n + 1, a :: l => a :: insertAt value n l

/-- Reads distances to the end; each takes at least one digit. -/
def readAll : Nat → Nat → Nat → Nat → List Nat → List Char → Option (List Nat)
  | _, _, _, _, points, [] => some points
  | 0, _, _, _, _, _ => none
  | fuel + 1, n, i, bias, points, digits => do
    let (j, rest) ← readDistance bias 36 1 i digits
    let length := points.length + 1
    let n := n + j / length
    let place := j % length
    if n > 0x10FFFF then none
    else readAll fuel n (place + 1) (adapt (j - i) length (i == 0)) (insertAt n place points) rest

/-- The ASCII characters in front of the last hyphen, and the digits after it. -/
def split (s : List Char) : List Char × List Char :=
  let digits := (s.reverse.takeWhile (· != '-')).reverse
  if digits.length = s.length then ([], s) else (s.take (s.length - digits.length - 1), digits)

/-- The label that a Punycode form writes. -/
def decode? (s : List Char) : Option (List Char) := do
  let (basic, digits) := split s
  if basic.any fun c => decide (128 ≤ c.toNat) then none
  else
    let points ← readAll digits.length 128 0 72 (basic.map Char.toNat) digits
    if points.any fun n => decide (0xD800 ≤ n) && decide (n < 0xE000) then none
    else some (points.map Char.ofNat)

end ArchiveAccounts.Url.Punycode
