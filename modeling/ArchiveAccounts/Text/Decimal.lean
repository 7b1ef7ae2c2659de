/-!
# Decimal numbers

Digits of a natural number and back. Main statements: `number?_digits` and `numberFrom?_padded`.
-/

namespace ArchiveAccounts.Text.Decimal
set_option autoImplicit false

/-- The value of a decimal digit. -/
def digit? (c : Char) : Option Nat := if c.isDigit then some (c.toNat - '0'.toNat) else none

/-- The digit of a value below ten. -/
def digit (n : Nat) : Char := Char.ofNat ('0'.toNat + n)

/-- The digits of a number, most significant first. -/
def digits (n : Nat) : List Char :=
  if n < 10 then [digit n] else digits (n / 10) ++ [digit (n % 10)]

/-- Reads digits after those of the number `n`. -/
def numberFrom? (n : Nat) : List Char → Option Nat
  | [] => some n
  | c :: rest => (digit? c).bind fun d => numberFrom? (n * 10 + d) rest

/-- The number that a nonempty list of digits writes. -/
def number? (s : List Char) : Option Nat := if s.isEmpty then none else numberFrom? 0 s

/-- The digits with zeros in front up to `width` characters. -/
def padded (width n : Nat) : List Char :=
  List.replicate (width - (digits n).length) '0' ++ digits n

/-- An integer with `-` in front where it is negative. -/
def integer (i : Int) : List Char := if i < 0 then '-' :: digits i.natAbs else digits i.natAbs

/-- A 64-bit counter, with an optional `+` in front. -/
def counter? (s : List Char) : Option UInt64 :=
  let unsigned := match s with
    | '+' :: rest => rest
    | _ => s
  (number? unsigned).bind fun n => if n < UInt64.size then some (UInt64.ofNat n) else none

theorem isDigit_digit : ∀ n < 10, (digit n).isDigit = true := by decide

theorem isDigit_of_mem_digits {n : Nat} {c : Char} (h : c ∈ digits n) : c.isDigit = true := by
  induction n using digits.induct with
  | case1 n small =>
    rw [digits, if_pos small, List.mem_singleton] at h
    rw [h]
    exact isDigit_digit n small
  | case2 n large ih =>
    rw [digits, if_neg large, List.mem_append, List.mem_singleton] at h
    rcases h with h | h
    · exact ih h
    · rw [h]
      exact isDigit_digit _ (Nat.mod_lt _ (by decide))

theorem isDigit_of_mem_padded {width n : Nat} {c : Char} (h : c ∈ padded width n) :
    c.isDigit = true := by
  rcases List.mem_append.1 h with h | h
  · rw [List.eq_of_mem_replicate h]
    rfl
  · exact isDigit_of_mem_digits h

theorem digit?_digit : ∀ n < 10, digit? (digit n) = some n := by decide

theorem numberFrom?_append (n : Nat) (s t : List Char) :
    numberFrom? n (s ++ t) = (numberFrom? n s).bind fun m => numberFrom? m t := by
  induction s generalizing n with
  | nil => rfl
  | cons c s ih => cases h : digit? c <;> simp [numberFrom?, h, ih]

theorem numberFrom?_digits (n : Nat) : numberFrom? 0 (digits n) = some n := by
  induction n using digits.induct with
  | case1 n h => rw [digits, if_pos h]; simp [numberFrom?, digit?_digit n h]
  | case2 n h ih =>
    rw [digits, if_neg h, numberFrom?_append, ih]
    simp only [Option.bind_some, numberFrom?, digit?_digit (n % 10) (Nat.mod_lt _ (by decide))]
    congr 1
    omega

theorem digits_ne_nil (n : Nat) : digits n ≠ [] := by
  rw [digits]
  split <;> simp

/-- The digits of a number write it. -/
theorem number?_digits (n : Nat) : number? (digits n) = some n := by
  simp [number?, digits_ne_nil, numberFrom?_digits]

theorem numberFrom?_zeros (count : Nat) (s : List Char) :
    numberFrom? 0 (List.replicate count '0' ++ s) = numberFrom? 0 s := by
  induction count with
  | zero => rfl
  | succ count ih =>
    rw [List.replicate_succ, List.cons_append]
    exact ih

/-- A padded number is read as the number. -/
theorem numberFrom?_padded (width n : Nat) : numberFrom? 0 (padded width n) = some n := by
  rw [padded, numberFrom?_zeros, numberFrom?_digits]

end ArchiveAccounts.Text.Decimal
