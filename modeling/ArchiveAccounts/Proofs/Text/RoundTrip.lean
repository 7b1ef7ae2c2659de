import ArchiveAccounts.Text.FormEncoded
import Mathlib.Data.Bool.AllAny

/-!
# Encoded text reads back

A text is read from its UTF-8 bytes, from its strict percent form, and as a part of a form-encoded
query. Main statements: `Utf8.decode_encode`, `Percent.decode_encode` and `FormEncoded.decode_join`.
-/

namespace ArchiveAccounts.Text
set_option autoImplicit false

/-- What holds of each character of ASCII by its number. -/
theorem forall_ascii {P : Char → Prop} (each : ∀ n < 0x80, P (Char.ofNat n)) {c : Char}
    (ascii : c.toNat < 0x80) : P c := by
  have h := each c.toNat ascii
  rwa [Char.ofNat_toNat] at h

/-! ## Pieces -/

theorem splitAt_cons_self (c : Char) (rest : List Char) :
    splitAt c (c :: rest) = [] :: splitAt c rest := by
  rw [splitAt, pieces]
  dsimp only
  rw [if_pos rfl]
  rfl

theorem splitAt_cons_of_ne {c x : Char} (other : x ≠ c) (rest : List Char) :
    splitAt c (x :: rest) = (x :: (pieces c rest).1) :: (pieces c rest).2 := by
  rw [splitAt, pieces]
  dsimp only
  rw [if_neg other]

theorem splitAt_ne_nil (c : Char) (s : List Char) : splitAt c s ≠ [] := List.cons_ne_nil _ _

/-- What stands in a piece stands in the text and is not the character that it is cut at. -/
theorem mem_and_ne_of_mem_splitAt {c d : Char} {s piece : List Char} (mem : piece ∈ splitAt c s)
    (inside : d ∈ piece) : d ∈ s ∧ d ≠ c := by
  induction s generalizing piece with
  | nil =>
    rw [List.mem_singleton.1 mem] at inside
    exact nomatch inside
  | cons x rest ih =>
    have later : ∀ {piece}, piece ∈ splitAt c rest → d ∈ piece → d ∈ x :: rest ∧ d ≠ c :=
      fun mem inside => (ih mem inside).imp_left (List.mem_cons_of_mem x)
    by_cases same : x = c
    · rw [same, splitAt_cons_self] at mem
      rcases List.mem_cons.1 mem with rfl | mem
      · exact nomatch inside
      · exact later mem inside
    · rw [splitAt_cons_of_ne same] at mem
      rcases List.mem_cons.1 mem with rfl | mem
      · rcases List.mem_cons.1 inside with rfl | inside
        · exact ⟨List.mem_cons_self, same⟩
        · exact later List.mem_cons_self inside
      · exact later (List.mem_cons_of_mem _ mem) inside

theorem not_mem_of_mem_splitAt {c : Char} {s piece : List Char} (mem : piece ∈ splitAt c s) :
    c ∉ piece :=
  fun inside => (mem_and_ne_of_mem_splitAt mem inside).2 rfl

theorem mem_of_mem_splitAt {c d : Char} {s piece : List Char} (mem : piece ∈ splitAt c s)
    (inside : d ∈ piece) : d ∈ s :=
  (mem_and_ne_of_mem_splitAt mem inside).1

theorem splitAt_eq_splitOn (c : Char) (s : List Char) : splitAt c s = s.splitOn c := by
  induction s with
  | nil => rfl
  | cons x rest ih =>
    rw [List.splitOn_cons_eq_if_modifyHead, ← ih]
    by_cases same : x = c
    · rw [same, splitAt_cons_self, if_pos BEq.rfl]
    · rw [splitAt_cons_of_ne same, if_neg (by rwa [beq_iff_eq])]
      rfl

theorem splitAt_of_not_mem {c : Char} {s : List Char} (h : c ∉ s) : splitAt c s = [s] := by
  rw [splitAt_eq_splitOn, List.splitOn_eq_singleton h]

/-- The pieces of two texts with the character between them. -/
theorem splitAt_append (c : Char) (s rest : List Char) :
    splitAt c (s ++ c :: rest) = splitAt c s ++ splitAt c rest := by
  simp only [splitAt_eq_splitOn, List.splitOn_append_cons_self]

/-- Pieces that are put together are the pieces of the text. -/
theorem splitAt_intercalate {c : Char} {parts : List (List Char)} (some_ : parts ≠ [])
    (free : ∀ part ∈ parts, c ∉ part) : splitAt c ([c].intercalate parts) = parts := by
  rw [splitAt_eq_splitOn, List.splitOn_intercalate c free some_]

/-! ## UTF-8 -/

namespace Utf8

theorem toNat_ofNat {n : Nat} (small : n < 256) : (UInt8.ofNat n).toNat = n :=
  UInt8.toNat_ofNat_of_lt' small

/-- A byte that goes on with a character adds six bits. -/
theorem step_next {p : Pending} {k : Nat} (low : p.low.toNat ≤ k + 128)
    (high : k + 128 ≤ p.high.toNat) :
    step (some p) (UInt8.ofNat (k + 128)) =
      if p.owed ≤ 1 then ([Char.ofNat (p.value * 64 + k)], none)
      else ([], some ⟨p.owed - 1, 0x80, 0xBF, p.value * 64 + k⟩) := by
  have byte : (UInt8.ofNat (k + 128)).toNat = k + 128 := by
    have := p.high.toNat_lt
    exact toNat_ofNat (by omega)
  have fits : p.low ≤ UInt8.ofNat (k + 128) ∧ UInt8.ofNat (k + 128) ≤ p.high := by
    rw [UInt8.le_iff_toNat_le, UInt8.le_iff_toNat_le, byte]
    exact ⟨low, high⟩
  rw [step, if_pos fits, byte, Nat.add_sub_cancel]

/-- The first byte of a character of two bytes. -/
theorem first_ofTwo {n : Nat} (low : 2 ≤ n) (high : n < 32) :
    first (UInt8.ofNat (n + 192)) = ([], some ⟨1, 0x80, 0xBF, n⟩) := by
  rw [first, toNat_ofNat (by omega)]
  rw [if_neg (by omega), if_neg (by omega), if_pos (by omega), Nat.add_sub_cancel]

/-- The first byte of a character of three bytes, of which the second one has the bits `k`. -/
theorem first_ofThree {n k : Nat} (bits : n < 16) (more : k < 64) (long : n = 0 → 32 ≤ k)
    (noSurrogate : n = 13 → k < 32) :
    ∃ low high : UInt8, first (UInt8.ofNat (n + 224)) = ([], some ⟨2, low, high, n⟩) ∧
      low.toNat ≤ k + 128 ∧ k + 128 ≤ high.toNat := by
  rw [first, toNat_ofNat (by omega)]
  rw [if_neg (by omega), if_neg (by omega), if_neg (by omega)]
  by_cases zero : n = 0
  · subst zero
    exact ⟨0xA0, 0xBF, rfl, by simpa using long rfl, by simp; omega⟩
  · rw [if_neg (by omega)]
    by_cases d : n = 13
    · subst d
      exact ⟨0x80, 0x9F, rfl, by simp, by have := noSurrogate rfl; simp; omega⟩
    · rw [if_neg (by omega), if_pos (by omega), Nat.add_sub_cancel]
      exact ⟨0x80, 0xBF, rfl, by simp, by simp; omega⟩

/-- The first byte of a character of four bytes, of which the second one has the bits `k`. -/
theorem first_ofFour {n k : Nat} (bits : n ≤ 4) (more : k < 64) (long : n = 0 → 16 ≤ k)
    (least : n = 4 → k < 16) :
    ∃ low high : UInt8, first (UInt8.ofNat (n + 240)) = ([], some ⟨3, low, high, n⟩) ∧
      low.toNat ≤ k + 128 ∧ k + 128 ≤ high.toNat := by
  rw [first, toNat_ofNat (by omega)]
  rw [if_neg (by omega), if_neg (by omega), if_neg (by omega), if_neg (by omega), if_neg (by omega),
    if_neg (by omega)]
  by_cases zero : n = 0
  · subst zero
    exact ⟨0x90, 0xBF, rfl, by simpa using long rfl, by simp; omega⟩
  · rw [if_neg (by omega)]
    by_cases four : n = 4
    · subst four
      exact ⟨0x80, 0x8F, rfl, by simp, by have := least rfl; simp; omega⟩
    · rw [if_pos (by omega), Nat.add_sub_cancel]
      exact ⟨0x80, 0xBF, rfl, by simp, by simp; omega⟩

theorem run_cons (state : Option Pending) (b : UInt8) (rest : List UInt8) :
    run state (b :: rest) = (step state b).1 ++ run (step state b).2 rest := by
  cases state <;> rfl

/-- A character is read from its bytes. -/
theorem run_encodeChar (c : Char) (rest : List UInt8) :
    run none (String.utf8EncodeChar c ++ rest) = c :: run none rest := by
  have self : Char.ofNat c.val.toNat = c := Char.ofNat_toNat c
  have valid : c.val.toNat < 0xD800 ∨ (0xDFFF < c.val.toNat ∧ c.val.toNat < 0x110000) := c.valid
  rw [String.utf8EncodeChar]
  generalize c.val.toNat = v at *
  split
  · next small =>
    have lead : first (UInt8.ofNat v) = ([Char.ofNat v], none) := by
      rw [first, toNat_ofNat (by omega)]
      exact if_pos (by omega)
    rw [List.singleton_append, run_cons, step, lead, self, List.singleton_append]
  · split
    · have bits : v / 64 * 64 + v % 64 = v := by omega
      rw [Nat.mod_eq_of_lt (by omega : v / 64 < 32)]
      simp only [List.cons_append, List.nil_append, run_cons]
      rw [step, first_ofTwo (by omega) (by omega), step_next (by simp) (by simp; omega)]
      simp [bits, self]
    · split
      · rw [Nat.mod_eq_of_lt (by omega : v / 4096 < 16)]
        obtain ⟨low, high, lead, above, below⟩ := first_ofThree (n := v / 4096) (k := v / 64 % 64)
          (by omega) (by omega) (by omega) (by omega)
        have bits : (v / 4096 * 64 + v / 64 % 64) * 64 + v % 64 = v := by omega
        simp only [List.cons_append, List.nil_append, run_cons]
        rw [step, lead, step_next above below]
        simp only [List.nil_append]
        rw [if_neg (by decide), step_next (by simp) (by simp; omega)]
        simp [bits, self]
      · rw [Nat.mod_eq_of_lt (by omega : v / 262144 < 8)]
        obtain ⟨low, high, lead, above, below⟩ := first_ofFour (n := v / 262144)
          (k := v / 4096 % 64) (by omega) (by omega) (by omega) (by omega)
        have bits : ((v / 262144 * 64 + v / 4096 % 64) * 64 + v / 64 % 64) * 64 + v % 64 = v := by
          omega
        simp only [List.cons_append, List.nil_append, run_cons]
        rw [step, lead, step_next above below]
        simp only [List.nil_append]
        rw [if_neg (by decide), step_next (by simp) (by simp; omega)]
        simp only [List.nil_append]
        rw [if_neg (by decide), step_next (by simp) (by simp; omega)]
        simp [bits, self]

/-- A text is read from its bytes, whatever follows. -/
theorem run_encode (s : List Char) (rest : List UInt8) :
    run none (encode s ++ rest) = s ++ run none rest := by
  rw [encode]
  induction s with
  | nil => rfl
  | cons c s ih => rw [List.flatMap_cons, List.append_assoc, run_encodeChar, ih, List.cons_append]

/-- Bytes of a text are read as the text. -/
theorem decode_encode (s : List Char) : decode (encode s) = s := by
  have read := run_encode s []
  rwa [List.append_nil, run, List.append_nil] at read

/-- A character of ASCII is one byte. -/
theorem encodeChar_ascii {c : Char} (ascii : c.toNat < 0x80) :
    String.utf8EncodeChar c = [UInt8.ofNat c.toNat] := by
  rw [String.utf8EncodeChar]
  exact if_pos (Nat.le_of_lt_succ ascii)

/-- Characters of ASCII are as many bytes. -/
theorem encode_ascii {s : List Char} (ascii : ∀ c ∈ s, c.toNat < 0x80) :
    encode s = s.map fun c => UInt8.ofNat c.toNat := by
  induction s with
  | nil => rfl
  | cons c s ih =>
    obtain ⟨first, rest⟩ := List.forall_mem_cons.1 ascii
    have later : s.flatMap String.utf8EncodeChar = _ := ih rest
    rw [encode, List.flatMap_cons, encodeChar_ascii first, later]
    rfl

theorem encode_append (s t : List Char) : encode (s ++ t) = encode s ++ encode t :=
  List.flatMap_append

/-- The bytes of a character beyond ASCII are beyond it too. -/
theorem le_of_mem_encodeChar {c : Char} (beyond : 0x80 ≤ c.toNat) {b : UInt8}
    (mem : b ∈ String.utf8EncodeChar c) : 0x80 ≤ b.toNat := by
  have each : ∀ bits base : Nat, 0x80 ≤ base → bits + base < 256 →
      0x80 ≤ (UInt8.ofNat (bits + base)).toNat := by
    intro bits base least most
    rw [toNat_ofNat most]
    omega
  have beyond : 0x80 ≤ c.val.toNat := beyond
  rw [String.utf8EncodeChar] at mem
  generalize c.val.toNat = v at *
  rw [if_neg (by omega)] at mem
  split at mem
  · simp only [List.mem_cons, List.not_mem_nil, or_false] at mem
    rcases mem with rfl | rfl <;> exact each _ _ (by decide) (by omega)
  · split at mem
    · simp only [List.mem_cons, List.not_mem_nil, or_false] at mem
      rcases mem with rfl | rfl | rfl <;> exact each _ _ (by decide) (by omega)
    · simp only [List.mem_cons, List.not_mem_nil, or_false] at mem
      rcases mem with rfl | rfl | rfl | rfl <;> exact each _ _ (by decide) (by omega)

/-- A byte of ASCII is one of its character. -/
theorem mem_of_mem_encode {s : List Char} {c : Char} (ascii : c.toNat < 0x80)
    (mem : UInt8.ofNat c.toNat ∈ encode s) : c ∈ s := by
  have small : (UInt8.ofNat c.toNat).toNat = c.toNat :=
    toNat_ofNat (Nat.lt_trans ascii (by decide))
  obtain ⟨d, inside, byte⟩ := List.mem_flatMap.1 mem
  by_cases beyond : 0x80 ≤ d.toNat
  · have := le_of_mem_encodeChar beyond byte
    omega
  · rw [encodeChar_ascii (Nat.not_le.1 beyond), List.mem_singleton] at byte
    have same := congrArg UInt8.toNat byte
    rw [small, toNat_ofNat (by omega)] at same
    rwa [← Char.ofNat_toNat c, same, Char.ofNat_toNat]

end Utf8

/-! ## The strict percent form -/

namespace Percent

/-- Whether the strict form writes a character as it is. -/
def keepsChar (slash : Slash) (c : Char) : Bool :=
  decide (c.toNat < 0x80) && isKept slash (UInt8.ofNat c.toNat)

/-- Whether a character may stand in a strict form. -/
def isStrict (slash : Slash) (c : Char) : Bool := keepsChar slash c || c == '%'

theorem forall_byte {P : UInt8 → Prop} (each : ∀ n < 256, P (UInt8.ofNat n)) (b : UInt8) : P b := by
  have h := each b.toNat b.toNat_lt
  rwa [UInt8.ofNat_toNat] at h

theorem all_encodeByte (slash : Slash) :
    ∀ b : UInt8, (encodeByte slash b).all (isStrict slash) = true := by
  refine forall_byte ?_
  cases slash <;> decide +kernel

/-- What holds of the characters that may stand in a strict form holds if it holds of each. -/
theorem forall_strict {slash : Slash} {P : Char → Prop}
    (each : ∀ n < 0x80, isStrict slash (Char.ofNat n) = true → P (Char.ofNat n)) :
    ∀ c : Char, isStrict slash c = true → P c := by
  intro c strict
  have ascii : c.toNat < 0x80 := by
    rcases Bool.or_eq_true_iff.1 strict with kept | percent
    · exact of_decide_eq_true (Bool.and_eq_true_iff.1 kept).1
    · rw [eq_of_beq percent]
      decide
  exact forall_ascii (P := fun c => isStrict slash c = true → P c) each ascii strict

/-- What a strict form is made of. -/
theorem isStrict_of_mem_encode {slash : Slash} {s : String} {c : Char}
    (mem : c ∈ (encode slash s).toList) : isStrict slash c = true := by
  rw [encode, String.toList_ofList] at mem
  obtain ⟨b, _, written⟩ := List.mem_flatMap.1 mem
  exact List.all_eq_true.1 (all_encodeByte slash b) c written

/-- The strict form of a text of characters that it keeps is the text. -/
theorem encode_eq_self {slash : Slash} {s : String}
    (kept : ∀ c ∈ s.toList, keepsChar slash c = true) : encode slash s = s := by
  have ascii : ∀ c ∈ s.toList, c.toNat < 0x80 := fun c mem =>
    of_decide_eq_true (Bool.and_eq_true_iff.1 (kept c mem)).1
  rw [encode, Utf8.bytes, Utf8.encode_ascii ascii, List.flatMap_map]
  have each : s.toList.flatMap (fun c => encodeByte slash (UInt8.ofNat c.toNat))
      = s.toList.flatMap fun c => [c] := by
    rw [List.flatMap_def, List.flatMap_def]
    congr 1
    apply List.map_congr_left
    intro c mem
    rw [encodeByte, if_pos (Bool.and_eq_true_iff.1 (kept c mem)).2,
      Utf8.toNat_ofNat (Nat.lt_trans (ascii c mem) (by decide)), Char.ofNat_toNat]
  rw [each, List.flatMap_singleton', String.ofList_toList]

theorem encode_append (slash : Slash) (s t : String) :
    encode slash (s ++ t) = encode slash s ++ encode slash t := by
  rw [encode, Utf8.bytes, String.toList_append, Utf8.encode_append, List.flatMap_append,
    String.ofList_append]
  rfl

/-! ### Reading it -/

theorem decodeBytes_cons {b : UInt8} (plain : b ≠ 0x25) (rest : List UInt8) :
    decodeBytes (b :: rest) = b :: decodeBytes rest := by
  match rest with
  | [] => rfl
  | [c] => rfl
  | high :: low :: rest => rw [decodeBytes, if_neg plain]

theorem hexByte?_upperDigit : ∀ n < 16,
    (Hex.upperDigit n).toNat < 0x80 ∧
      hexByte? (UInt8.ofNat (Hex.upperDigit n).toNat) = some n := by
  decide

theorem decodeBytes_escape (b : UInt8) (rest : List UInt8) :
    decodeBytes (Utf8.encode ('%' :: Hex.upperByte b) ++ rest) = b :: decodeBytes rest := by
  have small := b.toNat_lt
  obtain ⟨highAscii, high⟩ := hexByte?_upperDigit (b.toNat / 16) (by omega)
  obtain ⟨lowAscii, low⟩ := hexByte?_upperDigit (b.toNat % 16) (by omega)
  have ascii : ∀ c ∈ '%' :: Hex.upperByte b, c.toNat < 0x80 := by
    simp only [Hex.upperByte, List.forall_mem_cons]
    exact ⟨by decide, highAscii, lowAscii, List.forall_mem_nil _⟩
  rw [Utf8.encode_ascii ascii]
  show decodeBytes (0x25 :: UInt8.ofNat _ :: UInt8.ofNat _ :: rest) = _
  rw [decodeBytes, if_pos rfl, high, low]
  dsimp only
  rw [Nat.div_add_mod', UInt8.ofNat_toNat]

/-- A byte that is written as it is is the one of its character, which is no `%`. -/
theorem isKept_spec (slash : Slash) : ∀ b : UInt8, isKept slash b = true →
    Utf8.encode [Char.ofNat b.toNat] = [b] ∧ b ≠ 0x25 := by
  refine forall_byte ?_
  cases slash <;> decide +kernel

theorem decodeBytes_encodeByte (slash : Slash) (b : UInt8) (rest : List UInt8) :
    decodeBytes (Utf8.encode (encodeByte slash b) ++ rest) = b :: decodeBytes rest := by
  rw [encodeByte]
  split
  · next kept =>
    obtain ⟨same, plain⟩ := isKept_spec slash b kept
    rw [same, List.singleton_append, decodeBytes_cons plain]
  · exact decodeBytes_escape b rest

theorem decodeBytes_encode (slash : Slash) (s : String) (rest : List UInt8) :
    decodeBytes (Utf8.bytes (encode slash s) ++ rest) = Utf8.bytes s ++ decodeBytes rest := by
  rw [encode, Utf8.bytes, String.toList_ofList]
  induction Utf8.bytes s with
  | nil => rfl
  | cons b bytes ih =>
    rw [List.flatMap_cons, Utf8.encode_append, List.append_assoc, decodeBytes_encodeByte, ih,
      List.cons_append]

/-- A text is read from its strict form, whatever follows. -/
theorem decode_encode_append (slash : Slash) (s t : String) :
    decode (encode slash s ++ t) = s ++ decode t := by
  have bytes : Utf8.bytes (encode slash s ++ t) = Utf8.bytes (encode slash s) ++ Utf8.bytes t := by
    rw [Utf8.bytes, String.toList_append, Utf8.encode_append]
    rfl
  rw [decode, bytes, decodeBytes_encode, Utf8.decode, Utf8.bytes, Utf8.run_encode,
    String.ofList_append, String.ofList_toList]
  rfl

theorem decode_encode (slash : Slash) (s : String) : decode (encode slash s) = s := by
  have bytes := decodeBytes_encode slash s []
  rw [List.append_nil, decodeBytes, List.append_nil] at bytes
  rw [decode, bytes, Utf8.bytes, Utf8.decode_encode, String.ofList_toList]

theorem encode_injective (slash : Slash) : Function.Injective (encode slash) :=
  Function.LeftInverse.injective (decode_encode slash)

end Percent

/-! ## Form-encoded queries -/

namespace FormEncoded

/-- A part in the strict form is read as the text. -/
theorem decodePart_encode (s : String) :
    decodePart (Percent.encode .encoded s).toList = s := by
  have noPlus : (Percent.encode .encoded s).toList.map (fun c => if c = '+' then ' ' else c)
      = (Percent.encode .encoded s).toList := by
    refine (List.map_congr_left fun c mem => ?_).trans (List.map_id _)
    have other : c ≠ '+' := Percent.forall_strict (P := (· ≠ '+')) (by decide +kernel) c
      (Percent.isStrict_of_mem_encode mem)
    exact if_neg other
  rw [decodePart, noPlus]
  exact Percent.decode_encode .encoded s

/-- A pair in the strict form. -/
def written (pair : String × String) : String :=
  Percent.encode .encoded pair.1 ++ "=" ++ Percent.encode .encoded pair.2

theorem toList_written (pair : String × String) :
    (written pair).toList = (Percent.encode .encoded pair.1).toList
      ++ '=' :: (Percent.encode .encoded pair.2).toList := by
  rw [written, String.toList_append, String.toList_append, List.append_assoc]
  rfl

theorem decodePair_written (pair : String × String) :
    decodePair (written pair).toList = pair := by
  have noEquals : '=' ∉ (Percent.encode .encoded pair.1).toList := fun mem =>
    Percent.forall_strict (P := (· ≠ '=')) (by decide +kernel) '='
      (Percent.isStrict_of_mem_encode mem) rfl
  have cut := cutAt_eq_some_iff.2 ⟨toList_written pair, noEquals⟩
  rw [decodePair, cut]
  dsimp only
  rw [decodePart_encode, decodePart_encode]

/-- What is written of a pair can stand in a query. -/
theorem mem_written {pair : String × String} {c : Char} (mem : c ∈ (written pair).toList) :
    Percent.isStrict .encoded c = true ∨ c = '=' := by
  rw [toList_written, List.mem_append, List.mem_cons] at mem
  rcases mem with mem | same | mem
  · exact .inl (Percent.isStrict_of_mem_encode mem)
  · exact .inr same
  · exact .inl (Percent.isStrict_of_mem_encode mem)

/-- Pairs that are written in the strict form and joined are read. -/
theorem decode_join (pairs : List (String × String)) :
    decode (joinWith "&" (pairs.map written)).toList = pairs := by
  rw [joinWith, String.toList_intercalate, List.map_map]
  cases pairs with
  | nil => rfl
  | cons first rest =>
    have free : ∀ part ∈ (first :: rest).map (String.toList ∘ written), '&' ∉ part := by
      intro part mem amp
      obtain ⟨pair, _, rfl⟩ := List.mem_map.1 mem
      rcases mem_written amp with strict | same
      · exact Percent.forall_strict (P := (· ≠ '&')) (by decide +kernel) '&' strict rfl
      · exact absurd same (by decide)
    have filled : ∀ part ∈ (first :: rest).map (String.toList ∘ written),
        (!part.isEmpty) = true := by
      intro part mem
      obtain ⟨pair, _, rfl⟩ := List.mem_map.1 mem
      rw [Function.comp_apply, toList_written]
      cases (Percent.encode .encoded pair.1).toList <;> rfl
    have some_ : (first :: rest).map (String.toList ∘ written) ≠ [] := List.cons_ne_nil _ _
    have pieces := splitAt_intercalate some_ free
    rw [decode]
    show List.map decodePair ((splitAt '&' (['&'].intercalate _)).filter _) = _
    rw [pieces, List.filter_eq_self.2 filled, List.map_map]
    refine (List.map_congr_left fun pair _ => ?_).trans (List.map_id _)
    rw [Function.comp_apply, Function.comp_apply, decodePair_written, id]

end FormEncoded

end ArchiveAccounts.Text
