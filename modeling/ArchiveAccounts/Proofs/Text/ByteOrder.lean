import ArchiveAccounts.Proofs.Text.RoundTrip

/-!
# The order of bytes

Texts stand in the same order by their characters and by the bytes of their UTF-8 form: the first
byte of a longer form is above those of the shorter ones, and the bits of a character are written
from the highest to the lowest. Main statement: `Utf8.bytes_lt_of_compare`.
-/

namespace ArchiveAccounts.Text.Utf8
set_option autoImplicit false

/-- Bytes are in order by the first one, or by the others if that is the same. -/
theorem cons_lt_cons {m n : Nat} {s t : List UInt8} (most : n < 256)
    (h : m < n ∨ m = n ∧ s < t) : UInt8.ofNat m :: s < UInt8.ofNat n :: t := by
  rw [List.cons_lt_cons_iff]
  rcases h with less | ⟨rfl, later⟩
  · left
    rw [UInt8.lt_iff_toNat_lt, toNat_ofNat (Nat.lt_trans less most), toNat_ofNat most]
    exact less
  · exact .inr ⟨rfl, later⟩

/-- The last two bytes of the longer forms, of characters that have the other bits in common. -/
theorem lastTwo_lt {v w : Nat} (same : v / 4096 = w / 4096) (less : v < w) (s t : List UInt8) :
    UInt8.ofNat (v / 64 % 64 + 128) :: UInt8.ofNat (v % 64 + 128) :: s
      < UInt8.ofNat (w / 64 % 64 + 128) :: UInt8.ofNat (w % 64 + 128) :: t := by
  refine cons_lt_cons (by omega) ?_
  by_cases high : v / 64 < w / 64
  · exact .inl (by omega)
  · exact .inr ⟨by omega, cons_lt_cons (by omega) (.inl (by omega))⟩

/-- A character before another one has the bytes before those of the other, whatever follows. -/
theorem encodeChar_lt {c d : Char} (less : c < d) (s t : List UInt8) :
    String.utf8EncodeChar c ++ s < String.utf8EncodeChar d ++ t := by
  have less : c.val.toNat < d.val.toNat := less
  have most : d.val.toNat < 0x110000 := by
    have valid : d.val.toNat < 0xD800 ∨ (0xDFFF < d.val.toNat ∧ d.val.toNat < 0x110000) := d.valid
    omega
  rw [String.utf8EncodeChar, String.utf8EncodeChar]
  generalize c.val.toNat = v at *
  generalize d.val.toNat = w at *
  -- The longer of two forms has the greater first byte; two forms of one length differ in the
  -- highest bits in which the characters do.
  split
  · split
    · exact cons_lt_cons (by omega) (.inl less)
    · split
      · exact cons_lt_cons (by omega) (.inl (by omega))
      · split <;> exact cons_lt_cons (by omega) (.inl (by omega))
  · rw [if_neg (by omega : ¬w ≤ 127)]
    split
    · split
      · refine cons_lt_cons (by omega) ?_
        by_cases high : v / 64 < w / 64
        · exact .inl (by omega)
        · exact .inr ⟨by omega, cons_lt_cons (by omega) (.inl (by omega))⟩
      · split <;> exact cons_lt_cons (by omega) (.inl (by omega))
    · rw [if_neg (by omega : ¬w ≤ 2047)]
      split
      · split
        · refine cons_lt_cons (by omega) ?_
          by_cases high : v / 4096 < w / 4096
          · exact .inl (by omega)
          · exact .inr ⟨by omega, lastTwo_lt (by omega) less s t⟩
        · exact cons_lt_cons (by omega) (.inl (by omega))
      · rw [if_neg (by omega : ¬w ≤ 65535)]
        refine cons_lt_cons (by omega) ?_
        by_cases highest : v / 262144 < w / 262144
        · exact .inl (by omega)
        · refine .inr ⟨by omega, cons_lt_cons (by omega) ?_⟩
          by_cases high : v / 4096 < w / 4096
          · exact .inl (by omega)
          · exact .inr ⟨by omega, lastTwo_lt (by omega) less s t⟩

theorem encode_lt {s t : List Char} (less : s < t) : encode s < encode t := by
  induction less with
  | @nil d t =>
    obtain ⟨b, rest, bytes⟩ := List.exists_cons_of_ne_nil (String.utf8EncodeChar_ne_nil (c := d))
    rw [encode, encode, List.flatMap_cons, bytes]
    exact .nil
  | @rel c s d t less => exact encodeChar_lt less _ _
  | @cons c s t _ ih => exact List.append_left_lt ih

/-- Texts in order are in the order of their bytes. -/
theorem bytes_lt_of_compare {a b : String} (less : compare a b = .lt) : bytes a < bytes b :=
  encode_lt (String.lt_iff.1 (compareOfLessAndEq_eq_lt.1 less))

end ArchiveAccounts.Text.Utf8
