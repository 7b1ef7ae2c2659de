import ArchiveAccounts.Proofs.Url.Path

/-!
# Names in paths

The segments of a name in the strict percent form are those of the name, and the form hides no dots.
Main statements: `splitAt_encode`, `isHere_encodedSegment` and `isAbove_encodedSegment`.
-/

namespace ArchiveAccounts
set_option autoImplicit false

open Text

namespace Url

/-- One segment of a name in the strict form. -/
def encodedSegment (segment : List Char) : List Char :=
  (Percent.encode .kept (String.ofList segment)).toList

theorem encodedSegment_append (s t : List Char) :
    encodedSegment (s ++ t) = encodedSegment s ++ encodedSegment t := by
  rw [encodedSegment, String.ofList_append, Percent.encode_append, String.toList_append]
  rfl

theorem encodedSegment_slash : encodedSegment ['/'] = ['/'] := by
  decide +kernel

theorem mem_encodeByte_slash : ∀ b : UInt8,
    (!(Percent.encodeByte .kept b).contains '/' || b == UInt8.ofNat '/'.toNat) = true := by
  refine Percent.forall_byte ?_
  decide +kernel

theorem slash_not_mem_encodedSegment {segment : List Char} (free : '/' ∉ segment) :
    '/' ∉ encodedSegment segment := by
  intro mem
  rw [encodedSegment, Percent.encode, String.toList_ofList] at mem
  obtain ⟨b, inBytes, written⟩ := List.mem_flatMap.1 mem
  have byte := mem_encodeByte_slash b
  rw [List.contains_iff_mem.2 written, Bool.not_true, Bool.false_or, beq_iff_eq] at byte
  rw [byte, Utf8.bytes, String.toList_ofList] at inBytes
  exact free (Utf8.mem_of_mem_encode (by decide) inBytes)

theorem encodedSegment_intercalate (segments : List (List Char)) :
    encodedSegment (['/'].intercalate segments)
      = ['/'].intercalate (segments.map encodedSegment) := by
  induction segments with
  | nil => decide +kernel
  | cons segment rest ih =>
    cases rest with
    | nil => rw [List.map_singleton, List.intercalate_singleton, List.intercalate_singleton]
    | cons next rest =>
      rw [List.intercalate_cons_cons, encodedSegment_append, encodedSegment_append, ih,
        encodedSegment_slash, List.map_cons, List.map_cons, List.map_cons,
        List.intercalate_cons_cons]

/-- The segments of a name in the strict form are those of the name. -/
theorem splitAt_encode (name : List Char) :
    splitAt '/' (encodedSegment name) = (splitAt '/' name).map encodedSegment := by
  have free : ∀ segment ∈ (splitAt '/' name).map encodedSegment, '/' ∉ segment := by
    intro segment mem
    obtain ⟨piece, among, rfl⟩ := List.mem_map.1 mem
    exact slash_not_mem_encodedSegment (not_mem_of_mem_splitAt among)
  have some_ : (splitAt '/' name).map encodedSegment ≠ [] := by
    rw [Ne, List.map_eq_nil_iff]
    exact splitAt_ne_nil '/' name
  have whole := encodedSegment_intercalate (splitAt '/' name)
  rw [intercalate_splitAt] at whole
  rw [whole, splitAt_intercalate some_ free]

/-! ## Dots -/

theorem readDots_cons {c : Char} (plain : c ≠ '%') (rest : List Char) :
    readDots (c :: rest) = c :: readDots rest := by
  rw [readDots.eq_def]
  split
  · next same => exact absurd (List.cons.inj same).1 plain
  · next same => exact absurd (List.cons.inj same).1 plain
  · next same =>
    obtain ⟨rfl, rfl⟩ := List.cons.inj same
    rfl
  · next same => exact nomatch same

theorem kept_ne_percent : ∀ b : UInt8, Percent.isKept .kept b = true →
    Char.ofNat b.toNat ≠ '%' := by
  refine Percent.forall_byte ?_
  decide +kernel

/-- No escape of the strict form stands for a dot. -/
theorem upperByte_noDot : ∀ b : UInt8, Percent.isKept .kept b = false →
    Hex.upperDigit (b.toNat / 16) ≠ '%' ∧ Hex.upperDigit (b.toNat % 16) ≠ '%' ∧
      ¬(Hex.upperDigit (b.toNat / 16) = '2' ∧ Hex.upperDigit (b.toNat % 16) ∈ ['e', 'E']) := by
  refine Percent.forall_byte ?_
  decide +kernel

theorem readDots_escape {high low : Char} (noDot : ¬(high = '2' ∧ low ∈ ['e', 'E']))
    (plainHigh : high ≠ '%') (plainLow : low ≠ '%') (rest : List Char) :
    readDots ('%' :: high :: low :: rest) = '%' :: high :: low :: readDots rest := by
  rw [readDots.eq_def]
  split
  · next same =>
    injection same with _ same
    injection same with isTwo same
    injection same with isE _
    exact absurd ⟨isTwo, isE ▸ List.mem_cons_self⟩ noDot
  · next same =>
    injection same with _ same
    injection same with isTwo same
    injection same with isE _
    exact absurd ⟨isTwo, isE ▸ List.mem_cons_of_mem _ List.mem_cons_self⟩ noDot
  · next same =>
    obtain ⟨rfl, rfl⟩ := List.cons.inj same
    rw [readDots_cons plainHigh, readDots_cons plainLow]
  · next same => exact nomatch same

theorem readDots_encodeByte (b : UInt8) (rest : List Char) :
    readDots (Percent.encodeByte .kept b ++ rest)
      = Percent.encodeByte .kept b ++ readDots rest := by
  rw [Percent.encodeByte]
  split
  · next kept => exact readDots_cons (kept_ne_percent b kept) rest
  · next escaped =>
    obtain ⟨high, low, noDot⟩ := upperByte_noDot b (Bool.eq_false_iff.2 escaped)
    exact readDots_escape noDot high low rest

theorem readDots_encodedSegment (segment : List Char) :
    readDots (encodedSegment segment) = encodedSegment segment := by
  rw [encodedSegment, Percent.encode, String.toList_ofList]
  induction Utf8.bytes (String.ofList segment) with
  | nil => rfl
  | cons b rest ih => rw [List.flatMap_cons, readDots_encodeByte, ih]

theorem encodedSegment_inj {s t : List Char} (same : encodedSegment s = encodedSegment t) :
    s = t :=
  String.ofList_inj.1 (Percent.encode_injective .kept (String.toList_inj.1 same))

/-- A segment of dots in the strict form is one of dots. -/
theorem isHere_encodedSegment (segment : List Char) :
    isHere (encodedSegment segment) = true ↔ segment = ['.'] := by
  have dot : encodedSegment ['.'] = ['.'] := by decide +kernel
  rw [isHere, readDots_encodedSegment, beq_iff_eq]
  constructor
  · exact fun same => encodedSegment_inj (same.trans dot.symm)
  · rintro rfl
    exact dot

theorem isAbove_encodedSegment (segment : List Char) :
    isAbove (encodedSegment segment) = true ↔ segment = ['.', '.'] := by
  have dots : encodedSegment ['.', '.'] = ['.', '.'] := by decide +kernel
  rw [isAbove, readDots_encodedSegment, beq_iff_eq]
  constructor
  · exact fun same => encodedSegment_inj (same.trans dots.symm)
  · rintro rfl
    exact dots

end Url

end ArchiveAccounts
