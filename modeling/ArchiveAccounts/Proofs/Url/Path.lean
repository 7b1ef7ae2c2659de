import ArchiveAccounts.Proofs.Text.RoundTrip
import ArchiveAccounts.Url.Path

/-!
# Paths that are read

What stands in the segments of a path, whatever it was read from, and which paths stay as they are.
Main statements: `isSegment_of_mem_segmentsOf`, `segmentsOf_joinSegments` and `joinSegments_inj`.
-/

namespace ArchiveAccounts
set_option autoImplicit false

open Text

/-! ## Escapes -/

namespace Text.Percent

variable {reserved : Char → Bool}

/-- What escapes are made of. -/
def escapeChars : List Char := '%' :: "0123456789ABCDEF".toList

theorem upperByte_subset :
    ∀ b : UInt8, ('%' :: Hex.upperByte b).all (fun c => decide (c ∈ escapeChars)) = true := by
  refine forall_byte ?_
  decide +kernel

theorem mem_escape {s : List Char} {c : Char} (mem : c ∈ escape reserved s) :
    (c ∈ s ∧ reserved c = false ∧ c.toNat < 0x80) ∨ c ∈ escapeChars := by
  obtain ⟨d, inText, written⟩ := List.mem_flatMap.1 mem
  split at written
  · obtain ⟨b, _, escaped⟩ := List.mem_flatMap.1 written
    exact .inr (List.all_iff_forall_prop.1 (upperByte_subset b) c escaped)
  · next plain =>
    obtain rfl := List.mem_singleton.1 written
    rw [Bool.or_eq_true, decide_eq_true_iff, not_or, Nat.not_le] at plain
    exact .inl ⟨inText, Bool.eq_false_iff.2 plain.1, plain.2⟩

/-- What is escaped holds nothing that is reserved, if escapes are not. -/
theorem free_of_mem_escape (escapes : ∀ c ∈ escapeChars, reserved c = false) {s : List Char}
    {c : Char} (mem : c ∈ escape reserved s) : reserved c = false ∧ c.toNat < 0x80 := by
  rcases mem_escape mem with ⟨_, free⟩ | escape
  · exact free
  · have ascii : ∀ c ∈ escapeChars, c.toNat < 0x80 := List.all_iff_forall_prop.1 (by decide)
    exact ⟨escapes c escape, ascii c escape⟩

theorem escape_eq_self {s : List Char} (free : ∀ c ∈ s, reserved c = false ∧ c.toNat < 0x80) :
    escape reserved s = s := by
  rw [escape, List.flatMap_def]
  have each : s.map (fun c => if reserved c || decide (c.toNat ≥ 0x80) then
      (String.utf8EncodeChar c).flatMap ('%' :: Hex.upperByte ·) else [c])
      = s.map fun c => [c] := by
    apply List.map_congr_left
    intro c mem
    obtain ⟨notReserved, ascii⟩ := free c mem
    rw [notReserved, Bool.false_or, decide_eq_false (Nat.not_le.2 ascii), if_neg Bool.false_ne_true]
  rw [each, ← List.flatMap_def, List.flatMap_singleton']

end Text.Percent

namespace Url

/-! ## Segments -/

/-- Whether a segment stands for itself: it holds only what a path may hold and is no place of its
own. -/
structure IsSegment (segment : List Char) : Prop where
  escaped : ∀ c ∈ segment, isPathReserved c = false ∧ c.toNat < 0x80
  noSlash : '/' ∉ segment
  noBackslash : '\\' ∉ segment
  notHere : isHere segment = false
  notAbove : isAbove segment = false

theorem IsSegment.nil : IsSegment [] where
  escaped := nofun
  noSlash := List.not_mem_nil
  noBackslash := List.not_mem_nil
  notHere := rfl
  notAbove := rfl

theorem mem_of_mem_shorten {segments : List (List Char)} {segment : List Char}
    (mem : segment ∈ shorten segments) : segment ∈ segments := by
  rw [shorten] at mem
  split at mem
  · exact nomatch mem
  · split at mem
    · exact mem
    · exact (List.dropLast_sublist _).subset mem

/-- A segment that is taken in is there as it is, unless it stands for a place. -/
theorem mem_pushSegment {segments : List (List Char)} {segment new : List Char} {isLast : Bool}
    (mem : segment ∈ pushSegment segments new isLast) :
    segment ∈ segments ∨ segment = [] ∨
      (segment = new ∧ isHere new = false ∧ isAbove new = false) := by
  have endSlash : ∀ {old}, segment ∈ old ++ (if isLast then [[]] else []) →
      segment ∈ old ∨ segment = [] := by
    intro old mem
    rcases List.mem_append.1 mem with mem | mem
    · exact .inl mem
    · cases isLast with
      | false => exact nomatch mem
      | true => exact .inr (List.mem_singleton.1 mem)
  rw [pushSegment] at mem
  split at mem
  · rcases endSlash mem with mem | empty
    · exact .inl (mem_of_mem_shorten mem)
    · exact .inr (.inl empty)
  · next notAbove =>
    split at mem
    · rcases endSlash mem with mem | empty
      · exact .inl mem
      · exact .inr (.inl empty)
    · next notHere =>
      rcases List.mem_append.1 mem with mem | mem
      · exact .inl mem
      · exact .inr (.inr ⟨List.mem_singleton.1 mem, Bool.eq_false_iff.2 notHere,
          Bool.eq_false_iff.2 notAbove⟩)

theorem pushSegments_cons (segments : List (List Char)) (segment : List Char)
    {rest : List (List Char)} (more : rest ≠ []) :
    pushSegments segments (segment :: rest)
      = pushSegments (pushSegment segments segment false) rest := by
  cases rest with
  | nil => exact absurd rfl more
  | cons next rest => rfl

theorem mem_pushSegments {segments items : List (List Char)} {segment : List Char}
    (mem : segment ∈ pushSegments segments items) :
    segment ∈ segments ∨ segment = [] ∨
      (segment ∈ items ∧ isHere segment = false ∧ isAbove segment = false) := by
  induction items generalizing segments with
  | nil => exact .inl mem
  | cons item rest ih =>
    have now : ∀ {isLast}, segment ∈ pushSegment segments item isLast →
        segment ∈ segments ∨ segment = [] ∨
          (segment ∈ item :: rest ∧ isHere segment = false ∧ isAbove segment = false) := by
      intro isLast mem
      rcases mem_pushSegment mem with old | empty | ⟨rfl, plain⟩
      · exact .inl old
      · exact .inr (.inl empty)
      · exact .inr (.inr ⟨List.mem_cons_self, plain⟩)
    by_cases more : rest = []
    · rw [more] at mem now ⊢
      exact now mem
    · rw [pushSegments_cons segments item more] at mem
      rcases ih mem with old | empty | ⟨later, plain⟩
      · exact now old
      · exact .inr (.inl empty)
      · exact .inr (.inr ⟨List.mem_cons_of_mem _ later, plain⟩)

/-- A path that is read is not without segments. -/
theorem pushSegments_ne_nil (segments : List (List Char)) {items : List (List Char)}
    (some_ : items ≠ []) : pushSegments segments items ≠ [] := by
  induction items generalizing segments with
  | nil => exact absurd rfl some_
  | cons item rest ih =>
    by_cases more : rest = []
    · rw [more]
      show pushSegment segments item true ≠ []
      rw [pushSegment]
      split
      · exact List.append_ne_nil_of_right_ne_nil _ (List.cons_ne_nil _ _)
      · split
        · exact List.append_ne_nil_of_right_ne_nil _ (List.cons_ne_nil _ _)
        · exact List.append_ne_nil_of_right_ne_nil _ (List.cons_ne_nil _ _)
    · rw [pushSegments_cons segments item more]
      exact ih _ more

/-- Segments that stand for no place are taken in as they are. -/
theorem pushSegments_eq_append {items : List (List Char)}
    (plain : ∀ item ∈ items, isHere item = false ∧ isAbove item = false)
    (segments : List (List Char)) : pushSegments segments items = segments ++ items := by
  induction items generalizing segments with
  | nil => exact (List.append_nil _).symm
  | cons item rest ih =>
    obtain ⟨⟨notHere, notAbove⟩, later⟩ := List.forall_mem_cons.1 plain
    have push : ∀ isLast, pushSegment segments item isLast = segments ++ [item] := by
      intro isLast
      rw [pushSegment, notHere, notAbove, if_neg Bool.false_ne_true, if_neg Bool.false_ne_true]
    by_cases more : rest = []
    · rw [more]
      exact push true
    · rw [pushSegments_cons segments item more, push, ih later, List.append_assoc,
        List.singleton_append]

/-! ## Whole paths -/

/-- The slashes of a special URL. -/
def slashed (text : List Char) : List Char := text.map fun c => if c = '\\' then '/' else c

theorem slashed_eq_self {text : List Char} (h : '\\' ∉ text) : slashed text = text := by
  refine (List.map_congr_left fun c mem => if_neg ?_).trans (List.map_id _)
  rintro rfl
  exact h mem

theorem not_mem_slashed (text : List Char) : '\\' ∉ slashed text := by
  intro mem
  obtain ⟨c, _, same⟩ := List.mem_map.1 mem
  split at same
  · exact absurd same (by decide)
  · next other => exact other same

/-- The text of a path without a slash at its start. -/
def relative (text : List Char) : List Char :=
  match slashed text with
  | '/' :: rest => rest
  | _ => slashed text

theorem segmentsOf_eq (text : List Char) : segmentsOf true text
    = pushSegments [] ((splitAt '/' (relative text)).map (Percent.escape isPathReserved)) :=
  rfl

theorem not_mem_relative (text : List Char) : '\\' ∉ relative text := by
  have free := not_mem_slashed text
  rw [relative]
  split
  · next rest same =>
    rw [same] at free
    exact fun mem => free (List.mem_cons_of_mem _ mem)
  · exact free

theorem escapeChars_free : ∀ c ∈ Percent.escapeChars,
    isPathReserved c = false ∧ c ≠ '/' ∧ c ≠ '\\' :=
  List.all_iff_forall_prop.1 (by decide +kernel)

/-- Every segment of a path that is read stands for itself. -/
theorem isSegment_of_mem_segmentsOf {text segment : List Char}
    (mem : segment ∈ segmentsOf true text) : IsSegment segment := by
  rw [segmentsOf_eq] at mem
  rcases mem_pushSegments mem with none_ | rfl | ⟨mem, notHere, notAbove⟩
  · exact nomatch none_
  · exact .nil
  · obtain ⟨piece, inText, rfl⟩ := List.mem_map.1 mem
    have outside : ∀ c ∈ Percent.escape isPathReserved piece, c ∈ relative text ∧ c ≠ '/' ∨
        c ∈ Percent.escapeChars := by
      intro c mem
      rcases Percent.mem_escape mem with ⟨inPiece, _⟩ | escape
      · refine .inl ⟨?_, ?_⟩
        · exact mem_of_mem_splitAt inText inPiece
        · rintro rfl
          exact not_mem_of_mem_splitAt inText inPiece
      · exact .inr escape
    refine ⟨fun c mem => ?_, fun mem => ?_, fun mem => ?_, notHere, notAbove⟩
    · exact Percent.free_of_mem_escape (fun c escape => (escapeChars_free c escape).1) mem
    · rcases outside '/' mem with ⟨_, other⟩ | escape
      · exact other rfl
      · exact (escapeChars_free '/' escape).2.1 rfl
    · rcases outside '\\' mem with ⟨inText, _⟩ | escape
      · exact not_mem_relative text inText
      · exact (escapeChars_free '\\' escape).2.2 rfl

theorem segmentsOf_ne_nil (text : List Char) : segmentsOf true text ≠ [] := by
  rw [segmentsOf_eq]
  exact pushSegments_ne_nil [] (List.cons_ne_nil _ _)

theorem joinSegments_eq {segments : List (List Char)} (some_ : segments ≠ []) :
    joinSegments segments = '/' :: ['/'].intercalate segments := by
  induction segments with
  | nil => exact absurd rfl some_
  | cons segment rest ih =>
    rw [joinSegments, List.flatMap_cons, ← joinSegments]
    cases rest with
    | nil => rw [List.intercalate_singleton]; exact List.append_nil _
    | cons next rest =>
      rw [ih (List.cons_ne_nil _ _), List.intercalate_cons_cons, List.append_assoc]
      rfl

theorem splitAt_joinSegments {segments : List (List Char)} (some_ : segments ≠ [])
    (free : ∀ segment ∈ segments, '/' ∉ segment) :
    splitAt '/' (joinSegments segments) = [] :: segments := by
  rw [joinSegments_eq some_, splitAt_cons_self, splitAt_intercalate some_ free]

/-- Paths are the same only if their segments are. -/
theorem joinSegments_inj {a b : List (List Char)} (someA : a ≠ []) (someB : b ≠ [])
    (freeA : ∀ segment ∈ a, '/' ∉ segment) (freeB : ∀ segment ∈ b, '/' ∉ segment)
    (same : joinSegments a = joinSegments b) : a = b := by
  have pieces := splitAt_joinSegments someA freeA
  rw [same, splitAt_joinSegments someB freeB] at pieces
  exact (List.cons.inj pieces).2.symm

theorem mem_joinSegments {segments : List (List Char)} {c : Char}
    (mem : c ∈ joinSegments segments) : c = '/' ∨ ∃ segment ∈ segments, c ∈ segment := by
  obtain ⟨segment, among, mem⟩ := List.mem_flatMap.1 mem
  rcases List.mem_cons.1 mem with same | inside
  · exact .inl same
  · exact .inr ⟨segment, among, inside⟩

/-- What is read from segments without slashes. -/
theorem segmentsOf_join {segments : List (List Char)} (some_ : segments ≠ [])
    (free : ∀ segment ∈ segments, '/' ∉ segment ∧ '\\' ∉ segment) :
    segmentsOf true (joinSegments segments)
      = pushSegments [] (segments.map (Percent.escape isPathReserved)) := by
  have noBackslash : '\\' ∉ joinSegments segments := by
    intro mem
    rcases mem_joinSegments mem with same | ⟨segment, among, inside⟩
    · exact absurd same (by decide)
    · exact (free segment among).2 inside
  have inner : relative (joinSegments segments) = ['/'].intercalate segments := by
    rw [relative, slashed_eq_self noBackslash, joinSegments_eq some_]
    rfl
  rw [segmentsOf_eq, inner, splitAt_intercalate some_ fun segment mem => (free segment mem).1]

/-- A path of segments that stand for themselves is read as these. -/
theorem segmentsOf_joinSegments {segments : List (List Char)} (some_ : segments ≠ [])
    (plain : ∀ segment ∈ segments, IsSegment segment) :
    segmentsOf true (joinSegments segments) = segments := by
  have same : segments.map (Percent.escape isPathReserved) = segments := by
    refine (List.map_congr_left fun segment mem => ?_).trans (List.map_id _)
    exact Percent.escape_eq_self (plain segment mem).escaped
  rw [segmentsOf_join some_ fun segment mem => ⟨(plain segment mem).noSlash,
    (plain segment mem).noBackslash⟩, same, pushSegments_eq_append, List.nil_append]
  exact fun segment mem => ⟨(plain segment mem).notHere, (plain segment mem).notAbove⟩

/-- A path that holds nothing reserved stays as it is exactly if no segment stands for a place. -/
theorem joinSegments_segmentsOf_iff {segments : List (List Char)} (some_ : segments ≠ [])
    (free : ∀ segment ∈ segments, '/' ∉ segment ∧ '\\' ∉ segment)
    (escaped : ∀ segment ∈ segments, ∀ c ∈ segment, isPathReserved c = false ∧ c.toNat < 0x80) :
    joinSegments (segmentsOf true (joinSegments segments)) = joinSegments segments
      ↔ ∀ segment ∈ segments, isHere segment = false ∧ isAbove segment = false := by
  constructor
  · intro same segment mem
    have plain : ∀ segment ∈ segmentsOf true (joinSegments segments), IsSegment segment :=
      fun segment => isSegment_of_mem_segmentsOf
    have whole : segmentsOf true (joinSegments segments) = segments :=
      joinSegments_inj (segmentsOf_ne_nil _) some_ (fun segment mem => (plain segment mem).noSlash)
        (fun segment mem => (free segment mem).1) same
    rw [whole] at plain
    exact ⟨(plain segment mem).notHere, (plain segment mem).notAbove⟩
  · intro plain
    have stays : segmentsOf true (joinSegments segments) = segments :=
      segmentsOf_joinSegments some_ fun segment mem =>
        ⟨escaped segment mem, (free segment mem).1, (free segment mem).2, (plain segment mem).1,
          (plain segment mem).2⟩
    rw [stays]

end Url

end ArchiveAccounts
