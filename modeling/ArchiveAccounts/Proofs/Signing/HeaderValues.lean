import ArchiveAccounts.Proofs.Text.Trimming
import ArchiveAccounts.Signing.Canonical
import Mathlib.Data.List.Chain

/-!
# Values of headers

The canonical form of a value is made of its words with one space between neighbours, so it does
not depend on the blanks between them and around them. Main statements: `toList_headerValue` and
`isCollapsed_headerValue`.
-/

namespace ArchiveAccounts.Signing
set_option autoImplicit false

open Text

/-! ## Words -/

/-- The words of a text: what stands between its blanks. -/
def words (s : List Char) : List (List Char) := (s.splitOnP isBlank).filter fun w => !w.isEmpty

section Words

variable {c : Char} {s : List Char}

theorem splitOnP_visible (visible : isBlank c = false) (s : List Char) :
    (c :: s).splitOnP isBlank = (s.splitOnP isBlank).modifyHead (c :: ·) := by
  rw [List.splitOnP_cons_eq_if_modifyHead, if_neg (Bool.eq_false_iff.1 visible)]

theorem words_blank (blank : isBlank c = true) (s : List Char) : words (c :: s) = words s := by
  rw [words, List.splitOnP_cons_eq_if_modifyHead, if_pos blank]
  rfl

/-- A character in front of a text begins a word if it is not blank: one of its own, or the one that
the text begins with. -/
theorem words_visible (visible : isBlank c = false) (s : List Char) :
    ((∀ d ∈ s.head?, isBlank d = true) ∧ words (c :: s) = [c] :: words s) ∨
      ∃ w ws, (∃ d ∈ s.head?, isBlank d = false) ∧ words s = w :: ws ∧
        words (c :: s) = (c :: w) :: ws := by
  cases s with
  | nil =>
    left
    refine ⟨nofun, ?_⟩
    rw [words, splitOnP_visible visible]
    rfl
  | cons d s =>
    cases blank : isBlank d with
    | true =>
      left
      refine ⟨fun e first => Option.some.inj first ▸ blank, ?_⟩
      rw [words_blank blank, words, splitOnP_visible visible,
        List.splitOnP_cons_eq_if_modifyHead, if_pos blank]
      rfl
    | false =>
      right
      obtain ⟨w, ws, split⟩ := List.exists_cons_of_ne_nil (List.splitOnP_ne_nil isBlank s)
      refine ⟨d :: w, ws.filter fun w => !w.isEmpty, ⟨d, rfl, blank⟩, ?_, ?_⟩
      · rw [words, splitOnP_visible blank, split]
        rfl
      · rw [words, splitOnP_visible visible, splitOnP_visible blank, split]
        rfl

theorem forall_words (s : List Char) : ∀ w ∈ words s, w ≠ [] ∧ ∀ c ∈ w, isBlank c = false := by
  induction s with
  | nil => exact List.forall_mem_nil _
  | cons c s ih =>
    cases blank : isBlank c with
    | true =>
      rw [words_blank blank]
      exact ih
    | false =>
      rcases words_visible blank s with ⟨_, own⟩ | ⟨w, ws, _, later, first⟩
      · rw [own, List.forall_mem_cons]
        exact ⟨⟨List.cons_ne_nil _ _, List.forall_mem_singleton.2 blank⟩, ih⟩
      · rw [later, List.forall_mem_cons] at ih
        rw [first, List.forall_mem_cons]
        exact ⟨⟨List.cons_ne_nil _ _, List.forall_mem_cons.2 ⟨blank, ih.1.2⟩⟩, ih.2⟩

/-- The words of a text, joined by spaces, begin with the first one. -/
theorem exists_intercalate_cons (w : List Char) (ws : List (List Char)) :
    ∃ rest, [' '].intercalate (w :: ws) = w ++ rest := by
  cases ws with
  | nil => exact ⟨[], by rw [List.intercalate_singleton, List.append_nil]⟩
  | cons next ws => exact ⟨_, List.intercalate_cons_cons.trans (List.append_assoc _ _ _)⟩

theorem collapseBlanks_visible (visible : isBlank c = false) (s : List Char) :
    collapseBlanks (c :: s) = c :: collapseBlanks s := by
  rw [collapseBlanks.eq_def]
  exact if_neg (Bool.eq_false_iff.1 visible)

theorem collapseBlanks_blank (blank : isBlank c = true) (s : List Char) :
    collapseBlanks (c :: s)
      = if s.head?.any isBlank then collapseBlanks s else ' ' :: collapseBlanks s := by
  rw [collapseBlanks.eq_def]
  refine (if_pos blank).trans ?_
  cases s <;> rfl

/-- A text is collapsed to its words, with a space between neighbours, and perhaps one before them
and one behind them. -/
theorem exists_collapseBlanks (s : List Char) :
    ∃ trail, (∀ c ∈ trail, isBlank c = true) ∧ collapseBlanks s
      = (if s.head?.any isBlank then [' '] else []) ++ ([' '].intercalate (words s) ++ trail) := by
  induction s with
  | nil => exact ⟨[], List.forall_mem_nil _, rfl⟩
  | cons c s ih =>
    obtain ⟨trail, isTrail, collapsed⟩ := ih
    rw [List.head?_cons, Option.any_some]
    cases blank : isBlank c with
    | true =>
      refine ⟨trail, isTrail, ?_⟩
      rw [collapseBlanks_blank blank, words_blank blank, collapsed, if_pos rfl]
      split <;> rfl
    | false =>
      simp only [collapseBlanks_visible blank, Bool.false_eq_true, if_false, List.nil_append,
        collapsed]
      rcases words_visible blank s with ⟨next, own⟩ | ⟨w, ws, ⟨d, isNext, next⟩, later, first⟩
      -- The character is a word. A space behind it stands before the next word if there is one, and
      -- is one of the blanks behind all words otherwise.
      · rw [own]
        cases later : words s with
        | nil =>
          refine ⟨_ ++ trail, List.forall_mem_append.2 ⟨?_, isTrail⟩, rfl⟩
          split
          · exact List.forall_mem_singleton.2 (by decide)
          · exact List.forall_mem_nil _
        | cons w ws =>
          refine ⟨trail, isTrail, ?_⟩
          cases s with
          | nil => exact nomatch later
          | cons d s =>
            rw [List.head?_cons, Option.any_some, next d rfl, if_pos rfl,
              List.intercalate_cons_cons]
            rfl
      · rw [Option.mem_def.1 isNext, Option.any_some, next, later, first]
        refine ⟨trail, isTrail, ?_⟩
        cases ws <;> rfl

end Words

/-! ## The collapsed form -/

/-- Whether a text has no blanks at its ends, none next to another one, and no other blanks than
spaces, so that it is of one line. -/
structure IsCollapsed (s : List Char) : Prop where
  trimmed : IsTrimmed s
  space : ∀ c ∈ s, isBlank c = true → c = ' '
  single : s.IsChain fun c d => isBlank c = false ∨ isBlank d = false

namespace IsCollapsed

variable {s t : List Char}

theorem of_visible (visible : ∀ c ∈ s, isBlank c = false) : IsCollapsed s where
  trimmed := .of_visible visible
  space c mem blank := absurd blank (Bool.eq_false_iff.1 (visible c mem))
  single := by
    refine List.Pairwise.isChain (List.pairwise_of_forall_mem_list ?_)
    exact fun c mem d _ => .inl (visible c mem)

theorem nil : IsCollapsed [] := .of_visible nofun

/-- Collapsed texts with a character between them, which may be a space if none of them is empty. -/
theorem append_cons {c : Char} (hs : IsCollapsed s) (some_ : s ≠ []) (ht : IsCollapsed t)
    (hc : isBlank c = false ∨ c = ' ' ∧ t ≠ []) : IsCollapsed (s ++ c :: t) := by
  refine ⟨?_, ?_, ?_⟩
  · by_cases someLast : t = []
    · obtain visible | ⟨_, filled⟩ := hc
      · have last : IsTrimmed [c] := .of_visible (List.forall_mem_singleton.2 visible)
        have ends := hs.trimmed.around some_ last (List.cons_ne_nil _ _) []
        rw [List.append_nil] at ends
        rw [someLast]
        exact ends
      · exact absurd someLast filled
    · have ends := hs.trimmed.around some_ ht.trimmed someLast [c]
      rw [List.append_assoc] at ends
      exact ends
  · refine List.forall_mem_append.2 ⟨hs.space, List.forall_mem_cons.2 ⟨fun blank => ?_, ht.space⟩⟩
    obtain visible | ⟨space, _⟩ := hc
    · exact absurd blank (Bool.eq_false_iff.1 visible)
    · exact space
  · refine List.isChain_append.2 ⟨hs.single, ?_, fun last isLast _ _ => ?_⟩
    · cases t with
      | nil => exact .singleton _
      | cons d t => exact .cons_cons (.inr (ht.trimmed.first d rfl)) ht.single
    · exact .inl (hs.trimmed.last last isLast)

/-- Words with one space between neighbours. -/
theorem intercalate {ws : List (List Char)}
    (isWord : ∀ w ∈ ws, w ≠ [] ∧ ∀ c ∈ w, isBlank c = false) :
    IsCollapsed ([' '].intercalate ws) := by
  induction ws with
  | nil => exact nil
  | cons w ws ih =>
    obtain ⟨⟨filled, visible⟩, others⟩ := List.forall_mem_cons.1 isWord
    cases ws with
    | nil =>
      rw [List.intercalate_singleton]
      exact of_visible visible
    | cons next ws =>
      obtain ⟨rest, begins⟩ := exists_intercalate_cons next ws
      have someLast : [' '].intercalate (next :: ws) ≠ [] := by
        rw [begins]
        exact List.append_ne_nil_of_left_ne_nil (others next List.mem_cons_self).1 _
      rw [List.intercalate_cons_cons, List.append_assoc]
      exact (of_visible visible).append_cons filled (ih others) (.inr ⟨rfl, someLast⟩)

/-- No line ends in a collapsed text. -/
theorem newline_not_mem (h : IsCollapsed s) : '\n' ∉ s := fun mem =>
  absurd (h.space _ mem (by decide)) (by decide)

end IsCollapsed

/-- A value is written as its words with one space between neighbours. -/
theorem toList_headerValue (value : String) :
    (headerValue value).toList = [' '].intercalate (words value.toList) := by
  obtain ⟨trail, isTrail, collapsed⟩ := exists_collapseBlanks value.toList
  have trimmed := (IsCollapsed.intercalate (forall_words value.toList)).trimmed
  rw [headerValue, String.toList_ofList, collapsed, ← List.append_assoc]
  refine trimChars_append ?_ trimmed isTrail
  split
  · exact List.forall_mem_singleton.2 (by decide)
  · exact List.forall_mem_nil _

theorem isCollapsed_headerValue (value : String) : IsCollapsed (headerValue value).toList := by
  rw [toList_headerValue]
  exact .intercalate (forall_words value.toList)

theorem headerValue_eq_of_words {value other : String}
    (same : words value.toList = words other.toList) : headerValue value = headerValue other := by
  rw [← String.toList_inj, toList_headerValue, toList_headerValue, same]

theorem newline_not_mem_headerValue (value : String) : '\n' ∉ (headerValue value).toList :=
  (isCollapsed_headerValue value).newline_not_mem

theorem collapseBlanks_eq_self {s : List Char} (visible : ∀ c ∈ s, isBlank c = false) :
    collapseBlanks s = s := by
  induction s with
  | nil => rfl
  | cons c rest ih =>
    obtain ⟨first, others⟩ := List.forall_mem_cons.1 visible
    rw [collapseBlanks_visible first, ih others]

/-- A value without blanks is in the canonical form. -/
theorem headerValue_eq_self {value : String} (visible : ∀ c ∈ value.toList, isBlank c = false) :
    headerValue value = value := by
  rw [headerValue, collapseBlanks_eq_self visible, (IsTrimmed.of_visible visible).trimChars_eq,
    String.ofList_toList]

end ArchiveAccounts.Signing
