import ArchiveAccounts.Text.Blank
import Mathlib.Data.List.TakeWhile

/-!
# Trimmed texts

Blanks around a text are taken off and nothing else is. Main statements: `trimChars_append` and
`exists_trimChars`.
-/

namespace ArchiveAccounts.Text
set_option autoImplicit false

/-- Whether a text neither begins nor ends with a blank. -/
structure IsTrimmed (s : List Char) : Prop where
  first : ∀ c ∈ s.head?, isBlank c = false
  last : ∀ c ∈ s.getLast?, isBlank c = false

section Gaps

variable {gap s : List Char}

theorem dropBlank_of_blank (blank : ∀ c ∈ gap, isBlank c = true) : dropBlank gap = [] := by
  rw [dropBlank, List.dropWhile_eq_nil_iff]
  exact blank

theorem dropBlank_append (blank : ∀ c ∈ gap, isBlank c = true) (s : List Char) :
    dropBlank (gap ++ s) = dropBlank s := by
  rw [dropBlank, List.dropWhile_append_of_pos blank, dropBlank]

theorem dropBlankEnd_append (blank : ∀ c ∈ gap, isBlank c = true) (s : List Char) :
    dropBlankEnd (s ++ gap) = dropBlankEnd s := by
  have reversed : ∀ c ∈ gap.reverse, isBlank c = true := fun c mem =>
    blank c (List.mem_reverse.1 mem)
  rw [dropBlankEnd, List.reverse_append, dropBlank_append reversed, dropBlankEnd]

theorem dropBlank_eq_self (first : ∀ c ∈ s.head?, isBlank c = false) : dropBlank s = s := by
  cases s with
  | nil => rfl
  | cons c rest => exact List.dropWhile_cons_of_neg (Bool.eq_false_iff.1 (first c rfl))

theorem dropBlankEnd_eq_self (last : ∀ c ∈ s.getLast?, isBlank c = false) :
    dropBlankEnd s = s := by
  rw [← List.head?_reverse] at last
  rw [dropBlankEnd, dropBlank_eq_self last, List.reverse_reverse]

end Gaps

namespace IsTrimmed

variable {s : List Char}

/-- A text between trimmed ones. -/
theorem around {first last : List Char} (begins : IsTrimmed first) (some_ : first ≠ [])
    (ends : IsTrimmed last) (someLast : last ≠ []) (inner : List Char) :
    IsTrimmed (first ++ inner ++ last) := by
  constructor
  · intro c mem
    rw [List.append_assoc, List.head?_append, Option.mem_def, Option.or_eq_some_iff] at mem
    rcases mem with mem | ⟨none_, _⟩
    · exact begins.first c mem
    · exact absurd (List.head?_eq_none_iff.1 none_) some_
  · intro c mem
    rw [List.getLast?_append, Option.mem_def, Option.or_eq_some_iff] at mem
    rcases mem with mem | ⟨none_, _⟩
    · exact ends.last c mem
    · exact absurd (List.getLast?_eq_none_iff.1 none_) someLast

/-- A text without blanks. -/
theorem of_visible (visible : ∀ c ∈ s, isBlank c = false) : IsTrimmed s where
  first c mem := visible c (List.mem_of_mem_head? mem)
  last c mem := visible c (List.mem_of_mem_getLast? mem)

theorem trimChars_eq (h : IsTrimmed s) : trimChars s = s := by
  rw [trimChars, dropBlank_eq_self h.first, dropBlankEnd_eq_self h.last]

end IsTrimmed

/-- Blanks around a text are taken off. -/
theorem trimChars_append {lead s trail : List Char} (before : ∀ c ∈ lead, isBlank c = true)
    (trimmed : IsTrimmed s) (behind : ∀ c ∈ trail, isBlank c = true) :
    trimChars (lead ++ s ++ trail) = s := by
  rw [trimChars, List.append_assoc, dropBlank_append before]
  cases s with
  | nil =>
    rw [List.nil_append, dropBlank_of_blank behind]
    rfl
  | cons c rest =>
    have first : ∀ d ∈ (c :: rest ++ trail).head?, isBlank d = false := trimmed.first
    rw [dropBlank_eq_self first, dropBlankEnd_append behind, dropBlankEnd_eq_self trimmed.last]

/-- A trimmed text begins with the first character that is not blank. -/
theorem exists_trimChars_cons {lead : List Char} {c : Char} (before : ∀ c ∈ lead, isBlank c = true)
    (visible : isBlank c = false) (rest : List Char) :
    ∃ kept, trimChars (lead ++ c :: rest) = c :: kept := by
  have notBlank := Bool.eq_false_iff.1 visible
  rw [trimChars, dropBlank_append before, dropBlank, List.dropWhile_cons_of_neg notBlank,
    dropBlankEnd, dropBlank, List.reverse_cons, List.dropWhile_append]
  split
  · refine ⟨[], ?_⟩
    rw [List.dropWhile_cons_of_neg notBlank]
    rfl
  · exact ⟨_, List.reverse_append⟩

/-- A text is made of its trimmed form and of blanks around it. -/
theorem exists_trimChars (s : List Char) :
    ∃ lead trail, s = lead ++ trimChars s ++ trail ∧ (∀ c ∈ lead, isBlank c = true) ∧
      ∀ c ∈ trail, isBlank c = true := by
  have taken : ∀ (l : List Char), ∀ c ∈ l.takeWhile isBlank, isBlank c = true :=
    fun l => List.all_eq_true.1 List.all_takeWhile
  let shown := dropBlank s
  refine ⟨s.takeWhile isBlank, (shown.reverse.takeWhile isBlank).reverse, ?_, taken s, ?_⟩
  · have back : shown = dropBlankEnd shown ++ (shown.reverse.takeWhile isBlank).reverse := by
      rw [dropBlankEnd, dropBlank, ← List.reverse_append, List.takeWhile_append_dropWhile,
        List.reverse_reverse]
    rw [trimChars, List.append_assoc, ← back]
    exact List.takeWhile_append_dropWhile.symm
  · intro c mem
    exact taken _ c (List.mem_reverse.1 mem)

/-- Nothing is left of a text exactly if it is blank. -/
theorem trimChars_eq_nil_iff {s : List Char} : trimChars s = [] ↔ ∀ c ∈ s, isBlank c = true := by
  constructor
  · intro nothing
    obtain ⟨lead, trail, whole, before, behind⟩ := exists_trimChars s
    rw [whole, nothing, List.append_nil]
    exact List.forall_mem_append.2 ⟨before, behind⟩
  · intro blank
    rw [trimChars, dropBlank_of_blank blank]
    rfl

theorem mem_of_mem_trimChars {s : List Char} {c : Char} (mem : c ∈ trimChars s) : c ∈ s := by
  obtain ⟨lead, trail, whole, _⟩ := exists_trimChars s
  rw [whole]
  exact List.mem_append_left _ (List.mem_append_right _ mem)

end ArchiveAccounts.Text
