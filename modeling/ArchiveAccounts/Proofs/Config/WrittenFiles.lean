import ArchiveAccounts.Config.Dotenv
import ArchiveAccounts.Proofs.Text.RoundTrip
import ArchiveAccounts.Proofs.Text.Trimming

/-!
# Dotenv files as they are written

A file is written line by line: blank lines, comments, and assignments with a quoted value, which
may be exported and have gaps around each of their parts. Main statement: `parse_of_writesFile`,
that the file is read back as its assignments.
-/

namespace ArchiveAccounts.Dotenv
set_option autoImplicit false

open Text

/-! ## Lines -/

/-- Whether a text is made of blanks of one line, such as spaces and tabs. -/
def IsGap (s : List Char) : Prop := ∀ c ∈ s, isBlank c = true ∧ c ≠ '\n'

/-- Whether a text can be the name of an assignment: one that is neither taken for a comment nor
for the word `export`. -/
structure IsName (name : List Char) : Prop where
  filled : name ≠ []
  trimmed : IsTrimmed name
  oneLine : '\n' ∉ name
  noEquals : '=' ∉ name
  noComment : name.head? ≠ some '#'
  notExport : name ≠ "export".toList
  noExport : ¬"export ".toList <+: name

/-- What may stand in front of a name: nothing, or the word `export`. -/
inductive IsLead : List Char → Prop
  | none : IsLead []
  | exported {gap : List Char} : IsGap gap → IsLead ("export ".toList ++ gap)

/-- A value between quotes of one kind. -/
def quoted (quote : Char) (value : List Char) : List Char := [quote] ++ value ++ [quote]

/-- An assignment, with gaps at the sign. -/
def body (name between after : List Char) (quote : Char) (value : List Char) : List Char :=
  name ++ (between ++ '=' :: after) ++ quoted quote value

/-- A line, and the assignment that is written on it. -/
inductive WritesLine : Option (String × String) → List Char → Prop
  | blank {line : List Char} : IsGap line → WritesLine none line
  | comment {before text : List Char} : IsGap before → '\n' ∉ text →
      WritesLine none (before ++ '#' :: text)
  | assignment {name value : String} {before lead between after behind : List Char} {quote : Char} :
      IsName name.toList → '\n' ∉ value.toList → quote = '"' ∨ quote = '\'' → IsLead lead →
      (∀ gap ∈ [before, between, after, behind], IsGap gap) →
      WritesLine (some (name, value))
        (before ++ (lead ++ body name.toList between after quote value.toList) ++ behind)

/-- A file, and the assignments that are written in it. The last line need not have an end. -/
inductive WritesFile : List (String × String) → List Char → Prop
  | last {entry : Option (String × String)} {line : List Char} :
      WritesLine entry line → WritesFile entry.toList line
  | cons {entry : Option (String × String)} {line ending rest : List Char}
      {assignments : List (String × String)} :
      WritesLine entry line → ending = ['\n'] ∨ ending = ['\r', '\n'] →
      WritesFile assignments rest → WritesFile (entry.toList ++ assignments) (line ++ ending ++ rest)

namespace IsGap

variable {s t : List Char}

theorem nil : IsGap [] := nofun

theorem append (hs : IsGap s) (ht : IsGap t) : IsGap (s ++ t) :=
  List.forall_mem_append.2 ⟨hs, ht⟩

theorem blank (h : IsGap s) : ∀ c ∈ s, isBlank c = true := fun c mem => (h c mem).1

theorem oneLine (h : IsGap s) : '\n' ∉ s := fun mem => (h _ mem).2 rfl

/-- The return in front of a line end. -/
theorem carriage : IsGap ['\r'] := List.forall_mem_singleton.2 (by decide)

end IsGap

/-! ## Reading a line -/

theorem unquote_quoted {quote : Char} (isQuote : quote = '"' ∨ quote = '\'') (value : List Char) :
    unquote (quoted quote value) = value := by
  have same : ∀ q, unquoteWith? q (quoted q value) = some value := by
    intro q
    have lead : dropLead? [q] (quoted q value) = some (value ++ [q]) :=
      dropLead?_eq_some_iff.2 (List.append_assoc _ _ _)
    rw [unquoteWith?, lead, Option.bind_some]
    exact dropTail?_eq_some_iff.2 rfl
  have other : unquoteWith? '"' (quoted '\'' value) = none := by
    have lead : dropLead? ['"'] (quoted '\'' value) = none := rfl
    rw [unquoteWith?, lead, Option.bind_none]
  rw [unquote]
  rcases isQuote with rfl | rfl
  · rw [same, Option.some_or, Option.getD_some]
  · rw [other, same, Option.none_or, Option.getD_some]

theorem isTrimmed_quote {quote : Char} (isQuote : quote = '"' ∨ quote = '\'') :
    IsTrimmed [quote] := by
  refine .of_visible (List.forall_mem_singleton.2 ?_)
  rcases isQuote with rfl | rfl <;> decide

theorem isTrimmed_quoted {quote : Char} (isQuote : quote = '"' ∨ quote = '\'')
    (value : List Char) : IsTrimmed (quoted quote value) :=
  have quote_ := isTrimmed_quote isQuote
  quote_.around (List.cons_ne_nil _ _) quote_ (List.cons_ne_nil _ _) value

/-- A word and the space behind it are not read across the end of a name. -/
theorem eq_or_prefix_of_prefix {word name rest : List Char} {c : Char} (plain : c ∉ word)
    (h : word ++ [' '] <+: name ++ c :: rest) : word = name ∨ word ++ [' '] <+: name := by
  induction word generalizing name with
  | nil =>
    cases name with
    | nil => exact .inl rfl
    | cons d name =>
      obtain ⟨same, _⟩ := List.cons_prefix_cons.1 h
      right
      rw [← same]
      exact List.prefix_append [' '] name
  | cons w word ih =>
    cases name with
    | nil =>
      obtain ⟨same, _⟩ := List.cons_prefix_cons.1 h
      rw [same] at plain
      exact absurd List.mem_cons_self plain
    | cons d name =>
      obtain ⟨rfl, later⟩ := List.cons_prefix_cons.1 h
      rcases ih (fun mem => plain (List.mem_cons_of_mem _ mem)) later with whole | lead
      · exact .inl (congrArg _ whole)
      · exact .inr (List.cons_prefix_cons.2 ⟨rfl, lead⟩)

section Assignment

variable {name value lead between after : List Char} {quote : Char}

theorem isTrimmed_body (isName : IsName name) (isQuote : quote = '"' ∨ quote = '\'')
    (between after value : List Char) : IsTrimmed (body name between after quote value) :=
  isName.trimmed.around isName.filled (isTrimmed_quoted isQuote value) (List.cons_ne_nil _ _) _

/-- A name is not taken for the word `export`. -/
theorem dropLead?_body (isName : IsName name) (isGap : IsGap between) :
    dropLead? "export ".toList (body name between after quote value) = none := by
  -- What follows the name, a gap or the sign, is no letter of the word.
  have next : ∃ c tail, between ++ '=' :: after = c :: tail ∧ c ∉ "export".toList := by
    cases between with
    | nil => exact ⟨'=', after, rfl, by decide⟩
    | cons c tail =>
      refine ⟨c, _, rfl, fun mem => ?_⟩
      have visible : ∀ c ∈ "export".toList, isBlank c = false :=
        List.all_iff_forall_prop.1 (by decide)
      exact Bool.eq_false_iff.1 (visible c mem) (isGap.blank c List.mem_cons_self)
  obtain ⟨c, tail, split, plain⟩ := next
  rw [Option.eq_none_iff_forall_ne_some]
  intro rest found
  have lead : "export".toList ++ [' '] <+: body name between after quote value :=
    ⟨rest, (dropLead?_eq_some_iff.1 found).symm⟩
  rw [body, split, List.append_assoc, List.cons_append] at lead
  rcases eq_or_prefix_of_prefix plain lead with whole | lead
  · exact isName.notExport whole.symm
  · exact isName.noExport lead

/-- The word `export` is dropped, and nothing else is. -/
theorem trimChars_dropExport (isName : IsName name) (isQuote : quote = '"' ∨ quote = '\'')
    (isLead : IsLead lead) (isGap : IsGap between) :
    trimChars (dropExport (lead ++ body name between after quote value))
      = body name between after quote value := by
  have trimmed := isTrimmed_body isName isQuote between after value
  rw [dropExport]
  cases isLead with
  | none =>
    rw [List.nil_append, dropLead?_body isName isGap, Option.getD_none, trimmed.trimChars_eq]
  | @exported gap isGap =>
    have dropped : dropLead? "export ".toList
        ("export ".toList ++ gap ++ body name between after quote value)
        = some (gap ++ body name between after quote value) :=
      dropLead?_eq_some_iff.2 (List.append_assoc _ _ _)
    have cut := trimChars_append isGap.blank trimmed (List.forall_mem_nil _)
    rw [List.append_nil] at cut
    rw [dropped, Option.getD_some, cut]

/-- A line is trimmed up to what stands around it. -/
theorem isTrimmed_lead_append (isName : IsName name) (isQuote : quote = '"' ∨ quote = '\'')
    (isLead : IsLead lead) : IsTrimmed (lead ++ body name between after quote value) := by
  cases isLead with
  | none => exact isTrimmed_body isName isQuote between after value
  | @exported gap isGap =>
    have word : IsTrimmed "export".toList :=
      .of_visible (List.all_iff_forall_prop.1 (by decide))
    have filled : body name between after quote value ≠ [] :=
      List.append_ne_nil_of_right_ne_nil _ (List.cons_ne_nil _ _)
    have whole := word.around (by decide) (isTrimmed_body isName isQuote between after value) filled
      (' ' :: gap)
    exact whole

theorem head?_lead_append (isName : IsName name) (isLead : IsLead lead) :
    (lead ++ body name between after quote value).head? ≠ some '#' := by
  cases isLead with
  | none =>
    obtain ⟨c, rest, split⟩ := List.exists_cons_of_ne_nil isName.filled
    have noComment := isName.noComment
    rw [split] at noComment
    rw [split]
    exact noComment
  | exported isGap => exact fun first => absurd (Option.some.inj first) (by decide)

/-- An assignment is read from its line. -/
theorem assignment?_of_isName {before behind : List Char} (isName : IsName name)
    (isQuote : quote = '"' ∨ quote = '\'') (isLead : IsLead lead)
    (gaps : ∀ gap ∈ [before, between, after, behind], IsGap gap) :
    assignment? (before ++ (lead ++ body name between after quote value) ++ behind)
      = if value.all isBlank then none else some (String.ofList name, String.ofList value) := by
  simp only [List.forall_mem_cons] at gaps
  obtain ⟨isBefore, isBetween, isAfter, isBehind, _⟩ := gaps
  have shown : trimChars (before ++ (lead ++ body name between after quote value) ++ behind)
      = lead ++ body name between after quote value :=
    trimChars_append isBefore.blank (isTrimmed_lead_append isName isQuote isLead) isBehind.blank
  have filled : (lead ++ body name between after quote value).isEmpty = false := by
    rw [body, List.isEmpty_eq_false_iff]
    exact List.append_ne_nil_of_right_ne_nil _
      (List.append_ne_nil_of_right_ne_nil _ (List.cons_ne_nil _ _))
  have noComment : ((lead ++ body name between after quote value).head? == some '#') = false :=
    beq_eq_false_iff_ne.2 (head?_lead_append isName isLead)
  have cut : cutAt '=' (body name between after quote value)
      = some (name ++ between, after ++ quoted quote value) := by
    refine cutAt_eq_some_iff.2 ⟨?_, fun mem => ?_⟩
    · simp only [body, List.append_assoc, List.cons_append]
    · rcases List.mem_append.1 mem with mem | mem
      · exact isName.noEquals mem
      · exact absurd (isBetween.blank _ mem) (by decide)
  have key : trimChars (name ++ between) = name :=
    trimChars_append (List.forall_mem_nil _) isName.trimmed isBetween.blank
  have text : trimChars (after ++ quoted quote value) = quoted quote value := by
    rw [← List.append_nil (after ++ _)]
    exact trimChars_append isAfter.blank (isTrimmed_quoted isQuote value) (List.forall_mem_nil _)
  have named : name.isEmpty = false := List.isEmpty_eq_false_iff.2 isName.filled
  rw [assignment?]
  simp only [shown, filled, noComment, trimChars_dropExport isName isQuote isLead isBetween, cut,
    key, text, unquote_quoted isQuote, named, Bool.or_self, Bool.false_eq_true, if_false,
    Option.bind_eq_bind, Option.bind_some, Bool.false_or]

end Assignment

/-- A line is read as the assignment that is written on it, unless its value is blank. -/
theorem WritesLine.assignment?_eq {entry : Option (String × String)} {line : List Char}
    (writes : WritesLine entry line) : assignment? line = entry.filter fun a => !allBlank a.2 := by
  cases writes with
  | blank isGap =>
    rw [assignment?, trimChars_eq_nil_iff.2 isGap.blank]
    rfl
  | @comment before text isGap oneLine =>
    obtain ⟨kept, shown⟩ := exists_trimChars_cons (c := '#') isGap.blank (by decide) text
    rw [assignment?, shown]
    rfl
  | @assignment name value before lead between after behind quote isName _ isQuote isLead gaps =>
    rw [assignment?_of_isName isName isQuote isLead gaps, String.ofList_toList,
      String.ofList_toList, Option.filter_some, allBlank]
    cases value.toList.all isBlank <;> rfl

/-! ## Reading a file -/

theorem IsLead.oneLine {lead : List Char} (h : IsLead lead) : '\n' ∉ lead := by
  cases h with
  | none => exact List.not_mem_nil
  | exported isGap => exact fun mem => (List.mem_append.1 mem).elim (by decide) isGap.oneLine

namespace WritesLine

variable {entry : Option (String × String)} {line : List Char}

theorem oneLine (writes : WritesLine entry line) : '\n' ∉ line := by
  cases writes with
  | blank isGap => exact isGap.oneLine
  | comment isGap oneLine =>
    simp only [List.mem_append, List.mem_cons, not_or]
    exact ⟨isGap.oneLine, by decide, oneLine⟩
  | @assignment name value before lead between after behind quote isName oneLine isQuote isLead
      gaps =>
    simp only [List.forall_mem_cons] at gaps
    obtain ⟨isBefore, isBetween, isAfter, isBehind, _⟩ := gaps
    have notQuote : '\n' ∉ [quote] := by
      rcases isQuote with rfl | rfl <;> decide
    have sign : '\n' ≠ '=' := by decide
    simp only [body, quoted, List.mem_append, List.mem_cons, not_or] at notQuote ⊢
    exact ⟨⟨isBefore.oneLine, isLead.oneLine, ⟨isName.oneLine, isBetween.oneLine, sign,
      isAfter.oneLine⟩, ⟨notQuote, oneLine⟩, notQuote⟩, isBehind.oneLine⟩

/-- The return in front of a line end belongs to the gap behind the line. -/
theorem carriage (writes : WritesLine entry line) : WritesLine entry (line ++ ['\r']) := by
  cases writes with
  | blank isGap => exact .blank (isGap.append .carriage)
  | comment isGap oneLine =>
    rw [List.append_assoc, List.cons_append]
    refine .comment isGap fun mem => ?_
    exact (List.mem_append.1 mem).elim oneLine (by decide)
  | assignment isName oneLine isQuote isLead gaps =>
    simp only [List.forall_mem_cons] at gaps
    obtain ⟨isBefore, isBetween, isAfter, isBehind, others⟩ := gaps
    rw [List.append_assoc]
    refine .assignment isName oneLine isQuote isLead ?_
    simp only [List.forall_mem_cons]
    exact ⟨isBefore, isBetween, isAfter, isBehind.append .carriage, others⟩

end WritesLine

theorem WritesLine.filterMap_eq {entry : Option (String × String)} {line : List Char}
    (writes : WritesLine entry line) :
    [line].filterMap assignment? = entry.toList.filter fun a => !allBlank a.2 := by
  rw [← Option.toList_filter, ← writes.assignment?_eq, List.filterMap_cons]
  cases assignment? line <;> rfl

/-- A file is read line by line. -/
theorem WritesFile.filterMap_eq {assignments : List (String × String)} {text : List Char}
    (writes : WritesFile assignments text) :
    (splitAt '\n' text).filterMap assignment? = assignments.filter fun a => !allBlank a.2 := by
  induction writes with
  | last writes => rw [splitAt_of_not_mem writes.oneLine, writes.filterMap_eq]
  | @cons entry line ending rest assignments writes isEnding _ ih =>
    obtain ⟨shown, writes, same⟩ : ∃ shown, WritesLine entry shown ∧
        line ++ ending ++ rest = shown ++ '\n' :: rest := by
      rcases isEnding with rfl | rfl
      · exact ⟨line, writes, List.append_assoc _ _ _⟩
      · refine ⟨line ++ ['\r'], writes.carriage, ?_⟩
        simp only [List.append_assoc, List.cons_append, List.nil_append]
    rw [same, splitAt_append, splitAt_of_not_mem writes.oneLine, List.filterMap_append,
      writes.filterMap_eq, ih, List.filter_append]

/-- A file is read as its assignments: a key is found exactly if it is assigned a value that is not
blank, with the last such value as it is written. -/
theorem parse_of_writesFile {assignments : List (String × String)} {contents : String}
    (writes : WritesFile assignments contents.toList) (key : String) :
    (parse contents).get? key
      = ((assignments.filter fun a => a.1 == key && !allBlank a.2).getLast?).map (·.2) := by
  rw [parse, writes.filterMap_eq, SortedMap.get?_ofList, List.filter_filter]

/-- A file with a comment, an export, a value of quotes and signs, a value that is taken back and
one that is not, since it is blank. -/
theorem parse_of_writesFile_overwritten :
    let contents :=
      "# A=\"0\"\r\nA='1'\n\n\texport A = \" x='2' # \" \r\nexports='='\nexports=\"\t\""
    let assignments := [("A", "1"), ("A", " x='2' # "), ("exports", "="), ("exports", "\t")]
    WritesFile assignments contents.toList ∧
      (parse contents).get? "A" = some " x='2' # " ∧
      (parse contents).get? "exports" = some "=" ∧
      (parse contents).get? "export" = none := by
  intro contents assignments
  have isName : ∀ name ∈ ["A", "exports"], IsName name.toList := by
    intro name mem
    simp only [List.mem_cons, List.not_mem_nil, or_false] at mem
    rcases mem with rfl | rfl
    all_goals exact ⟨by decide, .of_visible (List.all_iff_forall_prop.1 (by decide)), by decide,
      by decide, by decide, by decide, by decide⟩
  have space : IsGap [' '] := List.forall_mem_singleton.2 (by decide)
  have tab : IsGap ['\t'] := List.forall_mem_singleton.2 (by decide)
  have plain : ∀ gap ∈ [[], [], [], []], IsGap gap := by
    simp only [List.forall_mem_cons]
    exact ⟨.nil, .nil, .nil, .nil, List.forall_mem_nil _⟩
  have wide : ∀ gap ∈ [['\t'], [' '], [' '], [' ']], IsGap gap := by
    simp only [List.forall_mem_cons]
    exact ⟨tab, space, space, space, List.forall_mem_nil _⟩
  have note : WritesLine none ([] ++ '#' :: " A=\"0\"".toList) := .comment .nil (by decide)
  have first : WritesLine (some ("A", "1")) "A='1'".toList :=
    .assignment (isName "A" (by decide)) (by decide) (.inr rfl) .none plain
  have second : WritesLine (some ("A", " x='2' # ")) "\texport A = \" x='2' # \" ".toList :=
    .assignment (isName "A" (by decide)) (by decide) (.inl rfl) (.exported .nil) wide
  have third : WritesLine (some ("exports", "=")) "exports='='".toList :=
    .assignment (isName "exports" (by decide)) (by decide) (.inr rfl) .none plain
  have last : WritesLine (some ("exports", "\t")) "exports=\"\t\"".toList :=
    .assignment (isName "exports" (by decide)) (by decide) (.inl rfl) .none plain
  have lines := WritesFile.cons note (.inr rfl) <| .cons first (.inl rfl) <|
    .cons (.blank .nil) (.inl rfl) <| .cons second (.inr rfl) <| .cons third (.inl rfl) <|
      .last last
  have writes : WritesFile assignments contents.toList := by
    refine (congrArg (WritesFile _) ?_).mp lines
    decide +kernel
  have read := parse_of_writesFile writes
  exact ⟨writes, (read "A").trans rfl, (read "exports").trans rfl, (read "export").trans rfl⟩

end ArchiveAccounts.Dotenv
