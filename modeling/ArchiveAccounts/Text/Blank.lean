/-!
# Blank characters, trimming and cutting text

A character is blank when it has the Unicode property `White_Space`. Trimming removes blanks from
the ends of a text; `cutAt` and `splitAt` cut it at a character.
-/

namespace ArchiveAccounts.Text
set_option autoImplicit false

/-- The code points with the property `White_Space`, as closed ranges. -/
def blankRanges : List (Nat × Nat) :=
  [(0x9, 0xD), (0x20, 0x20), (0x85, 0x85), (0xA0, 0xA0), (0x1680, 0x1680), (0x2000, 0x200A),
    (0x2028, 0x2029), (0x202F, 0x202F), (0x205F, 0x205F), (0x3000, 0x3000)]

/-- Whether a character is blank. -/
def isBlank (c : Char) : Bool :=
  blankRanges.any fun r => decide (r.1 ≤ c.toNat) && decide (c.toNat ≤ r.2)

/-- The characters from the first one that is not blank. -/
def dropBlank (s : List Char) : List Char := s.dropWhile isBlank

/-- The characters up to the last one that is not blank. -/
def dropBlankEnd (s : List Char) : List Char := (dropBlank s.reverse).reverse

/-- The characters without blanks at either end. -/
def trimChars (s : List Char) : List Char := dropBlankEnd (dropBlank s)

/-- The text without blanks at either end. -/
def trim (s : String) : String := String.ofList (trimChars s.toList)

/-- Whether a text holds blanks only. -/
def allBlank (s : String) : Bool := s.toList.all isBlank

/-- The characters before the first `c` and those after it. -/
def cutAt (c : Char) : List Char → Option (List Char × List Char)
  | [] => none
  | x :: rest =>
    if x = c then some ([], rest) else (cutAt c rest).map fun p => (x :: p.1, p.2)

/-- The piece before the first `c` and the pieces after it. -/
def pieces (c : Char) : List Char → List Char × List (List Char)
  | [] => ([], [])
  | x :: rest =>
    let (piece, more) := pieces c rest
    if x = c then ([], piece :: more) else (x :: piece, more)

/-- The pieces between the occurrences of `c`: one more than there are occurrences. -/
def splitAt (c : Char) (s : List Char) : List (List Char) := (pieces c s).1 :: (pieces c s).2

/-- The rest after a given beginning. -/
def dropLead? : List Char → List Char → Option (List Char)
  | [], s => some s
  | _ :: _, [] => none
  | p :: ps, c :: s => if p = c then dropLead? ps s else none

/-- The part before a given end. -/
def dropTail? (tail s : List Char) : Option (List Char) :=
  (dropLead? tail.reverse s.reverse).map List.reverse

/-- Drops every `c` at the start. -/
def dropChar (c : Char) (s : List Char) : List Char := s.dropWhile (· == c)

/-- Drops every `c` at the end. -/
def dropCharEnd (c : Char) (s : List Char) : List Char := (dropChar c s.reverse).reverse

/-- Texts joined with `separator` between neighbours. -/
def joinWith (separator : String) (parts : List String) : String :=
  String.intercalate separator parts

theorem dropLead?_eq_some_iff {lead s rest : List Char} :
    dropLead? lead s = some rest ↔ s = lead ++ rest := by
  induction lead generalizing s with
  | nil => simp [dropLead?]
  | cons p ps ih =>
    cases s with
    | nil => simp [dropLead?]
    | cons c s => grind [dropLead?]

theorem dropTail?_eq_some_iff {tail s rest : List Char} :
    dropTail? tail s = some rest ↔ s = rest ++ tail := by
  simp only [dropTail?, Option.map_eq_some_iff, dropLead?_eq_some_iff]
  constructor
  · rintro ⟨a, ha, rfl⟩
    have := congrArg List.reverse ha
    simpa using this
  · rintro rfl
    exact ⟨rest.reverse, by simp, by simp⟩

theorem cutAt_eq_some_iff {c : Char} {s before after : List Char} :
    cutAt c s = some (before, after) ↔ s = before ++ c :: after ∧ c ∉ before := by
  induction s generalizing before with
  | nil => simp [cutAt]
  | cons x rest ih =>
    rw [cutAt]
    split
    · rename_i hx
      cases before <;> grind
    · rename_i hx
      cases before with
      | nil => simp_all
      | cons b before =>
        simp only [Option.map_eq_some_iff, Prod.exists, Prod.mk.injEq, List.cons.injEq]
        grind

/-- The pieces, with `c` put back between them, are the text. -/
theorem intercalate_splitAt (c : Char) (s : List Char) : [c].intercalate (splitAt c s) = s := by
  induction s with
  | nil => rfl
  | cons x rest ih =>
    simp only [splitAt, pieces] at ih ⊢
    by_cases hx : x = c
    · rw [if_pos hx, hx, List.intercalate_cons_cons, ih]
      rfl
    · rw [if_neg hx]
      cases h : (pieces c rest).2 <;> simp_all [List.intercalate_cons_cons]

end ArchiveAccounts.Text
