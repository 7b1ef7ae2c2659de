import ArchiveAccounts.Json.Parser
import ArchiveAccounts.Json.Printer

/-!
# Printed JSON reads back

Main statement: `parse?_print`, the text of data on one line reads as the same data. It holds for
data whose texts are whole and whose numbers are integers, which is what documents are made of.
-/

namespace ArchiveAccounts
set_option autoImplicit false

open Text

namespace Datum

mutual

/-- Whether all texts in the data are whole and all numbers are integers. -/
def isWhole : Datum → Bool
  | .null | .bool _ | .int _ => true
  | .number _ => false
  | .text s => s.isSome
  | .list items => areWhole items
  | .fields entries => haveWhole entries

/-- Whether all of the items are whole. -/
def areWhole : List Datum → Bool
  | [] => true
  | item :: items => item.isWhole && areWhole items

/-- Whether all of the fields have a whole name and a whole value. -/
def haveWhole : List (Option String × Datum) → Bool
  | [] => true
  | (name, value) :: entries => name.isSome && value.isWhole && haveWhole entries

end

theorem areWhole_eq (items : List Datum) : areWhole items = items.all isWhole := by
  induction items with
  | nil => rfl
  | cons item items ih => simp [areWhole, ih]

theorem haveWhole_eq (entries : List (Option String × Datum)) :
    haveWhole entries = entries.all fun e => e.1.isSome && e.2.isWhole := by
  induction entries with
  | nil => rfl
  | cons e entries ih => simp [haveWhole, ih]

@[simp] theorem isWhole_list (items : List Datum) : isWhole (.list items) = items.all isWhole :=
  areWhole_eq items

@[simp] theorem isWhole_record (entries : List (String × Datum)) :
    (record entries).isWhole = entries.all fun e => e.2.isWhole := by
  simp only [record, isWhole, haveWhole_eq, List.all_map]
  rfl

@[simp] theorem isWhole_bool (b : Bool) : (bool b).isWhole = true := rfl

@[simp] theorem isWhole_int (i : Int) : (int i).isWhole = true := rfl

@[simp] theorem isWhole_ofText (s : String) : (ofText s).isWhole = true := rfl

@[simp] theorem isWhole_ofCounter (n : Counter) : (ofCounter n).isWhole = true := rfl

end Datum

namespace Json

/-! ## Texts -/

theorem number?_nibbles {a b : Nat} (ha : a < 16) (hb : b < 16) :
    Hex.number? ['0', '0', Hex.lowerDigit a, Hex.lowerDigit b] = some (a * 16 + b) := by
  have zero : Hex.digit? '0' = some 0 := by decide
  simp [Hex.number?, zero, Hex.digit?_lowerDigit a ha, Hex.digit?_lowerDigit b hb]

/-- An escaped character is read as its code point. -/
theorem units?_escape (c : Char) (s : List Char) :
    units? (escape c ++ s) = (units? s).map fun p => (c.toNat :: p.1, p.2) := by
  have short : ∀ {e : Char} {n : Nat}, e ≠ 'u' → shortEscape? e = some n →
      units? ('\\' :: e :: s) = (units? s).map fun p => (n :: p.1, p.2) := by
    intro e n notU known
    rw [units?]
    · simp only [known]
      cases units? s <;> rfl
    · intro a b c d rest h
      exact absurd h notU
  unfold escape
  split
  · next h => subst h; exact short (by decide) rfl
  split
  · next h => subst h; exact short (by decide) rfl
  split
  · next h => subst h; exact short (by decide) rfl
  split
  · next h => subst h; exact short (by decide) rfl
  split
  · next h => subst h; exact short (by decide) rfl
  split
  · next h => subst h; exact short (by decide) rfl
  split
  · next h => subst h; exact short (by decide) rfl
  split
  · next small =>
    have value := number?_nibbles (a := c.toNat / 16) (b := c.toNat % 16) (by omega) (by omega)
    rw [show c.toNat / 16 * 16 + c.toNat % 16 = c.toNat by omega] at value
    simp only [List.cons_append, List.nil_append, units?, value]
    cases units? s <;> rfl
  · next quote backslash _ _ _ _ _ large =>
    rw [List.singleton_append, units?.eq_def]
    split
    · next h => exact nomatch h
    · next h => injection h with h; exact absurd h quote
    · next h => injection h with h; exact absurd h backslash
    · next h => injection h with h; exact absurd h backslash
    · next h =>
      injection h with hc hs
      subst hc hs
      rw [if_neg large]
      cases units? s <;> rfl

theorem units?_quoted (s rest : List Char) :
    units? (s.flatMap escape ++ '"' :: rest) = some (s.map Char.toNat, rest) := by
  induction s with
  | nil => simp [units?]
  | cons c s ih => simp [units?_escape, ih]

theorem not_isSurrogate (c : Char) :
    isHighSurrogate c.toNat = false ∧ isLowSurrogate c.toNat = false := by
  have valid : c.toNat < 0xD800 ∨ 0xDFFF < c.toNat ∧ c.toNat < 0x110000 := c.valid
  simp only [isHighSurrogate, isLowSurrogate, Bool.and_eq_false_iff, decide_eq_false_iff_not]
  omega

theorem joinUnits?_map (s : List Char) : joinUnits? (s.map Char.toNat) = some s := by
  induction s with
  | nil => rfl
  | cons c s ih =>
    obtain ⟨high, low⟩ := not_isSurrogate c
    cases s with
    | nil => simp [joinUnits?, high, low]
    | cons d s =>
      rw [List.map_cons, List.map_cons, joinUnits?, ← List.map_cons, ih]
      simp [high, low]

theorem text?_quoted (s : String) (rest : List Char) :
    text? (s.toList.flatMap escape ++ '"' :: rest) = some (some s, rest) := by
  simp [text?, units?_quoted, joinUnits?_map]

/-! ## Numbers -/

/-- Whether a text goes on, after a value, with what ends it. -/
def endsValue : List Char → Bool
  | [] => true
  | c :: _ => c == ',' || c == ']' || c == '\x7d'

/-- No number is written with a zero in front of other digits. -/
theorem isIntegerPart_digits (n : Nat) : isIntegerPart (Decimal.digits n) = true := by
  have head : ∀ n, 0 < n → ∃ c s, Decimal.digits n = c :: s ∧ c ≠ '0' := by
    intro n
    induction n using Decimal.digits.induct with
    | case1 n small =>
      intro pos
      refine ⟨_, [], by rw [Decimal.digits, if_pos small], ?_⟩
      have : ∀ n < 10, 0 < n → Decimal.digit n ≠ '0' := by decide
      exact this n small pos
    | case2 n large ih =>
      intro _
      obtain ⟨c, s, h, nonzero⟩ := ih (by omega)
      refine ⟨c, s ++ [Decimal.digit (n % 10)], ?_, nonzero⟩
      rw [Decimal.digits, if_neg large, h]
      rfl
  rcases Nat.eq_zero_or_pos n with rfl | pos
  · decide +kernel
  · obtain ⟨c, s, h, nonzero⟩ := head n pos
    rw [h]
    unfold isIntegerPart
    split <;> simp_all

theorem spanDigits_append {digits rest : List Char} (h : ∀ c ∈ digits, c.isDigit = true)
    (ends : endsValue rest = true) : spanDigits (digits ++ rest) = (digits, rest) := by
  have stop : rest.takeWhile Char.isDigit = [] ∧ rest.dropWhile Char.isDigit = rest := by
    cases rest with
    | nil => exact ⟨rfl, rfl⟩
    | cons c rest =>
      have : c.isDigit = false := by
        simp only [endsValue, Bool.or_eq_true, beq_iff_eq] at ends
        rcases ends with (rfl | rfl) | rfl <;> rfl
      simp [this]
  simp [spanDigits, List.takeWhile_append_of_pos h, List.dropWhile_append_of_pos h, stop]

theorem fraction?_of_endsValue {rest : List Char} (ends : endsValue rest = true) :
    fraction? rest = some ([], rest) := by
  unfold fraction?
  split
  · simp [endsValue] at ends
  · rfl

theorem exponent?_of_endsValue {rest : List Char} (ends : endsValue rest = true) :
    exponent? rest = some ([], rest) := by
  unfold exponent?
  split
  · simp only [endsValue, Bool.or_eq_true, beq_iff_eq] at ends
    rw [if_neg]
    rcases ends with (rfl | rfl) | rfl <;> decide
  · rfl

theorem makeNumber_digits (n : Nat) (negative : Bool) (h : negative = true → 0 < n) :
    makeNumber negative (Decimal.digits n) [] = .int (if negative then -n else n) := by
  rw [makeNumber, Decimal.number?_digits]
  cases negative with
  | false => rfl
  | true =>
    have : (n == 0) = false := by
      have := h rfl
      simp
      omega
    simp [this]

/-- A written integer is read up to its end. -/
theorem number?_integer (i : Int) {rest : List Char} (ends : endsValue rest = true) :
    number? (Decimal.integer i ++ rest) = some (.int i, rest) := by
  have span := spanDigits_append (fun c => Decimal.isDigit_of_mem_digits (n := i.natAbs)) ends
  have part := isIntegerPart_digits i.natAbs
  by_cases negative : i < 0
  · have value := makeNumber_digits i.natAbs true (by omega)
    rw [if_pos rfl, show -(i.natAbs : Int) = i by omega] at value
    simp [number?, Decimal.integer, negative, span, part, fraction?_of_endsValue ends,
      exponent?_of_endsValue ends, value]
  · have value := makeNumber_digits i.natAbs false nofun
    simp only [Bool.false_eq_true, if_false] at value
    rw [show (i.natAbs : Int) = i by omega] at value
    have notMinus : ∀ s, Decimal.digits i.natAbs ++ rest ≠ '-' :: s := by
      intro s h
      cases digits : Decimal.digits i.natAbs with
      | nil => exact Decimal.digits_ne_nil _ digits
      | cons c digits' =>
        rw [digits] at h
        injection h with h
        have := Decimal.isDigit_of_mem_digits (n := i.natAbs) (c := c) (by simp [digits])
        rw [h] at this
        exact absurd this (by decide)
    simp [number?, Decimal.integer, negative, span, part, fraction?_of_endsValue ends,
      exponent?_of_endsValue ends, value]

/-! ## Values -/

theorem skip_cons {c : Char} (h : isSpace c = false) (s : List Char) : skip (c :: s) = c :: s := by
  simp [skip, h]

theorem endsValue_moreItems (items : List Datum) (rest : List Char) :
    endsValue (moreItems none items ++ ']' :: rest) = true := by
  cases items <;> rfl

theorem endsValue_moreFields (entries : List (Option String × Datum)) (rest : List Char) :
    endsValue (moreFields none entries ++ '\x7d' :: rest) = true := by
  cases entries <;> rfl

/-- A written integer starts with a digit or a sign. -/
theorem integer_eq_cons (i : Int) :
    ∃ c s, Decimal.integer i = c :: s ∧ (c = '-' ∨ c.isDigit = true) := by
  cases h : Decimal.integer i with
  | nil =>
    unfold Decimal.integer at h
    split at h
    · exact nomatch h
    · exact absurd h (Decimal.digits_ne_nil _)
  | cons c s =>
    refine ⟨c, s, rfl, ?_⟩
    unfold Decimal.integer at h
    split at h
    · injection h with h
      exact .inl h.symm
    · exact .inr (Decimal.isDigit_of_mem_digits (h ▸ List.mem_cons_self))

/-- What starts an integer starts no other value. -/
theorem ne_of_startsInteger {c : Char} (h : c = '-' ∨ c.isDigit = true) :
    isSpace c = false ∧ c ≠ '"' ∧ c ≠ '[' ∧ c ≠ '\x7b' ∧ c ≠ 'n' ∧ c ≠ 't' ∧ c ≠ 'f' := by
  rcases h with rfl | digit
  · decide
  · refine ⟨?_, ?_, ?_, ?_, ?_, ?_, ?_⟩
    · rw [← Bool.not_eq_true]
      intro space
      simp only [isSpace, Bool.or_eq_true, beq_iff_eq] at space
      rcases space with ((rfl | rfl) | rfl) | rfl <;> exact absurd digit (by decide)
    all_goals
      rintro rfl
      exact absurd digit (by decide)

theorem value?_integer (i : Int) {fuel : Nat} {rest : List Char} (ends : endsValue rest = true) :
    value? (fuel + 1) (Decimal.integer i ++ rest) = some (.int i, rest) := by
  obtain ⟨c, s, h, first⟩ := integer_eq_cons i
  have read := number?_integer i ends
  rw [h, List.cons_append] at read ⊢
  obtain ⟨space, quote, list, fields, n, t, f⟩ := ne_of_startsInteger first
  rw [value?, skip_cons space]
  split <;> simp_all

/-- The first character of a written value is no space and ends no list and no record. -/
theorem chars_eq_cons (d : Datum) (whole : d.isWhole = true) :
    ∃ c s, chars none d = c :: s ∧ isSpace c = false ∧ c ≠ ']' ∧ c ≠ '\x7d' := by
  cases d with
  | null => exact ⟨'n', _, rfl, by decide⟩
  | bool b => cases b <;> exact ⟨_, _, rfl, by decide⟩
  | int i =>
    obtain ⟨c, s, h, first⟩ := integer_eq_cons i
    refine ⟨c, s, by rw [chars, h], (ne_of_startsInteger first).1, ?_, ?_⟩
    all_goals
      rintro rfl
      exact absurd first (by decide)
  | number lexeme => exact nomatch whole
  | text s => cases s <;> exact ⟨'"', _, rfl, by decide⟩
  | list items => cases items <;> exact ⟨'[', _, rfl, by decide⟩
  | fields entries => cases entries <;> exact ⟨'\x7b', _, rfl, by decide⟩

/-- The characters of a list without its opening bracket. -/
theorem chars_list_cons (item : Datum) (items : List Datum) (rest : List Char) :
    chars none (.list (item :: items)) ++ rest =
      '[' :: (chars none item ++ (moreItems none items ++ ']' :: rest)) := by
  simp [chars, Layout.newLine, Layout.deeper]

/-- The characters of a record without its opening brace. -/
theorem chars_fields_cons (name : String) (value : Datum)
    (entries : List (Option String × Datum)) (rest : List Char) :
    chars none (.fields ((some name, value) :: entries)) ++ rest =
      '\x7b' :: '"' :: (name.toList.flatMap escape ++ '"' :: ':' ::
        (chars none value ++ (moreFields none entries ++ '\x7d' :: rest))) := by
  simp [chars, Layout.newLine, Layout.deeper, Layout.colon, quote]

theorem length_chars_list (item : Datum) (items : List Datum) :
    (chars none (.list (item :: items))).length =
      (chars none item).length + (moreItems none items).length + 2 := by
  simp [chars, Layout.newLine, Layout.deeper]
  omega

theorem length_chars_fields (name : String) (value : Datum)
    (entries : List (Option String × Datum)) :
    (chars none value).length + (moreFields none entries).length + 2 ≤
      (chars none (.fields ((some name, value) :: entries))).length := by
  simp [chars, Layout.newLine, Layout.deeper, Layout.colon, quote]
  omega

/-- A list is read if its items are. -/
theorem value?_list {item : Datum} {items : List Datum} (whole : item.isWhole = true) {fuel : Nat}
    {rest : List Char}
    (read : items? fuel (chars none item ++ (moreItems none items ++ ']' :: rest)) =
      some (item :: items, rest)) :
    value? (fuel + 1) (chars none (.list (item :: items)) ++ rest) =
      some (.list (item :: items), rest) := by
  obtain ⟨c, s, first, space, close, -⟩ := chars_eq_cons item whole
  rw [chars_list_cons, value?, skip_cons rfl]
  rw [first, List.cons_append] at read ⊢
  simp only [skip_cons space]
  split
  · next h =>
    injection h with h
    exact absurd h close
  · rw [read]
    rfl

/-- A record is read if its fields are. -/
theorem value?_fields {name : String} {value : Datum} {entries : List (Option String × Datum)}
    {fuel : Nat} {rest : List Char}
    (read : entries? fuel ('"' :: (name.toList.flatMap escape ++ '"' :: ':' ::
        (chars none value ++ (moreFields none entries ++ '\x7d' :: rest)))) =
      some ((some name, value) :: entries, rest)) :
    value? (fuel + 1) (chars none (.fields ((some name, value) :: entries)) ++ rest) =
      some (.fields ((some name, value) :: entries), rest) := by
  rw [chars_fields_cons, value?, skip_cons rfl]
  simp only [skip_cons (c := '"') rfl]
  split
  · next h =>
    injection h with h
    exact absurd h (by decide)
  · rw [read]
    rfl

theorem items?_last {item : Datum} {fuel : Nat} {s rest : List Char}
    (read : value? fuel s = some (item, ']' :: rest)) :
    items? (fuel + 1) s = some ([item], rest) := by
  simp [items?, read, skip_cons (c := ']') rfl]

theorem items?_more {item : Datum} {items : List Datum} {fuel : Nat} {s t rest : List Char}
    (read : value? fuel s = some (item, ',' :: t)) (readRest : items? fuel t = some (items, rest)) :
    items? (fuel + 1) s = some (item :: items, rest) := by
  simp [items?, read, skip_cons (c := ',') rfl, readRest]

section Entries

variable {name : String} {value : Datum} {fuel : Nat} {s t rest : List Char}

theorem entries?_last (read : value? fuel s = some (value, '\x7d' :: rest)) :
    entries? (fuel + 1) ('"' :: (name.toList.flatMap escape ++ '"' :: ':' :: s)) =
      some ([(some name, value)], rest) := by
  simp [entries?, skip_cons (c := '"') rfl, text?_quoted, skip_cons (c := ':') rfl, read,
    skip_cons (c := '\x7d') rfl]

theorem entries?_more {entries : List (Option String × Datum)}
    (read : value? fuel s = some (value, ',' :: t))
    (readRest : entries? fuel t = some (entries, rest)) :
    entries? (fuel + 1) ('"' :: (name.toList.flatMap escape ++ '"' :: ':' :: s)) =
      some ((some name, value) :: entries, rest) := by
  simp [entries?, skip_cons (c := '"') rfl, text?_quoted, skip_cons (c := ':') rfl, read,
    skip_cons (c := ',') rfl, readRest]

end Entries

/-- With this fuel everything written with no more characters is read up to its end. -/
structure ReadsWritten (fuel : Nat) : Prop where
  value : ∀ d rest, d.isWhole = true → (chars none d).length ≤ fuel → endsValue rest = true →
    value? fuel (chars none d ++ rest) = some (d, rest)
  items : ∀ item items rest, item.isWhole = true → Datum.areWhole items = true →
    (chars none item).length + (moreItems none items).length < fuel →
    items? fuel (chars none item ++ (moreItems none items ++ ']' :: rest)) =
      some (item :: items, rest)
  entries : ∀ (name : String) value entries rest, value.isWhole = true →
    Datum.haveWhole entries = true →
    (chars none value).length + (moreFields none entries).length < fuel →
    entries? fuel ('"' :: (name.toList.flatMap escape ++ '"' :: ':' ::
        (chars none value ++ (moreFields none entries ++ '\x7d' :: rest)))) =
      some ((some name, value) :: entries, rest)

theorem length_chars_pos {d : Datum} (whole : d.isWhole = true) : 0 < (chars none d).length := by
  obtain ⟨c, s, first, -⟩ := chars_eq_cons d whole
  simp [first]

/-- Every value takes one unit of fuel and has at least one character. -/
theorem readsWritten (fuel : Nat) : ReadsWritten fuel := by
  induction fuel with
  | zero =>
    refine ⟨fun d rest whole enough => ?_, nofun, nofun⟩
    have := length_chars_pos whole
    omega
  | succ fuel ih =>
    constructor
    case value =>
      intro d rest whole enough ends
      match d with
      | .null | .bool true | .bool false => rfl
      | .int i => exact value?_integer i ends
      | .number _ | .text none => exact nomatch whole
      | .text (some s) => simp [chars, quote, value?, skip_cons (c := '"') rfl, text?_quoted]
      | .list [] => simp [chars, value?, skip_cons (c := '[') rfl, skip_cons (c := ']') rfl]
      | .list (item :: items) =>
        simp only [Datum.isWhole, Datum.areWhole, Bool.and_eq_true] at whole
        rw [length_chars_list] at enough
        exact value?_list whole.1 (ih.items item items rest whole.1 whole.2 (by omega))
      | .fields [] =>
        simp [chars, value?, skip_cons (c := '\x7b') rfl, skip_cons (c := '\x7d') rfl]
      | .fields ((none, value) :: entries) => simp [Datum.isWhole, Datum.haveWhole] at whole
      | .fields ((some name, value) :: entries) =>
        simp only [Datum.isWhole, Datum.haveWhole, Bool.and_eq_true] at whole
        have := length_chars_fields name value entries
        exact value?_fields (ih.entries name value entries rest whole.1.2 whole.2 (by omega))
    case items =>
      intro item items rest whole wholeItems enough
      have read := ih.value item (moreItems none items ++ ']' :: rest) whole (by omega)
        (endsValue_moreItems items rest)
      cases items with
      | nil => exact items?_last read
      | cons next items =>
        simp only [Datum.areWhole, Bool.and_eq_true] at wholeItems
        have := length_chars_pos whole
        simp only [moreItems, Layout.newLine, List.length_append, List.length_cons] at enough
        have readRest := ih.items next items rest wholeItems.1 wholeItems.2 (by omega)
        simp only [moreItems, Layout.newLine, List.append_assoc, List.cons_append,
          List.nil_append] at read ⊢
        exact items?_more read readRest
    case entries =>
      intro name value entries rest whole wholeEntries enough
      have read := ih.value value (moreFields none entries ++ '\x7d' :: rest) whole (by omega)
        (endsValue_moreFields entries rest)
      match entries with
      | [] => exact entries?_last read
      | (none, next) :: entries => simp [Datum.haveWhole] at wholeEntries
      | (some nextName, next) :: entries =>
        simp only [Datum.haveWhole, Bool.and_eq_true] at wholeEntries
        have := length_chars_pos whole
        simp only [moreFields, Layout.newLine, Layout.colon, List.length_append,
          List.length_cons] at enough
        have readRest := ih.entries nextName next entries rest wholeEntries.1.2 wholeEntries.2
          (by omega)
        simp only [moreFields, Layout.newLine, Layout.colon, quote, List.append_assoc,
          List.cons_append, List.nil_append] at read ⊢
        exact entries?_more read readRest

/-- The text of whole data reads as the data. -/
theorem parse?_print {d : Datum} (whole : d.isWhole = true) : parse? (print d) = some d := by
  have read := (readsWritten ((chars none d).length + 1)).value d [] whole (by omega) rfl
  rw [List.append_nil] at read
  rw [parse?, print, String.toList_ofList, Option.bind_eq_bind, read, Option.bind_some]
  rfl

end Json

end ArchiveAccounts
