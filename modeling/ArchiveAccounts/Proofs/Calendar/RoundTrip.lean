import ArchiveAccounts.Calendar.Rfc3339
import Mathlib.Algebra.Ring.Nat

/-!
# Printed timestamps read back

Main statement: `parse?_of_print?`, a text that is printed for a moment writes that moment, with its
offset and all its nanoseconds.
-/

namespace ArchiveAccounts
set_option autoImplicit false

namespace Text.Decimal

theorem length_digits_le {width n : Nat} (h : n < 10 ^ (width + 1)) :
    (digits n).length ≤ width + 1 := by
  induction width generalizing n with
  | zero =>
    rw [digits, if_pos (by simpa using h)]
    exact Nat.le_refl 1
  | succ width ih =>
    rw [digits]
    split
    · exact Nat.le_add_left 1 _
    · have shorter := ih (n := n / 10) (by rw [Nat.pow_succ] at h; omega)
      rw [List.length_append, List.length_singleton]
      omega

theorem length_padded {width n : Nat} (h : n < 10 ^ (width + 1)) :
    (padded (width + 1) n).length = width + 1 := by
  have short := length_digits_le h
  rw [padded, List.length_append, List.length_replicate]
  omega

end Text.Decimal

namespace Calendar.Rfc3339

open Text

theorem digits?_append {n m : Nat} {s : List Char} (rest : List Char)
    (h : Decimal.numberFrom? n s = some m) :
    digits? n s.length (s ++ rest) = some (m, rest) := by
  induction s generalizing n with
  | nil =>
    injection h with h
    rw [← h]
    rfl
  | cons c s ih =>
    rw [Decimal.numberFrom?] at h
    obtain ⟨d, digit, h⟩ := Option.bind_eq_some_iff.1 h
    rw [List.cons_append, List.length_cons, digits?, digit, Option.bind_some]
    exact ih h

/-- A number of a fixed width is read back. -/
theorem digits?_padded {width n : Nat} (rest : List Char) (h : n < 10 ^ (width + 1)) :
    digits? 0 (width + 1) (Decimal.padded (width + 1) n ++ rest) = some (n, rest) := by
  have read := digits?_append rest (Decimal.numberFrom?_padded (width + 1) n)
  rwa [Decimal.length_padded h] at read

theorem trimmed_append_zeros (s : List Char) :
    (s.reverse.dropWhile (· == '0')).reverse
      ++ List.replicate (s.reverse.takeWhile (· == '0')).length '0' = s := by
  have zeros : ∀ c ∈ s.reverse.takeWhile (· == '0'), c = '0' := by
    intro c h
    have all := List.all_takeWhile (p := (· == '0')) (l := s.reverse)
    rw [List.all_eq_true] at all
    exact eq_of_beq (all c h)
  rw [← List.reverse_inj, List.reverse_append, List.reverse_reverse, List.reverse_replicate,
    ← List.eq_replicate_of_mem zeros]
  exact List.takeWhile_append_dropWhile

/-- The digits that a fraction leaves out are zeros, which reading puts back. -/
theorem nanosOf_trimmed {nanos : Nat} (h : nanos < 1000000000) :
    nanosOf ((Decimal.padded 9 nanos).reverse.dropWhile (· == '0')).reverse = nanos := by
  have length : (Decimal.padded 9 nanos).length = 9 := Decimal.length_padded h
  have whole := trimmed_append_zeros (Decimal.padded 9 nanos)
  generalize (Decimal.padded 9 nanos).reverse.dropWhile (· == '0') = kept at whole ⊢
  generalize ((Decimal.padded 9 nanos).reverse.takeWhile (· == '0')).length = count at whole
  have few : count ≤ 9 := by
    rw [← length, ← whole, List.length_append, List.length_replicate]
    exact Nat.le_add_left _ _
  have filled : (kept.reverse ++ List.replicate 9 '0').take 9 = Decimal.padded 9 nanos := by
    rw [show 9 = count + (9 - count) by omega, ← List.replicate_append_replicate,
      ← List.append_assoc, whole, show count + (9 - count) = 9 by omega]
    exact List.take_left' length
  rw [nanosOf, filled, Decimal.number?, Decimal.numberFrom?_padded]
  rw [if_neg (by simp [Decimal.padded, Decimal.digits_ne_nil])]
  rfl

/-- An offset begins with a character that is no part of a fraction. -/
theorem zone_eq_cons (offset : Int) :
    ∃ c rest, zone offset = c :: rest ∧ c ≠ '.' ∧ c.isDigit = false := by
  unfold zone
  split
  · exact ⟨'Z', [], rfl, by decide, by decide⟩
  · split
    · exact ⟨'-', _, rfl, by decide, by decide⟩
    · exact ⟨'+', _, rfl, by decide, by decide⟩

theorem fraction?_fraction {nanos : Nat} (h : nanos < 1000000000) (offset : Int) :
    fraction? (fraction nanos ++ zone offset) = some (nanos, zone offset) := by
  obtain ⟨c, rest, ends, notPoint, notDigit⟩ := zone_eq_cons offset
  unfold fraction
  split
  · next zero =>
    rw [List.nil_append, ends, zero, fraction?]
    intro more point
    injection point with point
    exact notPoint point
  · next positive =>
    have value := nanosOf_trimmed h
    have digits : ∀ d ∈ ((Decimal.padded 9 nanos).reverse.dropWhile (· == '0')).reverse,
        d.isDigit = true := by
      intro d mem
      have mem := (List.dropWhile_suffix _).mem (List.mem_reverse.1 mem)
      exact Decimal.isDigit_of_mem_padded (List.mem_reverse.1 mem)
    generalize ((Decimal.padded 9 nanos).reverse.dropWhile (· == '0')).reverse = kept
      at value digits ⊢
    have some_ : kept ≠ [] := by
      intro none_
      rw [none_] at value
      exact positive value.symm
    rw [List.cons_append, fraction?, List.takeWhile_append_of_pos digits,
      List.dropWhile_append_of_pos digits, ends, List.takeWhile_cons_of_neg (by simp [notDigit]),
      List.dropWhile_cons_of_neg (by simp [notDigit]), List.append_nil, value]
    simp [some_]

/-- An offset of whole minutes below a day is read back. -/
theorem zone?_zone {offset : Int} (short : offset.natAbs < 86400) (whole : offset % 60 = 0) :
    zone? (zone offset) = some offset := by
  unfold zone
  split
  · next zero =>
    rw [zero]
    rfl
  · have hours : offset.natAbs / 60 / 60 < 10 ^ (1 + 1) := by omega
    have minutes : offset.natAbs / 60 % 60 < 10 ^ (1 + 1) := by omega
    have inRange : offset.natAbs / 60 / 60 ≤ 23 ∧ offset.natAbs / 60 % 60 ≤ 59 := by omega
    have last := digits?_padded [] minutes
    rw [List.append_nil] at last
    have read := digits?_padded (':' :: Decimal.padded 2 (offset.natAbs / 60 % 60)) hours
    have value : ((offset.natAbs / 60 / 60 : Nat) * 60 + (offset.natAbs / 60 % 60 : Nat) : Int) * 60
        = offset.natAbs := by omega
    split
    · next negative =>
      rw [List.cons_append, zone?]
      · simp only [if_neg (by decide : '-' ≠ '+'), if_true, Option.bind_eq_bind, Option.bind_some,
          read, last, expect?, List.isEmpty_nil, inRange, decide_true, Bool.and_true, value]
        apply congrArg
        omega
      · simp
    · next positive =>
      rw [List.cons_append, zone?]
      · simp only [if_true, Option.bind_eq_bind, Option.bind_some, read, last, expect?,
          List.isEmpty_nil, inRange, decide_true, Bool.and_true, value]
        apply congrArg
        omega
      · simp

theorem date?_padded {year month day : Nat} (rest : List Char) (fourDigits : year < 10 ^ (3 + 1))
    (twoDigits : month < 10 ^ (1 + 1)) (twoDigits' : day < 10 ^ (1 + 1)) :
    date? (Decimal.padded 4 year ++ '-' :: (Decimal.padded 2 month
        ++ '-' :: (Decimal.padded 2 day ++ rest)))
      = some (⟨year, month, day⟩, rest) := by
  simp only [date?, digits?_padded _ fourDigits, digits?_padded _ twoDigits,
    digits?_padded _ twoDigits', expect?, Option.bind_eq_bind, Option.bind_some, if_true]
  rfl

theorem clock?_padded {hour minute second : Nat} (rest : List Char)
    (twoDigits : hour < 10 ^ (1 + 1)) (twoDigits' : minute < 10 ^ (1 + 1))
    (twoDigits'' : second < 10 ^ (1 + 1)) :
    clock? (Decimal.padded 2 hour ++ ':' :: (Decimal.padded 2 minute
        ++ ':' :: (Decimal.padded 2 second ++ rest)))
      = some ((hour, minute, second), rest) := by
  simp only [clock?, digits?_padded _ twoDigits, digits?_padded _ twoDigits',
    digits?_padded _ twoDigits'', expect?, Option.bind_eq_bind, Option.bind_some, if_true]
  rfl

/-- The text of a moment writes that moment. -/
theorem parse?_of_print? {m : Moment} {text : String} (h : print? m = some text) :
    parse? text = some m := by
  unfold print? at h
  split at h
  · next printable =>
    injection h with h
    simp only [isPrintable, Bool.and_eq_true, decide_eq_true_eq] at printable
    obtain ⟨⟨⟨fromZero, year⟩, short⟩, whole⟩ := printable
    obtain ⟨valid, sameDay, month, day⟩ := Date.ofDay_spec (m.shown / 86400)
    have year : m.date.year.natAbs < 10 ^ (3 + 1) := by omega
    have month : m.date.month < 10 ^ (1 + 1) := by
      show (Date.ofDay _).month < _
      omega
    have day : m.date.day < 10 ^ (1 + 1) := by
      show (Date.ofDay _).day < _
      omega
    have time : m.secondOfDay < 86400 := by
      rw [Moment.secondOfDay]
      omega
    have hour : m.secondOfDay / 3600 < 10 ^ (1 + 1) := by omega
    have minute : m.secondOfDay / 60 % 60 < 10 ^ (1 + 1) := by omega
    have second : m.secondOfDay % 60 < 10 ^ (1 + 1) := by omega
    rw [← h, parse?, String.toList_ofList]
    simp only [List.append_assoc, List.cons_append, Option.bind_eq_bind]
    rw [date?_padded _ year month day, Option.bind_some]
    dsimp only
    rw [if_pos (by decide), Option.bind_some, clock?_padded _ hour minute second,
      Option.bind_some, fraction?_fraction m.nanos_lt, Option.bind_some, zone?_zone short whole,
      Option.bind_some]
    dsimp only
    have sameDate : (⟨(m.date.year.natAbs : Int), m.date.month, m.date.day⟩ : Date) = m.date := by
      rw [Int.natAbs_of_nonneg fromZero]
    have notLeap : (m.secondOfDay % 60 == 60) = false := by
      rw [beq_eq_false_iff_ne]
      omega
    have inDay : (m.date.isValid && decide (m.secondOfDay / 3600 ≤ 23)
        && decide (m.secondOfDay / 60 % 60 ≤ 59) && decide (m.secondOfDay % 60 ≤ 60)) = true := by
      simp only [Bool.and_eq_true, decide_eq_true_eq]
      exact ⟨⟨⟨valid, by omega⟩, by omega⟩, by omega⟩
    have seconds : m.date.toDay * 86400 + (m.secondOfDay / 3600 * 3600
        + m.secondOfDay / 60 % 60 * 60 + min (m.secondOfDay % 60) 59 : Nat) - m.offset
        = m.seconds := by
      rw [Moment.date, sameDay]
      simp only [Moment.secondOfDay, Moment.shown] at time ⊢
      omega
    rw [sameDate, if_pos inDay]
    simp only [notLeap, Bool.false_and, Bool.false_eq_true, if_false, m.nanos_lt, dif_pos, seconds]
  · exact nomatch h

end Calendar.Rfc3339

end ArchiveAccounts
