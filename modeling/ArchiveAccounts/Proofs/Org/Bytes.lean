import ArchiveAccounts.Org.Usage

/-!
# The total of the stored bytes and its parts

A shift moves the total and one part by the same amount, but each stops at its own ends. A part that
stops at zero lets the total fall further, so the two come apart. Main statement:
`Organization.total_shiftAll`, the total never gets above the sum of its parts, and it is that sum
as long as no shift stops at an end.
-/

namespace ArchiveAccounts
set_option autoImplicit false

namespace StoredBytes

variable (b : StoredBytes) (delta : Int) (kind : StorageKind)

/-- The sum of the parts, which no counter need hold. -/
def sumOfParts : Nat := b.crawls.toNat + b.uploads.toNat + b.profiles.toNat

/-- The sum of the parts that are of other kinds. -/
def sumOfOthers : Nat :=
  match kind with
  | .crawl => b.uploads.toNat + b.profiles.toNat
  | .upload => b.crawls.toNat + b.profiles.toNat
  | .profile => b.crawls.toNat + b.uploads.toNat

/-- Whether a shift takes off no more than there is of the kind, and leaves the total within the
counters. -/
structure Fits : Prop where
  enough : -delta ≤ (b.get kind).toNat
  room : b.total.toNat + delta ≤ Counter.maxNat

instance : Decidable (b.Fits delta kind) :=
  decidable_of_iff (-delta ≤ (b.get kind).toNat ∧ b.total.toNat + delta ≤ Counter.maxNat)
    ⟨fun ⟨enough, room⟩ => ⟨enough, room⟩, fun h => ⟨h.enough, h.room⟩⟩

theorem sumOfParts_eq : b.sumOfParts = (b.get kind).toNat + b.sumOfOthers kind := by
  unfold sumOfParts sumOfOthers
  cases kind with
  | crawl => exact Nat.add_assoc _ _ _
  | upload => simp only [ByteTotals.get]; omega
  | profile => simp only [ByteTotals.get]; omega

theorem toNat_total_shift :
    (b.shift delta kind).total.toNat = min (b.total.toNat + delta).toNat Counter.maxNat := by
  rw [shift, ByteTotals.total_change, Counter.toNat_shift]

/-- Only the part of the kind moves. -/
theorem sumOfParts_shift :
    (b.shift delta kind).sumOfParts
      = min ((b.get kind).toNat + delta).toNat Counter.maxNat + b.sumOfOthers kind := by
  have part : ((b.shift delta kind).get kind).toNat
      = min ((b.get kind).toNat + delta).toNat Counter.maxNat := by
    rw [shift, ByteTotals.get_change, if_pos rfl, Counter.toNat_shift]
  have others : (b.shift delta kind).sumOfOthers kind = b.sumOfOthers kind := by
    cases kind <;> rfl
  rw [sumOfParts_eq _ kind, part, others]

variable {b}

/-- A part that stops at zero lets the total fall further, and a total that stops at the greatest
counter lets the part rise further: either way the total stays below. -/
theorem total_shift_le (h : b.total.toNat ≤ b.sumOfParts) :
    (b.shift delta kind).total.toNat ≤ (b.shift delta kind).sumOfParts := by
  rw [sumOfParts_eq b kind] at h
  rw [toNat_total_shift, sumOfParts_shift]
  omega

variable {delta kind}

theorem total_shift_eq (h : b.total.toNat = b.sumOfParts) (fits : b.Fits delta kind) :
    (b.shift delta kind).total.toNat = (b.shift delta kind).sumOfParts := by
  obtain ⟨enough, room⟩ := fits
  rw [sumOfParts_eq b kind] at h
  rw [toNat_total_shift, sumOfParts_shift]
  -- the part is no greater than the total, so it has room as well
  omega

end StoredBytes

/-- A shift of the stored bytes of one kind. -/
structure ByteShift where
  delta : Int
  kind : StorageKind
  deriving DecidableEq, Repr

namespace Organization

variable (org : Organization)

/-- The organization after some shifts of its stored bytes, one after the other. -/
def shiftAll (shifts : List ByteShift) : Organization :=
  shifts.foldl (fun org shift => org.shiftBytes shift.delta shift.kind) org

theorem bytes_shiftAll_concat (shifts : List ByteShift) (last : ByteShift) :
    (org.shiftAll (shifts ++ [last])).bytes
      = (org.shiftAll shifts).bytes.shift last.delta last.kind := by
  unfold shiftAll
  rw [List.foldl_append]
  rfl

/-- What each shift keeps of the bytes, given that it keeps to `Allowed`, holds after any number of
the shifts. -/
theorem bytes_shiftAll_induction (P : StoredBytes → Prop)
    (Allowed : StoredBytes → ByteShift → Prop) (before : P org.bytes)
    (step : ∀ bytes shift, P bytes → Allowed bytes shift → P (bytes.shift shift.delta shift.kind))
    (shifts : List ByteShift)
    (allowed : ∀ n (h : n < shifts.length),
      Allowed (org.shiftAll (shifts.take n)).bytes shifts[n])
    (n : Nat) : P (org.shiftAll (shifts.take n)).bytes := by
  induction n with
  | zero => exact before
  | succ n ih =>
    by_cases more : n < shifts.length
    · rw [List.take_succ_eq_append_getElem more, bytes_shiftAll_concat]
      exact step _ _ ih (allowed n more)
    · rw [List.take_of_length_le (by omega)] at ih ⊢
      exact ih

/-- The total never gets above the sum of its parts. It is that sum after each shift if none takes
off more than there is of its kind or adds more than the total has room for. -/
theorem total_shiftAll (consistent : org.bytes.total.toNat = org.bytes.sumOfParts)
    (shifts : List ByteShift) :
    (∀ n, (org.shiftAll (shifts.take n)).bytes.total.toNat
      ≤ (org.shiftAll (shifts.take n)).bytes.sumOfParts)
    ∧ ((∀ n (h : n < shifts.length),
        (org.shiftAll (shifts.take n)).bytes.Fits shifts[n].delta shifts[n].kind) →
      ∀ n, (org.shiftAll (shifts.take n)).bytes.total.toNat
        = (org.shiftAll (shifts.take n)).bytes.sumOfParts) := by
  constructor
  · apply org.bytes_shiftAll_induction (fun bytes => bytes.total.toNat ≤ bytes.sumOfParts)
      (fun _ _ => True)
    · exact Nat.le_of_eq consistent
    · intro bytes shift h _
      exact StoredBytes.total_shift_le shift.delta shift.kind h
    · exact fun _ _ => trivial
  · intro fits
    apply org.bytes_shiftAll_induction (fun bytes => bytes.total.toNat = bytes.sumOfParts)
      (fun bytes shift => bytes.Fits shift.delta shift.kind)
    · exact consistent
    · exact fun bytes shift h fits => StoredBytes.total_shift_eq h fits
    · exact fits

/-- An upload comes, and a crawl comes and goes. -/
def comingAndGoing : List ByteShift := [⟨5, .upload⟩, ⟨7, .crawl⟩, ⟨-7, .crawl⟩]

/-- The same, and the least signed number taken off what is left. -/
def goneTwice : List ByteShift := comingAndGoing.concat ⟨-0x8000000000000000, .crawl⟩

theorem total_shiftAll_comingAndGoing :
    (∀ n, (shiftAll {} (goneTwice.take n)).bytes.total.toNat
      ≤ (shiftAll {} (goneTwice.take n)).bytes.sumOfParts)
    ∧ ∀ n, (shiftAll {} (comingAndGoing.take n)).bytes.total.toNat
      = (shiftAll {} (comingAndGoing.take n)).bytes.sumOfParts :=
  ⟨(total_shiftAll {} rfl goneTwice).1, (total_shiftAll {} rfl comingAndGoing).2 (by decide)⟩

/-- What is taken off twice takes the bytes of other kinds off the total. -/
example :
    (shiftAll {} goneTwice).bytes.total.toNat = 0
    ∧ (shiftAll {} goneTwice).bytes.sumOfParts = 5 := by
  decide

end Organization

end ArchiveAccounts
