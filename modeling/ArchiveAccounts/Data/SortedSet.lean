/-!
# Sets kept in order

A set is a strictly ascending list, so it prints in order and two sets with the same elements are
equal. Main statements: `mem_insert`, `mem_erase`, `mem_diff` and `ext_mem`.
-/

namespace ArchiveAccounts
set_option autoImplicit false

open Std

/-- Elements in strictly ascending order. -/
structure SortedSet (κ : Type) [Ord κ] where
  toList : List κ
  ordered : toList.Pairwise fun a b => compare a b = .lt
  deriving DecidableEq

namespace SortedSet

variable {κ : Type} [Ord κ]

/-- Puts an element at its place, unless it is there. -/
def place (k : κ) : List κ → List κ
  | [] => [k]
  | k' :: rest =>
    match compare k k' with
    | .lt => k :: k' :: rest
    | .eq => k' :: rest
    | .gt => k' :: place k rest

instance : Membership κ (SortedSet κ) := ⟨fun s k => k ∈ s.toList⟩

theorem mem_def {s : SortedSet κ} {k : κ} : k ∈ s ↔ k ∈ s.toList := .rfl

/-- A set without elements. -/
def empty : SortedSet κ := ⟨[], .nil⟩

instance : Inhabited (SortedSet κ) := ⟨empty⟩

instance : EmptyCollection (SortedSet κ) := ⟨empty⟩

/-- The number of elements. -/
def size (s : SortedSet κ) : Nat := s.toList.length

/-- Whether `k` is an element. -/
def contains (s : SortedSet κ) (k : κ) : Bool := s.toList.any fun k' => compare k k' = .eq

/-- The set without `k`. -/
def erase (s : SortedSet κ) (k : κ) : SortedSet κ :=
  ⟨s.toList.filter fun k' => compare k k' ≠ .eq, s.ordered.filter _⟩

/-- The elements of `s` that are not in `t`. -/
def diff (s t : SortedSet κ) : SortedSet κ :=
  ⟨s.toList.filter fun k => !t.contains k, s.ordered.filter _⟩

theorem eq_or_mem_of_mem_place {k a : κ} {l : List κ} (h : a ∈ place k l) : a = k ∨ a ∈ l := by
  induction l with
  | nil => simpa [place] using h
  | cons k' rest ih =>
    rw [place] at h
    split at h
    · simpa using h
    · exact .inr h
    · rcases List.mem_cons.1 h with h | h
      · exact .inr (h ▸ List.mem_cons_self)
      · exact (ih h).imp_right (List.mem_cons_of_mem _)

@[simp] theorem not_mem_empty (k : κ) : k ∉ (empty : SortedSet κ) := List.not_mem_nil

section Ordered

variable [TransOrd κ]

theorem ordered_place {k : κ} {l : List κ} (h : l.Pairwise fun a b => compare a b = .lt) :
    (place k l).Pairwise fun a b => compare a b = .lt := by
  induction l with
  | nil => simp [place]
  | cons k' rest ih =>
    have hr := List.pairwise_cons.1 h
    rw [place]
    split
    · rename_i hk
      refine List.pairwise_cons.2 ⟨fun e he => ?_, h⟩
      rcases List.mem_cons.1 he with rfl | he
      · exact hk
      · exact TransCmp.lt_trans hk (hr.1 e he)
    · exact h
    · rename_i hk
      refine List.pairwise_cons.2 ⟨fun e he => ?_, ih hr.2⟩
      rcases eq_or_mem_of_mem_place he with rfl | he
      · exact OrientedCmp.gt_iff_lt.1 hk
      · exact hr.1 e he

/-- Adds `k`. -/
def insert (s : SortedSet κ) (k : κ) : SortedSet κ := ⟨place k s.toList, ordered_place s.ordered⟩

/-- Collects elements, each once. -/
def ofList (elements : List κ) : SortedSet κ := elements.foldl insert empty

end Ordered

section Lawful

variable [LawfulEqOrd κ]

theorem nodup_toList (s : SortedSet κ) : s.toList.Nodup := by
  refine s.ordered.imp ?_
  intro a b less same
  simp [same] at less

@[simp] theorem contains_iff {s : SortedSet κ} {k : κ} : s.contains k = true ↔ k ∈ s := by
  simp [contains, mem_def]

theorem mem_erase {s : SortedSet κ} {k a : κ} : a ∈ s.erase k ↔ a ∈ s ∧ a ≠ k := by
  simp only [erase, mem_def, List.mem_filter, ne_eq, Std.compare_eq_iff_eq, decide_not,
    Bool.not_eq_true', decide_eq_false_iff_not]
  exact and_congr_right fun _ => not_congr eq_comm

theorem mem_diff {s t : SortedSet κ} {a : κ} : a ∈ s.diff t ↔ a ∈ s ∧ a ∉ t := by
  simp only [diff, mem_def, List.mem_filter, Bool.not_eq_true', ← Bool.not_eq_true, contains_iff]

theorem mem_place {k a : κ} {l : List κ} : a ∈ place k l ↔ a = k ∨ a ∈ l := by
  refine ⟨eq_or_mem_of_mem_place, ?_⟩
  induction l with
  | nil => simp [place]
  | cons k' rest ih =>
    rw [place]
    cases hk : compare k k' with
    | lt => simp
    | eq => simp [Std.compare_eq_iff_eq.1 hk]
    | gt => grind

variable [TransOrd κ]

theorem mem_insert {s : SortedSet κ} {k a : κ} : a ∈ s.insert k ↔ a = k ∨ a ∈ s := mem_place

theorem mem_foldl_insert {l : List κ} {s : SortedSet κ} {a : κ} :
    a ∈ l.foldl insert s ↔ a ∈ s ∨ a ∈ l := by
  induction l generalizing s with
  | nil => simp
  | cons k l ih => rw [List.foldl_cons, ih, mem_insert]; grind

@[simp] theorem mem_ofList {l : List κ} {a : κ} : a ∈ ofList l ↔ a ∈ l := by
  simp [ofList, mem_foldl_insert]

/-- Sets with the same elements are equal. -/
theorem ext_mem {s t : SortedSet κ} (h : ∀ a, a ∈ s ↔ a ∈ t) : s = t := by
  obtain ⟨l, hl⟩ := s
  obtain ⟨r, hr⟩ := t
  simp only [mem_def] at h
  congr
  induction l generalizing r with
  | nil =>
    cases r with
    | nil => rfl
    | cons b r => simpa using h b
  | cons a l ih =>
    cases r with
    | nil => simpa using h a
    | cons b r =>
      have ha := List.pairwise_cons.1 hl
      have hb := List.pairwise_cons.1 hr
      have irrefl : ∀ c : κ, compare c c ≠ .lt := fun c => by simp
      have asymm : ∀ {c d : κ}, compare c d = .lt → compare d c ≠ .lt := fun hc hd =>
        irrefl _ (TransCmp.lt_trans hc hd)
      have hab : a = b := by
        rcases List.mem_cons.1 ((h a).1 List.mem_cons_self) with hab | har
        · exact hab
        · rcases List.mem_cons.1 ((h b).2 List.mem_cons_self) with hba | hbl
          · exact hba.symm
          · exact absurd (ha.1 b hbl) (asymm (hb.1 a har))
      subst hab
      rw [ih ha.2 r hb.2 fun c => ?_]
      have := h c
      simp only [List.mem_cons] at this
      constructor
      · intro hc
        rcases this.1 (.inr hc) with rfl | hc'
        · exact absurd (ha.1 _ hc) (irrefl _)
        · exact hc'
      · intro hc
        rcases this.2 (.inr hc) with rfl | hc'
        · exact absurd (hb.1 _ hc) (irrefl _)
        · exact hc'

/-- The elements of a set make up that set. -/
@[simp] theorem ofList_toList (s : SortedSet κ) : ofList s.toList = s := by
  apply ext_mem
  intro a
  rw [mem_ofList, mem_def]

theorem insert_eq_self {s : SortedSet κ} {k : κ} (h : k ∈ s) : s.insert k = s := by
  apply ext_mem
  intro a
  rw [mem_insert]
  constructor
  · rintro (rfl | mem)
    · exact h
    · exact mem
  · exact Or.inr

theorem erase_eq_self {s : SortedSet κ} {k : κ} (h : k ∉ s) : s.erase k = s := by
  apply ext_mem
  intro a
  rw [mem_erase]
  constructor
  · exact And.left
  · intro mem
    exact ⟨mem, fun same => h (same ▸ mem)⟩

end Lawful

end SortedSet

end ArchiveAccounts
