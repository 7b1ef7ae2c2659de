import ArchiveAccounts.Data.Register
import Mathlib.Algebra.Ring.Nat

/-!
# Sums over maps

The sum of a number for each entry of a map, and how it changes with some entries. Main statements:
`sum_insert`, `sum_erase` and `sum_without`.
-/

namespace ArchiveAccounts
set_option autoImplicit false

open Std

namespace SortedMap

variable {κ α : Type} [Ord κ]

/-- The sum of what `f` gives for each value. -/
def sum (f : α → Nat) (m : SortedMap κ α) : Nat := (m.toList.map fun e => f e.2).sum

variable [TransOrd κ]

/-- An entry put at its place is added, less what was there under its key. -/
theorem sum_place (f : α → Nat) (k : κ) (v : α) {l : List (κ × α)}
    (ordered : l.Pairwise fun a b => compare a.1 b.1 = .lt) :
    ((place k v l).map fun e => f e.2).sum + (lookup k l).elim 0 f
      = (l.map fun e => f e.2).sum + f v := by
  induction l with
  | nil => simp [place, lookup]
  | cons e l ih =>
    obtain ⟨first, ordered⟩ := List.pairwise_cons.1 ordered
    have ih := ih ordered
    rw [place, lookup]
    cases order : compare k e.1 with
    | lt =>
      have absent : lookup k l = none :=
        lookup_eq_none fun other mem => TransCmp.lt_trans order (first other mem)
      simp only [reduceCtorEq, if_false, absent, Option.elim_none, List.map_cons, List.sum_cons]
      omega
    | eq =>
      simp only [if_true, Option.elim_some, List.map_cons, List.sum_cons]
      omega
    | gt =>
      simp only [reduceCtorEq, if_false, List.map_cons, List.sum_cons]
      omega

theorem sum_insert (f : α → Nat) (m : SortedMap κ α) (k : κ) (v : α) :
    (m.insert k v).sum f + (m.get? k).elim 0 f = m.sum f + f v :=
  sum_place f k v m.ordered

theorem sum_erase [LawfulEqOrd κ] [DecidableEq κ] (f : α → Nat) (m : SortedMap κ α) (k : κ) :
    (m.erase k).sum f + (m.get? k).elim 0 f = m.sum f := by
  cases found : m.get? k with
  | none =>
    have same : m.erase k = m := by
      apply ext_get?
      intro k'
      rw [get?_erase]
      split
      · next here => rw [here, found]
      · rfl
    rw [same, Option.elim_none, Nat.add_zero]
  | some v =>
    -- The map is the rest of it with the entry put back.
    have back : (m.erase k).insert k v = m := by
      apply ext_get?
      intro k'
      rw [get?_insert, get?_erase]
      split
      · next here => rw [here, found]
      · rfl
    have sum := sum_insert f (m.erase k) k v
    rw [back, get?_erase, if_pos rfl, Option.elim_none, Nat.add_zero] at sum
    rw [Option.elim_some, sum]

/-- Maps with the same numbers have the same sum. -/
theorem sum_congr [LawfulEqOrd κ] {f : α → Nat} {m n : SortedMap κ α}
    (same : ∀ k, (m.get? k).map f = (n.get? k).map f) : m.sum f = n.sum f := by
  have numbers : m.map f = n.map f := by
    apply ext_get?
    intro k
    rw [get?_map, get?_map, same]
  have sum_map : ∀ m : SortedMap κ α, m.sum f = (m.map f).sum id := by
    intro m
    rw [sum, sum, map, List.map_map]
    rfl
  rw [sum_map, sum_map, numbers]

end SortedMap

namespace Register

variable {α : Type} {idOf : α → String}

/-- The sum of what `f` gives for each document. -/
def sum (f : α → Nat) (r : Register α idOf) : Nat := r.entries.sum f

theorem sum_erase (f : α → Nat) (r : Register α idOf) (id : String) :
    (r.erase id).sum f + (r.get? id).elim 0 f = r.sum f :=
  SortedMap.sum_erase f r.entries id

theorem sum_congr {f : α → Nat} {r s : Register α idOf}
    (same : ∀ id, (r.get? id).map f = (s.get? id).map f) : r.sum f = s.sum f :=
  SortedMap.sum_congr same

/-- Some documents count for what the others do not. -/
theorem sum_without (f : α → Nat) {r rest : Register α idOf} {ids : List String}
    (nodup : ids.Nodup) (without : ∀ id, rest.get? id = if id ∈ ids then none else r.get? id) :
    rest.sum f + (ids.map fun id => (r.get? id).elim 0 f).sum = r.sum f := by
  induction ids generalizing r with
  | nil =>
    have same : rest = r := ext_get? fun id => by rw [without, if_neg List.not_mem_nil]
    rw [same, List.map_nil, List.sum_nil, Nat.add_zero]
  | cons id ids ih =>
    obtain ⟨once, nodup⟩ := List.nodup_cons.1 nodup
    have others : ids.map (fun other => ((r.erase id).get? other).elim 0 f)
        = ids.map fun other => (r.get? other).elim 0 f := by
      apply List.map_congr_left
      intro other mem
      have distinct : other ≠ id := fun same => once (same ▸ mem)
      rw [get?_erase, if_neg distinct]
    have sum := ih (r := r.erase id) nodup fun other => by
      rw [without, get?_erase]
      by_cases same : other = id <;> simp [same]
    rw [others] at sum
    rw [List.map_cons, List.sum_cons, ← sum_erase f r id, ← sum]
    omega

end Register

end ArchiveAccounts
