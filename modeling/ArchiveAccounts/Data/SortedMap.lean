/-!
# Maps kept in key order

A map is a list of entries whose keys ascend strictly, so it prints in key order and two maps with
the same look-ups are equal. Main statements: `get?_insert`, `get?_erase`, `ext_get?` and
`ofList_toList`.
-/

namespace ArchiveAccounts
set_option autoImplicit false

open Std

/-- Entries with strictly ascending keys. -/
structure SortedMap (κ α : Type) [Ord κ] where
  toList : List (κ × α)
  ordered : toList.Pairwise fun a b => compare a.1 b.1 = .lt
  deriving DecidableEq

namespace SortedMap

variable {κ α β : Type} [Ord κ]

/-- The value of the entry with key `k`. -/
def lookup (k : κ) : List (κ × α) → Option α
  | [] => none
  | (k', v) :: rest => if compare k k' = .eq then some v else lookup k rest

/-- Puts an entry at its place, over an entry of the same key. -/
def place (k : κ) (v : α) : List (κ × α) → List (κ × α)
  | [] => [(k, v)]
  | (k', v') :: rest =>
    match compare k k' with
    | .lt => (k, v) :: (k', v') :: rest
    | .eq => (k, v) :: rest
    | .gt => (k', v') :: place k v rest

theorem mem_place {k : κ} {v : α} {l : List (κ × α)} {e : κ × α} (h : e ∈ place k v l) :
    e = (k, v) ∨ e ∈ l := by
  induction l with
  | nil => simpa [place] using h
  | cons head rest ih =>
    obtain ⟨k', v'⟩ := head
    rw [place] at h
    split at h
    · simpa using h
    · rcases List.mem_cons.1 h with h | h
      · exact .inl h
      · exact .inr (List.mem_cons_of_mem _ h)
    · rcases List.mem_cons.1 h with h | h
      · exact .inr (h ▸ List.mem_cons_self)
      · exact (ih h).imp_right (List.mem_cons_of_mem _)

/-- A map without entries. -/
def empty : SortedMap κ α := ⟨[], .nil⟩

instance : Inhabited (SortedMap κ α) := ⟨empty⟩

instance : EmptyCollection (SortedMap κ α) := ⟨empty⟩

/-- The value stored under `k`, if any. -/
def get? (m : SortedMap κ α) (k : κ) : Option α := lookup k m.toList

/-- The value stored under `k`, or `fallback`. -/
def getD (m : SortedMap κ α) (k : κ) (fallback : α) : α := (m.get? k).getD fallback

/-- The keys, ascending. -/
def keys (m : SortedMap κ α) : List κ := m.toList.map (·.1)

/-- The map without the entry of key `k`. -/
def erase (m : SortedMap κ α) (k : κ) : SortedMap κ α :=
  ⟨m.toList.filter fun e => compare k e.1 ≠ .eq, m.ordered.filter _⟩

/-- The same keys with each value changed by `f`. -/
def map (f : α → β) (m : SortedMap κ α) : SortedMap κ β :=
  ⟨m.toList.map fun e => (e.1, f e.2), m.ordered.map _ fun _ _ h => h⟩

/-- The entries that `keep` accepts. -/
def filter (keep : κ → α → Bool) (m : SortedMap κ α) : SortedMap κ α :=
  ⟨m.toList.filter fun e => keep e.1 e.2, m.ordered.filter _⟩

theorem toList_filter (keep : κ → α → Bool) (m : SortedMap κ α) :
    (m.filter keep).toList = m.toList.filter fun e => keep e.1 e.2 :=
  rfl

theorem ext_toList {m n : SortedMap κ α} (h : m.toList = n.toList) : m = n := by
  obtain ⟨l, ordered⟩ := m
  obtain rfl : l = n.toList := h
  rfl

theorem filter_comm (m : SortedMap κ α) (p q : κ → α → Bool) :
    (m.filter p).filter q = (m.filter q).filter p := by
  apply ext_toList
  rw [toList_filter, toList_filter, toList_filter, toList_filter, List.filter_filter,
    List.filter_filter]
  apply List.filter_congr
  intro e _
  exact Bool.and_comm _ _

/-- Of two choices of entries the narrower one counts. -/
theorem filter_filter_of_imp (m : SortedMap κ α) {p q : κ → α → Bool}
    (narrower : ∀ k v, q k v = true → p k v = true) : (m.filter p).filter q = m.filter q := by
  apply ext_toList
  rw [toList_filter, toList_filter, toList_filter, List.filter_filter]
  apply List.filter_congr
  intro e _
  cases chosen : q e.1 e.2 with
  | false => rfl
  | true => rw [narrower e.1 e.2 chosen, Bool.and_self]

section Ordered

variable [TransOrd κ]

theorem ordered_place {k : κ} {v : α} {l : List (κ × α)}
    (h : l.Pairwise fun a b => compare a.1 b.1 = .lt) :
    (place k v l).Pairwise fun a b => compare a.1 b.1 = .lt := by
  induction l with
  | nil => simp [place]
  | cons head rest ih =>
    obtain ⟨k', v'⟩ := head
    have hr := List.pairwise_cons.1 h
    rw [place]
    split
    · rename_i hk
      refine List.pairwise_cons.2 ⟨fun e he => ?_, h⟩
      rcases List.mem_cons.1 he with he | he
      · simpa [he] using hk
      · exact TransCmp.lt_trans hk (hr.1 e he)
    · rename_i hk
      exact List.pairwise_cons.2 ⟨fun e he => TransCmp.lt_of_eq_of_lt hk (hr.1 e he), hr.2⟩
    · rename_i hk
      refine List.pairwise_cons.2 ⟨fun e he => ?_, ih hr.2⟩
      rcases mem_place he with he | he
      · simpa [he] using OrientedCmp.gt_iff_lt.1 hk
      · exact hr.1 e he

/-- Stores `v` under `k`, over what was there. -/
def insert (m : SortedMap κ α) (k : κ) (v : α) : SortedMap κ α :=
  ⟨place k v m.toList, ordered_place m.ordered⟩

/-- A key above all others comes last. -/
theorem toList_insert_of_lt {m : SortedMap κ α} {k : κ} (v : α)
    (last : ∀ e ∈ m.toList, compare e.1 k = .lt) :
    (m.insert k v).toList = m.toList ++ [(k, v)] := by
  have place_last : ∀ l : List (κ × α), (∀ e ∈ l, compare e.1 k = .lt) →
      place k v l = l ++ [(k, v)] := by
    intro l
    induction l with
    | nil => intro _; rfl
    | cons e l ih =>
      intro last
      have before := OrientedCmp.gt_iff_lt.2 (last e List.mem_cons_self)
      rw [place, before, ih fun e mem => last e (List.mem_cons_of_mem _ mem)]
      rfl
  exact place_last m.toList last

/-- Collects entries; of equal keys the last one stays. -/
def ofList (entries : List (κ × α)) : SortedMap κ α :=
  entries.foldl (fun m e => m.insert e.1 e.2) empty

end Ordered

section Lookup

@[simp] theorem get?_empty (k : κ) : (empty : SortedMap κ α).get? k = none := rfl

theorem lookup_eq_none {k : κ} {l : List (κ × α)} (h : ∀ e ∈ l, compare k e.1 = .lt) :
    lookup k l = none := by
  induction l with
  | nil => rfl
  | cons head rest ih => grind [lookup]

variable [LawfulEqOrd κ]

theorem lookup_eq_some_iff {l : List (κ × α)}
    (ordered : l.Pairwise fun a b => compare a.1 b.1 = .lt) {k : κ} {v : α} :
    lookup k l = some v ↔ (k, v) ∈ l := by
  induction l with
  | nil => simp [lookup]
  | cons e l ih =>
    obtain ⟨first, ordered⟩ := List.pairwise_cons.1 ordered
    rw [lookup, List.mem_cons, ← ih ordered]
    split
    · next same =>
      have same := Std.compare_eq_iff_eq.1 same
      rw [same, lookup_eq_none first, Option.some.injEq]
      constructor
      · intro value
        exact .inl (Prod.ext rfl value.symm)
      · rintro (entry | none_)
        · rw [← entry]
        · exact nomatch none_
    · next other =>
      constructor
      · exact .inr
      · rintro (entry | later)
        · rw [← entry] at other
          exact absurd Std.ReflCmp.compare_self other
        · exact later

omit [LawfulEqOrd κ] in
theorem get?_map (f : α → β) (m : SortedMap κ α) (k : κ) : (m.map f).get? k = (m.get? k).map f := by
  simp only [get?, map]
  induction m.toList with
  | nil => rfl
  | cons e l ih =>
    rw [List.map_cons, lookup, lookup, ih]
    split
    · rfl
    · rfl

section Decide

variable [DecidableEq κ]

theorem lookup_place (k k' : κ) (v : α) (l : List (κ × α)) :
    lookup k' (place k v l) = if k' = k then some v else lookup k' l := by
  induction l with
  | nil => simp [place, lookup]
  | cons head rest ih =>
    obtain ⟨a, b⟩ := head
    simp only [place]
    cases h : compare k a <;> simp only [lookup, Std.compare_eq_iff_eq, ih] <;> grind

theorem get?_insert [TransOrd κ] (m : SortedMap κ α) (k k' : κ) (v : α) :
    (m.insert k v).get? k' = if k' = k then some v else m.get? k' :=
  lookup_place k k' v m.toList

theorem get?_erase (m : SortedMap κ α) (k k' : κ) :
    (m.erase k).get? k' = if k' = k then none else m.get? k' := by
  simp only [get?, erase]
  induction m.toList with
  | nil => simp [lookup]
  | cons head rest ih =>
    simp only [Std.compare_eq_iff_eq, lookup, ne_eq, decide_not] at ih ⊢
    grind [lookup]

end Decide

/-- The entries are the look-ups that find something. -/
theorem mem_toList_iff {m : SortedMap κ α} {k : κ} {v : α} :
    (k, v) ∈ m.toList ↔ m.get? k = some v :=
  (lookup_eq_some_iff m.ordered).symm

theorem mem_keys_iff {m : SortedMap κ α} {k : κ} : k ∈ m.keys ↔ ∃ v, m.get? k = some v := by
  rw [keys, List.mem_map]
  constructor
  · rintro ⟨⟨_, v⟩, mem, rfl⟩
    exact ⟨v, mem_toList_iff.1 mem⟩
  · rintro ⟨v, found⟩
    exact ⟨(k, v), mem_toList_iff.2 found, rfl⟩

theorem nodup_keys (m : SortedMap κ α) : m.keys.Nodup := by
  rw [keys, List.Nodup, List.pairwise_map]
  refine m.ordered.imp ?_
  intro a b less same
  simp [same] at less

theorem get?_filter (m : SortedMap κ α) (keep : κ → α → Bool) (k : κ) :
    (m.filter keep).get? k = (m.get? k).filter (keep k) := by
  have mem : ∀ v, (m.filter keep).get? k = some v ↔ m.get? k = some v ∧ keep k v = true := by
    intro v
    rw [← mem_toList_iff, ← mem_toList_iff, filter, List.mem_filter]
  apply Option.ext
  intro v
  rw [mem, Option.filter_eq_some_iff]

/-- What is under a key is accepted if nothing that is refused is there. -/
theorem get?_filter_of_free {m : SortedMap κ α} {keep : κ → α → Bool} {k : κ}
    (free : (m.filter fun k v => !keep k v).get? k = none) :
    (m.filter keep).get? k = m.get? k ∧ ∀ v, m.get? k = some v → keep k v = true := by
  rw [get?_filter, Option.filter_eq_none_iff] at free
  have accepted : ∀ v, m.get? k = some v → keep k v = true := by
    intro v found
    simpa using free v found
  refine ⟨?_, accepted⟩
  rw [get?_filter]
  cases found : m.get? k with
  | none => rfl
  | some v => rw [Option.filter_some, if_pos (accepted v found)]

variable [TransOrd κ]

/-- Maps with the same look-ups are equal. -/
theorem ext_get? {m n : SortedMap κ α} (h : ∀ k, m.get? k = n.get? k) : m = n := by
  obtain ⟨l, hl⟩ := m
  obtain ⟨r, hr⟩ := n
  simp only [get?] at h
  congr
  induction l generalizing r with
  | nil =>
    cases r with
    | nil => rfl
    | cons head rest => simpa [lookup] using h head.1
  | cons a l ih =>
    cases r with
    | nil => simpa [lookup] using h a.1
    | cons b r =>
      have ha := List.pairwise_cons.1 hl
      have hb := List.pairwise_cons.1 hr
      have hab : a.1 = b.1 := by
        rcases hc : compare a.1 b.1 with _ | _ | _
        · have hn : lookup a.1 (b :: r) = none := lookup_eq_none fun e he => by
            rcases List.mem_cons.1 he with rfl | he
            · exact hc
            · exact TransCmp.lt_trans hc (hb.1 e he)
          have := h a.1
          rw [hn] at this
          simp [lookup] at this
        · exact Std.compare_eq_iff_eq.1 hc
        · have hc := OrientedCmp.gt_iff_lt.1 hc
          have hn : lookup b.1 (a :: l) = none := lookup_eq_none fun e he => by
            rcases List.mem_cons.1 he with rfl | he
            · exact hc
            · exact TransCmp.lt_trans hc (ha.1 e he)
          have := h b.1
          rw [hn] at this
          simp [lookup] at this
      have hv : a.2 = b.2 := by simpa [lookup, hab] using h a.1
      have hrest : l = r := by
        refine ih ha.2 r hb.2 fun k => ?_
        rcases hk : compare k a.1 with _ | _ | _
        · rw [lookup_eq_none fun e he => TransCmp.lt_trans hk (ha.1 e he),
            lookup_eq_none fun e he => TransCmp.lt_trans hk (hab ▸ hb.1 e he)]
        · rw [lookup_eq_none fun e he => TransCmp.lt_of_eq_of_lt hk (ha.1 e he),
            lookup_eq_none fun e he => TransCmp.lt_of_eq_of_lt hk (hab ▸ hb.1 e he)]
        · simpa [lookup, ← hab, hk] using h k
      rw [hrest, Prod.ext hab hv]

variable [DecidableEq κ]

theorem insert_eq_self {m : SortedMap κ α} {k : κ} {v : α} (h : m.get? k = some v) :
    m.insert k v = m := by
  apply ext_get?
  intro k'
  rw [get?_insert]
  split
  · next same => rw [same, h]
  · rfl

/-- An entry that is accepted is put among those that are. -/
theorem filter_insert {m : SortedMap κ α} {keep : κ → α → Bool} {k : κ} {v : α}
    (accepted : keep k v = true) : (m.insert k v).filter keep = (m.filter keep).insert k v := by
  apply ext_get?
  intro k'
  rw [get?_filter, get?_insert, get?_insert, get?_filter]
  split
  · next same => rw [same, Option.filter_some, if_pos accepted]
  · rfl

/-- An entry that is not accepted, put where none is, changes nothing. -/
theorem filter_insert_of_not {m : SortedMap κ α} {keep : κ → α → Bool} {k : κ} {v : α}
    (refused : keep k v = false) (none_ : ∀ old, m.get? k = some old → keep k old = false) :
    (m.insert k v).filter keep = m.filter keep := by
  apply ext_get?
  intro k'
  rw [get?_filter, get?_insert, get?_filter]
  split
  · next same =>
    rw [same, Option.filter_some, refused, if_neg Bool.false_ne_true, eq_comm,
      Option.filter_eq_none_iff]
    intro old found
    rw [none_ old found]
    exact Bool.false_ne_true
  · rfl

theorem get?_foldl_insert {l : List (κ × α)} (ordered : l.Pairwise fun a b => compare a.1 b.1 = .lt)
    (m : SortedMap κ α) (k : κ) :
    (l.foldl (fun m e => m.insert e.1 e.2) m).get? k = (lookup k l).or (m.get? k) := by
  induction l generalizing m with
  | nil => rfl
  | cons e l ih =>
    obtain ⟨first, ordered⟩ := List.pairwise_cons.1 ordered
    rw [List.foldl_cons, ih ordered, get?_insert, lookup]
    simp only [Std.compare_eq_iff_eq]
    split
    · next same => rw [same, lookup_eq_none first, Option.none_or, Option.some_or]
    · rfl

/-- Of equal keys the last one stays. -/
theorem get?_ofList (entries : List (κ × α)) (k : κ) :
    (ofList entries).get? k = ((entries.filter fun e => e.1 == k).getLast?).map (·.2) := by
  have fold : ∀ (l : List (κ × α)) (m : SortedMap κ α),
      (l.foldl (fun m e => m.insert e.1 e.2) m).get? k
        = (((l.filter fun e => e.1 == k).getLast?).map (·.2)).or (m.get? k) := by
    intro l
    induction l with
    | nil => exact fun m => rfl
    | cons e l ih =>
      intro m
      rw [List.foldl_cons, ih, get?_insert]
      by_cases same : e.1 = k
      · rw [if_pos same.symm, List.filter_cons, if_pos (beq_iff_eq.2 same), List.getLast?_cons]
        cases (l.filter fun e => e.1 == k).getLast? <;> rfl
      · have other : ¬(e.1 == k) = true := fun found => same (beq_iff_eq.1 found)
        rw [if_neg (Ne.symm same), List.filter_cons, if_neg other]
  rw [ofList, fold, get?_empty, Option.or_none]

/-- The entries of a map make up that map. -/
@[simp] theorem ofList_toList (m : SortedMap κ α) : ofList m.toList = m := by
  apply ext_get?
  intro k
  rw [ofList, get?_foldl_insert m.ordered, get?_empty, Option.or_none, get?]

end Lookup

end SortedMap

end ArchiveAccounts
