/-!
# Lists all of whose items have a value

Facts about `List.mapM` for functions that may give no value.
-/

namespace ArchiveAccounts.Traverse
set_option autoImplicit false

variable {α β : Type} {f : α → Option β}

theorem nil_iff {values : List β} : [].mapM f = some values ↔ values = [] := by
  constructor
  · rintro ⟨⟩
    rfl
  · rintro rfl
    rfl

theorem cons_iff {a : α} {items : List α} {values : List β} :
    (a :: items).mapM f = some values
      ↔ ∃ b rest, f a = some b ∧ items.mapM f = some rest ∧ values = b :: rest := by
  rw [List.mapM_cons]
  constructor
  · intro h
    obtain ⟨b, first, h⟩ := Option.bind_eq_some_iff.1 h
    obtain ⟨rest, others, h⟩ := Option.bind_eq_some_iff.1 h
    injection h with h
    exact ⟨b, rest, first, others, h.symm⟩
  · rintro ⟨b, rest, first, others, rfl⟩
    rw [first, others]
    rfl

theorem length_eq {items : List α} {values : List β} (h : items.mapM f = some values) :
    values.length = items.length := by
  induction items generalizing values with
  | nil => rw [nil_iff.1 h, List.length_nil, List.length_nil]
  | cons a items ih =>
    obtain ⟨b, rest, _, others, rfl⟩ := cons_iff.1 h
    rw [List.length_cons, ih others, List.length_cons]

theorem drop {items : List α} {values : List β} (h : items.mapM f = some values) (count : Nat) :
    (items.drop count).mapM f = some (values.drop count) := by
  induction count generalizing items values with
  | zero => exact h
  | succ count ih =>
    cases items with
    | nil =>
      rw [nil_iff.1 h]
      rfl
    | cons a items =>
      obtain ⟨b, rest, _, others, rfl⟩ := cons_iff.1 h
      exact ih others

theorem append {items more : List α} {values others : List β} (h : items.mapM f = some values)
    (h' : more.mapM f = some others) : (items ++ more).mapM f = some (values ++ others) := by
  rw [List.mapM_append, h, h']
  rfl

/-- There are values when each item has one. -/
theorem exists_iff {items : List α} :
    (∃ values, items.mapM f = some values) ↔ ∀ a ∈ items, ∃ b, f a = some b := by
  induction items with
  | nil => exact ⟨fun _ => nofun, fun _ => ⟨[], rfl⟩⟩
  | cons a items ih =>
    rw [List.forall_mem_cons, ← ih]
    constructor
    · rintro ⟨values, h⟩
      obtain ⟨b, rest, first, others, _⟩ := cons_iff.1 h
      exact ⟨⟨b, first⟩, rest, others⟩
    · rintro ⟨⟨b, first⟩, rest, others⟩
      exact ⟨b :: rest, cons_iff.2 ⟨b, rest, first, others, rfl⟩⟩

/-- Each value is the value of an item. -/
theorem exists_of_mem {items : List α} {values : List β} (h : items.mapM f = some values) {b : β}
    (mem : b ∈ values) : ∃ a ∈ items, f a = some b := by
  induction items generalizing values with
  | nil =>
    rw [nil_iff.1 h] at mem
    exact nomatch mem
  | cons a items ih =>
    obtain ⟨first, rest, isFirst, others, rfl⟩ := cons_iff.1 h
    rcases List.mem_cons.1 mem with rfl | mem
    · exact ⟨a, List.mem_cons_self, isFirst⟩
    · obtain ⟨item, among, isValue⟩ := ih others mem
      exact ⟨item, List.mem_cons_of_mem _ among, isValue⟩

/-- All items have a value if each one has. -/
theorem isSome_eq_all {p : α → Bool} (h : ∀ a, (f a).isSome = p a) (items : List α) :
    (items.mapM f).isSome = items.all p := by
  induction items with
  | nil => rfl
  | cons a items ih =>
    rw [List.mapM_cons, List.all_cons, ← h, ← ih]
    cases f a <;> cases items.mapM f <;> rfl

end ArchiveAccounts.Traverse
