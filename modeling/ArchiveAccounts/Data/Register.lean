import ArchiveAccounts.Data.SortedMap

/-!
# Registers

Documents that name their own ids, each kept under that id. Main statements: `get?_insert` and
`get?_erase`.
-/

namespace ArchiveAccounts
set_option autoImplicit false

/-- Documents by id; `idOf` is the id that a document names. -/
structure Register (α : Type) (idOf : α → String) where
  entries : SortedMap String α
  keyed : ∀ id a, entries.get? id = some a → idOf a = id
  deriving DecidableEq

namespace Register

variable {α : Type} {idOf : α → String}

/-- A register without documents. -/
def empty : Register α idOf := ⟨∅, nofun⟩

instance : Inhabited (Register α idOf) := ⟨empty⟩

instance : EmptyCollection (Register α idOf) := ⟨empty⟩

/-- The document of an id. -/
def get? (r : Register α idOf) (id : String) : Option α := r.entries.get? id

theorem id_of_get? {r : Register α idOf} {id : String} {a : α} (h : r.get? id = some a) :
    idOf a = id :=
  r.keyed id a h

/-- Keeps a document under its id, in the place of what was there. -/
def insert (r : Register α idOf) (a : α) : Register α idOf where
  entries := r.entries.insert (idOf a) a
  keyed id b h := by
    rw [SortedMap.get?_insert] at h
    split at h
    · next same =>
      injection h with h
      rw [← h, same]
    · exact r.keyed id b h

/-- The register without the document of an id. -/
def erase (r : Register α idOf) (id : String) : Register α idOf where
  entries := r.entries.erase id
  keyed other b h := by
    rw [SortedMap.get?_erase] at h
    split at h
    · exact nomatch h
    · exact r.keyed other b h

/-- The documents that `keep` accepts. -/
def filter (keep : α → Bool) (r : Register α idOf) : Register α idOf where
  entries := r.entries.filter fun _ a => keep a
  keyed id a h := by
    rw [SortedMap.get?_filter, Option.filter_eq_some_iff] at h
    exact r.keyed id a h.1

theorem get?_insert (r : Register α idOf) (a : α) (id : String) :
    (r.insert a).get? id = if id = idOf a then some a else r.get? id :=
  SortedMap.get?_insert r.entries (idOf a) id a

theorem get?_erase (r : Register α idOf) (id other : String) :
    (r.erase id).get? other = if other = id then none else r.get? other :=
  SortedMap.get?_erase r.entries id other

theorem get?_filter (r : Register α idOf) (keep : α → Bool) (id : String) :
    (r.filter keep).get? id = (r.get? id).filter keep :=
  SortedMap.get?_filter r.entries _ id

/-- What is under an id is accepted if nothing that is refused is there. -/
theorem get?_filter_of_free {r : Register α idOf} {keep : α → Bool} {id : String}
    (free : (r.filter fun a => !keep a).get? id = none) :
    (r.filter keep).get? id = r.get? id ∧ ∀ a, r.get? id = some a → keep a = true := by
  have free : (r.entries.filter fun _ a => !keep a).get? id = none := free
  exact SortedMap.get?_filter_of_free free

/-- Registers with the same documents are equal. -/
theorem ext_get? {r s : Register α idOf} (h : ∀ id, r.get? id = s.get? id) : r = s := by
  obtain ⟨entries, keyed⟩ := r
  obtain ⟨entries', keyed'⟩ := s
  obtain rfl : entries = entries' := SortedMap.ext_get? h
  rfl

@[simp] theorem get?_insert_self (r : Register α idOf) (a : α) :
    (r.insert a).get? (idOf a) = some a := by
  rw [get?_insert, if_pos rfl]

/-- Of two documents of one id the last one stays. -/
theorem insert_insert (r : Register α idOf) {a b : α} (h : idOf a = idOf b) :
    (r.insert a).insert b = r.insert b := by
  apply ext_get?
  intro id
  rw [get?_insert, get?_insert, get?_insert, h]
  split
  · rfl
  · rfl

/-- A document that is there is put in its own place. -/
theorem insert_eq_self {r : Register α idOf} {id : String} {a : α} (h : r.get? id = some a) :
    r.insert a = r := by
  apply ext_get?
  intro other
  rw [get?_insert, id_of_get? h]
  split
  · next same => rw [same, h]
  · rfl

/-- A document that is accepted is put among those that are. -/
theorem filter_insert {r : Register α idOf} {keep : α → Bool} {a : α} (accepted : keep a = true) :
    (r.insert a).filter keep = (r.filter keep).insert a := by
  apply ext_get?
  intro id
  exact congrArg (·.get? id)
    (SortedMap.filter_insert accepted : (r.entries.insert _ a).filter (fun _ a => keep a) = _)

/-- A document that is not accepted, put where none is, changes nothing. -/
theorem filter_insert_of_not {r : Register α idOf} {keep : α → Bool} {a : α}
    (refused : keep a = false) (none_ : ∀ old, r.get? (idOf a) = some old → keep old = false) :
    (r.insert a).filter keep = r.filter keep := by
  apply ext_get?
  intro id
  exact congrArg (·.get? id) (SortedMap.filter_insert_of_not refused none_ :
    (r.entries.insert _ a).filter (fun _ a => keep a) = _)

theorem filter_erase (r : Register α idOf) (keep : α → Bool) (id : String) :
    (r.erase id).filter keep = (r.filter keep).erase id := by
  apply ext_get?
  intro other
  rw [get?_filter, get?_erase, get?_erase, get?_filter]
  split
  · rfl
  · rfl

/-- A document that is not there is not taken away. -/
theorem erase_eq_self {r : Register α idOf} {id : String} (absent : r.get? id = none) :
    r.erase id = r := by
  apply ext_get?
  intro other
  rw [get?_erase]
  split
  · next same => rw [same, absent]
  · rfl

end Register

end ArchiveAccounts
