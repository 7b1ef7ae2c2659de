import ArchiveAccounts.Proofs.Store.Atomicity

/-!
# Organizations that are replaced

An organization that is inserted takes the place of everything that a relational store held under
its id. It is read back as it was given, but for numbers beyond the signed 64-bit ones, which a cell
cannot hold. Main statement: `insert_replaces`.
-/

namespace ArchiveAccounts
set_option autoImplicit false

open AccountStore

/-! ## Numbers that cells can hold -/

namespace Counter

/-- The counter, or the greatest signed 64-bit number if it is beyond. -/
def capped (n : Counter) : Counter := least n 0x7FFFFFFFFFFFFFFF

theorem toNat_capped (n : Counter) : n.capped.toNat = min n.toNat 0x7FFFFFFFFFFFFFFF := by
  rw [capped, toNat_least]
  rfl

theorem fitsSigned_capped (n : Counter) : n.capped.FitsSigned := by
  rw [FitsSigned, toNat_capped, maxSigned]
  omega

theorem toSigned_capped (n : Counter) : n.capped.toSigned = n.toSigned := by
  rw [toSigned, toSigned, toNat_capped, maxSigned]
  omega

end Counter

namespace Cell

/-- A cell cannot tell a counter from the capped one. -/
@[simp] theorem ofCounter_capped (n : Counter) : ofCounter n.capped = ofCounter n := by
  rw [ofCounter, ofCounter, Counter.toSigned_capped]

theorem ofCounter_comp_capped : ofCounter ∘ Counter.capped = ofCounter :=
  funext ofCounter_capped

end Cell

namespace Organization

/-- The organization with its stored bytes, its pools and its seconds capped, and all else as it
is. -/
def capped (org : Organization) : Organization :=
  { org with
    bytes := org.bytes.map Counter.capped
    pools := org.pools.map Counter.capped
    seconds := .ofFn fun counter => (org.seconds.get counter).map Counter.capped }

variable (org : Organization)

theorem get?_seconds_capped (counter : TimeCounter) (period : String) :
    (org.capped.seconds.get counter).get? period
      = ((org.seconds.get counter).get? period).map Counter.capped := by
  rw [capped, PerCounter.get_ofFn, SortedMap.get?_map]

theorem fitsSigned_capped : org.capped.FitsSigned where
  total := org.bytes.total.fitsSigned_capped
  part kind := by
    cases kind <;> exact Counter.fitsSigned_capped _
  pool pool := by
    rw [capped, PerPool.get_map]
    exact Counter.fitsSigned_capped _
  seconds counter period n found := by
    rw [get?_seconds_capped] at found
    obtain ⟨m, _, rfl⟩ := Option.map_eq_some_iff.1 found
    exact m.fitsSigned_capped

/-- The rows of an organization are those of the capped one. -/
theorem ofOrganization_capped : OrgRow.ofOrganization org.capped = .ofOrganization org := by
  simp [OrgRow.ofOrganization, capped, ByteTotals.map, PerPool.map]

theorem cells_capped (counter : TimeCounter) (period : String) :
    ((org.capped.seconds.get counter).get? period).map Cell.ofCounter
      = ((org.seconds.get counter).get? period).map Cell.ofCounter := by
  rw [get?_seconds_capped, Option.map_map, Cell.ofCounter_comp_capped]

end Organization

namespace RelationalStore

variable {s t : RelationalStore} {org : Organization}

/-! ## What an insertion leaves -/

/-- Whether an organization has taken the place of all that a store held under its id: it is read
with its numbers capped, each of its cells and of its changes is one that was inserted, the changes
under numbers that were free. All other organizations are read as before. -/
structure Replaces (org : Organization) (s t : RelationalStore) : Prop where
  reads : (onOrgs (.get org.id)).run t = (.ok org.capped, t)
  seconds : ∀ key cell, t.seconds.get? key = some cell → key.orgId = org.id →
    ∃ counter n, (org.seconds.get counter).get? key.period = some n ∧
      key.counter = TimeCounter.name counter ∧ cell = .ofCounter n
  changes : ∀ number row, t.changes.get? number = some row → row.orgId = org.id →
    s.changes.get? number = none ∧ ∃ change ∈ org.quotaChanges, row.change? = some change
  others : ∀ id, id ≠ org.id → lookUpOrg t id = lookUpOrg s id
  crawls : t.crawls = s.crawls

namespace Inserts

variable (h : Inserts org s t)

include h

/-- The organization is read from its rows. -/
theorem organization?_eq : t.organization? org.id (.ofOrganization org) = some org.capped := by
  have reads : t.organization? org.capped.id (.ofOrganization org.capped) = some org.capped := by
    apply organization?_ofOrganization org.fitsSigned_capped
    · intro counter period
      rw [org.cells_capped]
      exact h.own counter period
    · intro key cell found own
      obtain ⟨counter, _, _, named, _⟩ := h.written key cell found own
      exact ⟨counter, named⟩
    · exact h.ownLog
  rw [org.ofOrganization_capped] at reads
  exact reads

theorem run_get : (onOrgs (.get org.id)).run t = (.ok org.capped, t) := by
  have isThere : t.orgs.get? org.id = some (.ofOrganization org) := by
    rw [h.rows, SortedMap.get?_insert, if_pos rfl]
  rw [run_getOrg, isThere]
  simp only [h.organization?_eq, Option.elim_some]

/-- A row of the log is one of the changes, under a number that no row had before. -/
theorem changes (below : s.NumbersBelow) {number : Nat} {row : ChangeRow}
    (found : t.changes.get? number = some row) (own : row.orgId = org.id) :
    s.changes.get? number = none ∧ ∃ change ∈ org.quotaChanges, row.change? = some change := by
  have mem : (number, row) ∈ t.log org.id :=
    List.mem_filter.2 ⟨SortedMap.mem_toList_iff.2 found, beq_iff_eq.2 own⟩
  constructor
  · cases older : s.changes.get? number with
    | none => rfl
    | some other =>
      have least := h.numbers _ mem
      have most := below number other older
      omega
  · have isRow : row ∈ (t.log org.id).map (·.2) := List.mem_map_of_mem mem
    obtain ⟨change, among, written⟩ := Traverse.exists_of_mem h.ownLog isRow
    exact ⟨change, among, (ChangeRow.reads written).2⟩

theorem replaces (below : s.NumbersBelow) (run : (perform (.insert org)).run s = (.ok (), t)) :
    Replaces org s t where
  reads := h.run_get
  seconds := h.written
  changes _ _ found own := h.changes below found own
  others id other := by
    have rows := orgRows_onOrgs below (.insert org) other
    rw [onOrgs, Attempt.run_atomically, run] at rows
    exact DocumentStore.lookUpOrg_congr rows
  crawls := h.crawls

end Inserts

end RelationalStore

open RelationalStore

/-- In every store that calls come to, an organization whose changes have texts can be inserted, and
then has replaced whatever was there under its id. -/
theorem insert_replaces (calls : List StoreCall) {org : Organization}
    (printable : ∀ change ∈ org.quotaChanges,
      Calendar.Rfc3339.isPrintable change.modified = true) :
    let s := afterCalls calls ({} : RelationalStore)
    ∃ t, (RelationalStore.onOrgs (.insert org)).run s = (.ok (), t) ∧ Replaces org s t := by
  intro s
  have below := (sound_afterCalls calls).below
  obtain ⟨t, run, inserts⟩ := exists_inserts below (List.all_eq_true.2 printable)
  exact ⟨t, Attempt.run_atomically_eq_ok_iff.2 run, inserts.replaces below run⟩

/-- A store that holds an organization with seconds in two months and two changes, and another
one. -/
def twoOrganizations : List StoreCall :=
  [.onOrgs (.insert { id := "o", name := "Old", pools := ⟨90, 0⟩ }),
    .onOrgs (.countSeconds "o" .usage "2024-04" 60),
    .onOrgs (.drawPool "o" .gifted "2024-05" 30),
    .onOrgs (.updateQuotas "o" { QuotaPatch.empty with extraExecMinutes := some 2 }
      (.ofSeconds 1714521600) none),
    .onOrgs (.insert { id := "p", name := "Other" }),
    .onOrgs (.updateQuotas "o" { QuotaPatch.empty with extraExecMinutes := some 3 }
      (.ofSeconds 1714521601) none)]

/-- An organization of the same id with numbers and names of all kinds. -/
def newcomer : Organization where
  id := "o"
  name := "New \"one\""
  users := SortedMap.ofList [("", .owner), ("ü", .viewer)]
  quotas := { Quotas.none with storageBytes := 0xFFFFFFFFFFFFFFFF }
  bytes := ⟨0xFFFFFFFFFFFFFFFF, 1, 0x8000000000000000, 0⟩
  seconds := Seconds.none.put .monthly "not a month" 0xFFFFFFFFFFFFFFFF
  pools := ⟨0x7FFFFFFFFFFFFFFF, 0x8000000000000000⟩
  quotaChanges := [⟨{ QuotaPatch.empty with storageBytes := some 5 }, .ofSeconds 1714521600⟩]

theorem insert_replaces_newcomer :
    let s := afterCalls twoOrganizations ({} : RelationalStore)
    (s.changes.keys = [1, 2]) ∧ ∃ t,
      (RelationalStore.onOrgs (.insert newcomer)).run s = (.ok (), t) ∧ Replaces newcomer s t := by
  intro s
  have printable : ∀ change ∈ newcomer.quotaChanges,
      Calendar.Rfc3339.isPrintable change.modified = true := by decide +kernel
  exact ⟨by decide +kernel, insert_replaces twoOrganizations printable⟩

end ArchiveAccounts
