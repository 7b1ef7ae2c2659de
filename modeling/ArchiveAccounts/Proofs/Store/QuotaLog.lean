import ArchiveAccounts.Proofs.Store.TenantRows
import Mathlib.Data.List.DropRight
import Mathlib.Data.List.Induction

/-!
# Logs of quota changes

A store that changes the quotas of an organization answers what it says afterwards of that
organization, as long as it can store the time and the pools; nothing changes for others. Main
statements: `quotaChanges_afterChanges`, the log is the newest end of all changes that there were,
and the instances of `LoggingStore`.
-/

namespace ArchiveAccounts
set_option autoImplicit false

open AccountStore Calendar PartedStore

/-! ## What is kept of a history -/

/-- What `retention` leaves of a log after some changes: all without a limit, otherwise the newest
ones, and never none at all. -/
def keptHistory {α : Type} (retention : Option Nat) (log changes : List α) : List α :=
  match retention with
  | none => log ++ changes
  | some count => if changes.isEmpty then log else (log ++ changes).rtake (max count 1)

/-- The newest entries of a longer list are among the newest entries of the shorter one. -/
theorem rtake_rtake_append {α : Type} (l more : List α) (count : Nat) :
    (l.rtake count ++ more).rtake count = (l ++ more).rtake count := by
  unfold List.rtake
  rw [← List.drop_append_of_le_length (Nat.sub_le _ _), List.drop_drop, List.length_drop,
    List.length_append]
  congr 1
  omega

theorem keptHistory_concat {α : Type} (retention : Option Nat) (log changes : List α) (last : α) :
    keptHistory retention log (changes ++ [last])
      = keepNewest retention (keptHistory retention log changes ++ [last]) := by
  cases retention with
  | none => exact (List.append_assoc _ _ _).symm
  | some count =>
    have notEmpty : (changes ++ [last]).isEmpty = false := by simp
    simp only [keptHistory, notEmpty, Bool.false_eq_true, if_false]
    rw [← List.append_assoc]
    show (log ++ changes ++ [last]).rtake (max count 1)
      = List.rtake _ (max count 1)
    split
    · next none_ => rw [List.isEmpty_iff.1 none_, List.append_nil]
    · rw [rtake_rtake_append]

namespace Organization

/-- The organization after some changes of its quotas, one after the other. -/
def afterChanges (org : Organization) (retention : Option Nat) (changes : List QuotaChange) :
    Organization :=
  changes.foldl (fun org change => org.applyQuotaPatch change.patch change.modified retention) org

variable (org : Organization) (retention : Option Nat)

theorem afterChanges_concat (changes : List QuotaChange) (last : QuotaChange) :
    org.afterChanges retention (changes ++ [last])
      = (org.afterChanges retention changes).applyQuotaPatch last.patch last.modified retention := by
  unfold afterChanges
  rw [List.foldl_append]
  rfl

/-- The log is the newest end of all changes that there were. -/
theorem quotaChanges_afterChanges (changes : List QuotaChange) :
    (org.afterChanges retention changes).quotaChanges
      = keptHistory retention org.quotaChanges changes := by
  induction changes using List.reverseRecOn with
  | nil =>
    cases retention with
    | none => exact (List.append_nil _).symm
    | some count => rfl
  | append_singleton changes last ih =>
    rw [afterChanges_concat, keptHistory_concat, ← ih]
    rfl

end Organization

/-! ## Stores -/

/-- A store that answers a change of quotas with what it says of the organization from then on, if
it can store the time and the pools. -/
class LoggingStore (σ : Type) [AccountStore σ] extends TenantStore σ where
  /-- Whether the time of a change and the pools that it comes to can be stored. -/
  CanStore : Moment → Pools → Prop
  updates {s : σ} {id : String} {org : Organization} (patch : QuotaPatch) {modified : Moment}
    {retention : Option Nat} (sound : IsSound s) (found : lookUpOrg s id = .ok org)
    (canStore : CanStore modified (org.applyQuotaPatch patch modified retention).pools) :
    let run := (AccountStore.onOrgs (.updateQuotas id patch modified retention)).run s
    run.1 = .ok (org.applyQuotaPatch patch modified retention) ∧
      lookUpOrg run.2 id = .ok (org.applyQuotaPatch patch modified retention)

section Frame

variable {σ : Type} [AccountStore σ] [LoggingStore σ] {s : σ}

/-- A call on an organization that is there leaves a sound store, in which other organizations are
as they were. -/
theorem LoggingStore.frame (sound : IsSound s) (call : OrgCall) (old : call.isInsert = false) :
    let t := ((onOrgs call).run s).2
    IsSound t ∧ ∀ id, id ≠ call.orgId → lookUpOrg t id = lookUpOrg s id := by
  intro t
  obtain ⟨_, _, after⟩ :=
    TenantStore.onOrgs call old rfl s (only call.orgId s) ⟨sound, rfl, rfl⟩
  refine ⟨after.sound, fun id other => ?_⟩
  rw [← TenantStore.lookUpOrg_without t other, after.others,
    TenantStore.lookUpOrg_without s other]

end Frame

/-! ## The store in memory -/

namespace MemoryStore

theorem get?_of_lookUpOrg {s : MemoryStore} {id : String} {org : Organization}
    (found : lookUpOrg s id = .ok org) : s.orgs.get? id = some org := by
  rw [lookUpOrg_eq] at found
  split at found
  · next isThere =>
    obtain rfl := Except.ok.inj found
    exact isThere
  · cases found

instance : LoggingStore MemoryStore where
  CanStore _ _ := True
  updates {s id org} patch modified retention _ found _ := by
    let call : OrgCall := .updateQuotas id patch modified retention
    have isThere : s.orgs.get? call.orgId = some org := get?_of_lookUpOrg found
    have run : (AccountStore.onOrgs call).run s = _ := run_onOrgs isThere
    rw [run]
    refine ⟨rfl, ?_⟩
    have same : id = (call.apply org).2.id :=
      (Register.id_of_get? isThere).symm
    rw [lookUpOrg_eq, Register.get?_insert, if_pos same]
    rfl

end MemoryStore

/-! ## The relational store -/

namespace OrgRow

variable (row : OrgRow) (org : Organization)

-- unfolded first, so that no text has to be printed to compare the rows

@[simp] theorem name_withQuotasOf : (row.withQuotasOf org).name = row.name := by
  rw [withQuotasOf]

@[simp] theorem users_withQuotasOf : (row.withQuotasOf org).users = row.users := by
  rw [withQuotasOf]

@[simp] theorem bytes_withQuotasOf : (row.withQuotasOf org).bytes = row.bytes := by
  rw [withQuotasOf]

@[simp] theorem quotas_withQuotasOf :
    (row.withQuotasOf org).quotas = Json.print org.quotas.toDatum := by
  rw [withQuotasOf]

end OrgRow

namespace RelationalStore

variable {s t : RelationalStore} {id : String} {row : OrgRow} {org : Organization}

/-- Whether a row and the rows of other tables hold an organization. -/
structure Holds (s : RelationalStore) (row : OrgRow) (org : Organization) : Prop where
  name : row.name = org.name
  users : (Json.parse? row.users).bind (Datum.asMap Role.ofDatum?) = some org.users
  quotas : (Json.parse? row.quotas).bind Quotas.ofDatum? = some org.quotas
  total : row.bytes.total.counter? = some org.bytes.total
  part : ∀ kind, (row.bytes.get kind).counter? = some (org.bytes.get kind)
  pool : ∀ pool, (row.pools.get pool).counter? = some (org.pools.get pool)
  seconds : readSeconds (s.secondsOf org.id) = some org.seconds
  log : ((s.log org.id).map (·.2)).mapM ChangeRow.change? = some org.quotaChanges

theorem Holds.organization? (h : Holds s row org) : s.organization? org.id row = some org := by
  have crawls := h.part .crawl
  have uploads := h.part .upload
  have profiles := h.part .profile
  have gifted := h.pool .gifted
  have extra := h.pool .extra
  have log := h.log
  simp only [ByteTotals.get, PerPool.get] at crawls uploads profiles gifted extra
  rw [List.mapM_map] at log
  simp only [RelationalStore.organization?, h.name, h.users, h.quotas, h.total, crawls, uploads,
    profiles, gifted, extra, h.seconds]
  exact congrArg (Option.bind · _) log

theorem holds_of_organization? (h : s.organization? id row = some org) :
    org.id = id ∧ Holds s row org := by
  obtain ⟨users, usersRead, h⟩ := Option.bind_eq_some_iff.1 h
  obtain ⟨quotas, quotasRead, h⟩ := Option.bind_eq_some_iff.1 h
  obtain ⟨total, totalRead, h⟩ := Option.bind_eq_some_iff.1 h
  obtain ⟨crawls, crawlsRead, h⟩ := Option.bind_eq_some_iff.1 h
  obtain ⟨uploads, uploadsRead, h⟩ := Option.bind_eq_some_iff.1 h
  obtain ⟨profiles, profilesRead, h⟩ := Option.bind_eq_some_iff.1 h
  obtain ⟨gifted, giftedRead, h⟩ := Option.bind_eq_some_iff.1 h
  obtain ⟨extra, extraRead, h⟩ := Option.bind_eq_some_iff.1 h
  obtain ⟨seconds, secondsRead, h⟩ := Option.bind_eq_some_iff.1 h
  obtain ⟨changes, changesRead, h⟩ := Option.bind_eq_some_iff.1 h
  obtain rfl := Option.some.inj h
  refine ⟨rfl, rfl, usersRead, quotasRead, totalRead, ?_, ?_, secondsRead, ?_⟩
  · intro kind
    cases kind with
    | crawl => exact crawlsRead
    | upload => exact uploadsRead
    | profile => exact profilesRead
  · intro pool
    cases pool with
    | gifted => exact giftedRead
    | extra => exact extraRead
  · rw [List.mapM_map]
    exact changesRead

theorem lookUpOrg_of_holds (found : s.orgs.get? id = some row) (named : org.id = id)
    (h : Holds s row org) : lookUpOrg s id = .ok org := by
  subst named
  have run := congrArg Prod.fst (run_getOrg s org.id)
  rw [found] at run
  simp only [h.organization?] at run
  exact run

theorem holds_of_lookUpOrg (found : lookUpOrg s id = .ok org) :
    ∃ row, s.orgs.get? id = some row ∧ org.id = id ∧ Holds s row org := by
  have run := congrArg Prod.fst (run_getOrg s id)
  have found : ((onOrgs (.get id)).run s).1 = .ok org := found
  rw [found] at run
  cases isThere : s.orgs.get? id with
  | none =>
    rw [isThere] at run
    cases run
  | some row =>
    simp only [isThere] at run
    cases read : s.organization? id row with
    | none =>
      rw [read] at run
      cases run
    | some stored =>
      rw [read] at run
      obtain rfl := Except.ok.inj run
      exact ⟨row, rfl, holds_of_organization? read⟩

/-! ### The log in rows -/

/-- The tables after a change of quotas was written. -/
def logged (s : RelationalStore) (id : String) (row : OrgRow) (change : ChangeRow)
    (retention : Option Nat) : RelationalStore :=
  let appended := ({ s with orgs := s.orgs.insert id row } : RelationalStore).append change
  match retention with
  | none => appended
  | some count => appended.trim id (max count 1)

theorem get?_orgs_logged (id : String) (row : OrgRow) (change : ChangeRow)
    (retention : Option Nat) : (s.logged id row change retention).orgs.get? id = some row := by
  cases retention with
  | none => exact (SortedMap.get?_insert _ _ _ _).trans (if_pos rfl)
  | some count => exact (SortedMap.get?_insert _ _ _ _).trans (if_pos rfl)

theorem secondsOf_logged (id : String) (row : OrgRow) (change : ChangeRow)
    (retention : Option Nat) : (s.logged id row change retention).secondsOf id = s.secondsOf id := by
  cases retention <;> rfl

/-- The rows of the log are the newest end of what they were, with the new row last. -/
theorem log_logged (below : s.NumbersBelow) {row : OrgRow} {change : ChangeRow}
    (mine : change.orgId = id) (retention : Option Nat) :
    ((s.logged id row change retention).log id).map (·.2)
      = keepNewest retention ((s.log id).map (·.2) ++ [change]) := by
  let changed : RelationalStore := { s with orgs := s.orgs.insert id row }
  have appended : (changed.append change).log id = s.log id ++ [(s.nextNumber, change)] := by
    rw [log_append changed id below, if_pos mine]
    rfl
  have rows : ((changed.append change).log id).map (·.2) = (s.log id).map (·.2) ++ [change] := by
    rw [appended, List.map_append]
    rfl
  cases retention with
  | none => exact rows
  | some count =>
    show (((changed.append change).trim id (max count 1)).log id).map (·.2) = _
    rw [log_trim, if_pos rfl, List.map_drop, ← List.length_map (f := (·.2)), rows]
    rfl

/-- The newest rows hold the newest changes. -/
theorem mapM_keepNewest {α β : Type} {f : α → Option β} {rows : List α} {values : List β}
    (h : rows.mapM f = some values) (retention : Option Nat) :
    (keepNewest retention rows).mapM f = some (keepNewest retention values) := by
  cases retention with
  | none => exact h
  | some count =>
    unfold keepNewest
    rw [Traverse.length_eq h]
    exact Traverse.drop h _

/-- An organization whose quotas change is held from then on, if its pools are signed numbers. -/
theorem Holds.logged (h : Holds s row org) (below : s.NumbersBelow) {patch : QuotaPatch}
    {modified : Moment} {retention : Option Nat} {change : ChangeRow} {after : Organization}
    (isAfter : org.applyQuotaPatch patch modified retention = after)
    (written : ChangeRow.ofChange? org.id ⟨patch, modified⟩ = some change)
    (fits : ∀ pool, (after.pools.get pool).FitsSigned) :
    Holds (s.logged org.id (row.withQuotasOf after) change retention) (row.withQuotasOf after)
      after := by
  obtain ⟨mine, reads⟩ := ChangeRow.reads written
  have last : [change].mapM ChangeRow.change? = some [⟨patch, modified⟩] :=
    Traverse.cons_iff.2 ⟨_, [], reads, rfl, rfl⟩
  have sameId : after.id = org.id := by rw [← isAfter]; rfl
  have same : after.name = org.name ∧ after.users = org.users ∧ after.bytes = org.bytes
      ∧ after.seconds = org.seconds := by
    rw [← isAfter]
    exact ⟨rfl, rfl, rfl, rfl⟩
  obtain ⟨sameName, sameUsers, sameBytes, sameSeconds⟩ := same
  have changes : after.quotaChanges
      = keepNewest retention (org.quotaChanges ++ [⟨patch, modified⟩]) := by
    rw [← isAfter]
    rfl
  constructor
  · rw [OrgRow.name_withQuotasOf, sameName]
    exact h.name
  · rw [OrgRow.users_withQuotasOf, sameUsers]
    exact h.users
  · rw [OrgRow.quotas_withQuotasOf]
    exact Quotas.reads after.quotas
  · rw [OrgRow.bytes_withQuotasOf, sameBytes]
    exact h.total
  · rw [OrgRow.bytes_withQuotasOf, sameBytes]
    exact h.part
  · intro pool
    rw [OrgRow.withQuotasOf, PerPool.get_map]
    exact Cell.counter?_ofCounter_of_fits (fits pool)
  · rw [sameId, secondsOf_logged, sameSeconds]
    exact h.seconds
  · rw [sameId, log_logged below mine, changes]
    exact mapM_keepNewest (Traverse.append h.log last) retention

theorem run_updateQuotas {patch : QuotaPatch} {modified : Moment} {retention : Option Nat}
    {change : ChangeRow} (found : s.orgs.get? org.id = some row) (h : Holds s row org)
    (written : ChangeRow.ofChange? org.id ⟨patch, modified⟩ = some change) :
    let after := org.applyQuotaPatch patch modified retention
    (onOrgs (.updateQuotas org.id patch modified retention)).run s
      = (.ok after, s.logged org.id (row.withQuotasOf after) change retention) := by
  have loads : (load org.id).run s = (.ok org, s) := by
    simp only [load, Attempt.run_bind, run_find, found, Attempt.run_get, h.organization?, run_need]
  apply Attempt.run_atomically_eq_ok_iff.2
  cases retention with
  | none | some count =>
    simp only [perform, Attempt.run_bind, written, run_need, loads, run_find, found, run_put,
      Attempt.run_modify, Attempt.run_pure]
    rfl

instance : LoggingStore RelationalStore where
  CanStore modified pools :=
    Rfc3339.isPrintable modified = true ∧ ∀ pool, (pools.get pool).FitsSigned
  updates {s id org} patch modified retention sound found canStore := by
    obtain ⟨row, isThere, rfl, holds⟩ := holds_of_lookUpOrg found
    obtain ⟨printable, fits⟩ := canStore
    have isSome := (ChangeRow.isSome_ofChange? org.id ⟨patch, modified⟩).trans printable
    obtain ⟨change, written⟩ := Option.isSome_iff_exists.1 isSome
    have run : (AccountStore.onOrgs (.updateQuotas org.id patch modified retention)).run s = _ :=
      run_updateQuotas isThere holds written
    rw [run]
    refine ⟨rfl, ?_⟩
    have holdsAfter := holds.logged sound.below rfl written fits
    exact lookUpOrg_of_holds (get?_orgs_logged org.id _ change retention) rfl holdsAfter

end RelationalStore

end ArchiveAccounts
