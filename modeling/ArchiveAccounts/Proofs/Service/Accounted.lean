import ArchiveAccounts.Proofs.Service.Balance
import ArchiveAccounts.Proofs.Service.Reclaimed
import ArchiveAccounts.Proofs.Service.Reclaims
import Mathlib.Data.List.Basic

/-!
# Deletions that succeed

A deletion that succeeds takes off the totals exactly what it removed, which is what of its batch
was still there at the end, even if others deleted crawls meanwhile. Main statement:
`deleteCrawls_accounts`.
-/

namespace ArchiveAccounts
set_option autoImplicit false

/-! ## Listed crawls -/

namespace CrawlTable

variable (table : CrawlTable) (orgId : String) (type : CrawlType) (ids : List String)

/-- The ids of the crawls that are listed, in the order in which they are asked for. -/
theorem map_id_listed :
    (table.listed orgId type ids).map (·.id) = ids.eraseDups.filter (table.holds orgId type) := by
  rw [listed]
  induction ids.eraseDups with
  | nil => rfl
  | cons id rest ih =>
    rw [List.filterMap_cons, List.filter_cons, holds_eq]
    cases isThere : table.get? id with
    | none => exact ih
    | some crawl =>
      have named : crawl.id = id := Register.id_of_get? isThere
      cases owned : crawl.isOf orgId type with
      | true =>
        rw [Option.filter_some_pos owned, Option.any_some, if_pos owned, List.map_cons, ih, named]
      | false =>
        rw [Option.filter_some_neg owned, Option.any_some, if_neg (Bool.eq_false_iff.1 owned)]
        exact ih

theorem mem_map_id_listed {id : String} :
    id ∈ (table.listed orgId type ids).map (·.id)
      ↔ id ∈ ids ∧ table.holds orgId type id = true := by
  rw [map_id_listed, List.mem_filter, List.mem_eraseDups]

theorem nodup_listed : ((table.listed orgId type ids).map (·.id)).Nodup := by
  rw [map_id_listed]
  exact (nodup_eraseDups ids).filter _

end CrawlTable

/-! ## What is lost -/

/-- Whether an organization lost bytes of a kind, as far as there were any, and nothing else. -/
structure Organization.LosesBytes (org after : Organization) (kind : StorageKind) (n : Nat) :
    Prop where
  rest : after = { org with bytes := after.bytes }
  total : after.bytes.total.toNat = org.bytes.total.toNat - n
  part : (after.bytes.get kind).toNat = (org.bytes.get kind).toNat - n
  others : ∀ other, other ≠ kind → after.bytes.get other = org.bytes.get other

theorem Organization.losesBytes_shiftBytes (org : Organization) (kind : StorageKind) (n : Nat) :
    org.LosesBytes (org.shiftBytes (-(n : Int)) kind) kind n where
  rest := rfl
  total := by
    rw [shiftBytes, StoredBytes.shift, ByteTotals.total_change, Counter.toNat_shift_neg]
  part := by
    rw [shiftBytes, StoredBytes.shift, ByteTotals.get_change, if_pos rfl, Counter.toNat_shift_neg]
  others other different := by
    rw [shiftBytes, StoredBytes.shift, ByteTotals.get_change, if_neg different]

/-- What crawl configs are told when crawls are removed: each config once, in ascending order, with
the bytes and the number of its crawls. -/
def corrections (removed : List Crawl) : List Event :=
  (Crawl.configs removed).toList.map fun config =>
    .correctConfig config (-(Crawl.bytes (Crawl.ofConfig config removed) : Int))
      (-min ((Crawl.ofConfig config removed).length : Int) Counter.maxSigned)

/-- What a deletion that succeeds does with the crawls that are there at its last step. -/
structure Accounts (org : Organization) (type : CrawlType) (removed : List Crawl)
    (w t : World MemoryStore) (outcome : DeletionOutcome) : Prop where
  deleted : outcome.deleted = .ofNatCapped removed.length
  crawls : ∀ id, t.store.crawls.get? id
    = if id ∈ removed.map (·.id) then none else w.store.crawls.get? id
  org : ∃ current after, w.store.orgs.get? org.id = some current ∧
    t.store.orgs = w.store.orgs.insert after ∧
    current.LosesBytes after type.storageKind (Crawl.bytes removed) ∧
    outcome.storageQuotaReached = after.storageQuotaReached
  corrections : t.trace.filter Event.isCorrection
    = w.trace.filter Event.isCorrection ++ corrections removed

/-- A deletion with nothing to delete. -/
theorem Accounts.nothing {org current : Organization} {type : CrawlType} {w : World MemoryStore}
    (found : w.store.orgs.get? org.id = some current) :
    Accounts org type [] w w ⟨0, current.storageQuotaReached⟩ where
  deleted := rfl
  crawls _ := (if_neg List.not_mem_nil).symm
  org := by
    refine ⟨current, current, found, (Register.insert_eq_self found).symm, ?_, rfl⟩
    have none_ := current.losesBytes_shiftBytes type.storageKind 0
    rw [Int.natCast_zero, Int.neg_zero, Organization.shiftBytes_zero] at none_
    exact none_
  corrections := (List.append_nil _).symm

/-- A capped sum of signed 64 bits is the sum. -/
theorem Counter.toSigned_eq_of_toNat {a : Counter} {n : Nat} (h : a.toNat = min n maxNat)
    (fits : (n : Int) ≤ maxSigned) : a.toSigned = n := by
  simp only [maxSigned, maxNat] at h fits
  simp only [toSigned, maxSigned]
  omega

namespace Action

variable {services : Services} {org : Organization} {type : CrawlType} {user : Option String}
  {ids : List String} {w t : World MemoryStore}

/-! ## Validation -/

/-- A validation that succeeds gives the listed crawls. -/
theorem eq_of_validate {batch : List Crawl}
    (valid : (validate org type user ids).run w = (.ok batch, t)) :
    t = w ∧ batch = ids.filterMap fun id =>
      (w.store.crawls.get? id).filter (Crawl.isOf org.id type) := by
  induction ids generalizing batch with
  | nil =>
    obtain ⟨rfl, same⟩ := Attempt.run_pure_eq_ok_iff.1 valid
    exact ⟨same, rfl⟩
  | cons id rest ih =>
    obtain ⟨crawl, mid, found, later⟩ := Attempt.run_bind_eq_ok_iff.1 valid
    rw [run_getCrawl_eq, MemoryStore.lookUpCrawl_eq] at found
    injection found with found same
    subst same
    split at found
    · next stored isThere =>
      split at found
      · next owner =>
        obtain rfl : stored = crawl := Except.ok.inj found
        rw [List.filterMap_cons, isThere]
        split at later
        · next other =>
          have unlisted : stored.isOf org.id type = false := by
            simp [Crawl.isOf, other]
          obtain ⟨same, rfl⟩ := ih later
          rw [Option.filter_some_neg unlisted]
          exact ⟨same, rfl⟩
        · next sameType =>
          split at later
          · obtain ⟨others, mid, rest, done⟩ := Attempt.run_bind_eq_ok_iff.1 later
            obtain ⟨rfl, rfl⟩ := Attempt.run_pure_eq_ok_iff.1 done
            obtain ⟨same, rfl⟩ := ih rest
            have listed : stored.isOf org.id type = true := by
              simp [Crawl.isOf, owner, not_not.1 sameType]
            rw [Option.filter_some_pos listed]
            exact ⟨same, rfl⟩
          · cases later
      · cases found
    · cases found

/-! ## The last step -/

/-- The event of a correction. -/
def correctionEvent : String × Correction → Event
  | (config, c) => .correctConfig config (-c.size.toSigned) (-min (c.count : Int) Counter.maxSigned)

/-- Each config is told its correction, and nothing is stored. -/
theorem run_corrections {entries : List (String × Correction)}
    (done : (entries.forM fun (config, c) => correctConfig services config c).run w = (.ok (), t)) :
    t.store = w.store ∧ t.trace = w.trace ++ entries.map correctionEvent := by
  have each : ∀ e ∈ entries, ∀ w t : World MemoryStore,
      ((fun (config, c) => correctConfig services config c) e).run w = (.ok (), t) →
      t.store = w.store ∧ t.trace = w.trace ++ [correctionEvent e] := by
    rintro ⟨config, c⟩ _ w t done
    obtain ⟨isThere, mid, asked, later⟩ := Attempt.run_bind_eq_ok_iff.1 done
    rw [run_ask] at asked
    injection asked with _ same
    subst same
    split at later
    · obtain ⟨_, rfl⟩ := Attempt.run_pure_eq_ok_iff.1 later
      exact ⟨rfl, rfl⟩
    · exact nomatch later
  have all := Attempt.of_forM
    (R := fun events (w t : World MemoryStore) => t.store = w.store ∧ t.trace = w.trace ++ events)
    (fun w => ⟨rfl, (List.append_nil _).symm⟩)
    (fun h h' => ⟨h'.1.trans h.1, by rw [h'.2, h.2, List.append_assoc]⟩) each done
  rw [← List.map_eq_flatMap] at all
  exact all

theorem run_settle {deleted : Counter} {reclaimed : Reclaimed} {outcome : DeletionOutcome}
    (done : (settle services org deleted reclaimed).run w = (.ok outcome, t)) :
    ∃ current, w.store.orgs.get? org.id = some current ∧ t.store = w.store ∧
      outcome = ⟨deleted, current.storageQuotaReached⟩ ∧
      t.trace = w.trace ++ reclaimed.configs.toList.map correctionEvent := by
  obtain ⟨_, mid, corrected, later⟩ := Attempt.run_bind_eq_ok_iff.1 done
  obtain ⟨store, trace⟩ := run_corrections corrected
  obtain ⟨_, counted, count, later⟩ := Attempt.run_bind_eq_ok_iff.1 later
  rw [run_count] at count
  injection count with _ same
  subst same
  obtain ⟨current, after, found, later⟩ := Attempt.run_bind_eq_ok_iff.1 later
  obtain ⟨rfl, rfl⟩ := Attempt.run_pure_eq_ok_iff.1 later
  obtain ⟨isThere, rfl⟩ := get?_of_getOrg found
  rw [← store]
  exact ⟨current, isThere, rfl, rfl, trace⟩

theorem exists_of_settle {deleted : Counter} {reclaimed : Reclaimed} {outcome : DeletionOutcome}
    (done : (settle services org deleted reclaimed).run w = (.ok outcome, t)) :
    ∃ current, w.store.orgs.get? org.id = some current := by
  obtain ⟨current, found, _⟩ := run_settle done
  exact ⟨current, found⟩

/-! ## The batch at the last step -/

section AtCommit

variable {batch : List Crawl} {gone removed : List String} {rest : CrawlTable}

/-- Up to cancellation the crawls at the last step are those that others have spared. -/
theorem map_canceledAt_listed (reclaims : Reclaims org.id batch gone w t) (id : String) :
    ((t.store.crawls.get? id).filter (Crawl.isOf org.id type)).map (·.canceledAt w.now)
      = ((w.store.crawls.spared org.id gone id).filter (Crawl.isOf org.id type)).map
          (·.canceledAt w.now) := by
  rcases reclaims.crawls id with same | ⟨_, canceled⟩
  · rw [same]
  · rw [canceled, Option.filter_map, Option.map_map]
    rfl

theorem holds_reclaimed (reclaims : Reclaims org.id batch gone w t) (id : String) :
    t.store.crawls.holds org.id type id
      = (w.store.crawls.spared org.id gone id).any (Crawl.isOf org.id type) := by
  have some_ : ∀ crawl? : Option Crawl, crawl?.any (Crawl.isOf org.id type)
      = ((crawl?.filter (Crawl.isOf org.id type)).map (·.canceledAt w.now)).isSome := by
    intro crawl?
    rw [Option.isSome_map, Option.isSome_filter]
  rw [CrawlTable.holds_eq, some_, map_canceledAt_listed reclaims, ← some_]

/-- What is removed of a batch is what is listed at the last step, but for crawls that were canceled
in between. -/
theorem map_canceledAt_removed (reclaims : Reclaims org.id batch gone w t)
    (isBatch : batch = w.store.crawls.listed org.id type ids)
    (deletes : CrawlTable.Deletes org.id type (batch.map (·.id)) t.store.crawls removed rest) :
    (batch.filter fun crawl => removed.contains crawl.id).map (·.canceledAt w.now)
      = (t.store.crawls.listed org.id type ids).map (·.canceledAt w.now) := by
  rw [isBatch, CrawlTable.listed, CrawlTable.listed, List.filter_filterMap, List.map_filterMap,
    List.map_filterMap]
  apply List.filterMap_congr
  intro id mem
  rw [map_canceledAt_listed reclaims, CrawlTable.spared]
  cases isThere : w.store.crawls.get? id with
  | none => rfl
  | some crawl =>
    have named : crawl.id = id := Register.id_of_get? isThere
    cases owned : crawl.isOf org.id type with
    | false =>
      rw [Option.filter_some_neg owned, Option.filter_filter, Option.filter_some_neg]
      · rfl
      · rw [owned, Bool.and_false]
    | true =>
      have inBatch : id ∈ batch.map (·.id) := by
        rw [isBatch, CrawlTable.mem_map_id_listed, CrawlTable.holds_eq, isThere]
        exact ⟨List.mem_eraseDups.1 mem, owned⟩
      have left : removed.contains crawl.id = !(crawl.orgId == org.id && gone.contains id) := by
        rw [Bool.eq_iff_iff, List.contains_iff_mem, named, deletes.mem_removed,
          and_iff_right inBatch, holds_reclaimed reclaims, CrawlTable.spared, isThere,
          Option.any_filter]
        simp [owned]
      rw [Option.filter_some_pos owned, Option.filter_filter]
      congr 1
      simp only [Option.filter, left, owned, Bool.and_true]

/-- The ids that are removed are those that are listed at the last step. -/
theorem perm_removed (reclaims : Reclaims org.id batch gone w t)
    (isBatch : batch = w.store.crawls.listed org.id type ids)
    (deletes : CrawlTable.Deletes org.id type (batch.map (·.id)) t.store.crawls removed rest) :
    removed.Perm ((t.store.crawls.listed org.id type ids).map (·.id)) := by
  rw [List.perm_ext_iff_of_nodup deletes.nodup (CrawlTable.nodup_listed _ _ _ _)]
  intro id
  rw [deletes.mem_removed, CrawlTable.mem_map_id_listed, isBatch, CrawlTable.mem_map_id_listed]
  constructor
  · rintro ⟨⟨listed, _⟩, stillThere⟩
    exact ⟨listed, stillThere⟩
  · rintro ⟨listed, stillThere⟩
    refine ⟨⟨listed, ?_⟩, stillThere⟩
    rw [holds_reclaimed reclaims, CrawlTable.spared, Option.any_filter] at stillThere
    rw [CrawlTable.holds_eq]
    obtain ⟨crawl, isThere, both⟩ := (Option.any_eq_true _ _).1 stillThere
    rw [isThere, Option.any_some]
    exact (Bool.and_eq_true_iff.1 both).2

end AtCommit

/-- Taking off the bytes that were reclaimed, if there are any. -/
theorem run_shiftBytes_or_skip {rest : CrawlTable} {size : Counter} {n : Nat}
    (signed : size.toSigned = n) {k : Action MemoryStore DeletionOutcome}
    {outcome : DeletionOutcome} {u : World MemoryStore}
    (keeps : ∀ {w : World MemoryStore}, k.run w = (.ok outcome, u) →
      ∃ current, w.store.orgs.get? org.id = some current)
    (done : (if size ≠ 0 then
        onOrgs (.shiftBytes org.id (-size.toSigned) type.storageKind) >>= fun _ => k
      else k).run (w.withCrawls rest) = (.ok outcome, u)) :
    ∃ current, w.store.orgs.get? org.id = some current ∧
      k.run ((w.withCrawls rest).withOrg (current.shiftBytes (-(n : Int)) type.storageKind))
        = (.ok outcome, u) := by
  split at done
  · obtain ⟨_, mid, shifted, later⟩ := Attempt.run_bind_eq_ok_iff.1 done
    cases found : w.store.orgs.get? org.id with
    | none =>
      have refused : (AccountStore.onOrgs (.shiftBytes org.id (-size.toSigned)
          type.storageKind)).run (w.withCrawls rest).store = _ :=
        MemoryStore.run_onOrgs_of_none found rfl
      rw [run_onOrgs, refused] at shifted
      exact nomatch shifted
    | some current =>
      rw [run_onOrgs_of_get? found] at shifted
      injection shifted with _ after
      rw [← after, OrgCall.apply, signed] at later
      exact ⟨current, rfl, later⟩
  · next none_ =>
    obtain ⟨current, found⟩ := keeps done
    have found : w.store.orgs.get? org.id = some current := found
    have nothing : (n : Int) = 0 := by
      rw [← signed, not_not.1 none_]
      rfl
    have kept : (w.withCrawls rest).withOrg current = w.withCrawls rest :=
      World.withOrg_eq_self found
    refine ⟨current, found, ?_⟩
    rw [nothing, Int.neg_zero, Organization.shiftBytes_zero, kept]
    exact done

/-- What configs are told of the crawls that were reclaimed. -/
theorem map_correctionEvent {removed : List Crawl}
    (fits : (Crawl.bytes removed : Int) ≤ Counter.maxSigned) :
    (Reclaimed.ofCrawls removed).configs.toList.map correctionEvent = corrections removed := by
  rw [Reclaimed.toList_ofCrawls, List.map_map]
  apply List.map_congr_left
  intro config _
  have le := Crawl.bytes_ofConfig_le config removed
  have signed : (Reclaimed.correction config removed).size.toSigned
      = Crawl.bytes (Crawl.ofConfig config removed) :=
    Counter.toSigned_eq_of_toNat (Counter.toNat_ofNatCapped _) (by omega)
  rw [Function.comp_apply, correctionEvent, signed]
  rfl

/-- The last step of a deletion. -/
theorem accounts_commit {batch : List Crawl} {gone : List String} {u : World MemoryStore}
    {outcome : DeletionOutcome} (reclaims : Reclaims org.id batch gone w t)
    (isBatch : batch = w.store.crawls.listed org.id type ids)
    (fits : (Crawl.bytes (t.store.crawls.listed org.id type ids) : Int) ≤ Counter.maxSigned)
    (done : (commit services org batch type).run t = (.ok outcome, u)) :
    Accounts org type (t.store.crawls.listed org.id type ids) t u outcome := by
  obtain ⟨removed, rest, removes, deletes⟩ :=
    run_onCrawls_delete t org.id (batch.map (·.id)) type
  have perm := perm_removed reclaims isBatch deletes
  have same : Reclaimed.ofCrawls (batch.filter fun crawl => removed.contains crawl.id)
      = Reclaimed.ofCrawls (t.store.crawls.listed org.id type ids) := by
    rw [← Reclaimed.ofCrawls_canceled _ w.now, map_canceledAt_removed reclaims isBatch deletes,
      Reclaimed.ofCrawls_canceled]
  have length : removed.length = (t.store.crawls.listed org.id type ids).length := by
    rw [perm.length_eq, List.length_map]
  rw [commit, Attempt.run_bind, removes] at done
  dsimp only at done
  rw [same, length] at done
  generalize t.store.crawls.listed org.id type ids = left at *
  have signed : (Reclaimed.ofCrawls left).size.toSigned = Crawl.bytes left :=
    Counter.toSigned_eq_of_toNat (Reclaimed.toNat_size_ofCrawls left) fits
  obtain ⟨current, found, settles⟩ := run_shiftBytes_or_skip signed exists_of_settle done
  obtain ⟨after, foundAfter, store, rfl, trace⟩ := run_settle settles
  have isAfter : after = current.shiftBytes (-(Crawl.bytes left : Int)) type.storageKind := by
    have named : current.id = org.id := Register.id_of_get? found
    rw [World.orgs_withOrg, Register.get?_insert, Organization.id_shiftBytes,
      if_pos named.symm] at foundAfter
    exact (Option.some.inj foundAfter).symm
  refine ⟨rfl, ?_, ⟨current, after, found, ?_, ?_, rfl⟩, ?_⟩
  · intro id
    rw [store]
    refine (deletes.get?_rest id).trans ?_
    simp only [perm.mem_iff]
  · rw [store, isAfter]
    rfl
  · rw [isAfter]
    exact current.losesBytes_shiftBytes _ _
  · have all : (corrections left).filter Event.isCorrection = corrections left := by
      rw [List.filter_eq_self]
      intro event mem
      obtain ⟨config, _, rfl⟩ := List.mem_map.1 mem
      rfl
    rw [trace, map_correctionEvent fits, List.filter_append, all]
    rfl

end Action

/-- A deletion that succeeds stops the crawls of its batch and deletes their files. Then it removes
what of the batch is still there, takes its bytes off the organization and corrects the crawl
configs, if the bytes are a signed 64-bit number. -/
theorem deleteCrawls_accounts {services : Services} {org : Organization} {ids : List String}
    {type : CrawlType} {user : Option String} {w t : World MemoryStore} {outcome : DeletionOutcome}
    (done : (Action.deleteCrawls services org ids type user).run w = (.ok outcome, t)) :
    let batch := w.store.crawls.listed org.id type ids
    ∃ atCommit : World MemoryStore,
      (Action.reclaim services org batch).run w = (.ok (), atCommit) ∧
      Reclaims org.id batch (services.meanwhile batch) w atCommit ∧
      let removed := atCommit.store.crawls.listed org.id type ids
      ((Crawl.bytes removed : Int) ≤ Counter.maxSigned →
        Accounts org type removed atCommit t outcome) := by
  intro batch
  rw [Action.deleteCrawls] at done
  split at done
  · cases done
  · obtain ⟨valid, mid, validates, later⟩ := Attempt.run_bind_eq_ok_iff.1 done
    obtain ⟨rfl, isBatch⟩ := Action.eq_of_validate validates
    have isBatch : valid = batch := isBatch
    rw [isBatch] at later
    split at later
    · next none_ =>
      have empty : batch = [] := List.isEmpty_iff.1 none_
      obtain ⟨current, after, lookUp, answer⟩ := Attempt.run_bind_eq_ok_iff.1 later
      obtain ⟨found, rfl⟩ := Action.get?_of_getOrg lookUp
      obtain ⟨rfl, rfl⟩ := Attempt.run_pure_eq_ok_iff.1 answer
      have reclaimed : (Action.reclaim services org batch).run t = (.ok (), t) := by
        rw [empty]
        rfl
      refine ⟨t, reclaimed, Action.reclaims_reclaim reclaimed, fun _ => ?_⟩
      show Accounts org type batch t t _
      rw [empty]
      exact Accounts.nothing found
    · obtain ⟨_, atCommit, reclaimed, committed⟩ := Attempt.run_bind_eq_ok_iff.1 later
      have reclaims := Action.reclaims_reclaim reclaimed
      exact ⟨atCommit, reclaimed, reclaims, fun fits =>
        Action.accounts_commit reclaims rfl fits committed⟩

/-- Three crawls of two configs, of which one is running, and an upload. -/
def configured : MemoryStore where
  orgs := Register.insert ∅ { id := "o", bytes := ⟨900, 600, 300, 0⟩ }
  crawls := [
    { id := "a", orgId := "o", configId := some "z", type := .crawl, state := .complete,
      files := [{ filename := "f", size := 400 }], finished := some (.ofSeconds 1714500000) },
    { id := "b", orgId := "o", configId := some "z", type := .crawl, state := .complete,
      files := [{ filename := "g", size := 100 }], finished := some (.ofSeconds 1714500000) },
    { id := "c", orgId := "o", configId := some "y", type := .crawl, state := .running,
      files := [{ filename := "h", size := 700 }] },
    { id := "u", orgId := "o", type := .upload, state := .complete,
      files := [{ filename := "i", size := 300 }] }].foldl Register.insert ∅

/-- Collaborators that know no crawl job, while someone else deletes a crawl. -/
def overlapped : Services where
  deleteObject _ _ _ _ := .ok true
  mintLink _ _ _ _ _ := .ok "https://link"
  overlapping file := if file.filename = "h" then ["b", "e"] else []
  stop _ _ _ := .ok ⟨false, some "Not Found"⟩
  correctConfig _ _ _ _ := .ok true

theorem deleteCrawls_accounts_overlapped :
    let w : World MemoryStore := { store := configured, now := .ofSeconds 1714521600 }
    let ids := ["c", "u", "b", "a", "c"]
    ∃ atCommit t : World MemoryStore,
      (Action.deleteCrawls overlapped { id := "o" } ids .crawl none).run w = (.ok ⟨2, false⟩, t) ∧
      (atCommit.store.crawls.listed "o" .crawl ids).map (·.id) = ["c", "a"] ∧
      Accounts { id := "o" } .crawl (atCommit.store.crawls.listed "o" .crawl ids) atCommit t
        ⟨2, false⟩ := by
  intro w ids
  rcases run : (Action.deleteCrawls overlapped { id := "o" } ids .crawl none).run w with ⟨result, t⟩
  have answer : ((Action.deleteCrawls overlapped { id := "o" } ids .crawl none).run w).1
      = .ok ⟨2, false⟩ := by
    decide +kernel
  rw [run] at answer
  obtain rfl : result = .ok ⟨2, false⟩ := answer
  obtain ⟨atCommit, reclaimed, _, accounts⟩ := deleteCrawls_accounts run
  have left : (((Action.reclaim overlapped { id := "o" }
      (w.store.crawls.listed "o" .crawl ids)).run w).2.store.crawls.listed "o" .crawl ids).map
        (fun crawl => (crawl.id, crawl.totalSize)) = [("c", 700), ("a", 400)] := by
    decide +kernel
  rw [reclaimed] at left
  have listed := congrArg (List.map Prod.fst) left
  have bytes := congrArg (fun l => (l.map fun e => e.2.toNat).sum) left
  rw [List.map_map] at listed
  simp only [List.map_map] at bytes
  have fits : (Crawl.bytes (atCommit.store.crawls.listed "o" .crawl ids) : Int)
      ≤ Counter.maxSigned := by
    rw [Crawl.bytes]
    exact Int.le_trans (Int.le_of_eq (congrArg Int.ofNat bytes)) (by decide)
  exact ⟨atCommit, t, rfl, listed, accounts fits⟩

end ArchiveAccounts
