import ArchiveAccounts.Proofs.Service.Corrected
import ArchiveAccounts.Proofs.Store.Owners

/-!
# Deletions that are carried out

When collaborators comply a deletion comes to an answer as soon as its batch is validated: every
crawl is reclaimed, and what is removed are the listed crawls as they were when it began. Main
statements: `run_deleteCrawls_of_valid` and `run_deleteCrawls_of_invalid`, which say together what
becomes of any deletion.
-/

namespace ArchiveAccounts
set_option autoImplicit false

/-- Whether collaborators comply: a crawl that is to be stopped is stopped or unknown, objects are
deleted while nobody else deletes crawls, and crawl configs are corrected. -/
structure Services.Comply (services : Services) : Prop where
  stops : ∀ before id graceful, ∃ answer, services.stop before id graceful = .ok answer ∧
    (answer.success = true ∨ answer.error = some "Not Found")
  deletes : ∀ before now org file, services.deleteObject before now org file = .ok true
  corrects : ∀ before config size count,
    services.correctConfig before config size count = .ok true
  alone : ∀ file, services.overlapping file = []

/-- Configs that are all there hear everything. -/
theorem Services.Comply.hear_eq {services : Services} (comply : services.Comply)
    (before events : List Event) : services.hear before events = (events, .ok ()) := by
  induction events generalizing before with
  | nil => rfl
  | cons event rest ih =>
    have answers : services.answerTo before event = .ok () := by
      cases event with
      | correctConfig config size count =>
        rw [Services.answerTo, comply.corrects]
        rfl
      | _ => rfl
    rw [Services.hear, answers]
    dsimp only
    rw [ih]

theorem CrawlTable.mem_listed {table : CrawlTable} {orgId : String} {type : CrawlType}
    {ids : List String} {crawl : Crawl} :
    crawl ∈ table.listed orgId type ids ↔
      crawl.id ∈ ids ∧ table.get? crawl.id = some crawl ∧ crawl.isOf orgId type = true := by
  simp only [listed, List.mem_filterMap, List.mem_eraseDups, Option.filter_eq_some_iff]
  constructor
  · rintro ⟨id, mem, isThere, owned⟩
    obtain rfl : crawl.id = id := Register.id_of_get? isThere
    exact ⟨mem, isThere, owned⟩
  · rintro ⟨mem, isThere, owned⟩
    exact ⟨crawl.id, mem, isThere, owned⟩

/-- Whether each of some ids is of a crawl of the organization, which the user may delete if it is
of the type. -/
def CrawlTable.Validates (table : CrawlTable) (org : Organization) (type : CrawlType)
    (user : Option String) (ids : List String) : Prop :=
  ∀ id ∈ ids, ∃ crawl, table.get? id = some crawl ∧ crawl.orgId = org.id ∧
    (crawl.type = type → org.allowsDeletion user crawl = true)

/-- The organization without the bytes of crawls, as far as it has them. -/
def Organization.withoutCrawls (org : Organization) (type : CrawlType) (removed : List Crawl) :
    Organization :=
  org.shiftBytes (-(Reclaimed.ofCrawls removed).size.toSigned) type.storageKind

/-- The store without crawls, and an organization without their bytes. -/
def MemoryStore.withoutCrawls (s : MemoryStore) (org : Organization) (type : CrawlType)
    (removed : List Crawl) : MemoryStore where
  orgs := s.orgs.insert (org.withoutCrawls type removed)
  crawls := s.crawls.filter fun crawl => !(removed.map (·.id)).contains crawl.id

theorem Organization.withoutCrawls_nil (org : Organization) (type : CrawlType) :
    org.withoutCrawls type [] = org :=
  org.shiftBytes_zero type.storageKind

theorem MemoryStore.get?_withoutCrawls (s : MemoryStore) (org : Organization) (type : CrawlType)
    (removed : List Crawl) (id : String) :
    (s.withoutCrawls org type removed).crawls.get? id
      = if id ∈ removed.map (·.id) then none else s.crawls.get? id := by
  rw [withoutCrawls, Register.get?_filter]
  cases isThere : s.crawls.get? id with
  | none => exact (ite_self _).symm
  | some crawl =>
    obtain rfl : crawl.id = id := Register.id_of_get? isThere
    by_cases mem : crawl.id ∈ removed.map (·.id)
    · rw [if_pos mem, Option.filter_some_neg]
      rw [List.contains_iff_mem.2 mem]
      rfl
    · rw [if_neg mem, Option.filter_some_pos]
      rw [Bool.not_eq_true', ← Bool.not_eq_true, List.contains_iff_mem]
      exact mem

theorem MemoryStore.withoutCrawls_nil {s : MemoryStore} {org : Organization}
    (found : s.orgs.get? org.id = some org) (type : CrawlType) :
    s.withoutCrawls org type [] = s := by
  have crawls : (s.withoutCrawls org type []).crawls = s.crawls :=
    Register.ext_get? (s.get?_withoutCrawls org type [])
  have orgs : (s.withoutCrawls org type []).orgs = s.orgs := by
    rw [withoutCrawls, org.withoutCrawls_nil, Register.insert_eq_self found]
  exact congrArg₂ MemoryStore.mk orgs crawls

/-- What crawl configs are told of crawls that are removed, be it as much as it may. -/
def told (removed : List Crawl) : List Event :=
  (Reclaimed.ofCrawls removed).configs.toList.map Action.correctionEvent

theorem filter_told (removed : List Crawl) :
    (told removed).filter Event.isCorrection = told removed := by
  rw [List.filter_eq_self]
  intro event mem
  obtain ⟨entry, _, rfl⟩ := List.mem_map.1 mem
  rfl

/-- Whether a deletion removed crawls, took their bytes off an organization, and told their
configs. -/
structure CarriesOut (current : Organization) (type : CrawlType) (removed : List Crawl)
    (w t : World MemoryStore) : Prop where
  store : t.store = w.store.withoutCrawls current type removed
  corrections : t.trace.filter Event.isCorrection
    = w.trace.filter Event.isCorrection ++ told removed

namespace Action

variable {services : Services} {org current : Organization} {type : CrawlType}
  {user : Option String} {ids : List String} {batch : List Crawl} {w : World MemoryStore}

/-! ## Validation -/

theorem run_validate_of_valid (valid : w.store.crawls.Validates org type user ids) :
    ∃ batch, (validate org type user ids).run w = (.ok batch, w) := by
  induction ids with
  | nil => exact ⟨[], rfl⟩
  | cons id rest ih =>
    obtain ⟨⟨crawl, isThere, owner, allowed⟩, others⟩ := List.forall_mem_cons.1 valid
    obtain ⟨batch, run⟩ := ih others
    rw [validate, Attempt.run_bind, run_getCrawl_eq, MemoryStore.lookUpCrawl_eq, isThere]
    dsimp only
    rw [if_pos owner]
    dsimp only
    split
    · exact ⟨batch, run⟩
    · next sameType =>
      rw [if_pos (allowed (not_not.1 sameType)), Attempt.run_bind, run]
      exact ⟨crawl :: batch, rfl⟩

theorem validates_of_validate {t : World MemoryStore}
    (done : (validate org type user ids).run w = (.ok batch, t)) :
    w.store.crawls.Validates org type user ids := by
  induction ids generalizing batch t with
  | nil => exact List.forall_mem_nil _
  | cons id rest ih =>
    obtain ⟨crawl, mid, found, later⟩ := Attempt.run_bind_eq_ok_iff.1 done
    rw [run_getCrawl_eq] at found
    injection found with found same
    subst same
    obtain ⟨isThere, owner⟩ := MemoryStore.get?_of_lookUpCrawl found
    split at later
    · next other =>
      exact List.forall_mem_cons.2
        ⟨⟨crawl, isThere, owner, fun sameType => absurd sameType other⟩, ih later⟩
    · split at later
      · next allowed =>
        obtain ⟨others, after, rest, _⟩ := Attempt.run_bind_eq_ok_iff.1 later
        exact List.forall_mem_cons.2 ⟨⟨crawl, isThere, owner, fun _ => allowed⟩, ih rest⟩
      · exact nomatch later

/-- A deletion whose batch is not validated does nothing. -/
theorem run_deleteCrawls_of_invalid (services : Services)
    (invalid : ¬w.store.crawls.Validates org type user ids) :
    ∃ e, (deleteCrawls services org ids type user).run w = (.error e, w) := by
  obtain ⟨result, run, _⟩ := run_validated_eq (w := w) org ids type user trivial
  cases result with
  | error e =>
    refine ⟨e, ?_⟩
    rw [deleteCrawls_eq, Attempt.run_bind, run]
  | ok batch =>
    rw [validated] at run
    split at run
    · cases run
    · have valid := validates_of_validate run
      exact absurd (fun id mem => valid id (List.mem_eraseDups.2 mem)) invalid

/-! ## The batch -/

/-- Whether the crawls of a batch are there. -/
def HasBatch (batch : List Crawl) (w : World MemoryStore) : Prop :=
  ∀ crawl ∈ batch, (w.store.crawls.get? crawl.id).isSome = true

theorem succeeds_stopCrawl (comply : services.Comply) {crawl : Crawl} (mem : crawl ∈ batch) :
    Attempt.Succeeds (HasBatch batch) (stopCrawl services crawl) := by
  intro w isThere
  obtain ⟨answer, answers, ends⟩ := comply.stops w.trace crawl.id false
  rw [stopCrawl, Attempt.run_bind, run_ask, answers]
  dsimp only
  split
  · exact ⟨(), _, rfl, isThere⟩
  · next failed =>
    obtain ⟨stored, found⟩ := Option.isSome_iff_exists.1 (isThere crawl mem)
    have call : (AccountStore.onCrawls (.markCanceled crawl.id w.now)).run w.store = _ :=
      MemoryStore.run_onCrawls w.store _
    rw [CrawlTable.perform, Attempt.run_bind, CrawlTable.run_find, found] at call
    rw [if_pos (ends.resolve_left failed), Attempt.run_bind, Attempt.run_get]
    dsimp only
    rw [run_onCrawls, call]
    refine ⟨(), _, rfl, fun other among => ?_⟩
    show ((w.store.crawls.insert (stored.canceledAt w.now)).get? other.id).isSome = true
    rw [Register.get?_insert]
    split
    · rfl
    · exact isThere other among

theorem succeeds_deleteFile (comply : services.Comply) (org : Organization) (crawl : Crawl)
    (file : CrawlFile) :
    Attempt.Succeeds (HasBatch batch) (deleteFile services org crawl file) := by
  intro w isThere
  simp only [deleteFile, deleteMeanwhile, comply.alone, List.isEmpty_nil, if_true,
    Attempt.run_bind, Attempt.run_get, Attempt.run_pure, run_ask, comply.deletes, run_send]
  exact ⟨(), _, rfl, isThere⟩

/-- A batch whose crawls are there is reclaimed. -/
theorem run_reclaim_ok (comply : services.Comply) (org : Organization)
    (isThere : HasBatch batch w) : ∃ t, (reclaim services org batch).run w = (.ok (), t) := by
  have each : ∀ crawl ∈ batch,
      Attempt.Succeeds (HasBatch batch) (reclaimCrawl services org crawl) := by
    intro crawl mem
    have files : Attempt.Succeeds (HasBatch batch) (do
        crawl.files.forM (deleteFile services org crawl)
        send (.deleted ⟨org.id, crawl.id, crawl.type⟩)) := by
      refine .bind (.forM fun file _ => succeeds_deleteFile comply org crawl file) fun _ => ?_
      exact fun w isThere => ⟨(), _, rfl, isThere⟩
    rw [reclaimCrawl]
    split
    · exact (succeeds_stopCrawl comply mem).bind fun _ => files
    · exact files
  obtain ⟨_, t, run, _⟩ := Attempt.Succeeds.forM each w isThere
  refine ⟨t, ?_⟩
  rw [reclaim, Attempt.run_tryCatch, run]

/-! ## The whole -/

section AtCommit

variable {atCommit : World MemoryStore}

/-- The crawls at the last step are the listed ones, though some may be canceled. -/
theorem listed_of_reclaims (reclaims : Reclaims org.id batch [] w atCommit) (type : CrawlType)
    (ids : List String) :
    let left := atCommit.store.crawls.listed org.id type ids
    let removed := w.store.crawls.listed org.id type ids
    left.map (·.id) = removed.map (·.id) ∧
      Reclaimed.ofCrawls left = Reclaimed.ofCrawls removed := by
  intro left removed
  have canceled : left.map (·.canceledAt w.now) = removed.map (·.canceledAt w.now) := by
    simp only [left, removed, CrawlTable.listed, List.map_filterMap]
    apply List.filterMap_congr
    intro id _
    rw [map_canceledAt_listed reclaims, CrawlTable.spared_nil]
  constructor
  · have sameIds := congrArg (List.map (·.id)) canceled
    rw [List.map_map, List.map_map] at sameIds
    exact sameIds
  · rw [← Reclaimed.ofCrawls_canceled left w.now, canceled, Reclaimed.ofCrawls_canceled]

/-- The last step of a deletion, when nobody else has deleted crawls. -/
theorem run_commit_of_comply (comply : services.Comply)
    (reclaims : Reclaims org.id (w.store.crawls.listed org.id type ids) [] w atCommit)
    (found : w.store.orgs.get? org.id = some current) :
    let removed := w.store.crawls.listed org.id type ids
    ∃ t, (commit services org removed type).run atCommit
        = (.ok ⟨.ofNatCapped removed.length,
            (current.withoutCrawls type removed).storageQuotaReached⟩, t) ∧
      CarriesOut current type removed w t := by
  intro removed
  have foundAtCommit : atCommit.store.orgs.get? org.id = some current := by
    rw [reclaims.orgs, found]
  obtain ⟨rest, left, commits⟩ := run_commit_eq services reclaims foundAtCommit
  obtain ⟨sameIds, taken⟩ := listed_of_reclaims reclaims type ids
  have length := congrArg List.length sameIds
  rw [List.length_map, List.length_map] at length
  rw [taken, length] at commits
  let after : Organization := current.withoutCrawls type removed
  have foundAfter : ((atCommit.withCrawls rest).withOrg after).store.orgs.get? org.id
      = some after := by
    have named : after.id = org.id := (Register.id_of_get? found : current.id = org.id)
    rw [World.orgs_withOrg, Register.get?_insert, if_pos named.symm]
  have settles := run_settle_eq services (.ofNatCapped removed.length) (Reclaimed.ofCrawls removed)
    foundAfter
  dsimp only at settles
  rw [comply.hear_eq] at settles
  refine ⟨_, commits.trans settles, ?_, ?_⟩
  · have crawls : rest = (w.store.withoutCrawls current type removed).crawls := by
      apply Register.ext_get?
      intro id
      rw [left, MemoryStore.get?_withoutCrawls, sameIds]
      split
      · rfl
      · next stays =>
        rcases reclaims.crawls id with same | ⟨mem, _⟩
        · rw [same, CrawlTable.spared_nil]
        · exact absurd mem stays
    have orgs : atCommit.store.orgs.insert after = w.store.orgs.insert after := by
      rw [reclaims.orgs]
    exact congrArg₂ MemoryStore.mk orgs crawls
  · show (atCommit.trace ++ told removed).filter Event.isCorrection = _
    rw [List.filter_append, reclaims.corrections, filter_told]

end AtCommit

/-- A deletion whose batch is validated removes the listed crawls. -/
theorem run_deleteCrawls_of_valid (comply : services.Comply) (some_ : ids ≠ [])
    (found : w.store.orgs.get? org.id = some current)
    (valid : w.store.crawls.Validates org type user ids) :
    let removed := w.store.crawls.listed org.id type ids
    ∃ t, (deleteCrawls services org ids type user).run w
        = (.ok ⟨.ofNatCapped removed.length,
            (current.withoutCrawls type removed).storageQuotaReached⟩, t) ∧
      CarriesOut current type removed w t := by
  intro removed
  have validOnce : w.store.crawls.Validates org type user ids.eraseDups :=
    fun id mem => valid id (List.mem_eraseDups.1 mem)
  obtain ⟨batch, validates⟩ := run_validate_of_valid validOnce
  obtain ⟨_, isBatch⟩ := eq_of_validate validates
  have isBatch : batch = removed := isBatch
  have nonempty : ids.isEmpty = false := List.isEmpty_eq_false_iff.2 some_
  rw [deleteCrawls, nonempty, if_neg Bool.false_ne_true, Attempt.run_bind, validates]
  dsimp only
  have named : current.id = org.id := Register.id_of_get? found
  by_cases none_ : batch = []
  · have nothing : removed = [] := isBatch.symm.trans none_
    have kept : w.store.withoutCrawls current type [] = w.store :=
      MemoryStore.withoutCrawls_nil (by rw [named, found]) type
    rw [none_, List.isEmpty_nil, if_pos rfl, Attempt.run_bind, run_getOrg found, nothing,
      current.withoutCrawls_nil]
    exact ⟨w, rfl, kept.symm, (List.append_nil _).symm⟩
  · have isThere : HasBatch batch w := by
      intro crawl mem
      rw [isBatch] at mem
      rw [(CrawlTable.mem_listed.1 mem).2.1]
      rfl
    obtain ⟨atCommit, reclaimed⟩ := run_reclaim_ok comply org isThere
    have reclaims := reclaims_reclaim reclaimed
    have nobody : services.meanwhile batch = [] := by
      simp [ObjectService.meanwhile, comply.alone]
    rw [nobody, isBatch] at reclaims
    rw [List.isEmpty_eq_false_iff.2 none_, if_neg Bool.false_ne_true, Attempt.run_bind, reclaimed,
      isBatch]
    exact run_commit_of_comply comply reclaims found

end Action

end ArchiveAccounts
