import ArchiveAccounts.Proofs.Service.Accounted
import ArchiveAccounts.Proofs.Service.Failures

/-!
# Forbidden deletions

The right to delete is checked type by type: crawls are deleted before it is asked who may delete
the uploads. A deletion that is forbidden has therefore either done nothing at all, or it has
deleted all crawls of the list and failed at an upload. Main statement: `deleteAll_forbidden`; a run
in which a crawl is gone although the deletion is forbidden is `deleteAll_forbidden_afterCrawl`.
-/

namespace ArchiveAccounts
set_option autoImplicit false

open AccountStore Calendar LawfulStore

/-! ## What a deletion is about -/

/-- Whether an event is about one of some crawls of an organization. -/
def Event.IsAbout (orgId : String) (crawls : List Crawl) : Event → Prop
  | deleteObject owner filename =>
    owner = orgId ∧ ∃ crawl ∈ crawls, ∃ file ∈ crawl.files, filename = file.filename
  | stop id _ => ∃ crawl ∈ crawls, id = crawl.id
  | correctConfig config _ _ => ∃ crawl ∈ crawls, crawl.configId = some config
  | send (.replicaJob job) _ =>
    ∃ crawl ∈ crawls, ∃ file ∈ crawl.files, job = ⟨orgId, crawl.id, crawl.type, file⟩
  | send (.deleted notice) _ => ∃ crawl ∈ crawls, notice = ⟨orgId, crawl.id, crawl.type⟩
  | mintLink .. | addToCollection .. | removeFromCollection .. => False

section Generic

variable {σ : Type}

/-- Whether all that happened between two worlds is about some crawls of an organization. -/
def World.Concerns (orgId : String) (crawls : List Crawl) (w t : World σ) : Prop :=
  ∃ events, t.trace = w.trace ++ events ∧ ∀ event ∈ events, event.IsAbout orgId crawls

namespace World.Concerns

variable {orgId : String} {crawls : List Crawl} {w t : World σ}

theorem start (w : World σ) : World.Concerns orgId crawls w w :=
  ⟨[], (List.append_nil _).symm, nofun⟩

theorem record (h : World.Concerns orgId crawls w t) {event : Event}
    (about : event.IsAbout orgId crawls) :
    World.Concerns orgId crawls w { t with trace := t.trace ++ [event] } := by
  obtain ⟨events, trace, each⟩ := h
  refine ⟨events ++ [event], ?_, ?_⟩
  · rw [trace, List.append_assoc]
  · rw [List.forall_mem_append, List.forall_mem_singleton]
    exact ⟨each, about⟩

theorem trans {mid : World σ} (first : World.Concerns orgId crawls w mid)
    (later : World.Concerns orgId crawls mid t) : World.Concerns orgId crawls w t := by
  obtain ⟨events, reached, firsts⟩ := first
  obtain ⟨others, trace, laters⟩ := later
  refine ⟨events ++ others, ?_, List.forall_mem_append.2 ⟨firsts, laters⟩⟩
  rw [trace, reached, List.append_assoc]

/-- What is about some crawls is about more of them. -/
theorem mono (h : World.Concerns orgId crawls w t) {more : List Crawl}
    (subset : ∀ crawl ∈ crawls, crawl ∈ more) : World.Concerns orgId more w t := by
  obtain ⟨events, trace, each⟩ := h
  refine ⟨events, trace, fun event mem => ?_⟩
  have about := each event mem
  match event, about with
  | .deleteObject owner filename, ⟨mine, crawl, listed, rest⟩ =>
    exact ⟨mine, crawl, subset crawl listed, rest⟩
  | .stop id graceful, ⟨crawl, listed, rest⟩ => exact ⟨crawl, subset crawl listed, rest⟩
  | .correctConfig config size count, ⟨crawl, listed, rest⟩ =>
    exact ⟨crawl, subset crawl listed, rest⟩
  | .send (.replicaJob job) received, ⟨crawl, listed, rest⟩ =>
    exact ⟨crawl, subset crawl listed, rest⟩
  | .send (.deleted notice) received, ⟨crawl, listed, rest⟩ =>
    exact ⟨crawl, subset crawl listed, rest⟩

end World.Concerns

namespace Action

variable [AccountStore σ] {services : Services} {org : Organization} {batch : List Crawl}
  {w : World σ}

theorem concerns_stopCrawl {crawl : Crawl} (mem : crawl ∈ batch) :
    Attempt.Preserves (World.Concerns org.id batch w) (stopCrawl services crawl) := by
  refine .bind (fun t h => h.record ⟨crawl, mem, rfl⟩) fun answer => ?_
  refine .ite (fun _ => .pure _) fun _ => .ite (fun _ => .bind .get fun _ => ?_) fun _ => .throw _
  intro t h
  exact h

theorem concerns_deleteMeanwhile (ids : List String) (type : CrawlType) :
    Attempt.Preserves (World.Concerns org.id batch w) (deleteMeanwhile org ids type) := by
  refine .ite (fun _ => .pure _) fun _ => .tryCatch (.bind ?_ fun _ => .pure _) fun _ => .pure _
  intro t h
  exact h

theorem concerns_deleteFile {crawl : Crawl} {file : CrawlFile} (mem : crawl ∈ batch)
    (own : file ∈ crawl.files) :
    Attempt.Preserves (World.Concerns org.id batch w) (deleteFile services org crawl file) := by
  refine .bind .get fun before => ?_
  refine .bind (concerns_deleteMeanwhile _ _) fun _ => ?_
  refine .bind (concerns_deleteMeanwhile _ _) fun _ => ?_
  refine .bind (fun t h => h.record ⟨rfl, crawl, mem, file, own, rfl⟩) fun deleted => ?_
  exact .ite (fun _ t h => h.record ⟨crawl, mem, file, own, rfl⟩) fun _ => .throw _

theorem concerns_reclaim :
    Attempt.Preserves (World.Concerns org.id batch w) (reclaim services org batch) :=
  preserves_reclaim_of (fun _ mem _ _ => concerns_stopCrawl mem)
    (fun _ mem _ own => concerns_deleteFile mem own)
    (fun crawl mem _ h => h.record ⟨crawl, mem, rfl⟩) fun _ h => h

theorem concerns_commit (type : CrawlType) :
    Attempt.Preserves (World.Concerns org.id batch w) (commit services org batch type) := by
  refine .bind (fun t h => h) fun removed => ?_
  have settles : ∀ deleted : Counter, Attempt.Preserves (World.Concerns org.id batch w)
      (settle services org deleted
        (Reclaimed.ofCrawls (batch.filter fun crawl => removed.contains crawl.id))) := by
    intro deleted
    refine .bind (.forM fun entry mem => ?_) fun _ => .bind (fun t h => h) fun _ => ?_
    · have isThere := (Reclaimed.isThere_configs entry.1 _).1
        ⟨entry.2, SortedMap.mem_toList_iff.1 mem⟩
      obtain ⟨crawl, removed, own⟩ := Crawl.mem_configs.1 isThere
      refine .bind (fun t h => h.record ?_) fun _ => .ite (fun _ => .pure _) fun _ => .throw _
      exact ⟨crawl, List.mem_of_mem_filter removed, own⟩
    · exact .bind (fun t h => h) fun _ => .pure _
  exact .ite (fun _ => .bind (fun t h => h) fun _ => settles _) fun _ => settles _

/-- What a deletion does with a batch that is validated. -/
def carryOut (services : Services) (org : Organization) (type : CrawlType) (batch : List Crawl) :
    Action σ DeletionOutcome := do
  if batch.isEmpty then
    return { deleted := 0, storageQuotaReached := (← getOrg org.id).storageQuotaReached }
  reclaim services org batch
  commit services org batch type

theorem concerns_carryOut (type : CrawlType) :
    Attempt.Preserves (World.Concerns org.id batch w) (carryOut services org type batch) := by
  refine .ite (fun _ => .bind (fun t h => h) fun _ => .pure _) fun _ => ?_
  exact .bind concerns_reclaim fun _ => concerns_commit type

/-! ## The check of who may delete -/

/-- A user may delete each crawl of a batch that is validated. -/
theorem allowed_of_validate {type : CrawlType} {user : Option String} {ids : List String}
    {t : World σ} (valid : (validate org type user ids).run w = (.ok batch, t)) :
    ∀ crawl ∈ batch, org.allowsDeletion user crawl = true := by
  induction ids generalizing batch w t with
  | nil =>
    obtain ⟨rfl, _⟩ := Attempt.run_pure_eq_ok_iff.1 valid
    exact List.forall_mem_nil _
  | cons id rest ih =>
    obtain ⟨crawl, mid, _, later⟩ := Attempt.run_bind_eq_ok_iff.1 valid
    split at later
    · exact ih later
    · split at later
      · next allowed =>
        obtain ⟨others, mid, rest, done⟩ := Attempt.run_bind_eq_ok_iff.1 later
        obtain ⟨rfl, _⟩ := Attempt.run_pure_eq_ok_iff.1 done
        exact List.forall_mem_cons.2 ⟨allowed, ih rest⟩
      · exact nomatch later

section Checked

variable [LawfulStore σ] {type : CrawlType} {user : Option String} {ids : List String}

/-- A validation forbids a batch because of one crawl of it. -/
theorem eq_of_validate_forbidden [AllowingStore σ] {e : Failure} {t : World σ}
    (failed : (validate org type user ids).run w = (.error e, t))
    (forbidden : e.isForbidden = true) :
    t = w ∧ ∃ id ∈ ids, ∃ crawl, lookUpCrawl w.store org.id id = .ok crawl ∧ crawl.type = type ∧
      org.allowsDeletion user crawl = false := by
  induction ids generalizing e t with
  | nil => cases failed
  | cons id rest ih =>
    have later : ∀ {e : Failure} {t : World σ},
        (validate org type user rest).run w = (.error e, t) → e.isForbidden = true →
        t = w ∧ ∃ other ∈ id :: rest, ∃ crawl, lookUpCrawl w.store org.id other = .ok crawl ∧
          crawl.type = type ∧ org.allowsDeletion user crawl = false := by
      intro e t failed forbidden
      obtain ⟨same, other, mem, found⟩ := ih failed forbidden
      exact ⟨same, other, List.mem_cons_of_mem _ mem, found⟩
    rw [validate, Attempt.run_bind, run_getCrawl_eq] at failed
    cases found : lookUpCrawl w.store org.id id with
    | error absent =>
      rw [found] at failed
      injection failed with same
      have allowed : absent.isForbidden = false :=
        AllowingStore.onCrawls (.get org.id id) w.store absent found
      rw [← Except.error.inj same, allowed] at forbidden
      cases forbidden
    | ok crawl =>
      rw [found] at failed
      dsimp only at failed
      split at failed
      · exact later failed forbidden
      · next sameType =>
        split at failed
        · rw [Attempt.run_bind] at failed
          split at failed
          · cases failed
          · next run =>
            injection failed with same after
            rw [Except.error.inj same, after] at run
            exact later run forbidden
        · next refused =>
          injection failed with _ after
          exact ⟨after.symm, id, List.mem_cons_self, crawl, found, not_not.1 sameType,
            Bool.eq_false_iff.2 refused⟩

/-- A batch whose crawls are all there is forbidden because of each of them. -/
theorem run_validate_forbidden
    (found : ∀ id ∈ ids, ∃ crawl, lookUpCrawl w.store org.id id = .ok crawl)
    (refused : ∃ id ∈ ids, ∃ crawl, lookUpCrawl w.store org.id id = .ok crawl ∧
      crawl.type = type ∧ org.allowsDeletion user crawl = false) :
    (validate org type user ids).run w = (.error (.forbidden "not_allowed"), w) := by
  induction ids with
  | nil =>
    obtain ⟨_, none_, _⟩ := refused
    exact nomatch none_
  | cons id rest ih =>
    obtain ⟨⟨crawl, isThere⟩, others⟩ := List.forall_mem_cons.1 found
    obtain ⟨other, mem, theOther, otherThere, sameType, notAllowed⟩ := refused
    rw [validate, Attempt.run_bind, run_getCrawl_eq, isThere]
    dsimp only
    rcases List.mem_cons.1 mem with same | mem
    · rw [same, isThere] at otherThere
      obtain rfl : crawl = theOther := Except.ok.inj otherThere
      rw [if_neg (not_not.2 sameType), notAllowed]
      rfl
    · have later := ih others ⟨other, mem, theOther, otherThere, sameType, notAllowed⟩
      split
      · exact later
      · split
        · rw [Attempt.run_bind, later]
        · rfl

/-- A deletion is forbidden before it has done anything. -/
theorem eq_of_deleteCrawls_forbidden [AllowingStore σ] (allow : services.Allow) {e : Failure}
    {t : World σ} (failed : (deleteCrawls services org ids type user).run w = (.error e, t))
    (forbidden : e.isForbidden = true) :
    t = w ∧ ∃ id ∈ ids, ∃ crawl, lookUpCrawl w.store org.id id = .ok crawl ∧ crawl.type = type ∧
      org.allowsDeletion user crawl = false := by
  rw [deleteCrawls] at failed
  split at failed
  · injection failed with same
    rw [← Except.error.inj same] at forbidden
    cases forbidden
  · rw [Attempt.run_bind] at failed
    split at failed
    · next batch mid _ =>
      have later : Attempt.Allows (carryOut services org type batch : Action σ _) := by
        refine .ite (.bind (allows_onOrgs _) fun _ => .pure _) ?_
        exact .bind (allows_reclaim allow org batch) fun _ => allows_commit allow org batch type
      rw [later mid e (congrArg Prod.fst failed)] at forbidden
      cases forbidden
    · next run =>
      injection failed with same after
      rw [Except.error.inj same, after] at run
      obtain ⟨unchanged, id, mem, found⟩ := eq_of_validate_forbidden run forbidden
      exact ⟨unchanged, id, List.mem_eraseDups.1 mem, found⟩

/-- A deletion of crawls that are all there is forbidden because of each of them. -/
theorem run_deleteCrawls_forbidden
    (found : ∀ id ∈ ids, ∃ crawl, lookUpCrawl w.store org.id id = .ok crawl)
    (refused : ∃ id ∈ ids, ∃ crawl, lookUpCrawl w.store org.id id = .ok crawl ∧
      crawl.type = type ∧ org.allowsDeletion user crawl = false) :
    (deleteCrawls services org ids type user).run w = (.error (.forbidden "not_allowed"), w) := by
  have some_ : ids.isEmpty = false := by
    obtain ⟨id, mem, _⟩ := refused
    exact List.isEmpty_eq_false_iff.2 (List.ne_nil_of_mem mem)
  have forbidden : (validate org type user ids.eraseDups).run w = _ :=
    run_validate_forbidden (fun id mem => found id (List.mem_eraseDups.1 mem)) (by
      obtain ⟨id, mem, crawl⟩ := refused
      exact ⟨id, List.mem_eraseDups.2 mem, crawl⟩)
  rw [deleteCrawls, some_, if_neg Bool.false_ne_true, Attempt.run_bind, forbidden]

/-- A deletion that succeeds is about crawls of its list. -/
theorem concerns_deleteCrawls {outcome : DeletionOutcome} {t : World σ} (sound : IsSound w.store)
    (done : (deleteCrawls services org ids type user).run w = (.ok outcome, t)) :
    ∃ batch : List Crawl, World.Concerns org.id batch w t ∧ ∀ crawl ∈ batch,
      crawl.id ∈ ids ∧ crawl.type = type ∧ lookUpCrawl w.store org.id crawl.id = .ok crawl := by
  rw [deleteCrawls] at done
  split at done
  · cases done
  · obtain ⟨batch, mid, valid, later⟩ := Attempt.run_bind_eq_ok_iff.1 done
    obtain ⟨result, run, spec⟩ := run_validate_eq org type user ids.eraseDups sound
    rw [run] at valid
    injection valid with isBatch unchanged
    subst unchanged
    have later : (carryOut services org type batch).run w = (.ok outcome, t) := later
    have after : World.Concerns org.id batch w ((carryOut services org type batch).run w).2 :=
      concerns_carryOut type w (.start w)
    rw [later] at after
    refine ⟨batch, after, fun crawl mem => ?_⟩
    obtain ⟨listed, facts⟩ := spec batch isBatch crawl mem
    exact ⟨List.mem_eraseDups.1 listed, facts⟩

end Checked

end Action

/-! ## Crawls and uploads -/

section Lists

variable {α β : Type} {f : α → Except Failure β}

/-- A list whose items all have a value. -/
theorem mem_of_mapM_ok {items : List α} {values : List β} (done : items.mapM f = .ok values) :
    (∀ a ∈ items, ∃ b ∈ values, f a = .ok b) ∧ ∀ b ∈ values, ∃ a ∈ items, f a = .ok b := by
  induction items generalizing values with
  | nil =>
    obtain rfl : [] = values := Except.ok.inj done
    exact ⟨nofun, nofun⟩
  | cons a items ih =>
    rw [List.mapM_cons] at done
    cases first : f a with
    | error e =>
      rw [first] at done
      exact nomatch done
    | ok b =>
      cases rest : items.mapM f with
      | error e =>
        rw [first, rest] at done
        exact nomatch done
      | ok others =>
        rw [first, rest] at done
        obtain rfl : b :: others = values := Except.ok.inj done
        obtain ⟨each, back⟩ := ih rest
        constructor
        · rw [List.forall_mem_cons]
          refine ⟨⟨b, List.mem_cons_self, first⟩, fun item mem => ?_⟩
          obtain ⟨value, among, is⟩ := each item mem
          exact ⟨value, List.mem_cons_of_mem _ among, is⟩
        · rw [List.forall_mem_cons]
          refine ⟨⟨a, List.mem_cons_self, first⟩, fun value mem => ?_⟩
          obtain ⟨item, among, is⟩ := back value mem
          exact ⟨item, List.mem_cons_of_mem _ among, is⟩

end Lists

/-- The ids of the crawls of a type. -/
def Crawl.idsOf (type : CrawlType) (crawls : List Crawl) : List String :=
  (crawls.filter fun crawl => crawl.type == type).map (·.id)

theorem Crawl.mem_idsOf {type : CrawlType} {crawls : List Crawl} {id : String} :
    id ∈ Crawl.idsOf type crawls ↔ ∃ crawl ∈ crawls, crawl.type = type ∧ crawl.id = id := by
  simp only [Crawl.idsOf, List.mem_map, List.mem_filter, beq_iff_eq, and_assoc]

section Parts

variable [AccountStore σ] {services : Services} {org : Organization}
  {user : Option String} {ids : List String} {w t : World σ}

namespace Action

/-- What a deletion of crawls and uploads does with those that it has found. -/
def deleteFound (services : Services) (org : Organization) (user : Option String)
    (found : List Crawl) : Action σ DeletionOutcome := do
  if found.isEmpty then throw .nothingToDelete
  let crawls ← deletePart services org (Crawl.idsOf .crawl found) .crawl user {}
  let all ← deletePart services org (Crawl.idsOf .upload found) .upload user crawls
  if all.deleted = 0 then throw .crawlNotFound else return all

theorem deleteAll_eq :
    (deleteAll services org ids user : Action σ DeletionOutcome)
      = ids.mapM (getCrawl org.id) >>= deleteFound services org user :=
  rfl

/-- A part of a deletion does what a deletion of its ids does, if there are any. -/
theorem deletePart_eq (type : CrawlType) (soFar : DeletionOutcome) :
    (deletePart services org ids type user soFar : Action σ DeletionOutcome) =
      if ids = [] then pure soFar
      else do
        let part ← deleteCrawls services org ids type user
        return { part with deleted := soFar.deleted + part.deleted } := by
  cases ids <;> rfl

/-- A part that succeeds has deleted its ids, if there are any. -/
theorem deletes_of_deletePart {type : CrawlType} {soFar outcome : DeletionOutcome}
    (done : (deletePart services org ids type user soFar).run w = (.ok outcome, t)) :
    (ids = [] ∧ t = w) ∨
      ∃ outcome, (deleteCrawls services org ids type user).run w = (.ok outcome, t) := by
  rw [deletePart_eq] at done
  split at done
  · next none_ => exact .inl ⟨none_, (Attempt.run_pure_eq_ok_iff.1 done).2⟩
  · obtain ⟨part, mid, deleted, later⟩ := Attempt.run_bind_eq_ok_iff.1 done
    obtain ⟨_, rfl⟩ := Attempt.run_pure_eq_ok_iff.1 later
    exact .inr ⟨part, deleted⟩

/-- A deletion of the crawls of a type that succeeds has some to delete. -/
theorem exists_of_deletes {type : CrawlType} {found : List Crawl} {outcome : DeletionOutcome}
    (deletes : (deleteCrawls services org (Crawl.idsOf type found) type user).run w
      = (.ok outcome, t)) :
    ∃ crawl ∈ found, crawl.type = type := by
  cases listed : Crawl.idsOf type found with
  | nil =>
    rw [listed] at deletes
    exact nomatch deletes
  | cons id rest =>
    have mem : id ∈ Crawl.idsOf type found := by
      rw [listed]
      exact List.mem_cons_self
    obtain ⟨crawl, among, sameType, _⟩ := Crawl.mem_idsOf.1 mem
    exact ⟨crawl, among, sameType⟩

end Action

variable [LawfulStore σ]

/-- What is left of a deletion that is forbidden because of an upload when there were crawls to
delete: these were all deleted, as if they alone had been asked for, and nothing else was done. -/
structure DeletesCrawlsOnly (services : Services) (org : Organization) (found : List Crawl)
    (user : Option String) (w t : World σ) : Prop where
  allowed : ∀ crawl ∈ found, crawl.type = .crawl → org.allowsDeletion user crawl = true
  deletes : ∃ outcome,
    (Action.deleteCrawls services org (Crawl.idsOf .crawl found) .crawl user).run w
      = (.ok outcome, t)
  forbidden : ∃ id ∈ Crawl.idsOf .upload found, ∃ upload,
    lookUpCrawl t.store org.id id = .ok upload ∧ upload.type = .upload ∧
      org.allowsDeletion user upload = false
  concerns : World.Concerns org.id (found.filter fun crawl => crawl.type == .crawl) w t

/-- What can be said of a deletion of crawls and uploads that is forbidden. -/
structure ForbidsSafely (services : Services) (org : Organization) (ids : List String)
    (user : Option String) (w : World σ) : Prop where
  /-- One that is forbidden has done nothing, or deleted the crawls only. -/
  partly : ∀ reason t,
    (Action.deleteAll services org ids user).run w = (.error (.forbidden reason), t) →
    ∃ found, ids.mapM (lookUpCrawl w.store org.id) = .ok found ∧
      (t = w ∨ ((∃ crawl ∈ found, crawl.type = .crawl) ∧
        DeletesCrawlsOnly services org found user w t))
  /-- One with a crawl that the user may not delete, or with uploads only, is forbidden as a
  whole. -/
  refused : ∀ found, ids.mapM (lookUpCrawl w.store org.id) = .ok found →
    (∃ crawl ∈ found, org.allowsDeletion user crawl = false ∧
      (crawl.type = .crawl ∨ ∀ other ∈ found, other.type = .upload)) →
    (Action.deleteAll services org ids user).run w = (.error (.forbidden "not_allowed"), w)

namespace Action

/-- Crawls are looked up one after the other, which changes nothing. -/
theorem run_mapM_getCrawl (orgId : String) (ids : List String) (w : World σ) :
    (ids.mapM (getCrawl orgId)).run w = (ids.mapM (lookUpCrawl w.store orgId), w) := by
  induction ids with
  | nil => rfl
  | cons id ids ih =>
    rw [List.mapM_cons, List.mapM_cons, Attempt.run_bind, run_getCrawl_eq]
    cases lookUpCrawl w.store orgId id with
    | error e => rfl
    | ok crawl =>
      dsimp only
      rw [Attempt.run_bind, ih]
      cases ids.mapM (lookUpCrawl w.store orgId) <;> rfl

/-- A part is forbidden before it has done anything. -/
theorem eq_of_deletePart_forbidden [AllowingStore σ] (allow : services.Allow) {type : CrawlType}
    {soFar : DeletionOutcome} {e : Failure}
    (failed : (deletePart services org ids type user soFar).run w = (.error e, t))
    (forbidden : e.isForbidden = true) :
    t = w ∧ ∃ id ∈ ids, ∃ crawl, lookUpCrawl w.store org.id id = .ok crawl ∧ crawl.type = type ∧
      org.allowsDeletion user crawl = false := by
  rw [deletePart_eq] at failed
  split at failed
  · exact nomatch failed
  · rw [Attempt.run_bind] at failed
    split at failed
    · exact nomatch failed
    · next run =>
      injection failed with same after
      rw [Except.error.inj same, after] at run
      exact eq_of_deleteCrawls_forbidden allow run forbidden

theorem run_deletePart_forbidden {type : CrawlType} {soFar : DeletionOutcome}
    (found : ∀ id ∈ ids, ∃ crawl, lookUpCrawl w.store org.id id = .ok crawl)
    (refused : ∃ id ∈ ids, ∃ crawl, lookUpCrawl w.store org.id id = .ok crawl ∧
      crawl.type = type ∧ org.allowsDeletion user crawl = false) :
    (deletePart services org ids type user soFar).run w
      = (.error (.forbidden "not_allowed"), w) := by
  have some_ : ids ≠ [] := by
    obtain ⟨id, mem, _⟩ := refused
    exact List.ne_nil_of_mem mem
  rw [deletePart_eq, if_neg some_, Attempt.run_bind, run_deleteCrawls_forbidden found refused]

end Action

/-- The crawls that are found are there under their ids. -/
theorem lookUp_of_found {found : List Crawl} (sound : IsSound w.store)
    (finds : ids.mapM (lookUpCrawl w.store org.id) = .ok found) :
    ∀ crawl ∈ found, lookUpCrawl w.store org.id crawl.id = .ok crawl := by
  intro crawl mem
  obtain ⟨id, _, isThere⟩ := (mem_of_mapM_ok finds).2 crawl mem
  rw [LawfulStore.named w.store org.id id crawl sound isThere]
  exact isThere

/-- The crawls are refused before anything is done. -/
theorem run_deleteFound_forbidden {found : List Crawl}
    (isThere : ∀ crawl ∈ found, lookUpCrawl w.store org.id crawl.id = .ok crawl)
    (refused : ∃ crawl ∈ found, org.allowsDeletion user crawl = false ∧
      (crawl.type = .crawl ∨ ∀ other ∈ found, other.type = .upload)) :
    (Action.deleteFound services org user found).run w
      = (.error (.forbidden "not_allowed"), w) := by
  have some_ : found.isEmpty = false := by
    obtain ⟨crawl, mem, _⟩ := refused
    exact List.isEmpty_eq_false_iff.2 (List.ne_nil_of_mem mem)
  have each : ∀ type, ∀ id ∈ Crawl.idsOf type found,
      ∃ crawl, lookUpCrawl w.store org.id id = .ok crawl := by
    intro type id listed
    obtain ⟨crawl, mem, _, rfl⟩ := Crawl.mem_idsOf.1 listed
    exact ⟨crawl, isThere crawl mem⟩
  obtain ⟨crawl, mem, notAllowed, first⟩ := refused
  have part : ∀ {type soFar}, crawl.type = type →
      (Action.deletePart services org (Crawl.idsOf type found) type user soFar).run w
        = (.error (.forbidden "not_allowed"), w) := fun sameType =>
    Action.run_deletePart_forbidden (each _) ⟨crawl.id,
      Crawl.mem_idsOf.2 ⟨crawl, mem, sameType, rfl⟩, crawl, isThere crawl mem, sameType, notAllowed⟩
  rw [Action.deleteFound, some_, if_neg Bool.false_ne_true, Attempt.run_bind]
  rcases first with isCrawl | uploads
  · rw [part isCrawl]
  · have none_ : Crawl.idsOf .crawl found = [] := by
      rw [List.eq_nil_iff_forall_not_mem]
      intro id listed
      obtain ⟨other, among, isCrawl, _⟩ := Crawl.mem_idsOf.1 listed
      rw [uploads other among] at isCrawl
      exact nomatch isCrawl
    rw [none_, Action.deletePart_eq, if_pos rfl]
    show ((Action.deletePart services org (Crawl.idsOf .upload found) .upload user {} >>= _ :
      Action σ DeletionOutcome).run w) = _
    rw [Attempt.run_bind, part (uploads crawl mem)]

/-- A deletion of crawls that are there is forbidden before it has done anything or because of an
upload, when the crawls are deleted. -/
theorem deletesCrawlsOnly_of_forbidden [AllowingStore σ] (allow : services.Allow)
    {found : List Crawl} {reason : String} (sound : IsSound w.store)
    (isThere : ∀ crawl ∈ found, lookUpCrawl w.store org.id crawl.id = .ok crawl)
    (failed : (Action.deleteFound services org user found).run w
      = (.error (.forbidden reason), t)) :
    t = w ∨ ((∃ crawl ∈ found, crawl.type = .crawl) ∧
      DeletesCrawlsOnly services org found user w t) := by
  by_cases refused : ∃ crawl ∈ found, org.allowsDeletion user crawl = false ∧ crawl.type = .crawl
  · obtain ⟨crawl, mem, notAllowed, isCrawl⟩ := refused
    rw [run_deleteFound_forbidden isThere ⟨crawl, mem, notAllowed, .inl isCrawl⟩] at failed
    injection failed with _ same
    exact .inl same.symm
  · have allowed : ∀ crawl ∈ found, crawl.type = .crawl → org.allowsDeletion user crawl = true := by
      intro crawl mem isCrawl
      by_contra notAllowed
      exact refused ⟨crawl, mem, Bool.eq_false_iff.2 notAllowed, isCrawl⟩
    rw [Action.deleteFound] at failed
    split at failed
    · exact nomatch failed
    · rw [Attempt.run_bind] at failed
      split at failed
      · next crawls mid done =>
        rw [Attempt.run_bind] at failed
        split at failed
        · split at failed
          · exact nomatch failed
          · exact nomatch failed
        · next run =>
          injection failed with same after
          rw [Except.error.inj same, after] at run
          obtain ⟨rfl, forbidden⟩ := Action.eq_of_deletePart_forbidden allow run rfl
          rcases Action.deletes_of_deletePart done with ⟨_, unchanged⟩ | ⟨outcome, deletes⟩
          · exact .inl unchanged
          · obtain ⟨batch, concerns, listed⟩ := Action.concerns_deleteCrawls sound deletes
            have listedCrawls : ∀ crawl ∈ batch,
                crawl ∈ found.filter fun crawl => crawl.type == .crawl := by
              intro crawl mem
              obtain ⟨inIds, isCrawl, crawlThere⟩ := listed crawl mem
              obtain ⟨other, among, _, sameId⟩ := Crawl.mem_idsOf.1 inIds
              have otherThere := isThere other among
              rw [sameId, crawlThere] at otherThere
              rw [Except.ok.inj otherThere, List.mem_filter]
              exact ⟨among, by rw [← Except.ok.inj otherThere, isCrawl]; rfl⟩
            refine .inr ⟨?_, allowed, ⟨outcome, deletes⟩, forbidden, concerns.mono listedCrawls⟩
            exact Action.exists_of_deletes deletes
      · next run =>
        injection failed with same after
        rw [Except.error.inj same, after] at run
        exact .inl (Action.eq_of_deletePart_forbidden allow run rfl).1

theorem forbidsSafely [AllowingStore σ] (allow : services.Allow) (org : Organization)
    (ids : List String) (user : Option String) (sound : IsSound w.store) :
    ForbidsSafely services org ids user w := by
  constructor
  · intro reason t failed
    rw [Action.deleteAll_eq, Attempt.run_bind, Action.run_mapM_getCrawl] at failed
    cases finds : ids.mapM (lookUpCrawl w.store org.id) with
    | error e =>
      rw [finds] at failed
      injection failed with same
      have allows : Attempt.Allows (ids.mapM (Action.getCrawl org.id) : Action σ _) :=
        .mapM fun id => Action.allows_onCrawls (.get org.id id)
      have allowed := allows w e (by rw [Action.run_mapM_getCrawl, finds])
      rw [Except.error.inj same] at allowed
      exact nomatch allowed
    | ok found =>
      rw [finds] at failed
      have isThere := lookUp_of_found sound finds
      exact ⟨found, rfl, deletesCrawlsOnly_of_forbidden allow sound isThere failed⟩
  · intro found finds refused
    rw [Action.deleteAll_eq, Attempt.run_bind, Action.run_mapM_getCrawl, finds]
    exact run_deleteFound_forbidden (lookUp_of_found sound finds) refused

end Parts

end Generic

/-! ## The store in memory -/

/-- The last step of a deletion leaves what its removal leaves. -/
theorem Action.crawls_of_commit {services : Services} {org : Organization} {batch : List Crawl}
    {type : CrawlType} {w t : World MemoryStore} {outcome : DeletionOutcome}
    (done : (commit services org batch type).run w = (.ok outcome, t)) :
    ∃ removed, CrawlTable.Deletes org.id type (batch.map (·.id)) w.store.crawls removed
      t.store.crawls := by
  obtain ⟨removed, rest, removes, deletes⟩ := run_onCrawls_delete w org.id (batch.map (·.id)) type
  rw [commit, Attempt.run_bind, removes] at done
  have left : t.store.crawls = rest := by
    dsimp only at done
    split at done
    · obtain ⟨_, mid, shifted, settled⟩ := Attempt.run_bind_eq_ok_iff.1 done
      obtain ⟨_, _, same, _⟩ := run_settle settled
      rw [run_onOrgs] at shifted
      injection shifted with _ isMid
      rw [same, ← isMid]
      exact MemoryStore.crawls_onOrgs _ _
    · obtain ⟨_, _, same, _⟩ := run_settle done
      rw [same]
      rfl
  rw [left]
  exact ⟨removed, deletes⟩

/-- A deletion that succeeds keeps what is not one of its type, if nobody else deletes crawls. -/
theorem Action.get?_of_deleteCrawls {services : Services}
    (alone : ∀ file, services.overlapping file = []) {org : Organization} {ids : List String}
    {type : CrawlType} {user : Option String} {w t : World MemoryStore} {outcome : DeletionOutcome}
    (done : (deleteCrawls services org ids type user).run w = (.ok outcome, t)) {id : String}
    (other : w.store.crawls.holds org.id type id = false) :
    t.store.crawls.get? id = w.store.crawls.get? id := by
  rw [deleteCrawls] at done
  split at done
  · cases done
  · obtain ⟨batch, mid, validates, later⟩ := Attempt.run_bind_eq_ok_iff.1 done
    obtain ⟨rfl, isBatch⟩ := eq_of_validate validates
    split at later
    · obtain ⟨_, after, lookUp, answer⟩ := Attempt.run_bind_eq_ok_iff.1 later
      obtain ⟨_, rfl⟩ := get?_of_getOrg lookUp
      obtain ⟨_, rfl⟩ := Attempt.run_pure_eq_ok_iff.1 answer
      rfl
    · obtain ⟨_, atCommit, reclaimed, committed⟩ := Attempt.run_bind_eq_ok_iff.1 later
      have kept : atCommit.store.crawls.get? id = mid.store.crawls.get? id := by
        have nobody : services.meanwhile batch = [] := by
          simp [ObjectService.meanwhile, alone]
        have spared := (reclaims_reclaim reclaimed).crawls id
        rw [nobody, CrawlTable.spared_nil] at spared
        rcases spared with same | ⟨listed, _⟩
        · exact same
        · have isListed : batch = mid.store.crawls.listed org.id type ids := isBatch
          rw [isListed, CrawlTable.mem_map_id_listed, other] at listed
          cases listed.2
      obtain ⟨removed, deletes⟩ := crawls_of_commit committed
      have notRemoved : id ∉ removed := by
        intro mem
        have stillThere := ((deletes.mem_removed id).1 mem).2
        rw [CrawlTable.holds, kept, ← CrawlTable.holds, other] at stillThere
        cases stillThere
      rw [deletes.get?_rest, if_neg notRemoved, kept]

/-- What is not a crawl of the organization stays as it is when a deletion of crawls and uploads is
forbidden. -/
theorem get?_of_deleteAll_forbidden {services : Services}
    (alone : ∀ file, services.overlapping file = []) {org : Organization} {ids : List String}
    {user : Option String} {w t : World MemoryStore}
    (forbids : ForbidsSafely services org ids user w) {reason : String}
    (failed : (Action.deleteAll services org ids user).run w = (.error (.forbidden reason), t))
    {id : String} (other : w.store.crawls.holds org.id .crawl id = false) :
    t.store.crawls.get? id = w.store.crawls.get? id := by
  obtain ⟨found, _, same | ⟨_, crawlsOnly⟩⟩ := forbids.partly reason t failed
  · rw [same]
  · obtain ⟨outcome, deletes⟩ := crawlsOnly.deletes
    exact Action.get?_of_deleteCrawls alone deletes other

/-- A deletion of crawls and uploads that is forbidden has done nothing, or it has deleted the
crawls of its list and nothing else. This is so on every store in memory and on every relational
store that calls come to, if no collaborator says that something is forbidden. -/
theorem deleteAll_forbidden {services : Services} (allow : services.Allow) (org : Organization)
    (ids : List String) (user : Option String) :
    (∀ w : World MemoryStore, ForbidsSafely services org ids user w ∧
      ((∀ file, services.overlapping file = []) → ∀ reason t,
        (Action.deleteAll services org ids user).run w = (.error (.forbidden reason), t) →
        ∀ id, w.store.crawls.holds org.id .crawl id = false →
          t.store.crawls.get? id = w.store.crawls.get? id)) ∧
      ∀ (calls : List StoreCall) (w : World RelationalStore), w.store = afterCalls calls {} →
        ForbidsSafely services org ids user w := by
  constructor
  · intro w
    have forbids := forbidsSafely (w := w) allow org ids user trivial
    refine ⟨forbids, fun alone reason t failed id other => ?_⟩
    exact get?_of_deleteAll_forbidden alone forbids failed other
  · intro calls w reached
    have sound : RelationalStore.NamesRows w.store := by
      rw [reached]
      exact RelationalStore.namesRows_afterCalls calls RelationalStore.namesRows_empty
    exact forbidsSafely allow org ids user sound

/-- An upload of one user and a crawl of another. -/
def mixedCrawls : List Crawl :=
  [{ id := "b", orgId := "org-1", userId := some "beth", type := .upload, state := .complete,
      files := [{ filename := "f", size := 300 }], finished := some (.ofSeconds 1714467600) },
    { id := "c", orgId := "org-1", userId := some "carl", configId := some "z", type := .crawl,
      state := .complete, files := [{ filename := "g", size := 1000 }],
      finished := some (.ofSeconds 1714467600) }]

/-- The calls that bring the organization, the upload and the crawl. -/
def bringMixed : List StoreCall :=
  .onOrgs (.insert { id := "org-1" }) :: mixedCrawls.map fun crawl => .onCrawls (.insert crawl)

/-- Collaborators that do as they are told. -/
def compliant : Services where
  deleteObject _ _ _ _ := .ok true
  mintLink _ _ _ _ _ := .ok "https://link"
  stop _ _ _ := .ok ⟨true, none⟩
  correctConfig _ _ _ _ := .ok true

theorem deleteAll_forbidden_mixed :
    let now := Moment.ofSeconds 1714564800
    let w : World MemoryStore := { store := afterCalls bringMixed {}, now }
    let rows : World RelationalStore := { store := afterCalls bringMixed {}, now }
    (∃ t, (Action.deleteAll compliant { id := "org-1" } ["b", "c"] (some "carl")).run w
        = (.error (.forbidden "not_allowed"), t) ∧
      DeletesCrawlsOnly compliant { id := "org-1" } mixedCrawls (some "carl") w t ∧
      t.store.crawls.get? "b" = mixedCrawls.head?) ∧
    (Action.deleteAll compliant { id := "org-1" } ["b", "c"] (some "beth")).run w
      = (.error (.forbidden "not_allowed"), w) ∧
    ForbidsSafely compliant { id := "org-1" } ["b", "c"] (some "beth") rows := by
  intro now w rows
  have allow : compliant.Allow := by
    constructor <;> (intros; contradiction)
  have lookUps : ["b", "c"].mapM (lookUpCrawl w.store "org-1") = .ok mixedCrawls := by decide +kernel
  obtain ⟨carl, _⟩ := deleteAll_forbidden allow { id := "org-1" } ["b", "c"] (some "carl")
  obtain ⟨beth, inRows⟩ := deleteAll_forbidden allow { id := "org-1" } ["b", "c"] (some "beth")
  refine ⟨?_, (beth w).1.refused mixedCrawls lookUps (by decide +kernel),
    inRows bringMixed rows rfl⟩
  rcases run : (Action.deleteAll compliant { id := "org-1" } ["b", "c"] (some "carl")).run w
    with ⟨result, t⟩
  have answer : ((Action.deleteAll compliant { id := "org-1" } ["b", "c"] (some "carl")).run w).1
      = .error (.forbidden "not_allowed") := by
    decide +kernel
  have happened : ((Action.deleteAll compliant { id := "org-1" } ["b", "c"] (some "carl")).run
      w).2.trace ≠ [] := by
    decide +kernel
  rw [run] at answer happened
  obtain rfl : result = .error (.forbidden "not_allowed") := answer
  obtain ⟨forbids, keeps⟩ := carl w
  refine ⟨t, rfl, ?_, ?_⟩
  · obtain ⟨found, finds, same | ⟨_, crawlsOnly⟩⟩ := forbids.partly "not_allowed" t run
    · rw [same] at happened
      exact absurd rfl happened
    · rw [Except.ok.inj (lookUps.symm.trans finds)]
      exact crawlsOnly
  · exact (keeps (fun _ => rfl) "not_allowed" t run "b" (by decide +kernel)).trans
      (by decide +kernel)

/-- A crawl is removed, its object and its copies are deleted and its config is corrected, though
the deletion is forbidden. -/
theorem deleteAll_forbidden_afterCrawl :
    let w : World MemoryStore := { store := afterCalls bringMixed {}, now := .ofSeconds 1714564800 }
    let ran := (Action.deleteAll compliant { id := "org-1" } ["b", "c"] (some "carl")).run w
    ran.1 = .error (.forbidden "not_allowed") ∧
      (w.store.crawls.get? "c").isSome = true ∧ ran.2.store.crawls.get? "c" = none ∧
      ran.2.trace = [.deleteObject "org-1" "g",
        .send (.replicaJob ⟨"org-1", "c", .crawl, { filename := "g", size := 1000 }⟩) true,
        .send (.deleted ⟨"org-1", "c", .crawl⟩) true,
        .correctConfig "z" (-1000) (-1)] := by
  decide +kernel

end ArchiveAccounts
