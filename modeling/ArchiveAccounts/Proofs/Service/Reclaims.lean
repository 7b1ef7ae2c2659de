import ArchiveAccounts.Proofs.Service.Calls
import ArchiveAccounts.Proofs.Service.GivenUp
import ArchiveAccounts.Proofs.Service.Success

/-!
# Batches that are reclaimed

What is left in memory when the crawls of a batch were stopped and their files deleted, while others
deleted crawls of the same organization. Main statement: `reclaims_reclaim`.
-/

namespace ArchiveAccounts
set_option autoImplicit false

open Calendar

/-- Whether a crawl is one of an organization and a type. -/
def Crawl.isOf (orgId : String) (type : CrawlType) (crawl : Crawl) : Bool :=
  crawl.orgId == orgId && crawl.type == type

namespace CrawlTable

/-- The crawls of an organization and a type among the ids. -/
def listed (table : CrawlTable) (orgId : String) (type : CrawlType) (ids : List String) :
    List Crawl :=
  ids.eraseDups.filterMap fun id => (table.get? id).filter (Crawl.isOf orgId type)

theorem holds_eq (table : CrawlTable) (orgId : String) (type : CrawlType) (id : String) :
    table.holds orgId type id = (table.get? id).any (Crawl.isOf orgId type) :=
  rfl

/-- What is under an id when some crawls of an organization are gone. -/
def spared (table : CrawlTable) (orgId : String) (gone : List String) (id : String) :
    Option Crawl :=
  (table.get? id).filter fun crawl => !(crawl.orgId == orgId && gone.contains id)

theorem filter_spared (table : CrawlTable) (orgId : String) (gone more : List String)
    (id : String) :
    (table.spared orgId gone id).filter (fun crawl => !(crawl.orgId == orgId && more.contains id))
      = table.spared orgId (gone ++ more) id := by
  rw [spared, spared, Option.filter_filter]
  congr 1
  funext crawl
  rw [List.contains_append]
  cases crawl.orgId == orgId <;> cases gone.contains id <;> cases more.contains id <;> rfl

theorem spared_nil (table : CrawlTable) (orgId id : String) :
    table.spared orgId [] id = table.get? id := by
  rw [spared]
  cases table.get? id <;> simp [Option.filter]

end CrawlTable

/-- The crawls that others delete while the files of a batch are deleted. -/
def ObjectService.meanwhile (services : ObjectService) (batch : List Crawl) : List String :=
  batch.flatMap fun crawl => crawl.files.flatMap services.overlapping

/-- What happened to a world up to the last step of a deletion: crawls of the organization are gone,
and crawls of the batch may have been canceled. -/
structure Reclaims (orgId : String) (batch : List Crawl) (gone : List String)
    (w t : World MemoryStore) : Prop where
  orgs : t.store.orgs = w.store.orgs
  now : t.now = w.now
  crawls : ∀ id, t.store.crawls.get? id = w.store.crawls.spared orgId gone id ∨
    (id ∈ batch.map (·.id) ∧ t.store.crawls.get? id
      = (w.store.crawls.spared orgId gone id).map fun crawl =>
        { crawl with state := .canceled, finished := some w.now })
  corrections : t.trace.filter Event.isCorrection = w.trace.filter Event.isCorrection

namespace Reclaims

variable {orgId : String} {batch : List Crawl} {gone more : List String} {w t u : World MemoryStore}

theorem start (w : World MemoryStore) : Reclaims orgId batch [] w w where
  orgs := rfl
  now := rfl
  crawls id := .inl (w.store.crawls.spared_nil orgId id).symm
  corrections := rfl

/-- What happens one after the other adds up. -/
theorem append (h : Reclaims orgId batch gone w t) (h' : Reclaims orgId batch more t u) :
    Reclaims orgId batch (gone ++ more) w u where
  orgs := h'.orgs.trans h.orgs
  now := h'.now.trans h.now
  crawls id := by
    rw [← CrawlTable.filter_spared]
    rcases h.crawls id with before | ⟨mem, before⟩
    · rcases h'.crawls id with after | ⟨mem, after⟩
      · left
        rw [after, CrawlTable.spared, before]
      · right
        rw [after, CrawlTable.spared, before, h.now]
        exact ⟨mem, rfl⟩
    · right
      refine ⟨mem, ?_⟩
      rcases h'.crawls id with after | ⟨_, after⟩
      · rw [after, CrawlTable.spared, before, Option.filter_map]
        rfl
      · rw [after, CrawlTable.spared, before, Option.filter_map, Option.map_map, h.now]
        rfl
  corrections := h'.corrections.trans h.corrections

/-- Anything but a correction may happen. -/
theorem record (h : Reclaims orgId batch gone w t) {event : Event}
    (other : event.isCorrection = false) :
    Reclaims orgId batch gone w { t with trace := t.trace ++ [event] } where
  orgs := h.orgs
  now := h.now
  crawls := h.crawls
  corrections := by
    rw [List.filter_append, h.corrections]
    simp [other]

end Reclaims

namespace Action

variable {services : Services} {org : Organization} {batch : List Crawl} {w t : World MemoryStore}

/-- What a deletion leaves under an id. -/
theorem get?_deleted {table rest : CrawlTable} {orgId : String} {type : CrawlType}
    {ids removed : List String} (deletes : CrawlTable.Deletes orgId type ids table removed rest)
    (id : String) :
    rest.get? id = (table.get? id).filter fun crawl =>
      !(crawl.orgId == orgId && crawl.type == type && ids.contains id) := by
  have gone : id ∈ removed ↔ ids.contains id = true ∧ table.holds orgId type id = true := by
    rw [deletes.mem_removed, List.contains_iff_mem]
  rw [deletes.get?_rest]
  cases isThere : table.get? id with
  | none =>
    rw [ite_self]
    rfl
  | some crawl =>
    rw [CrawlTable.holds, isThere, Option.any_some] at gone
    rw [Option.filter]
    by_cases mem : id ∈ removed
    · obtain ⟨listed, owned⟩ := gone.1 mem
      rw [if_pos mem, listed, owned]
      rfl
    · rw [if_neg mem]
      split
      · rfl
      · next taken =>
        rw [Bool.not_eq_true, Bool.not_eq_false', Bool.and_eq_true] at taken
        exact (mem (gone.2 ⟨taken.2, taken.1⟩)).elim

/-- Others delete crawls of one type. -/
theorem run_deleteMeanwhile (org : Organization) (ids : List String) (type : CrawlType)
    (w : World MemoryStore) :
    ∃ rest : CrawlTable, (deleteMeanwhile org ids type).run w = (.ok (), w.withCrawls rest) ∧
      ∀ id, rest.get? id = (w.store.crawls.get? id).filter fun crawl =>
        !(crawl.orgId == org.id && crawl.type == type && ids.contains id) := by
  rw [deleteMeanwhile]
  split
  · next none_ =>
    refine ⟨w.store.crawls, rfl, ?_⟩
    intro id
    rw [List.isEmpty_iff.1 none_]
    cases w.store.crawls.get? id <;> simp [Option.filter]
  · obtain ⟨removed, rest, run, deletes⟩ := run_onCrawls_delete w org.id ids type
    refine ⟨rest, ?_, get?_deleted deletes⟩
    rw [Attempt.run_tryCatch, Attempt.run_bind, run]
    rfl

/-- Others delete crawls of both types while an object is deleted. -/
theorem reclaims_deleteFile {crawl : Crawl} {file : CrawlFile}
    (done : (deleteFile services org crawl file).run w = (.ok (), t)) :
    Reclaims org.id batch (services.overlapping file) w t := by
  obtain ⟨first, runFirst, leftFirst⟩ :=
    run_deleteMeanwhile org (services.overlapping file) .crawl w
  obtain ⟨rest, runRest, left⟩ :=
    run_deleteMeanwhile org (services.overlapping file) .upload (w.withCrawls first)
  have gone : Reclaims org.id batch (services.overlapping file) w (w.withCrawls rest) := by
    refine ⟨rfl, rfl, fun id => .inl ?_, rfl⟩
    have both : rest.get? id = (first.get? id).filter _ := left id
    show rest.get? id = _
    rw [both, leftFirst, Option.filter_filter, CrawlTable.spared]
    congr 1
    funext other
    cases other.orgId == org.id <;> cases (services.overlapping file).contains id <;>
      cases other.type <;> rfl
  simp only [deleteFile, Attempt.run_bind, Attempt.run_get, runFirst, runRest, run_ask] at done
  have asked : Reclaims org.id batch (services.overlapping file) w
      { w.withCrawls rest with trace := w.trace ++ [.deleteObject org.id file.filename] } :=
    gone.record rfl
  split at done
  · next deleted mid answer =>
    injection answer with _ same
    subst same
    split at done
    · injection done with _ after
      subst after
      exact asked.record rfl
    · exact nomatch done
  · exact nomatch done

/-- A crawl of the batch that is still there is canceled. -/
theorem reclaims_markCanceled {crawl : Crawl} (mem : crawl ∈ batch)
    (done : (onCrawls (.markCanceled crawl.id w.now)).run w = (.ok (), t)) :
    Reclaims org.id batch [] w t := by
  have call : (AccountStore.onCrawls (.markCanceled crawl.id w.now)).run w.store = _ :=
    MemoryStore.run_onCrawls w.store _
  rw [CrawlTable.perform, Attempt.run_bind, CrawlTable.run_find] at call
  rw [run_onCrawls, call] at done
  cases isThere : w.store.crawls.get? crawl.id with
  | none =>
    rw [isThere] at done
    exact nomatch done
  | some stored =>
    rw [isThere] at done
    injection done with _ after
    subst after
    have named : (stored.canceledAt w.now).id = crawl.id :=
      (Register.id_of_get? isThere : stored.id = crawl.id)
    refine ⟨rfl, rfl, ?_, rfl⟩
    intro id
    show (w.store.crawls.insert (stored.canceledAt w.now)).get? id = _ ∨
      (id ∈ batch.map (·.id) ∧ (w.store.crawls.insert (stored.canceledAt w.now)).get? id = _)
    rw [CrawlTable.spared_nil, Register.get?_insert, named]
    by_cases same : id = crawl.id
    · right
      rw [if_pos same, same, isThere]
      exact ⟨List.mem_map_of_mem mem, rfl⟩
    · left
      rw [if_neg same]

theorem reclaims_stopCrawl {crawl : Crawl} (mem : crawl ∈ batch)
    (done : (stopCrawl services crawl).run w = (.ok (), t)) : Reclaims org.id batch [] w t := by
  have asked : Reclaims org.id batch [] w
      { w with trace := w.trace ++ [.stop crawl.id false] } :=
    (Reclaims.start w).record rfl
  rw [stopCrawl, Attempt.run_bind, run_ask] at done
  cases answers : services.stop w.trace crawl.id false with
  | error e =>
    rw [answers] at done
    cases done
  | ok answer =>
    rw [answers] at done
    dsimp only at done
    split at done
    · obtain ⟨_, rfl⟩ := Attempt.run_pure_eq_ok_iff.1 done
      exact asked
    · split at done
      · rw [Attempt.run_bind, Attempt.run_get] at done
        exact asked.append (reclaims_markCanceled mem done)
      · cases done

/-- What is done to each crawl of a batch. -/
theorem reclaims_reclaimCrawl {crawl : Crawl} (mem : crawl ∈ batch)
    (done : (reclaimCrawl services org crawl).run w = (.ok (), t)) :
    Reclaims org.id batch (crawl.files.flatMap services.overlapping) w t := by
  let notice : Message := .deleted ⟨org.id, crawl.id, crawl.type⟩
  have files : ∀ w : World MemoryStore,
      (crawl.files.forM (deleteFile services org crawl) >>= fun _ => send notice).run w
        = (.ok (), t) →
      Reclaims org.id batch (crawl.files.flatMap services.overlapping) w t := by
    intro w done
    obtain ⟨_, mid, deleted, sent⟩ := Attempt.run_bind_eq_ok_iff.1 done
    have gone : Reclaims org.id batch (crawl.files.flatMap services.overlapping) w mid :=
      Attempt.of_forM .start .append (fun file _ s t => reclaims_deleteFile) deleted
    rw [run_send] at sent
    injection sent with _ after
    subst after
    exact gone.record rfl
  rw [reclaimCrawl] at done
  split at done
  · obtain ⟨_, mid, stopped, later⟩ := Attempt.run_bind_eq_ok_iff.1 done
    exact (reclaims_stopCrawl mem stopped).append (files mid later)
  · exact files w done

/-- A batch that is reclaimed. -/
theorem reclaims_reclaim (done : (reclaim services org batch).run w = (.ok (), t)) :
    Reclaims org.id batch (services.meanwhile batch) w t := by
  rw [reclaim, Attempt.run_tryCatch] at done
  split at done
  · next done' run =>
    injection done with _ same
    subst same
    exact Attempt.of_forM .start .append
      (fun crawl mem s t => reclaims_reclaimCrawl mem) run
  · next e mid run =>
    dsimp only at done
    split at done
    · cases done
    · cases done

end Action

end ArchiveAccounts
