import ArchiveAccounts.Proofs.Store.TenantRows
import ArchiveAccounts.Service.Accounting
import ArchiveAccounts.Service.Collections
import ArchiveAccounts.Service.Deletion
import ArchiveAccounts.Service.Links

/-!
# Services for one tenant

Services that act for one organization come to the same beside the documents of others as without
them, whatever ids they are given. Some calls on the way name a crawl by its id alone; each of them
is about a crawl that was found for the organization before. Main statements: `agrees_deleteCrawls`
and `agrees_resolveCrawl`.
-/

namespace ArchiveAccounts
set_option autoImplicit false

open PartedStore
open Attempt (Any)

namespace Action

variable {σ : Type} [AccountStore σ] [TenantStore σ] {others : σ}

/-! ## Calls -/

section Calls

variable {tenant : String}

theorem agrees_onOrgs (call : OrgCall) (old : call.isInsert = false) (mine : call.orgId = tenant) :
    Agrees (Beside tenant others) Any (onOrgs call) :=
  .onStore (TenantStore.onOrgs call old mine)

theorem agrees_onCrawls (call : CrawlCall) (isFor : call.IsFor tenant (IsFree others)) :
    Agrees (Beside tenant others) Any (onCrawls call) :=
  .onStore (TenantStore.onCrawls call isFor)

theorem agrees_getOrg : Agrees (Beside tenant others) Any (getOrg tenant) :=
  agrees_onOrgs (.get tenant) rfl rfl

theorem agrees_getCrawl (id : String) :
    Agrees (Beside tenant others) (fun crawl => crawl.id = id ∧ IsFree others id)
      (getCrawl tenant id) :=
  .onStore (TenantStore.getCrawl id)

end Calls

/-! ## Accounting -/

section Accounting

variable {tenant : String}

theorem agrees_drawPool (pool : Pool) (period : String) (seconds : Counter) :
    Agrees (Beside tenant others) Any (drawPool tenant pool period seconds) :=
  .ite (fun _ => .pure trivial) fun _ => agrees_onOrgs (.drawPool ..) rfl rfl

theorem agrees_allocate (period : String) (duration quota : Counter) :
    Agrees (Beside tenant others) Any (allocate tenant period duration quota) := by
  refine (agrees_onOrgs (.creditMonthly ..) rfl rfl).bind fun monthly _ => ?_
  refine (agrees_drawPool .gifted period _).bind fun gifted _ => ?_
  refine (agrees_drawPool .extra period _).bind fun extra _ => ?_
  exact (Agrees.count _).bind fun _ _ => .pure trivial

theorem agrees_recordUsage (duration : Counter) (isExecTime : Bool) :
    Agrees (Beside tenant others) Any (recordUsage tenant duration isExecTime) := by
  refine Agrees.period.bind fun period _ => ?_
  refine (agrees_onOrgs (.countSeconds ..) rfl rfl).bind fun _ _ => .ite (fun _ => ?_) fun _ => ?_
  · refine agrees_getOrg.bind fun org _ => .ite (fun _ => .pure trivial) fun _ => ?_
    exact agrees_allocate period duration _
  · exact .pure trivial

theorem agrees_recordBytes (delta : Int) (kind : StorageKind) :
    Agrees (Beside tenant others) Any (recordBytes tenant delta kind) := by
  refine (agrees_onOrgs (.shiftBytes ..) rfl rfl).bind fun _ _ => ?_
  exact agrees_getOrg.bind fun _ _ => .pure trivial

theorem agrees_updateQuotas (patch : QuotaPatch) (retention : Option Nat) :
    Agrees (Beside tenant others) Any (updateQuotas tenant patch retention) := by
  rw [updateQuotas]
  refine .check (Agrees.view (fun _ _ => rfl) fun w => ?_)
  exact agrees_onOrgs (.updateQuotas ..) rfl rfl

end Accounting

/-! ## Collections -/

section Collections

variable (org : Organization)

theorem agrees_addToCollection (collection : String) (crawlIds : List String) :
    Agrees (Beside org.id others) Any (addToCollection collection crawlIds org) := by
  refine (Agrees.record _).bind fun _ _ => .forM fun id _ => ?_
  exact agrees_onCrawls (.addCollection ..) rfl

theorem agrees_removeFromCollection (collection : String) (crawlIds : List String) :
    Agrees (Beside org.id others) Any (removeFromCollection collection crawlIds org) := by
  refine (Agrees.record _).bind fun _ _ => .forM fun id _ => ?_
  exact agrees_onCrawls (.removeCollection ..) rfl

theorem agrees_setCollections (crawlId : String) (requested : List String) :
    Agrees (Beside org.id others) Any (setCollections crawlId org requested) := by
  refine (agrees_getCrawl crawlId).bind fun crawl _ => ?_
  refine (Attempt.Agrees.forM fun _ _ => agrees_addToCollection org _ _).bind fun _ _ => ?_
  refine (Attempt.Agrees.forM fun _ _ => agrees_removeFromCollection org _ _).bind fun _ _ => ?_
  exact .pure trivial

theorem agrees_updateCrawl (crawlId : String) (update : CrawlUpdate) (type : Option CrawlType) :
    Agrees (Beside org.id others) Any (updateCrawl crawlId org update type) := by
  have metadata : Agrees (Beside org.id others) Any (if update.hasMetadata then
      onCrawls (.updateMetadata org.id crawlId type update) else pure ()) :=
    .ite (fun _ => agrees_onCrawls (.updateMetadata ..) rfl) fun _ => .pure trivial
  rw [updateCrawl]
  refine .check ((agrees_getCrawl crawlId).bind fun crawl _ => .check ?_)
  generalize update.collections = collections
  cases collections with
  | none => exact metadata
  | some requested =>
    exact (agrees_setCollections org crawlId requested).bind fun _ _ => metadata

end Collections

/-! ## Links -/

section Links

variable (services : ObjectService) (seconds : Counter) (org : Organization)

theorem agrees_mintLink {crawlId : String} (free : IsFree others crawlId) (file : CrawlFile) :
    Agrees (Beside org.id others) Any (mintLink services seconds org crawlId file) := by
  refine Agrees.view (fun _ _ => rfl) fun w => (Agrees.ask _ _).bind fun url _ => ?_
  refine (agrees_onCrawls (.setSignedUrl ..) free).bind fun _ _ => ?_
  exact (Agrees.count _).bind fun _ _ => .pure trivial

theorem agrees_resolveFile {crawlId : String} (free : IsFree others crawlId) (file : CrawlFile) :
    Agrees (Beside org.id others) Any (resolveFile services seconds org crawlId file) := by
  refine Agrees.view (fun _ _ => rfl) fun w => ?_
  split
  · exact (Agrees.count _).bind fun _ _ => .pure trivial
  · exact agrees_mintLink services seconds org free file

/-- Links are stored with a crawl that was found for the organization. -/
theorem agrees_resolveCrawl (crawlId : String) :
    Agrees (Beside org.id others) Any (resolveCrawl services seconds org crawlId) := by
  refine (agrees_getCrawl crawlId).bind fun crawl known => .mapM fun file _ => ?_
  exact agrees_resolveFile services seconds org known.2 file

end Links

/-! ## Deletion -/

section Deletion

variable (services : Services) (org : Organization)

/-- A batch consists of crawls that were found for the organization. -/
theorem agrees_validate (type : CrawlType) (user : Option String) (ids : List String) :
    Agrees (Beside org.id others) (fun batch => ∀ crawl ∈ batch, IsFree others crawl.id)
      (validate org type user ids) := by
  induction ids with
  | nil => exact .pure (List.forall_mem_nil _)
  | cons id ids ih =>
    refine (agrees_getCrawl id).bind fun crawl known => .ite (fun _ => ih) fun _ => ?_
    obtain ⟨rfl, free⟩ := known
    refine .ite (fun _ => ih.bind fun batch frees => .pure ?_) fun _ => .throw _
    exact List.forall_mem_cons.2 ⟨free, frees⟩

theorem agrees_stopCrawl {tenant : String} {crawl : Crawl} (free : IsFree others crawl.id) :
    Agrees (Beside tenant others) Any (stopCrawl services crawl) := by
  have cancel : Agrees (Beside tenant others) Any
      (do onCrawls (.markCanceled crawl.id (← get).now) : Action σ Unit) := by
    refine Agrees.view (fun _ _ => rfl) fun w => ?_
    -- this call names no organization, so the crawl must be known to be its own
    exact agrees_onCrawls (.markCanceled ..) free
  refine (Agrees.ask _ _).bind fun answer _ => .ite (fun _ => .pure trivial) fun _ => ?_
  exact .ite (fun _ => cancel) fun _ => .throw _

theorem agrees_deleteMeanwhile (ids : List String) (type : CrawlType) :
    Agrees (Beside org.id others) Any (deleteMeanwhile org ids type) := by
  refine .ite (fun _ => .pure trivial) fun _ => .tryCatch ?_ fun _ => .pure trivial
  exact (agrees_onCrawls (.delete ..) rfl).bind fun _ _ => .pure trivial

theorem agrees_deleteFile (crawl : Crawl) (file : CrawlFile) :
    Agrees (Beside org.id others) Any (deleteFile services org crawl file) := by
  refine Agrees.view (fun _ _ => rfl) fun w => ?_
  refine (agrees_deleteMeanwhile org _ .crawl).bind fun _ _ => ?_
  refine (agrees_deleteMeanwhile org _ .upload).bind fun _ _ => ?_
  exact (Agrees.ask _ _).bind fun deleted _ => .ite (fun _ => Agrees.send _) fun _ => .throw _

theorem agrees_reclaimCrawl {crawl : Crawl} (free : IsFree others crawl.id) :
    Agrees (Beside org.id others) Any (reclaimCrawl services org crawl) := by
  have files : Agrees (Beside org.id others) Any
      (do crawl.files.forM (deleteFile services org crawl)
          send (.deleted ⟨org.id, crawl.id, crawl.type⟩)) :=
    (Attempt.Agrees.forM fun file _ => agrees_deleteFile services org crawl file).bind
      fun _ _ => Agrees.send _
  exact .ite (fun _ => (agrees_stopCrawl services free).bind fun _ _ => files) fun _ => files

theorem agrees_reclaim {batch : List Crawl} (free : ∀ crawl ∈ batch, IsFree others crawl.id) :
    Agrees (Beside org.id others) Any (reclaim services org batch) := by
  refine .tryCatch (.forM fun crawl mem => agrees_reclaimCrawl services org (free crawl mem)) ?_
  intro failure
  exact .ite (fun _ => (Agrees.count _).bind fun _ _ => .throw _) fun _ => .throw _

theorem agrees_settle (deleted : Counter) (reclaimed : Reclaimed) :
    Agrees (Beside org.id others) Any (settle services org deleted reclaimed) := by
  have correct : ∀ config c,
      Agrees (Beside org.id others) Any (correctConfig services config c) := by
    intro config c
    refine (Agrees.ask _ _).bind fun isThere _ => ?_
    exact .ite (fun _ => .pure trivial) fun _ => .throw _
  refine (Attempt.Agrees.forM fun (config, c) _ => correct config c).bind fun _ _ => ?_
  refine (Agrees.count _).bind fun _ _ => ?_
  exact agrees_getOrg.bind fun _ _ => .pure trivial

theorem agrees_commit (batch : List Crawl) (type : CrawlType) :
    Agrees (Beside org.id others) Any (commit services org batch type) := by
  refine (agrees_onCrawls (.delete ..) rfl).bind fun removed _ => .ite (fun _ => ?_) fun _ => ?_
  · refine (agrees_onOrgs (.shiftBytes ..) rfl rfl).bind fun _ _ => ?_
    exact agrees_settle services org _ _
  · exact agrees_settle services org _ _

theorem agrees_deleteCrawls (ids : List String) (type : CrawlType) (user : Option String) :
    Agrees (Beside org.id others) Any (deleteCrawls services org ids type user) := by
  rw [deleteCrawls]
  refine .check ?_
  refine (agrees_validate org type user _).bind fun batch free => .ite (fun _ => ?_) ?_
  · exact agrees_getOrg.bind fun _ _ => .pure trivial
  · intro _
    refine (agrees_reclaim services org free).bind fun _ _ => ?_
    exact agrees_commit services org batch type

theorem agrees_deletePart (ids : List String) (type : CrawlType) (user : Option String)
    (soFar : DeletionOutcome) :
    Agrees (Beside org.id others) Any (deletePart services org ids type user soFar) := by
  refine .ite (fun _ => .pure trivial) fun _ => ?_
  exact (agrees_deleteCrawls services org ids type user).bind fun _ _ => .pure trivial

theorem agrees_deleteAll (ids : List String) (user : Option String) :
    Agrees (Beside org.id others) Any (deleteAll services org ids user) := by
  have find : Agrees (Beside org.id others) Any (ids.mapM (getCrawl org.id)) :=
    .mapM fun id _ => (agrees_getCrawl id).imp fun _ _ => trivial
  refine find.bind fun found _ => .check ?_
  refine (agrees_deletePart services org _ .crawl user {}).bind fun crawls _ => ?_
  refine (agrees_deletePart services org _ .upload user crawls).bind fun all _ => ?_
  exact .ite (fun _ => .throw _) fun _ => .pure trivial

end Deletion

end Action

end ArchiveAccounts
