import ArchiveAccounts.Service.World

/-!
# Deletion

A batch of crawls is deleted in three steps. Every crawl is looked up and the right to delete it is
checked; then running crawls are stopped and the objects of all files deleted; then the crawls are
removed, and the bytes of the organization and the totals of crawl configs are corrected by what was
removed. A batch that fails before the last step removes no crawl.
-/

namespace ArchiveAccounts
set_option autoImplicit false

/-- What is taken off the totals of a crawl config. -/
structure Correction where
  count : Nat := 0
  size : Counter := 0
  deriving DecidableEq, Repr

/-- What crawls take up, in all and by crawl config. -/
structure Reclaimed where
  size : Counter := 0
  configs : SortedMap String Correction := ∅
  deriving DecidableEq

namespace Reclaimed

/-- Adds a crawl. -/
def add (r : Reclaimed) (crawl : Crawl) : Reclaimed where
  size := Counter.plus r.size crawl.totalSize
  configs :=
    match crawl.configId with
    | none => r.configs
    | some config =>
      let c := r.configs.getD config {}
      r.configs.insert config ⟨c.count + 1, Counter.plus c.size crawl.totalSize⟩

/-- What the given crawls take up. -/
def ofCrawls (crawls : List Crawl) : Reclaimed := crawls.foldl add {}

end Reclaimed

/-- Whether a user may delete a crawl: who made it may, and who owns the organization. Without a
user everything is allowed. -/
def Organization.allowsDeletion (org : Organization) (user : Option String) (crawl : Crawl) :
    Bool :=
  user.all fun id => crawl.userId == some id || org.isOwner id

namespace Action

variable {σ : Type} [AccountStore σ]

/-- The crawls of a type among the ids, if the user may delete them. -/
def validate (org : Organization) (type : CrawlType) (user : Option String) :
    List String → Action σ (List Crawl)
  | [] => return []
  | id :: rest => do
    let crawl ← getCrawl org.id id
    if crawl.type ≠ type then validate org type user rest
    else if org.allowsDeletion user crawl then return crawl :: (← validate org type user rest)
    else throw (.forbidden "not_allowed")

/-- Stops a running crawl. One that the orchestrator does not know is marked as canceled. -/
def stopCrawl (services : Services) (crawl : Crawl) : Action σ Unit := do
  let answer ← ask (.stop crawl.id false) fun before => services.stop before crawl.id false
  if answer.success then return ()
  else if answer.error = some "Not Found" then
    onCrawls (.markCanceled crawl.id (← get).now)
  else throw (.collaborator "crawl_stop_failed")

/-- Deletes crawls as others do it, whose failures are their own. -/
def deleteMeanwhile (org : Organization) (ids : List String) (type : CrawlType) : Action σ Unit :=
  if ids.isEmpty then return ()
  else
    tryCatch (do let _ : List String ← onCrawls (.delete org.id ids type)) fun _ => return ()

/-- Deletes the object of a file, and asks for its copies to be deleted. -/
def deleteFile (services : Services) (org : Organization) (crawl : Crawl) (file : CrawlFile) :
    Action σ Unit := do
  let now := (← get).now
  let meanwhile := services.overlapping file
  deleteMeanwhile org meanwhile .crawl
  deleteMeanwhile org meanwhile .upload
  let deleted ← ask (.deleteObject org.id file.filename) fun before =>
    services.deleteObject before now org file
  if deleted then
    send (.replicaJob ⟨org.id, crawl.id, crawl.type, file⟩)
  else throw (.collaborator "file_deletion_error")

/-- Stops a crawl and deletes the objects of its files. -/
def reclaimCrawl (services : Services) (org : Organization) (crawl : Crawl) : Action σ Unit := do
  if crawl.type = .crawl ∧ !crawl.isFinished then stopCrawl services crawl
  crawl.files.forM (deleteFile services org crawl)
  send (.deleted ⟨org.id, crawl.id, crawl.type⟩)

/-- Reclaims all crawls of a batch; a batch that is given up is counted. -/
def reclaim (services : Services) (org : Organization) (batch : List Crawl) : Action σ Unit :=
  tryCatch (batch.forM (reclaimCrawl services org)) fun failure => do
    if failure ≠ .outsideCalendar then count Metrics.addAborted
    throw failure

/-- Corrects the totals of a crawl config. -/
def correctConfig (services : Services) (config : String) (c : Correction) : Action σ Unit := do
  let size := -c.size.toSigned
  let count := -min (c.count : Int) Counter.maxSigned
  let isThere ← ask (.correctConfig config size count) fun before =>
    services.correctConfig before config size count
  if isThere then return () else throw (.notFound "crawl_config_not_found")

/-- Corrects the crawl configs after a removal and counts it. -/
def settle (services : Services) (org : Organization) (deleted : Counter) (reclaimed : Reclaimed) :
    Action σ DeletionOutcome := do
  reclaimed.configs.toList.forM fun (config, c) => correctConfig services config c
  count fun m => m.addCommitted deleted reclaimed.size
  return { deleted, storageQuotaReached := (← getOrg org.id).storageQuotaReached }

/-- Removes the crawls of a batch and corrects what counts them. -/
def commit (services : Services) (org : Organization) (batch : List Crawl) (type : CrawlType) :
    Action σ DeletionOutcome := do
  let removed : List String ← onCrawls (.delete org.id (batch.map (·.id)) type)
  let reclaimed := Reclaimed.ofCrawls (batch.filter fun crawl => removed.contains crawl.id)
  if reclaimed.size ≠ 0 then
    onOrgs (.shiftBytes org.id (-reclaimed.size.toSigned) type.storageKind)
  settle services org (Counter.ofNatCapped removed.length) reclaimed

/-- Deletes the crawls of one type among the ids, for a user or without asking who it is. -/
def deleteCrawls (services : Services) (org : Organization) (ids : List String) (type : CrawlType)
    (user : Option String) : Action σ DeletionOutcome := do
  if ids.isEmpty then throw .nothingToDelete
  let batch ← validate org type user ids.eraseDups
  if batch.isEmpty then
    return { deleted := 0, storageQuotaReached := (← getOrg org.id).storageQuotaReached }
  reclaim services org batch
  commit services org batch type

/-- Deletes the ids of one type, if there are any. -/
def deletePart (services : Services) (org : Organization) (ids : List String) (type : CrawlType)
    (user : Option String) (soFar : DeletionOutcome) : Action σ DeletionOutcome := do
  if ids.isEmpty then return soFar
  let part ← deleteCrawls services org ids type user
  return { part with deleted := soFar.deleted + part.deleted }

/-- Deletes crawls and uploads, the crawls first. -/
def deleteAll (services : Services) (org : Organization) (ids : List String)
    (user : Option String) : Action σ DeletionOutcome := do
  let found ← ids.mapM (getCrawl org.id)
  let idsOf := fun type => (found.filter fun crawl => crawl.type == type).map (·.id)
  if found.isEmpty then throw .nothingToDelete
  let crawls ← deletePart services org (idsOf .crawl) .crawl user {}
  let all ← deletePart services org (idsOf .upload) .upload user crawls
  if all.deleted = 0 then throw .crawlNotFound else return all

end Action

end ArchiveAccounts
