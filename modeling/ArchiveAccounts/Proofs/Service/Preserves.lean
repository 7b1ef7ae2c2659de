import ArchiveAccounts.Service.Accounting
import ArchiveAccounts.Service.Collections
import ArchiveAccounts.Service.Deletion
import ArchiveAccounts.Service.Links
import ArchiveAccounts.Store.Memory

/-!
# What computations preserve

A property of the state that a computation keeps, whether it fails or not. It is enough that each
step keeps it. Main statements: `bind`, `tryCatch`, `forM` and `mapM`, and one lemma for each
service, for which it is enough that the calls on the store keep it.
-/

namespace ArchiveAccounts
set_option autoImplicit false

namespace Attempt

variable {σ τ α β γ : Type}

/-- Whether a computation keeps a property of the state. -/
def Preserves (P : σ → Prop) (a : Attempt σ α) : Prop := ∀ s, P s → P (a.run s).2

/-- What holds before and after a computation holds after it was made atomic. -/
theorem of_atomically {P : σ → Prop} {a : Attempt σ α} {s : σ} (before : P s)
    (after : P (a.run s).2) : P ((atomically a).run s).2 := by
  rw [run_atomically]
  split
  · next x t run =>
    rw [run] at after
    exact after
  · exact before

/-- What a computation reaches holds in the end if all that comes after it keeps it. -/
theorem of_bind {P : σ → Prop} {s : σ} {a : Attempt σ α} {f : α → Attempt σ β}
    (reached : P (a.run s).2) (later : ∀ x, Preserves P (f x)) : P ((a >>= f).run s).2 := by
  rw [run_bind]
  split
  · next x t run =>
    rw [run] at reached
    exact later x t reached
  · next e t run =>
    rw [run] at reached
    exact reached

namespace Preserves

variable {P : σ → Prop}

theorem pure (x : α) : Preserves P (Pure.pure x : Attempt σ α) := by
  intro s h
  exact h

theorem throw (e : Failure) : Preserves P (MonadExcept.throw e : Attempt σ α) := by
  intro s h
  exact h

theorem get : Preserves P (MonadState.get : Attempt σ σ) := by
  intro s h
  exact h

theorem change {f : σ → σ} (h : ∀ s, P s → P (f s)) :
    Preserves P (modify f : Attempt σ PUnit) := by
  intro s hs
  exact h s hs

/-- What comes after a computation may depend on what it can answer. -/
theorem bindOk {a : Attempt σ α} {f : α → Attempt σ β} (first : Preserves P a)
    (later : ∀ x s, P s → (a.run s).1 = .ok x → Preserves P (f x)) : Preserves P (a >>= f) := by
  intro s h
  have mid := first s h
  rw [run_bind]
  split
  · next x t run =>
    rw [run] at mid
    exact later x s h (congrArg Prod.fst run) t mid
  · next e t run =>
    rw [run] at mid
    exact mid

theorem bind {a : Attempt σ α} {f : α → Attempt σ β} (first : Preserves P a)
    (later : ∀ x, Preserves P (f x)) : Preserves P (a >>= f) :=
  first.bindOk fun x _ _ _ => later x

/-- What comes after a look at the state may depend on it. -/
theorem getBind {f : σ → Attempt σ α} (h : ∀ s, P s → P ((f s).run s).2) :
    Preserves P (MonadState.get >>= f) := by
  intro s before
  rw [run_bind, run_get]
  exact h s before

theorem tryCatch {a : Attempt σ α} {handle : Failure → Attempt σ α} (first : Preserves P a)
    (later : ∀ e, Preserves P (handle e)) : Preserves P (MonadExcept.tryCatch a handle) := by
  intro s h
  have mid := first s h
  rw [run_tryCatch]
  split
  · next x t run =>
    rw [run] at mid
    exact mid
  · next e t run =>
    rw [run] at mid
    exact later e t mid

theorem atomically {a : Attempt σ α} (h : Preserves P a) :
    Preserves P (Attempt.atomically a) := by
  intro s before
  exact of_atomically before (h s before)

theorem ite {c : Prop} [Decidable c] {a b : Attempt σ α} (yes : c → Preserves P a)
    (no : ¬c → Preserves P b) : Preserves P (if c then a else b) := by
  split
  · next h => exact yes h
  · next h => exact no h

/-- What comes after a check that may throw. -/
theorem check {c : Prop} [Decidable c] {e : Failure} {k : PUnit → Attempt σ α}
    (passed : Preserves P (k ())) :
    Preserves P (if c then MonadExcept.throw e >>= k else k ()) :=
  ite (fun _ => bind (throw e) fun _ => passed) fun _ => passed

theorem forM {l : List γ} {f : γ → Attempt σ PUnit} (each : ∀ x ∈ l, Preserves P (f x)) :
    Preserves P (l.forM f) := by
  induction l with
  | nil => exact pure ()
  | cons x l ih =>
    obtain ⟨first, later⟩ := List.forall_mem_cons.1 each
    exact bind first fun _ => ih later

theorem mapM {l : List γ} {f : γ → Attempt σ β} (each : ∀ x ∈ l, Preserves P (f x)) :
    Preserves P (l.mapM f) := by
  induction l with
  | nil => exact pure []
  | cons x l ih =>
    obtain ⟨first, later⟩ := List.forall_mem_cons.1 each
    rw [List.mapM_cons]
    exact bind first fun _ => bind (ih later) fun _ => pure _

end Preserves

end Attempt

/-- Whether a call looks up an organization, or counts, credits or draws time. -/
def OrgCall.isRecording : OrgCall → Bool
  | get _ | countSeconds .. | creditMonthly .. | drawPool .. => true
  | _ => false

/-- Whether a call looks up a crawl that is there, or changes anything of it but the links. -/
def CrawlCall.isUpdate : CrawlCall → Bool
  | insert _ | setSignedUrl .. | delete .. => false
  | _ => true

namespace Action

variable {σ α : Type}

section Reclaiming

variable [AccountStore σ] {P : World σ → Prop} {services : Services} {org : Organization}
  {batch : List Crawl}
  (stops : ∀ crawl ∈ batch, crawl.type = .crawl → crawl.isFinished = false →
    Attempt.Preserves P (stopCrawl services crawl))
  (deletes : ∀ crawl ∈ batch, ∀ file ∈ crawl.files,
    Attempt.Preserves P (deleteFile services org crawl file))
  (announces : ∀ crawl ∈ batch,
    Attempt.Preserves P (send (.deleted ⟨org.id, crawl.id, crawl.type⟩)))

include stops deletes announces

theorem preserves_reclaimCrawls_of :
    Attempt.Preserves P (batch.forM (reclaimCrawl services org)) := by
  refine .forM fun crawl mem => ?_
  have files : Attempt.Preserves P (do
      crawl.files.forM (deleteFile services org crawl)
      send (.deleted ⟨org.id, crawl.id, crawl.type⟩)) :=
    .bind (.forM (deletes crawl mem)) fun _ => announces crawl mem
  refine .ite (fun live => ?_) fun _ => files
  obtain ⟨isCrawl, live⟩ := live
  exact .bind (stops crawl mem isCrawl (by simpa using live)) fun _ => files

/-- What the steps of a reclamation keep, it keeps, also when the batch is given up. -/
theorem preserves_reclaim_of (counts : Attempt.Preserves P (count Metrics.addAborted)) :
    Attempt.Preserves P (reclaim services org batch) := by
  refine .tryCatch (preserves_reclaimCrawls_of stops deletes announces) fun failure => ?_
  exact .ite (fun _ => .bind counts fun _ => .throw _) fun _ => .throw _

end Reclaiming

/-- Whether an action keeps a property of the store. -/
def Preserves (Q : σ → Prop) (a : Action σ α) : Prop := Attempt.Preserves (fun w => Q w.store) a

namespace Preserves

variable {Q : σ → Prop}

theorem onStore {a : Attempt σ α} (h : Attempt.Preserves Q a) :
    Action.Preserves Q (Action.onStore a) := by
  intro w hw
  exact h w.store hw

theorem record (event : Event) : Action.Preserves Q (Action.record event) := by
  intro w hw
  exact hw

theorem ask (event : Event) (answer : List Event → Except Failure α) :
    Action.Preserves Q (Action.ask event answer) := by
  intro w hw
  exact hw

theorem count (change : Metrics → Metrics) : Action.Preserves Q (Action.count change) := by
  intro w hw
  exact hw

theorem send (message : Message) : Action.Preserves Q (Action.send message) := by
  intro w hw
  exact hw

theorem period : Action.Preserves Q (Action.period : Action σ String) := by
  refine Attempt.Preserves.bind .get ?_
  intro w
  exact .ite (fun _ => .pure _) fun _ => .throw _

section Recording

variable [AccountStore σ]
  (calls : ∀ call : OrgCall, call.isRecording = true → Action.Preserves Q (onOrgs call))
  (orgId : String)

include calls

theorem drawPool (pool : Pool) (period : String) (n : Counter) :
    Action.Preserves Q (Action.drawPool orgId pool period n) :=
  .ite (fun _ => .pure _) fun _ => calls _ rfl

theorem allocate (period : String) (duration quota : Counter) :
    Action.Preserves Q (Action.allocate orgId period duration quota) := by
  refine .bind (calls _ rfl) fun credited => ?_
  refine .bind (drawPool calls orgId .gifted period _) fun gifted => ?_
  refine .bind (drawPool calls orgId .extra period _) fun extra => ?_
  exact .bind (Preserves.count _) fun _ => .pure _

theorem recordUsage (duration : Counter) (isExecTime : Bool) :
    Action.Preserves Q (Action.recordUsage orgId duration isExecTime) := by
  refine .bind Preserves.period fun period => ?_
  refine .bind (calls _ rfl) fun _ => ?_
  refine .ite (fun _ => ?_) fun _ => .pure _
  refine .bind (calls (.get orgId) rfl) fun org => ?_
  exact .ite (fun _ => .pure _) fun _ => allocate calls orgId period duration _

end Recording

theorem updateQuotas [AccountStore σ] {orgId : String} {patch : QuotaPatch} {retention : Option Nat}
    (changes : ∀ modified,
      Action.Preserves Q (onOrgs (.updateQuotas orgId patch modified retention))) :
    Action.Preserves Q (Action.updateQuotas orgId patch retention) := by
  refine .check ?_
  exact .bind .get fun w => changes w.now

section Updating

variable [AccountStore σ]
  (calls : ∀ call : CrawlCall, call.isUpdate = true → Action.Preserves Q (onCrawls call))

include calls

theorem resolveCrawl {services : ObjectService} {seconds : Counter} {org : Organization}
    {crawlId : String}
    (mints : ∀ file, Action.Preserves Q (mintLink services seconds org crawlId file)) :
    Action.Preserves Q (Action.resolveCrawl services seconds org crawlId) := by
  refine .bind (calls _ rfl) fun crawl => ?_
  apply Attempt.Preserves.mapM
  intro file _
  refine .bind .get fun w => ?_
  split
  · exact .bind (Preserves.count _) fun _ => .pure _
  · exact mints file

theorem setCollections (crawlId : String) (org : Organization) (requested : List String) :
    Action.Preserves Q (Action.setCollections crawlId org requested) := by
  have add : ∀ collection, Action.Preserves Q (addToCollection collection [crawlId] org) :=
    fun collection => .bind (Preserves.record _) fun _ => .forM fun id _ => calls _ rfl
  have remove : ∀ collection, Action.Preserves Q (removeFromCollection collection [crawlId] org) :=
    fun collection => .bind (Preserves.record _) fun _ => .forM fun id _ => calls _ rfl
  refine .bind (calls _ rfl) fun crawl => ?_
  refine .bind (.forM fun collection _ => add collection) fun _ => ?_
  exact .bind (.forM fun collection _ => remove collection) fun _ => .pure _

theorem updateCrawl (crawlId : String) (org : Organization) (update : CrawlUpdate)
    (type : Option CrawlType) :
    Action.Preserves Q (Action.updateCrawl crawlId org update type) := by
  have describe : Action.Preserves Q (if update.hasMetadata then
      onCrawls (.updateMetadata org.id crawlId type update) else pure ()) :=
    .ite (fun _ => calls _ rfl) fun _ => .pure ()
  refine .check ?_
  refine .bind (calls _ rfl) fun crawl => ?_
  refine .check ?_
  generalize update.collections = collections
  cases collections with
  | none => exact describe
  | some requested => exact .bind (setCollections calls crawlId org requested) fun _ => describe

theorem stopCrawl (services : Services) (crawl : Crawl) :
    Action.Preserves Q (Action.stopCrawl services crawl) := by
  refine .bind (Preserves.ask _ _) fun answer => ?_
  refine .ite (fun _ => .pure ()) fun _ => ?_
  refine .ite (fun _ => ?_) fun _ => .throw _
  exact .bind .get fun w => calls _ rfl

/-- The objects of a crawl are deleted, and meanwhile others may delete crawls. -/
theorem reclaim {services : Services} {org : Organization}
    (meanwhile : ∀ file type,
      Action.Preserves Q (deleteMeanwhile org (services.overlapping file) type))
    (batch : List Crawl) : Action.Preserves Q (Action.reclaim services org batch) := by
  have file : ∀ crawl file, Action.Preserves Q (deleteFile services org crawl file) := by
    intro crawl file
    refine .bind .get fun w => ?_
    refine .bind (meanwhile file .crawl) fun _ => .bind (meanwhile file .upload) fun _ => ?_
    refine .bind (Preserves.ask _ _) fun deleted => ?_
    exact .ite (fun _ => Preserves.send _) fun _ => .throw _
  exact preserves_reclaim_of (fun crawl _ _ _ => stopCrawl calls services crawl)
    (fun crawl _ f _ => file crawl f) (fun _ _ => Preserves.send _) (Preserves.count _)

end Updating

theorem settle [AccountStore σ] (services : Services) {org : Organization}
    (looksUp : Action.Preserves Q (getOrg org.id)) (deleted : Counter) (reclaimed : Reclaimed) :
    Action.Preserves Q (Action.settle services org deleted reclaimed) := by
  have correct : ∀ entry : String × Correction,
      Action.Preserves Q (correctConfig services entry.1 entry.2) := by
    intro entry
    refine .bind (Preserves.ask _ _) fun isThere => ?_
    exact .ite (fun _ => .pure ()) fun _ => .throw _
  refine .bind (.forM fun entry _ => correct entry) fun _ => ?_
  refine .bind (Preserves.count _) fun _ => ?_
  exact .bind looksUp fun _ => .pure _

/-- Crawls and uploads are deleted one type after the other. -/
theorem deleteAll [AccountStore σ] {services : Services} {org : Organization}
    {user : Option String} (looksUp : ∀ id, Action.Preserves Q (getCrawl org.id id))
    (deletes : ∀ ids type, Action.Preserves Q (Action.deleteCrawls services org ids type user))
    (ids : List String) : Action.Preserves Q (Action.deleteAll services org ids user) := by
  have part : ∀ ids type soFar,
      Action.Preserves Q (deletePart services org ids type user soFar) := by
    intro ids type soFar
    refine .ite (fun _ => .pure _) fun _ => ?_
    exact .bind (deletes ids type) fun _ => .pure _
  refine .bind (.mapM fun id _ => looksUp id) fun found => ?_
  refine .check ?_
  refine .bind (part _ .crawl _) fun crawls => ?_
  refine .bind (part _ .upload _) fun all => ?_
  exact .ite (fun _ => .throw _) fun _ => .pure _

section Deleting

variable [AccountStore σ]
  (orgs : ∀ call : OrgCall, call.isInsert = false → Action.Preserves Q (onOrgs call))
  (updates : ∀ call : CrawlCall, call.isUpdate = true → Action.Preserves Q (onCrawls call))
  (removes : ∀ orgId ids type, Action.Preserves Q (onCrawls (.delete orgId ids type)))

include removes in
theorem deleteMeanwhile (org : Organization) (ids : List String) (type : CrawlType) :
    Action.Preserves Q (Action.deleteMeanwhile org ids type) := by
  refine .ite (fun _ => .pure ()) fun _ => ?_
  exact .tryCatch (.bind (removes _ _ _) fun _ => .pure _) fun _ => .pure _

include updates in
theorem validate (org : Organization) (type : CrawlType) (user : Option String)
    (ids : List String) : Action.Preserves Q (Action.validate org type user ids) := by
  induction ids with
  | nil => exact .pure []
  | cons id ids ih =>
    rw [Action.validate]
    refine .bind (updates _ rfl) fun crawl => .ite (fun _ => ih) fun _ => ?_
    exact .ite (fun _ => .bind ih fun _ => .pure _) fun _ => .throw _

include orgs removes in
theorem commit (services : Services) (org : Organization) (batch : List Crawl) (type : CrawlType) :
    Action.Preserves Q (Action.commit services org batch type) := by
  have settles : ∀ deleted reclaimed,
      Action.Preserves Q (Action.settle services org deleted reclaimed) :=
    settle services (orgs _ rfl)
  refine .bind (removes _ _ _) fun removed => ?_
  exact .ite (fun _ => .bind (orgs _ rfl) fun _ => settles _ _) fun _ => settles _ _

include orgs updates removes in
theorem deleteCrawls (services : Services) (org : Organization) (ids : List String)
    (type : CrawlType) (user : Option String) :
    Action.Preserves Q (Action.deleteCrawls services org ids type user) := by
  refine .check ?_
  refine .bind (validate updates org type user _) fun batch => ?_
  refine .ite (fun _ => .bind (orgs (.get org.id) rfl) fun _ => .pure _) fun _ => ?_
  refine .bind (reclaim updates (fun file type => deleteMeanwhile removes org _ type) batch)
    fun _ => ?_
  exact commit orgs removes services org batch type

end Deleting

end Preserves

end Action

end ArchiveAccounts
