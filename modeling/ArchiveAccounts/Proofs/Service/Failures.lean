import ArchiveAccounts.Proofs.Service.Preserves
import ArchiveAccounts.Service.Deletion
import ArchiveAccounts.Store.Memory
import ArchiveAccounts.Store.Relational

/-!
# Why computations fail

A property of every failure of a computation. It is enough that each step fails with that property
only. Main statements: `bind`, `tryCatch` and `forM`, that no call on a store is forbidden, and that
nothing is forbidden in a deletion once its batch is validated, unless a collaborator says so.
-/

namespace ArchiveAccounts
set_option autoImplicit false

/-- Whether something was refused because of who asked for it. -/
def Failure.isForbidden : Failure → Bool
  | forbidden _ => true
  | _ => false

namespace Attempt

variable {σ τ α β γ : Type}

/-- Whether every failure of a computation has a property. -/
def Throws (P : Failure → Prop) (a : Attempt σ α) : Prop := ∀ s e, (a.run s).1 = .error e → P e

namespace Throws

variable {P : Failure → Prop}

theorem pure (x : α) : Throws P (Pure.pure x : Attempt σ α) := by
  intro s e failed
  exact nomatch failed

theorem throw {e : Failure} (h : P e) : Throws P (MonadExcept.throw e : Attempt σ α) := by
  rintro s _ ⟨⟩
  exact h

theorem get : Throws P (MonadState.get : Attempt σ σ) := by
  intro s e failed
  exact nomatch failed

theorem change (f : σ → σ) : Throws P (modify f : Attempt σ PUnit) := by
  intro s e failed
  exact nomatch failed

theorem bind {a : Attempt σ α} {f : α → Attempt σ β} (first : Throws P a)
    (later : ∀ x, Throws P (f x)) : Throws P (a >>= f) := by
  intro s e failed
  rw [run_bind] at failed
  split at failed
  · next x t run => exact later x t e failed
  · next e' t run =>
    obtain rfl : e' = e := Except.error.inj failed
    exact first s e' (congrArg Prod.fst run)

theorem tryCatch {a : Attempt σ α} {handle : Failure → Attempt σ α} (first : Throws P a)
    (later : ∀ e, P e → Throws P (handle e)) : Throws P (MonadExcept.tryCatch a handle) := by
  intro s e failed
  rw [run_tryCatch] at failed
  split at failed
  · exact nomatch failed
  · next e' t run => exact later e' (first s e' (congrArg Prod.fst run)) t e failed

theorem ite {c : Prop} [Decidable c] {a b : Attempt σ α} (yes : Throws P a) (no : Throws P b) :
    Throws P (if c then a else b) := by
  split
  · exact yes
  · exact no

theorem forM {l : List γ} {f : γ → Attempt σ PUnit} (each : ∀ x, Throws P (f x)) :
    Throws P (l.forM f) := by
  induction l with
  | nil => exact pure ()
  | cons x l ih => exact bind (each x) fun _ => ih

theorem mapM {l : List γ} {f : γ → Attempt σ α} (each : ∀ x, Throws P (f x)) :
    Throws P (l.mapM f) := by
  induction l with
  | nil =>
    rw [List.mapM_nil]
    exact pure []
  | cons x l ih =>
    rw [List.mapM_cons]
    exact bind (each x) fun _ => bind ih fun _ => pure _

theorem atomically {a : Attempt σ α} (h : Throws P a) : Throws P (Attempt.atomically a) := by
  intro s e failed
  rw [run_atomically] at failed
  split at failed
  · exact nomatch failed
  · next e' t run =>
    obtain rfl : e' = e := Except.error.inj failed
    exact h s e' (congrArg Prod.fst run)

theorem zoom {part : σ → τ} {replace : σ → τ → σ} {a : Attempt τ α} (h : Throws P a) :
    Throws P (Attempt.zoom part replace a) := by
  intro s e failed
  exact h (part s) e failed

end Throws

end Attempt

/-- Whether a computation never says that something is forbidden. -/
abbrev Attempt.Allows {σ α : Type} (a : Attempt σ α) : Prop := Throws (·.isForbidden = false) a

open Attempt

/-- A store that forbids no call. -/
class AllowingStore (σ : Type) [AccountStore σ] : Prop where
  onOrgs : ∀ call : OrgCall, Allows (AccountStore.onOrgs call : Attempt σ call.Reply)
  onCrawls : ∀ call : CrawlCall, Allows (AccountStore.onCrawls call : Attempt σ call.Reply)

/-! ## The store in memory -/

namespace CrawlTable

theorem allows_find (id : String) : Allows (find id) := by
  refine .bind .get fun table => ?_
  split
  · exact .pure _
  · exact .throw rfl

theorem allows_findOf (orgId id : String) : Allows (findOf orgId id) :=
  .bind (allows_find id) fun _ => .ite (.pure _) (.throw rfl)

theorem allows_delete (orgId : String) (type : CrawlType) (ids : List String) :
    Allows (delete orgId type ids) := by
  intro table e failed
  obtain ⟨removed, rest, run, _⟩ := run_delete table orgId type ids
  rw [run] at failed
  exact nomatch failed

theorem allows_perform (call : CrawlCall) : Allows (perform call) := by
  cases call with
  | insert crawl => exact .change _
  | get orgId id => exact allows_findOf orgId id
  | setSignedUrl id filename url expiresAt =>
    refine .bind .get fun table => ?_
    split
    · exact .bind (.change _) fun _ => .pure _
    · exact .pure _
  | addReplica id filename replica => exact .bind (allows_find id) fun _ => .change _
  | updateMetadata orgId id type update =>
    exact .bind (allows_findOf orgId id) fun _ => .ite (.change _) (.throw rfl)
  | markCanceled id finished => exact .bind (allows_find id) fun _ => .change _
  | addCollection orgId id collection =>
    refine .bind (allows_findOf orgId id) fun crawl => .bind ?_ fun _ => .change _
    rw [Crawl.joined]
    split
    · exact .throw rfl
    · exact .pure _
  | removeCollection orgId id collection =>
    exact .bind (allows_findOf orgId id) fun _ => .change _
  | delete orgId ids type => exact allows_delete orgId type ids

end CrawlTable

namespace MemoryStore

instance : AllowingStore MemoryStore where
  onOrgs call := by
    intro s e failed
    by_cases new : call.isInsert
    · cases call with
      | insert org => exact nomatch failed
      | _ => exact nomatch new
    · cases found : s.orgs.get? call.orgId with
      | none =>
        have run : (AccountStore.onOrgs call).run s = _ :=
          run_onOrgs_of_none found (Bool.eq_false_iff.2 new)
        rw [run] at failed
        obtain rfl := Except.error.inj failed
        rfl
      | some org =>
        have run : (AccountStore.onOrgs call).run s = _ := run_onOrgs found
        rw [run] at failed
        exact nomatch failed
  onCrawls call := .zoom (CrawlTable.allows_perform call)

end MemoryStore

/-! ## The relational store -/

namespace RelationalStore

theorem allows_need {α : Type} (value : Option α) : Allows (need value) := by
  cases value with
  | none => exact .throw rfl
  | some a => exact .pure a

theorem allows_find (id : String) : Allows (find id) := by
  refine .bind .get fun s => ?_
  split
  · exact .pure _
  · exact .throw rfl

theorem allows_load (id : String) : Allows (load id) :=
  .bind (allows_find id) fun _ => .bind .get fun _ => allows_need _

theorem allows_perform (call : OrgCall) : Allows (perform call) := by
  have find := allows_find
  cases call with
  | insert org => exact .bind (allows_need _) fun _ => .bind (.change _) fun _ => .change _
  | get id => exact allows_load id
  | countSeconds id counter period seconds => exact .bind (find id) fun _ => .change _
  | creditMonthly id period seconds quota =>
    refine .bind (find id) fun _ => .bind .get fun _ => .bind (allows_need _) fun _ => ?_
    exact .ite (.bind (.change _) fun _ => .pure _) (.pure _)
  | drawPool id pool period seconds =>
    refine .bind (find id) fun _ => .bind (allows_need _) fun _ => ?_
    exact .ite (.bind (.change _) fun _ => .bind (.change _) fun _ => .pure _) (.pure _)
  | shiftBytes id delta kind => exact .bind (find id) fun _ => .change _
  | updateQuotas id patch modified retention =>
    refine .bind (allows_need _) fun _ => ?_
    refine .bind (allows_load id) fun _ => .bind (find id) fun _ => ?_
    refine .bind (.change _) fun _ => .bind (.change _) fun _ => ?_
    split
    · exact .bind (.change _) fun _ => .pure _
    · exact .pure _

theorem allows_loadCrawl? (orgId : Option String) (id : String) : Allows (loadCrawl? orgId id) := by
  refine .bind .get fun s => ?_
  split
  · exact .pure _
  · exact .ite (.bind (allows_need _) fun _ => .pure _) (.pure _)

theorem allows_loadCrawl (orgId : Option String) (id : String) : Allows (loadCrawl orgId id) := by
  refine .bind (allows_loadCrawl? orgId id) fun crawl => ?_
  split
  · exact .pure _
  · exact .throw rfl

theorem allows_storeCrawl (crawl : Crawl) : Allows (storeCrawl crawl) := by
  refine .bind (allows_need _) fun _ => .bind .get fun s => ?_
  split
  · exact .pure _
  · exact .change _

theorem allows_performOnCrawls (call : CrawlCall) : Allows (performOnCrawls call) := by
  have load := allows_loadCrawl
  have store := allows_storeCrawl
  cases call with
  | insert crawl => exact .bind (allows_need _) fun _ => .change _
  | get orgId id => exact load _ id
  | setSignedUrl id filename url expiresAt =>
    refine .bind (allows_loadCrawl? none id) fun crawl => ?_
    split
    · exact .bind (store _) fun _ => .pure _
    · exact .pure _
  | addReplica id filename replica =>
    exact .bind (load none id) fun _ => .ite (store _) (.pure _)
  | updateMetadata orgId id type update =>
    exact .bind (load _ id) fun _ => .ite (store _) (.throw rfl)
  | markCanceled id finished => exact .bind (load none id) fun _ => store _
  | addCollection orgId id collection =>
    refine .bind (load _ id) fun crawl => .bind ?_ fun _ => store _
    rw [Crawl.joined]
    split
    · exact .throw rfl
    · exact .pure _
  | removeCollection orgId id collection =>
    exact .bind (load _ id) fun _ => .ite (store _) (.pure _)
  | delete orgId ids type =>
    refine .ite (.pure _) (.ite (.bind (.throw rfl) fun _ => ?_) ?_)
    all_goals exact .bind .get fun _ => .bind (.change _) fun _ => .pure _

instance : AllowingStore RelationalStore where
  onOrgs call := .atomically (allows_perform call)
  onCrawls call := .atomically (allows_performOnCrawls call)

end RelationalStore

/-! ## Deletions of validated batches -/

/-- Whether no collaborator of a deletion answers that something is forbidden. -/
structure Services.Allow (services : Services) : Prop where
  deleteObject : ∀ before now org file e,
    services.deleteObject before now org file = .error e → e.isForbidden = false
  stop : ∀ before id graceful e,
    services.stop before id graceful = .error e → e.isForbidden = false
  correctConfig : ∀ before config size count e,
    services.correctConfig before config size count = .error e → e.isForbidden = false

namespace Action

variable {σ α : Type} {services : Services}

theorem allows_ask {event : Event} {answer : List Event → Except Failure α}
    (answers : ∀ before e, answer before = .error e → e.isForbidden = false) :
    Allows (ask event answer : Action σ α) := by
  intro w e failed
  exact answers w.trace e failed

theorem allows_send (message : Message) : Allows (send message : Action σ Unit) := by
  intro w e failed
  exact nomatch failed

variable [AccountStore σ] [AllowingStore σ]

theorem allows_onOrgs (call : OrgCall) : Allows (onOrgs call : Action σ call.Reply) :=
  .zoom (AllowingStore.onOrgs call)

theorem allows_onCrawls (call : CrawlCall) : Allows (onCrawls call : Action σ call.Reply) :=
  .zoom (AllowingStore.onCrawls call)

theorem allows_stopCrawl (allow : services.Allow) (crawl : Crawl) :
    Allows (stopCrawl services crawl : Action σ Unit) := by
  refine .bind (allows_ask fun before e => allow.stop before crawl.id false e) fun answer => ?_
  refine .ite (.pure _) (.ite ?_ (.throw rfl))
  exact .bind .get fun _ => allows_onCrawls _

theorem allows_deleteMeanwhile (org : Organization) (ids : List String) (type : CrawlType) :
    Allows (deleteMeanwhile org ids type : Action σ Unit) := by
  refine .ite (.pure _) (.tryCatch ?_ fun _ _ => .pure _)
  exact .bind (allows_onCrawls _) fun _ => .pure _

theorem allows_deleteFile (allow : services.Allow) (org : Organization) (crawl : Crawl)
    (file : CrawlFile) :
    Allows (deleteFile services org crawl file : Action σ Unit) := by
  refine .bind .get fun w => ?_
  refine .bind (allows_deleteMeanwhile org _ _) fun _ => ?_
  refine .bind (allows_deleteMeanwhile org _ _) fun _ => ?_
  refine .bind (allows_ask fun before e => allow.deleteObject before w.now org file e) fun _ => ?_
  exact .ite (allows_send _) (.throw rfl)

theorem allows_reclaim (allow : services.Allow) (org : Organization) (batch : List Crawl) :
    Allows (reclaim services org batch : Action σ Unit) := by
  refine .tryCatch (.forM fun crawl => ?_) fun e allowed => ?_
  · have files := Throws.forM (l := crawl.files) (allows_deleteFile (σ := σ) allow org crawl)
    refine .ite (.bind (allows_stopCrawl allow crawl) fun _ => ?_) ?_
    all_goals exact .bind files fun _ => allows_send _
  · exact .ite (.bind (.change _) fun _ => .throw allowed) (.throw allowed)

theorem allows_settle (allow : services.Allow) (org : Organization) (deleted : Counter)
    (reclaimed : Reclaimed) :
    Allows (settle services org deleted reclaimed : Action σ DeletionOutcome) := by
  refine .bind (.forM fun (config, c) => ?_) fun _ => .bind (.change _) fun _ => ?_
  · refine .bind (allows_ask fun before e => allow.correctConfig before config _ _ e) fun _ => ?_
    exact .ite (.pure _) (.throw rfl)
  · exact .bind (allows_onOrgs _) fun _ => .pure _

theorem allows_commit (allow : services.Allow) (org : Organization) (batch : List Crawl)
    (type : CrawlType) :
    Allows (commit services org batch type : Action σ DeletionOutcome) := by
  refine .bind (allows_onCrawls _) fun removed => ?_
  refine .ite (.bind (allows_onOrgs _) fun _ => ?_) ?_
  all_goals exact allows_settle allow org _ _

end Action

end ArchiveAccounts
