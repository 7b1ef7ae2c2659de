import ArchiveAccounts.Proofs.Crawl.Updates
import ArchiveAccounts.Proofs.Org.Usage
import ArchiveAccounts.Proofs.Service.Preserves

/-!
# The books of a store

The books are what a store says of stored bytes: the byte totals of each organization, and what each
crawl is to an account. Only bringing a document, removing one and moving byte totals change them.
Every action but the last step of a deletion keeps what depends only on the books.
-/

namespace ArchiveAccounts
set_option autoImplicit false

open Calendar

/-- What a store says of stored bytes. -/
structure Books where
  bytes : String → Option StoredBytes
  accounts : String → Option Crawl.Account

/-- The books of a store. -/
def MemoryStore.books (s : MemoryStore) : Books where
  bytes id := (s.orgs.get? id).map (·.bytes)
  accounts id := (s.crawls.get? id).map Crawl.account

/-- Whether a property of stores depends only on the books. -/
def OfBooks (Q : MemoryStore → Prop) : Prop := ∀ s t, s.books = t.books → Q s → Q t

theorem ofBooks_eq (b : Books) : OfBooks fun s => s.books = b := by
  intro s t same h
  exact same.symm.trans h

/-! ## Calls on the store -/

/-- Whether a call on organizations leaves the books alone. -/
def OrgCall.keepsBooks : OrgCall → Bool
  | insert _ | shiftBytes .. => false
  | _ => true

theorem OrgCall.bytes_apply {call : OrgCall} (keeps : call.keepsBooks = true) (org : Organization) :
    (call.apply org).2.bytes = org.bytes := by
  cases call with
  | insert new | shiftBytes id delta kind => exact nomatch keeps
  | get id | countSeconds id counter period n | updateQuotas id patch modified retention => rfl
  | creditMonthly id period n quota =>
    rw [apply, Organization.creditMonthly_eq]
  | drawPool id pool period n =>
    rw [apply, Organization.drawPool_eq]

theorem MemoryStore.books_onOrgs {call : OrgCall} (keeps : call.keepsBooks = true)
    (s : MemoryStore) : ((onOrgs call).run s).2.books = s.books := by
  have old : call.isInsert = false := by
    cases call with
    | insert new => exact nomatch keeps
    | get | countSeconds | creditMonthly | drawPool | shiftBytes | updateQuotas => rfl
  cases isThere : s.orgs.get? call.orgId with
  | none => rw [run_onOrgs_of_none isThere old]
  | some org =>
    have sameId : (call.apply org).2.id = call.orgId :=
      OrgCall.id_apply (Register.id_of_get? isThere)
    have sameBytes : ∀ id, ((s.orgs.insert (call.apply org).2).get? id).map (·.bytes)
        = (s.orgs.get? id).map (·.bytes) := by
      intro id
      rw [Register.get?_insert, sameId]
      split
      · next same => rw [same, isThere, Option.map_some, Option.map_some, OrgCall.bytes_apply keeps]
      · rfl
    rw [run_onOrgs isThere, books, books, funext sameBytes]

/-- A call on one crawl leaves every crawl the same to its account. -/
theorem CrawlTable.accounts_perform {call : CrawlCall} (onOne : call.isOnOne = true)
    (table : CrawlTable) (id : String) :
    ((((perform call).run table).2.get? id).map Crawl.account
      = (table.get? id).map Crawl.account) := by
  rcases perform_cases onOne table with same | ⟨crawl, changed, isThere, updates, after⟩
  · rw [same]
  · have keptId : changed.id = crawl.id := congrArg Crawl.Account.id updates.account
    rw [after, Register.get?_insert, keptId]
    split
    · next here => rw [here, isThere, Option.map_some, Option.map_some, updates.account]
    · rfl

theorem MemoryStore.books_onCrawls {call : CrawlCall} (onOne : call.isOnOne = true)
    (s : MemoryStore) : ((onCrawls call).run s).2.books = s.books := by
  rw [run_onCrawls, books, books, funext (CrawlTable.accounts_perform onOne s.crawls)]

/-! ## Actions -/

namespace Action

variable {Q : MemoryStore → Prop} (ofBooks : OfBooks Q)

section Calls

include ofBooks

theorem preserves_onOrgs {call : OrgCall} (keeps : call.keepsBooks = true) :
    Action.Preserves Q (onOrgs call : Action MemoryStore call.Reply) := by
  apply Preserves.onStore
  intro s h
  exact ofBooks s _ (MemoryStore.books_onOrgs keeps s).symm h

theorem preserves_onCrawls {call : CrawlCall} (onOne : call.isOnOne = true) :
    Action.Preserves Q (onCrawls call : Action MemoryStore call.Reply) := by
  apply Preserves.onStore
  intro s h
  exact ofBooks s _ (MemoryStore.books_onCrawls onOne s).symm h

theorem preserves_recording {call : OrgCall} (recording : call.isRecording = true) :
    Action.Preserves Q (onOrgs call : Action MemoryStore call.Reply) := by
  refine preserves_onOrgs ofBooks ?_
  cases call with
  | insert | shiftBytes | updateQuotas => exact nomatch recording
  | get | countSeconds | creditMonthly | drawPool => rfl

theorem preserves_update {call : CrawlCall} (update : call.isUpdate = true) :
    Action.Preserves Q (onCrawls call : Action MemoryStore call.Reply) := by
  refine preserves_onCrawls ofBooks ?_
  cases call with
  | insert | setSignedUrl | delete => exact nomatch update
  | get | addReplica | updateMetadata | markCanceled | addCollection | removeCollection => rfl

theorem preserves_mintLink (services : ObjectService) (seconds : Counter) (org : Organization)
    (crawlId : String) (file : CrawlFile) :
    Action.Preserves Q (mintLink services seconds org crawlId file) := by
  refine .bind .get fun w => ?_
  refine .bind (Preserves.ask _ _) fun url => ?_
  refine .bind (preserves_onCrawls ofBooks rfl) fun _ => ?_
  exact .bind (Preserves.count _) fun _ => .pure _

/-- The objects of a crawl are deleted without the books, unless others delete crawls meanwhile. -/
theorem preserves_reclaim {services : Services} (alone : ∀ file, services.overlapping file = [])
    (org : Organization) (batch : List Crawl) :
    Action.Preserves Q (reclaim services org batch) := by
  refine .reclaim (fun _ => preserves_update ofBooks) (fun file type => ?_) batch
  rw [alone]
  exact .pure ()

end Calls

end Action

end ArchiveAccounts
