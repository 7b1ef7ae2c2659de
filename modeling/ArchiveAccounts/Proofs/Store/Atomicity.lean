import ArchiveAccounts.Proofs.Store.ChecksFirst
import ArchiveAccounts.Proofs.Store.CrawlTables
import ArchiveAccounts.Proofs.Store.TenantRows

/-!
# Calls that act as a whole

A call that fails has changed nothing. A call that answers has changed no document but those that it
names: its organization, its crawl, or the crawls that it answers to have deleted. Main statements:
`acts_atomically`, and `orgDocument_afterCalls` and `crawlDocument_afterCalls` for the documents
that no call of a run names.
-/

namespace ArchiveAccounts
set_option autoImplicit false

open AccountStore

/-! ## Documents -/

/-- A store of documents under ids, from which its look-ups of organizations answer. -/
class DocumentStore (σ : Type) [AccountStore σ] where
  OrgDocument : Type
  CrawlDocument : Type
  /-- All that is stored of the organization of an id. -/
  orgDocument : σ → String → OrgDocument
  /-- All that is stored of the crawl of an id. -/
  crawlDocument : σ → String → Option CrawlDocument
  lookUpOrg_congr {s t : σ} {id : String} (same : orgDocument t id = orgDocument s id) :
    lookUpOrg t id = lookUpOrg s id

/-- The ids of the crawls that a call names. -/
def CrawlCall.crawlIds : CrawlCall → List String
  | insert crawl => [crawl.id]
  | get _ id | setSignedUrl id .. | addReplica id .. | updateMetadata _ id .. | markCanceled id _
  | addCollection _ id _ | removeCollection _ id _ => [id]
  | delete _ ids _ => ids

/-- The ids of the crawls that a call may change, given what it answers: a deletion takes away those
that it answers, any other call changes the one that it names. -/
def CrawlCall.changedIds : (call : CrawlCall) → call.Reply → List String
  | delete .., removed => removed
  | call, _ => call.crawlIds

namespace StoreCall

/-- The ids of the organizations that a call may change. -/
def orgIds : StoreCall → List String
  | onOrgs call => [call.orgId]
  | onCrawls _ => []

/-- The ids of the crawls that a call names. -/
def crawlIds : StoreCall → List String
  | onOrgs _ => []
  | onCrawls call => call.crawlIds

/-- The ids of the crawls that a call may change, given what it answers. -/
def changedIds : (call : StoreCall) → call.Reply → List String
  | onOrgs _, _ => []
  | onCrawls call, reply => call.changedIds reply

end StoreCall

open DocumentStore (orgDocument crawlDocument)

section Documents

variable {σ : Type} [AccountStore σ] [DocumentStore σ]

/-- Whether two stores have the same documents but for some organizations and crawls. -/
structure SameBut (orgIds crawlIds : List String) (s t : σ) : Prop where
  orgs : ∀ id, id ∉ orgIds → orgDocument t id = orgDocument s id
  crawls : ∀ id, id ∉ crawlIds → crawlDocument t id = crawlDocument s id

/-- What a deletion answers: the listed crawls of the organization and the type, once each, all of
which are gone. -/
structure DeletesListed (orgId : String) (ids : List String) (type : CrawlType)
    (removed : List String) (s t : σ) : Prop where
  nodup : removed.Nodup
  mem_removed : ∀ id, id ∈ removed ↔
    id ∈ ids ∧ ∃ crawl, lookUpCrawl s orgId id = .ok crawl ∧ crawl.type = type
  gone : ∀ id, id ∈ removed → crawlDocument t id = none

/-- Whether each call on a store changes nothing if it fails, and if not, no document but those that
it names. -/
structure ActsAtomically (s : σ) : Prop where
  fails : ∀ (call : StoreCall) e t, call.perform.run s = (.error e, t) → t = s
  answers : ∀ (call : StoreCall) reply t, call.perform.run s = (.ok reply, t) →
    SameBut call.orgIds (call.changedIds reply) s t
  deletes : ∀ orgId ids type removed t,
    (onCrawls (.delete orgId ids type)).run s = (.ok removed, t) →
      DeletesListed orgId ids type removed s t

end Documents

/-- A store of documents that acts atomically in every state that calls come to. -/
class AtomicStore (σ : Type) [AccountStore σ] extends DocumentStore σ where
  IsOrderly : σ → Prop
  isOrderly_after {s : σ} (orderly : IsOrderly s) (call : StoreCall) : IsOrderly (call.after s)
  actsAtomically {s : σ} (orderly : IsOrderly s) : ActsAtomically s

section Untouched

open AtomicStore

variable {σ : Type} [AccountStore σ] [AtomicStore σ] {s : σ} {id : String}

theorem orgDocument_after (orderly : IsOrderly s) {call : StoreCall} (other : id ∉ call.orgIds) :
    orgDocument (call.after s) id = orgDocument s id := by
  obtain ⟨fails, answers, _⟩ := actsAtomically orderly
  rw [StoreCall.after]
  rcases run : call.perform.run s with ⟨_ | reply, t⟩
  · rw [fails call _ t run]
  · exact (answers call reply t run).orgs id other

theorem crawlDocument_after (orderly : IsOrderly s) {call : StoreCall}
    (other : id ∉ call.crawlIds) : crawlDocument (call.after s) id = crawlDocument s id := by
  obtain ⟨fails, answers, deletes⟩ := actsAtomically orderly
  rw [StoreCall.after]
  rcases run : call.perform.run s with ⟨_ | reply, t⟩
  · rw [fails call _ t run]
  · refine (answers call reply t run).crawls id fun changed => other ?_
    -- only a deletion changes other crawls than all that it names, and these are among them
    cases call with
    | onOrgs call => exact changed
    | onCrawls call =>
      cases call with
      | delete orgId ids type =>
        exact (((deletes orgId ids type reply t run).mem_removed id).1 changed).1
      | _ => exact changed

/-- An organization that no call of a run names stays as it is. -/
theorem orgDocument_afterCalls (orderly : IsOrderly s) {calls : List StoreCall}
    (others : ∀ call ∈ calls, id ∉ call.orgIds) :
    orgDocument (afterCalls calls s) id = orgDocument s id := by
  induction calls generalizing s with
  | nil => rfl
  | cons call calls ih =>
    obtain ⟨first, later⟩ := List.forall_mem_cons.1 others
    exact (ih (isOrderly_after orderly call) later).trans (orgDocument_after orderly first)

/-- A crawl that no call of a run names stays as it is. -/
theorem crawlDocument_afterCalls (orderly : IsOrderly s) {calls : List StoreCall}
    (others : ∀ call ∈ calls, id ∉ call.crawlIds) :
    crawlDocument (afterCalls calls s) id = crawlDocument s id := by
  induction calls generalizing s with
  | nil => rfl
  | cons call calls ih =>
    obtain ⟨first, later⟩ := List.forall_mem_cons.1 others
    exact (ih (isOrderly_after orderly call) later).trans (crawlDocument_after orderly first)

end Untouched

/-! ## Tables of crawls -/

theorem CrawlCall.Updates.changedIds_eq {call : CrawlCall} {crawl changed : Crawl}
    (updates : call.Updates crawl changed) (reply : call.Reply) :
    call.changedIds reply = [crawl.id] := by
  cases updates <;> rfl

namespace CrawlTable

variable (table : CrawlTable)

/-- A call on one crawl changes no other one. -/
theorem get?_perform {call : CrawlCall} (onOne : call.isOnOne = true) (reply : call.Reply)
    {id : String} (other : id ∉ call.changedIds reply) :
    ((perform call).run table).2.get? id = table.get? id := by
  rcases perform_cases onOne table with same | ⟨crawl, changed, _, updates, after⟩
  · rw [same]
  · have named : changed.id = crawl.id := congrArg Crawl.Account.id updates.account
    rw [updates.changedIds_eq, List.mem_singleton] at other
    rw [after, Register.get?_insert, named, if_neg other]

theorem holds_iff {orgId : String} {type : CrawlType} {id : String} :
    table.holds orgId type id = true
      ↔ ∃ crawl, ((findOf orgId id).run table).1 = .ok crawl ∧ crawl.type = type := by
  rw [holds, run_findOf]
  cases table.get? id with
  | none => simp
  | some crawl =>
    by_cases owner : crawl.orgId = orgId
    · simp [owner]
    · simp [owner]

/-- What a deletion from the table answers, in any order. -/
theorem Deletes.deletesListed {σ : Type} [AccountStore σ] [TableStore σ] [DocumentStore σ] {s t : σ}
    {table rest : CrawlTable} (holds : TableStore.HoldsTable s table) {orgId : String}
    {ids removed answer : List String} {type : CrawlType}
    (deletes : Deletes orgId type ids table removed rest) (same : removed.Perm answer)
    (gone : ∀ id, rest.get? id = none → crawlDocument t id = none) :
    DeletesListed orgId ids type answer s t where
  nodup := same.nodup deletes.nodup
  mem_removed id := by
    simp only [← same.mem_iff, deletes.mem_removed, holds_iff, TableStore.lookUpCrawl_eq holds]
  gone id mem := by
    apply gone
    rw [deletes.get?_rest, if_pos (same.mem_iff.2 mem)]

end CrawlTable

/-! ## The store in memory -/

namespace MemoryStore

instance : DocumentStore MemoryStore where
  OrgDocument := Option Organization
  CrawlDocument := Crawl
  orgDocument s id := s.orgs.get? id
  crawlDocument s id := s.crawls.get? id
  lookUpOrg_congr same := by rw [lookUpOrg_eq, lookUpOrg_eq, same]

/-- A call on one organization changes no other one. -/
theorem get?_onOrgs (s : MemoryStore) {call : OrgCall} {id : String} (other : id ≠ call.orgId) :
    ((onOrgs call).run s).2.orgs.get? id = s.orgs.get? id := by
  have put : ∀ org : Organization, org.id = call.orgId →
      (s.orgs.insert org).get? id = s.orgs.get? id := by
    intro org named
    rw [Register.get?_insert, named, if_neg other]
  cases isThere : s.orgs.get? call.orgId with
  | none =>
    cases new : call.isInsert with
    | true =>
      cases call with
      | insert org => exact put org rfl
      | _ => cases new
    | false => rw [run_onOrgs_of_none isThere new]
  | some org =>
    rw [run_onOrgs isThere]
    exact put _ (OrgCall.id_apply (Register.id_of_get? isThere))

/-- A call on crawls changes none but those that it names. -/
theorem get?_onCrawls {s t : MemoryStore} {call : CrawlCall} {reply : call.Reply}
    (run : (onCrawls call).run s = (.ok reply, t)) {id : String}
    (other : id ∉ call.changedIds reply) : t.crawls.get? id = s.crawls.get? id := by
  rw [run_onCrawls] at run
  injection run with result after
  rw [← after]
  dsimp only
  cases call with
  | insert crawl =>
    have different : id ≠ crawl.id := fun same => other (List.mem_singleton.2 same)
    exact (Register.get?_insert s.crawls crawl id).trans (if_neg different)
  | delete orgId ids type =>
    obtain ⟨removed, rest, deleted, deletes⟩ := CrawlTable.run_delete s.crawls orgId type ids
    rw [CrawlTable.perform, deleted] at result ⊢
    obtain rfl := Except.ok.inj result
    exact (deletes.get?_rest id).trans (if_neg other)
  | _ => exact CrawlTable.get?_perform s.crawls rfl reply other

theorem actsAtomically (s : MemoryStore) : ActsAtomically s where
  fails call e t failed := by
    cases call with
    | onOrgs call => exact failsUnchanged_onOrgs call s e t failed
    | onCrawls call => exact failsUnchanged_onCrawls call s e t failed
  answers call reply t run := by
    cases call with
    | onOrgs call =>
      have after : ((onOrgs call).run s).2 = t := congrArg Prod.snd run
      refine ⟨fun id other => ?_, fun id _ => ?_⟩
      · rw [← after]
        exact get?_onOrgs s fun same => other (List.mem_singleton.2 same)
      · rw [← after]
        exact congrArg (·.get? id) (crawls_onOrgs s call)
    | onCrawls call =>
      refine ⟨fun id _ => ?_, fun id other => get?_onCrawls run other⟩
      have after : ((onCrawls call).run s).2 = t := congrArg Prod.snd run
      rw [← after]
      rfl
  deletes orgId ids type answer t run := by
    obtain ⟨removed, rest, deleted, deletes⟩ := CrawlTable.run_delete s.crawls orgId type ids
    have run : (onCrawls (.delete orgId ids type)).run s = (.ok answer, t) := run
    rw [run_onCrawls, CrawlTable.perform, deleted] at run
    injection run with result after
    obtain rfl := Except.ok.inj result
    have holds : TableStore.HoldsTable s s.crawls := rfl
    refine deletes.deletesListed holds (.refl _) fun id gone => ?_
    rw [← after]
    exact gone

instance : AtomicStore MemoryStore where
  IsOrderly _ := True
  isOrderly_after _ _ := trivial
  actsAtomically _ := actsAtomically _

end MemoryStore

/-! ## The relational store -/

namespace RelationalStore

/-- The rows of an organization. -/
structure OrgRows where
  row : Option OrgRow
  seconds : List (SecondsKey × Cell)
  log : List (Nat × ChangeRow)

variable (s : RelationalStore)

/-- The rows of the organization of an id. -/
def orgRows (id : String) : OrgRows := ⟨s.orgs.get? id, s.secondsOf id, s.log id⟩

instance : DocumentStore RelationalStore where
  OrgDocument := OrgRows
  CrawlDocument := CrawlRow
  orgDocument s id := s.orgRows id
  crawlDocument s id := s.crawls.get? id
  lookUpOrg_congr same := by
    injection same with row seconds log
    exact lookUpOrg_congr row seconds log

theorem secondsOf_congr {s t : RelationalStore} {id : String}
    (same : ∀ key, key.orgId = id → t.seconds.get? key = s.seconds.get? key) :
    t.secondsOf id = s.secondsOf id := by
  have sameRows : t.seconds.filter (fun key _ => key.orgId == id)
      = s.seconds.filter (fun key _ => key.orgId == id) := by
    apply SortedMap.ext_get?
    intro key
    rw [SortedMap.get?_filter, SortedMap.get?_filter]
    by_cases mine : key.orgId = id
    · rw [same key mine]
    · have refused : (key.orgId == id) = false := beq_eq_false_iff_ne.2 mine
      simp [refused]
  exact congrArg SortedMap.toList sameRows

/-- Writing and deleting rows of an organization leaves the rows of others as they are, as long as
new rows of the log get new numbers. -/
theorem keptByRows_orgRows (orgId : String) :
    KeptByRows (fun t => t.NumbersBelow ∧ ∀ id, id ≠ orgId → t.orgRows id = s.orgRows id)
      orgId where
  put t row h := by
    refine ⟨h.1, fun id other => ?_⟩
    rw [← h.2 id other]
    exact congrArg (OrgRows.mk · _ _) ((t.orgs.get?_insert orgId id row).trans (if_neg other))
  addSeconds t counter period n h := by
    refine ⟨h.1, fun id other => ?_⟩
    rw [← h.2 id other]
    refine congrArg (OrgRows.mk _ · _) (secondsOf_congr fun key mine => ?_)
    rw [get?_addSeconds, if_neg]
    rintro rfl
    exact other mine.symm
  append t row known h := by
    refine ⟨t.numbersBelow_append h.1 row, fun id other => ?_⟩
    rw [← h.2 id other]
    refine congrArg (OrgRows.mk _ _ ·) ?_
    rw [log_append t id h.1, known.1, if_neg (Ne.symm other), List.append_nil]
  trim t count h := by
    refine ⟨t.numbersBelow_trim orgId h.1 count, fun id other => ?_⟩
    rw [← h.2 id other]
    exact congrArg (OrgRows.mk _ _ ·) ((t.log_trim orgId count id).trans (if_neg other))
  clear t h := by
    refine ⟨t.numbersBelow_clear orgId h.1, fun id other => ?_⟩
    rw [← h.2 id other]
    refine congrArg₂ (OrgRows.mk _) (secondsOf_congr fun key mine => ?_) ?_
    · rw [get?_seconds_clear, if_neg (mine ▸ other)]
    · exact (t.log_clear orgId id).trans (if_neg other)
  insertSeconds t seconds h := by
    refine ⟨h.1, fun id other => ?_⟩
    rw [← h.2 id other]
    refine congrArg (OrgRows.mk _ · _) (secondsOf_congr fun key mine => ?_)
    exact get?_insertSeconds_of_ne t orgId seconds (mine ▸ other)

/-- Whether new rows of the log get new numbers, and the rows of crawls hold a table. -/
structure IsOrderly : Prop where
  below : s.NumbersBelow
  crawls : ∃ table, HoldCrawls s.crawls table

variable {s} {t : RelationalStore}

/-- A call on one organization changes no rows of others. -/
theorem orgRows_onOrgs (below : s.NumbersBelow) (call : OrgCall) {id : String}
    (other : id ≠ call.orgId) : ((onOrgs call).run s).2.orgRows id = s.orgRows id := by
  have kept := (keptByRows_orgRows s call.orgId).perform.atomically s ⟨below, fun _ _ => rfl⟩
  exact kept.2 id other

/-- A deletion that answers has deleted from the rows what it would delete from the table. -/
theorem deletes_of_onCrawls {table : CrawlTable} (holds : HoldCrawls s.crawls table)
    {orgId : String} {ids answer : List String} {type : CrawlType}
    (run : (onCrawls (.delete orgId ids type)).run s = (.ok answer, t)) :
    ∃ removed rest, CrawlTable.Deletes orgId type ids table removed rest ∧ removed.Perm answer ∧
      HoldCrawls t.crawls rest := by
  by_cases many : maxDeletedIds < ids.length
  · rw [run_delete_many s orgId type many] at run
    cases run
  · obtain ⟨removed, rest, _, deletes⟩ := CrawlTable.run_delete table orgId type ids
    obtain ⟨answered, rows, deleted, same, holdsRest⟩ :=
      run_deleteCrawls holds orgId type (Nat.not_lt.1 many) deletes
    rw [onCrawls, Attempt.run_atomically_eq_ok_iff, performOnCrawls, deleted] at run
    injection run with result after
    obtain rfl := Except.ok.inj result
    rw [← after]
    exact ⟨removed, rest, deletes, same, holdsRest⟩

/-- A call on crawls changes no rows but those of the crawls that it names. -/
theorem get?_onCrawls {table : CrawlTable} (holds : HoldCrawls s.crawls table) {call : CrawlCall}
    {reply : call.Reply} (run : (onCrawls call).run s = (.ok reply, t)) {id : String}
    (other : id ∉ call.changedIds reply) : t.crawls.get? id = s.crawls.get? id := by
  -- whatever cannot be written as a row leaves all rows, the rest comes to what the table says
  have onOne : call.isOnOne = true → t.crawls.get? id = s.crawls.get? id := by
    intro onOne
    have after := holdCrawls_onCrawls holds call
    rw [run] at after
    rcases after with same | holdsAfter
    · exact congrArg (·.crawls.get? id) same
    · rw [holdsAfter.get?_eq, holds.get?_eq, CrawlTable.get?_perform table onOne reply other]
  cases call with
  | insert crawl =>
    have different : id ≠ crawl.id := fun same => other (List.mem_singleton.2 same)
    rw [onCrawls, Attempt.run_atomically_eq_ok_iff, performOnCrawls] at run
    cases written : CrawlRow.ofCrawl? crawl with
    | none =>
      rw [written] at run
      cases run
    | some row =>
      rw [written] at run
      have after : { s with crawls := s.crawls.insert crawl.id row } = t := congrArg Prod.snd run
      rw [← after]
      exact (s.crawls.get?_insert crawl.id id row).trans (if_neg different)
  | delete orgId ids type =>
    obtain ⟨removed, rest, deletes, same, holdsRest⟩ := deletes_of_onCrawls holds run
    have stays : id ∉ removed := mt same.mem_iff.1 other
    rw [holdsRest.get?_eq, holds.get?_eq, deletes.get?_rest, if_neg stays]
  | _ => exact onOne rfl

theorem actsAtomically (orderly : s.IsOrderly) : ActsAtomically s where
  fails call e t failed := by
    cases call with
    | onOrgs call =>
      have unchanged := failsUnchanged_perform call
      have failed : (onOrgs call).run s = (.error e, t) := failed
      rw [onOrgs, unchanged.atomically_eq] at failed
      exact unchanged s e t failed
    | onCrawls call =>
      have unchanged := failsUnchanged_performOnCrawls call
      have failed : (onCrawls call).run s = (.error e, t) := failed
      rw [onCrawls, unchanged.atomically_eq] at failed
      exact unchanged s e t failed
  answers call reply t run := by
    obtain ⟨below, table, holds⟩ := orderly
    cases call with
    | onOrgs call =>
      have after : ((onOrgs call).run s).2 = t := congrArg Prod.snd run
      refine ⟨fun id other => ?_, fun id _ => ?_⟩
      · rw [← after]
        exact orgRows_onOrgs below call fun same => other (List.mem_singleton.2 same)
      · have same : Attempt.Preserves (fun t => t.crawls = s.crawls) (onOrgs call) :=
          (keptByRows_of_crawls (· = s.crawls) call.orgId).perform.atomically
        have same : ((onOrgs call).run s).2.crawls = s.crawls := same s rfl
        rw [← after]
        exact congrArg (·.get? id) same
    | onCrawls call =>
      refine ⟨fun id _ => ?_, fun id other => get?_onCrawls holds run other⟩
      have after : ((onCrawls call).run s).2 = t := congrArg Prod.snd run
      have same : ApartStore.butCrawls ((AccountStore.onCrawls call).run s).2
          = ApartStore.butCrawls s := ApartStore.keepsRest s call
      have sameRows := congrArg (fun rest : RelationalStore => rest.orgRows id) same
      rw [← after]
      exact sameRows
  deletes orgId ids type answer t run := by
    obtain ⟨_, table, holds⟩ := orderly
    obtain ⟨removed, rest, deletes, same, holdsRest⟩ := deletes_of_onCrawls holds run
    have holds : TableStore.HoldsTable s table := holds
    exact deletes.deletesListed holds same fun id gone => holdsRest.get?_eq_none gone

instance : AtomicStore RelationalStore where
  IsOrderly := IsOrderly
  isOrderly_after {s} orderly call := by
    obtain ⟨below, table, holds⟩ := orderly
    exact ⟨numbersBelow_after below call, exists_holdCrawls_after holds call⟩
  actsAtomically := actsAtomically

end RelationalStore

/-- Every call on a store either fails and changes nothing, or changes no document but those that it
names; so it is in every relational store that calls come to. -/
theorem acts_atomically :
    (∀ s : MemoryStore, ActsAtomically s) ∧
    (∀ s : RelationalStore, s.IsOrderly → ActsAtomically s) ∧
    ∀ calls : List StoreCall, (afterCalls calls ({} : RelationalStore)).IsOrderly :=
  ⟨MemoryStore.actsAtomically, fun _ => RelationalStore.actsAtomically, fun calls =>
    ⟨(RelationalStore.sound_afterCalls calls).below,
      RelationalStore.exists_holdCrawls_afterCalls calls⟩⟩

theorem acts_atomically_deletion :
    let crawl : Crawl := { id := "c", orgId := "org-1", type := .crawl, state := .complete }
    let s : MemoryStore := { crawls := Register.insert ∅ crawl }
    let v : RelationalStore := afterCalls [.onCrawls (.insert crawl)] {}
    let ids := ["other", "c", "c"]
    (onCrawls (.delete "org-1" ids .crawl)).run s = (.ok ["c"], {}) ∧
      DeletesListed "org-1" ids .crawl ["c"] s {} ∧ v.IsOrderly ∧ ActsAtomically v := by
  intro crawl s v ids
  obtain ⟨inMemory, inRows, reached⟩ := acts_atomically
  have answered : @Eq (Except Failure (List String))
      ((onCrawls (.delete "org-1" ids .crawl)).run s).1 (.ok ["c"]) := by decide +kernel
  have emptied : ((onCrawls (.delete "org-1" ids .crawl)).run s).2 = {} := by decide +kernel
  have run : (onCrawls (.delete "org-1" ids .crawl)).run s = (.ok ["c"], {}) :=
    Prod.ext answered emptied
  have deleted := (inMemory s).deletes "org-1" ids .crawl ["c"] {} run
  exact ⟨run, deleted, reached _, inRows v (reached _)⟩

end ArchiveAccounts
