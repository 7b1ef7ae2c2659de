import ArchiveAccounts.Proofs.Crawl.Updates
import ArchiveAccounts.Proofs.Document.RoundTrip
import ArchiveAccounts.Store.Relational

/-!
# Crawls as rows

The rows of a relational store hold the crawls of a table in memory when each crawl has its row
under its id. Then a call on the crawls answers the same on both, and the rows after it hold the
crawls after it. Main statement: `onCrawls_agrees`.
-/

namespace ArchiveAccounts
set_option autoImplicit false

open Calendar

/-- A crawl whose moments have texts can be written into a row, which reads as that crawl. -/
theorem CrawlRow.exists_ofCrawl? {crawl : Crawl} (printable : crawl.isPrintable = true) :
    ∃ row, ofCrawl? crawl = some row ∧ row.crawl? = some crawl := by
  rw [← Crawl.isSome_toDatum?, Option.isSome_iff_exists] at printable
  obtain ⟨d, written⟩ := printable
  obtain ⟨whole, reads⟩ := Crawl.roundTrips crawl d written
  refine ⟨_, congrArg (Option.map _) written, ?_⟩
  rw [crawl?, Json.parse?_print whole, Option.bind_some, reads]

theorem CrawlRow.columns_of_ofCrawl? {crawl : Crawl} {row : CrawlRow}
    (h : ofCrawl? crawl = some row) : row.orgId = crawl.orgId ∧ row.type = crawl.type.name := by
  obtain ⟨d, _, h⟩ := Option.map_eq_some_iff.1 h
  rw [← h]
  exact ⟨rfl, rfl⟩

/-- Whether rows hold the crawls of a table, all of which have moments with texts. -/
structure HoldCrawls (rows : SortedMap String CrawlRow) (table : CrawlTable) : Prop where
  get?_eq : ∀ id, rows.get? id = (table.get? id).bind CrawlRow.ofCrawl?
  isPrintable : ∀ id crawl, table.get? id = some crawl → crawl.isPrintable = true

namespace HoldCrawls

variable {rows : SortedMap String CrawlRow} {table : CrawlTable}

theorem get?_eq_none (h : HoldCrawls rows table) {id : String} (none_ : table.get? id = none) :
    rows.get? id = none := by
  rw [h.get?_eq, none_]
  rfl

/-- The row of a crawl. -/
theorem exists_row (h : HoldCrawls rows table) {id : String} {crawl : Crawl}
    (some_ : table.get? id = some crawl) :
    ∃ row, rows.get? id = some row ∧ row.orgId = crawl.orgId ∧ row.type = crawl.type.name ∧
      row.crawl? = some crawl := by
  obtain ⟨row, written, reads⟩ := CrawlRow.exists_ofCrawl? (h.isPrintable id crawl some_)
  obtain ⟨orgId, type⟩ := CrawlRow.columns_of_ofCrawl? written
  refine ⟨row, ?_, orgId, type, reads⟩
  rw [h.get?_eq, some_]
  exact written

/-- The crawl of a row. -/
theorem exists_crawl (h : HoldCrawls rows table) {id : String} {row : CrawlRow}
    (found : rows.get? id = some row) :
    ∃ crawl, table.get? id = some crawl ∧ row.orgId = crawl.orgId ∧
      row.type = crawl.type.name := by
  rw [h.get?_eq] at found
  obtain ⟨crawl, isThere, written⟩ := Option.bind_eq_some_iff.1 found
  exact ⟨crawl, isThere, CrawlRow.columns_of_ofCrawl? written⟩

theorem insert (h : HoldCrawls rows table) {crawl : Crawl} {row : CrawlRow}
    (printable : crawl.isPrintable = true) (written : CrawlRow.ofCrawl? crawl = some row) :
    HoldCrawls (rows.insert crawl.id row) (table.insert crawl) where
  get?_eq id := by
    rw [SortedMap.get?_insert, Register.get?_insert, h.get?_eq]
    split
    · exact written.symm
    · rfl
  isPrintable id other h' := by
    rw [Register.get?_insert] at h'
    split at h'
    · injection h' with h'
      rw [← h']
      exact printable
    · exact h.isPrintable id other h'

/-- Rows without those of removed crawls. -/
theorem without (h : HoldCrawls rows table) {goes : String → CrawlRow → Bool}
    {removed : List String} {rest : CrawlTable}
    (goes_iff : ∀ id row, rows.get? id = some row → (goes id row = true ↔ id ∈ removed))
    (get?_rest : ∀ id, rest.get? id = if id ∈ removed then none else table.get? id) :
    HoldCrawls (rows.filter fun id row => !goes id row) rest where
  get?_eq id := by
    rw [SortedMap.get?_filter, get?_rest]
    cases found : rows.get? id with
    | none =>
      rw [h.get?_eq] at found
      split
      · rfl
      · exact found.symm
    | some row =>
      have going := goes_iff id row found
      rw [h.get?_eq] at found
      split
      · next mem => simp [going.2 mem]
      · next stays =>
        rw [found]
        simp [Bool.eq_false_iff.2 (mt going.1 stays)]
  isPrintable id crawl isThere := by
    rw [get?_rest] at isThere
    split at isThere
    · cases isThere
    · exact h.isPrintable id crawl isThere

end HoldCrawls

namespace RelationalStore

section Steps

variable {s : RelationalStore} {table : CrawlTable}

/-- A row is found if the organization asked for owns it. -/
theorem run_loadCrawl? (h : HoldCrawls s.crawls table) (orgId : Option String) (id : String) :
    (loadCrawl? orgId id).run s = (.ok ((table.get? id).filter fun crawl =>
      orgId.all fun wanted => wanted == crawl.orgId), s) := by
  simp only [loadCrawl?, Attempt.run_bind, Attempt.run_get]
  cases found : table.get? id with
  | none =>
    rw [h.get?_eq_none found]
    rfl
  | some crawl =>
    obtain ⟨row, isThere, owner, _, reads⟩ := h.exists_row found
    rw [isThere]
    simp only [owner, Option.filter]
    split
    · simp only [reads, Attempt.run_bind, run_need, Attempt.run_pure]
    · rfl

theorem run_loadCrawl?_none (h : HoldCrawls s.crawls table) (id : String) :
    (loadCrawl? none id).run s = (.ok (table.get? id), s) := by
  rw [run_loadCrawl? h]
  cases table.get? id <;> rfl

theorem run_loadCrawl_none (h : HoldCrawls s.crawls table) (id : String) :
    (loadCrawl none id).run s = (((CrawlTable.find id).run table).1, s) := by
  simp only [loadCrawl, Attempt.run_bind, run_loadCrawl?_none h, CrawlTable.run_find]
  cases table.get? id <;> rfl

theorem run_loadCrawl_some (h : HoldCrawls s.crawls table) (orgId id : String) :
    (loadCrawl (some orgId) id).run s = (((CrawlTable.findOf orgId id).run table).1, s) := by
  simp only [loadCrawl, Attempt.run_bind, run_loadCrawl? h, CrawlTable.run_findOf]
  cases table.get? id with
  | none => rfl
  | some crawl =>
    by_cases owner : crawl.orgId = orgId
    · simp only [owner, Option.filter, Option.all_some, beq_self_eq_true, if_true]
      rfl
    · have other : (orgId == crawl.orgId) = false := beq_eq_false_iff_ne.2 (Ne.symm owner)
      simp only [owner, other, Option.filter, Option.all_some, if_false, Bool.false_eq_true]
      rfl

/-- A crawl that is there is written over what was there. -/
theorem run_storeCrawl (h : HoldCrawls s.crawls table) {id : String} {old crawl : Crawl}
    (isThere : table.get? id = some old) (same : crawl.account = old.account)
    (printable : crawl.isPrintable = true) :
    ∃ rows, (storeCrawl crawl).run s = (.ok (), { s with crawls := rows }) ∧
      HoldCrawls rows (table.insert crawl) := by
  have keptId : crawl.id = old.id := congrArg Crawl.Account.id same
  have named : crawl.id = id := keptId.trans (Register.id_of_get? isThere)
  obtain ⟨row, found, owner, type, _⟩ := h.exists_row isThere
  obtain ⟨written, writes, _⟩ := CrawlRow.exists_ofCrawl? printable
  obtain ⟨sameOwner, sameType⟩ := CrawlRow.columns_of_ofCrawl? writes
  have sameRow : { row with document := written.document } = written := by
    have keptOwner : crawl.orgId = old.orgId := congrArg Crawl.Account.orgId same
    have keptType : crawl.type = old.type := congrArg Crawl.Account.type same
    rw [owner, type, ← keptOwner, ← keptType, ← sameOwner, ← sameType]
  refine ⟨s.crawls.insert crawl.id written, ?_, h.insert printable writes⟩
  simp only [storeCrawl, writes, Attempt.run_bind, run_need, Attempt.run_get, named, found,
    sameRow, Attempt.run_modify]

end Steps

/-- A deletion takes the same crawls out of the rows as out of the table. -/
theorem run_deleteCrawls {s : RelationalStore} {table : CrawlTable}
    (h : HoldCrawls s.crawls table) (orgId : String) {ids : List String} (type : CrawlType)
    (few : ids.length ≤ maxDeletedIds) {removed : List String} {rest : CrawlTable}
    (deletes : CrawlTable.Deletes orgId type ids table removed rest) :
    ∃ answer rows, (deleteCrawls orgId ids type).run s = (.ok answer, { s with crawls := rows }) ∧
      removed.Perm answer ∧ HoldCrawls rows rest := by
  cases empty : ids.isEmpty with
  | true =>
    rw [List.isEmpty_iff] at empty
    have nothing : removed = [] := by
      rw [List.eq_nil_iff_forall_not_mem]
      intro id mem
      have asked := ((deletes.mem_removed id).1 mem).1
      rw [empty] at asked
      exact List.not_mem_nil asked
    have same : rest = table := Register.ext_get? fun id => by
      rw [deletes.get?_rest, nothing, if_neg List.not_mem_nil]
    rw [nothing, same, empty]
    exact ⟨[], s.crawls, rfl, .nil, h⟩
  | false =>
    let goes := fun (id : String) (row : CrawlRow) =>
      row.orgId == orgId && row.type == type.name && ids.contains id
    have goes_iff : ∀ id row, s.crawls.get? id = some row →
        (goes id row = true ↔ id ∈ removed) := by
      intro id row found
      obtain ⟨crawl, isThere, owner, named⟩ := h.exists_crawl found
      have sameType : (row.type == type.name) = (crawl.type == type) := by
        rw [named]
        cases crawl.type <;> cases type <;> rfl
      simp only [goes, deletes.mem_removed, CrawlTable.holds, isThere, owner, sameType,
        Option.any_some, Bool.and_eq_true, List.contains_iff_mem]
      exact And.comm
    refine ⟨(s.crawls.filter goes).keys, s.crawls.filter fun id row => !goes id row, ?_, ?_, ?_⟩
    · simp only [deleteCrawls, empty, Nat.not_lt.2 few, Attempt.run_bind, Attempt.run_get,
        Attempt.run_modify, Attempt.run_pure, if_false, Bool.false_eq_true]
      rfl
    · apply (List.perm_ext_iff_of_nodup deletes.nodup (SortedMap.nodup_keys _)).2
      intro id
      rw [SortedMap.mem_keys_iff]
      simp only [SortedMap.get?_filter, Option.filter_eq_some_iff]
      constructor
      · intro mem
        obtain ⟨crawl, isThere, _⟩ := (Option.any_eq_true _ _).1 ((deletes.mem_removed id).1 mem).2
        obtain ⟨row, found, _⟩ := h.exists_row isThere
        exact ⟨row, found, (goes_iff id row found).2 mem⟩
      · rintro ⟨row, found, going⟩
        exact (goes_iff id row found).1 going
    · exact h.without goes_iff deletes.get?_rest

end RelationalStore

/-- Whether two answers to a call are the same; the ids of deleted crawls count in any order. -/
def CrawlCall.SameReply : (call : CrawlCall) → call.Reply → call.Reply → Prop
  | .delete .., a, b => a.Perm b
  | _, a, b => a = b

/-- Whether two outcomes of a call are the same. -/
def CrawlCall.SameResult (call : CrawlCall) :
    Except Failure call.Reply → Except Failure call.Reply → Prop
  | .ok a, .ok b => call.SameReply a b
  | .error e, .error f => e = f
  | _, _ => False

theorem CrawlCall.sameResult_refl {call : CrawlCall} (a : Except Failure call.Reply) :
    call.SameResult a a := by
  cases a with
  | error e => exact rfl
  | ok reply =>
    cases call with
    | delete => exact List.Perm.refl _
    | _ => exact rfl

/-- What a call on one crawl answers is the same only if it is equal. -/
theorem CrawlCall.eq_of_sameResult {call : CrawlCall} (onOne : call.isOnOne = true)
    {a b : Except Failure call.Reply} (h : call.SameResult a b) : a = b := by
  cases a with
  | error e =>
    cases b with
    | error f => exact congrArg Except.error h
    | ok b => cases h
  | ok a =>
    cases b with
    | error f => cases h
    | ok b =>
      cases call with
      | delete => cases onOne
      | _ => exact congrArg Except.ok h

/-- Whether the moments given with a call have texts, and a deletion names no more ids than one may
name. -/
def CrawlCall.isStorable : CrawlCall → Bool
  | .insert crawl => crawl.isPrintable
  | .setSignedUrl _ _ _ expiresAt => Rfc3339.isPrintable expiresAt
  | .markCanceled _ finished => Rfc3339.isPrintable finished
  | .delete _ ids _ => decide (ids.length ≤ RelationalStore.maxDeletedIds)
  | .get .. | .addReplica .. | .updateMetadata .. | .addCollection .. | .removeCollection .. => true

namespace RelationalStore

/-- Whether a call on rows came to the same as one on a table, and changed the crawls only. -/
structure AgreesOnCrawls (call : CrawlCall) (s : RelationalStore)
    (inMemory : Except Failure call.Reply × CrawlTable)
    (inRows : Except Failure call.Reply × RelationalStore) : Prop where
  result : call.SameResult inMemory.1 inRows.1
  crawls : HoldCrawls inRows.2.crawls inMemory.2
  others : inRows.2 = { s with crawls := inRows.2.crawls }

section Calls

variable {s : RelationalStore} {table : CrawlTable} (h : HoldCrawls s.crawls table)
include h

theorem addReplica_agrees (id filename : String) (replica : Replica) :
    AgreesOnCrawls (.addReplica id filename replica) s
      ((CrawlTable.perform (.addReplica id filename replica)).run table)
      ((onCrawls (.addReplica id filename replica)).run s) := by
  simp only [CrawlTable.perform, onCrawls, Attempt.run_atomically, performOnCrawls,
    Attempt.run_bind, run_loadCrawl_none h, CrawlTable.run_find]
  cases isThere : table.get? id with
  | none => exact ⟨rfl, h, rfl⟩
  | some crawl =>
    by_cases needed :
        ((crawl.file? filename).any fun file => !file.replicas.contains replica) = true
    · obtain ⟨rows, run, hold⟩ := run_storeCrawl h isThere
        (crawl.account_withReplica filename replica)
        (Crawl.isPrintable_withReplica filename replica (h.isPrintable id crawl isThere))
      simp only [needed, if_true, run, CrawlTable.run_put]
      exact ⟨rfl, hold, rfl⟩
    · simp only [needed, CrawlTable.run_put,
        crawl.withReplica_eq_self (Bool.not_eq_true _ ▸ needed), Register.insert_eq_self isThere]
      exact ⟨rfl, h, rfl⟩

theorem setSignedUrl_agrees (id filename url : String) {expiresAt : Moment}
    (expiry : Rfc3339.isPrintable expiresAt = true) :
    AgreesOnCrawls (.setSignedUrl id filename url expiresAt) s
      ((CrawlTable.perform (.setSignedUrl id filename url expiresAt)).run table)
      ((onCrawls (.setSignedUrl id filename url expiresAt)).run s) := by
  simp only [CrawlTable.perform, onCrawls, Attempt.run_atomically, performOnCrawls,
    Attempt.run_bind, run_loadCrawl?_none h, Attempt.run_get]
  cases isThere : table.get? id with
  | none => exact ⟨rfl, h, rfl⟩
  | some crawl =>
    simp only [Option.bind_some]
    cases accepted : crawl.withSignedUrl? filename url expiresAt with
    | none => exact ⟨rfl, h, rfl⟩
    | some signed =>
      obtain ⟨rows, run, hold⟩ := run_storeCrawl h isThere
        (Crawl.account_withSignedUrl? accepted)
        (Crawl.isPrintable_withSignedUrl? accepted expiry (h.isPrintable id crawl isThere))
      simp only [Attempt.run_bind, run, CrawlTable.run_put, Attempt.run_pure]
      exact ⟨rfl, hold, rfl⟩

theorem updateMetadata_agrees (orgId id : String) (type : Option CrawlType) (update : CrawlUpdate) :
    AgreesOnCrawls (.updateMetadata orgId id type update) s
      ((CrawlTable.perform (.updateMetadata orgId id type update)).run table)
      ((onCrawls (.updateMetadata orgId id type update)).run s) := by
  simp only [CrawlTable.perform, onCrawls, Attempt.run_atomically, performOnCrawls,
    Attempt.run_bind, run_loadCrawl_some h, CrawlTable.run_findOf]
  cases isThere : table.get? id with
  | none => exact ⟨rfl, h, rfl⟩
  | some crawl =>
    by_cases owner : crawl.orgId = orgId
    · by_cases wanted : (type.all fun wanted => wanted == crawl.type) = true
      · obtain ⟨rows, run, hold⟩ := run_storeCrawl h isThere
          (crawl.account_withMetadata update) (h.isPrintable id crawl isThere)
        simp only [owner, wanted, if_true, run, CrawlTable.run_put]
        exact ⟨rfl, hold, rfl⟩
      · simp only [owner, wanted, if_true]
        exact ⟨rfl, h, rfl⟩
    · simp only [owner, if_false]
      exact ⟨rfl, h, rfl⟩

theorem markCanceled_agrees (id : String) {finished : Moment}
    (ended : Rfc3339.isPrintable finished = true) :
    AgreesOnCrawls (.markCanceled id finished) s
      ((CrawlTable.perform (.markCanceled id finished)).run table)
      ((onCrawls (.markCanceled id finished)).run s) := by
  simp only [CrawlTable.perform, onCrawls, Attempt.run_atomically, performOnCrawls,
    Attempt.run_bind, run_loadCrawl_none h, CrawlTable.run_find]
  cases isThere : table.get? id with
  | none => exact ⟨rfl, h, rfl⟩
  | some crawl =>
    obtain ⟨rows, run, hold⟩ := run_storeCrawl h isThere (crawl.account_canceledAt finished)
      (Crawl.isPrintable_canceledAt ended (h.isPrintable id crawl isThere))
    simp only [run, CrawlTable.run_put]
    exact ⟨rfl, hold, rfl⟩

theorem addCollection_agrees (orgId id collection : String) :
    AgreesOnCrawls (.addCollection orgId id collection) s
      ((CrawlTable.perform (.addCollection orgId id collection)).run table)
      ((onCrawls (.addCollection orgId id collection)).run s) := by
  simp only [CrawlTable.perform, onCrawls, Attempt.run_atomically, performOnCrawls,
    Attempt.run_bind, Attempt.run_liftM, run_loadCrawl_some h, CrawlTable.run_findOf]
  cases isThere : table.get? id with
  | none => exact ⟨rfl, h, rfl⟩
  | some crawl =>
    by_cases owner : crawl.orgId = orgId
    · simp only [owner, if_true]
      cases joins : crawl.joined collection with
      | error e => exact ⟨rfl, h, rfl⟩
      | ok joined =>
        obtain ⟨rows, run, hold⟩ := run_storeCrawl h isThere (Crawl.account_joined joins)
          (Crawl.isPrintable_joined joins (h.isPrintable id crawl isThere))
        simp only [run, CrawlTable.run_put]
        exact ⟨rfl, hold, rfl⟩
    · simp only [owner, if_false]
      exact ⟨rfl, h, rfl⟩

theorem removeCollection_agrees (orgId id collection : String) :
    AgreesOnCrawls (.removeCollection orgId id collection) s
      ((CrawlTable.perform (.removeCollection orgId id collection)).run table)
      ((onCrawls (.removeCollection orgId id collection)).run s) := by
  simp only [CrawlTable.perform, onCrawls, Attempt.run_atomically, performOnCrawls,
    Attempt.run_bind, run_loadCrawl_some h, CrawlTable.run_findOf]
  cases isThere : table.get? id with
  | none => exact ⟨rfl, h, rfl⟩
  | some crawl =>
    by_cases owner : crawl.orgId = orgId
    · cases member : crawl.collections.contains collection with
      | true =>
        obtain ⟨rows, run, hold⟩ := run_storeCrawl h isThere (crawl.account_left collection)
          (h.isPrintable id crawl isThere)
        simp only [owner, if_true, member, run, CrawlTable.run_put]
        exact ⟨rfl, hold, rfl⟩
      | false =>
        simp only [owner, if_true, member, CrawlTable.run_put, crawl.left_eq_self member,
          Register.insert_eq_self isThere]
        exact ⟨rfl, h, rfl⟩
    · simp only [owner, if_false]
      exact ⟨rfl, h, rfl⟩

theorem insertCrawl_agrees {crawl : Crawl} (printable : crawl.isPrintable = true) :
    AgreesOnCrawls (.insert crawl) s ((CrawlTable.perform (.insert crawl)).run table)
      ((onCrawls (.insert crawl)).run s) := by
  obtain ⟨row, written, _⟩ := CrawlRow.exists_ofCrawl? printable
  simp only [CrawlTable.perform, onCrawls, Attempt.run_atomically, performOnCrawls,
    Attempt.run_bind, written, run_need, Attempt.run_modify, CrawlTable.run_put]
  exact ⟨rfl, h.insert printable written, rfl⟩

theorem getCrawl_agrees (orgId id : String) :
    AgreesOnCrawls (.get orgId id) s ((CrawlTable.perform (.get orgId id)).run table)
      ((onCrawls (.get orgId id)).run s) := by
  simp only [CrawlTable.perform, onCrawls, Attempt.run_atomically, performOnCrawls,
    run_loadCrawl_some h, CrawlTable.run_findOf]
  cases table.get? id with
  | none => exact ⟨rfl, h, rfl⟩
  | some crawl =>
    by_cases owner : crawl.orgId = orgId
    · simp only [owner, if_true]
      exact ⟨rfl, h, rfl⟩
    · simp only [owner, if_false]
      exact ⟨rfl, h, rfl⟩

theorem deleteCrawls_agrees (orgId : String) {ids : List String} (type : CrawlType)
    (few : ids.length ≤ maxDeletedIds) :
    AgreesOnCrawls (.delete orgId ids type) s
      ((CrawlTable.perform (.delete orgId ids type)).run table)
      ((onCrawls (.delete orgId ids type)).run s) := by
  obtain ⟨removed, rest, run, deletes⟩ := CrawlTable.run_delete table orgId type ids
  obtain ⟨answer, rows, runRows, same, hold⟩ := run_deleteCrawls h orgId type few deletes
  simp only [CrawlTable.perform, onCrawls, Attempt.run_atomically, performOnCrawls, run, runRows]
  exact ⟨same, hold, rfl⟩

/-- A call on the crawls comes to the same on rows as on the table that they hold. -/
theorem onCrawls_agrees (call : CrawlCall) (storable : call.isStorable = true) :
    AgreesOnCrawls call s ((CrawlTable.perform call).run table) ((onCrawls call).run s) := by
  cases call with
  | insert crawl => exact insertCrawl_agrees h storable
  | get orgId id => exact getCrawl_agrees h orgId id
  | setSignedUrl id filename url expiresAt => exact setSignedUrl_agrees h id filename url storable
  | addReplica id filename replica => exact addReplica_agrees h id filename replica
  | updateMetadata orgId id type update => exact updateMetadata_agrees h orgId id type update
  | markCanceled id finished => exact markCanceled_agrees h id storable
  | addCollection orgId id collection => exact addCollection_agrees h orgId id collection
  | removeCollection orgId id collection => exact removeCollection_agrees h orgId id collection
  | delete orgId ids type => exact deleteCrawls_agrees h orgId type (of_decide_eq_true storable)

end Calls

end RelationalStore

end ArchiveAccounts
