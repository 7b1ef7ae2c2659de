import ArchiveAccounts.Proofs.Store.Agreement
import ArchiveAccounts.Proofs.Store.Owners

/-!
# Stores of a table of crawls

The crawls of a store are a table in memory, and a call on crawls comes to the same on the store as
on that table. What a call does to a crawl is then seen on the table, for every store at once. Main
statements: the instances of `TableStore`, and `exists_holdCrawls_afterCalls`, that every relational
store that calls come to holds a table of crawls.
-/

namespace ArchiveAccounts
set_option autoImplicit false

open AccountStore

/-- A store that holds a table of crawls, on which calls on crawls come to the same. -/
class TableStore (σ : Type) [AccountStore σ] extends ApartStore σ where
  /-- Whether the crawls of a store are those of a table. -/
  HoldsTable : σ → CrawlTable → Prop
  /-- Whether what a call gives can be stored. -/
  CanStore : CrawlCall → Prop
  canStore {call : CrawlCall} (storable : call.isStorable = true) : CanStore call
  performs {s : σ} {table : CrawlTable} (holds : HoldsTable s table) {call : CrawlCall}
    (storable : CanStore call) :
    call.SameResult ((CrawlTable.perform call).run table).1 ((onCrawls call).run s).1 ∧
      HoldsTable ((onCrawls call).run s).2 ((CrawlTable.perform call).run table).2

/-- Whether a crawl has taken the place of the one of its id, and nothing else has changed. -/
structure AccountStore.Replaces {σ : Type} [AccountStore σ] [ApartStore σ] (changed : Crawl)
    (s t : σ) : Prop where
  crawls : ∀ orgId id, lookUpCrawl t orgId id
    = if orgId = changed.orgId ∧ id = changed.id then .ok changed else lookUpCrawl s orgId id
  rest : ApartStore.butCrawls t = ApartStore.butCrawls s

namespace TableStore

variable {σ : Type} [AccountStore σ] [TableStore σ] {s t : σ} {table : CrawlTable}

/-- A call on one crawl answers what it answers on the table. -/
theorem run_onCrawls (holds : HoldsTable s table) {call : CrawlCall} (storable : CanStore σ call)
    (onOne : call.isOnOne = true) :
    ∃ t, (onCrawls call).run s = (((CrawlTable.perform call).run table).1, t) ∧
      HoldsTable t ((CrawlTable.perform call).run table).2 ∧
      ApartStore.butCrawls t = ApartStore.butCrawls s := by
  obtain ⟨same, holdsAfter⟩ := performs holds storable
  refine ⟨_, ?_, holdsAfter, ApartStore.keepsRest s call⟩
  exact Prod.ext (CrawlCall.eq_of_sameResult onOne same).symm rfl

theorem lookUpCrawl_eq (holds : HoldsTable s table) (orgId id : String) :
    lookUpCrawl s orgId id = ((CrawlTable.findOf orgId id).run table).1 := by
  have storable : CanStore σ (.get orgId id) := canStore rfl
  exact (CrawlCall.eq_of_sameResult rfl (performs holds storable).1).symm

/-- A crawl that is looked up is in the table, and it belongs to who looks it up. -/
theorem get?_of_lookUpCrawl (holds : HoldsTable s table) {orgId id : String} {crawl : Crawl}
    (found : lookUpCrawl s orgId id = .ok crawl) :
    table.get? id = some crawl ∧ crawl.orgId = orgId := by
  rw [lookUpCrawl_eq holds, CrawlTable.run_findOf] at found
  cases isThere : table.get? id with
  | none =>
    rw [isThere] at found
    cases found
  | some stored =>
    rw [isThere] at found
    dsimp only at found
    split at found
    · next owner =>
      obtain rfl := Except.ok.inj found
      exact ⟨rfl, owner⟩
    · cases found

/-- No look-up of a crawl fails but for want of it. -/
theorem error_of_lookUpCrawl (holds : HoldsTable s table) {orgId id : String} {e : Failure}
    (failed : lookUpCrawl s orgId id = .error e) : e = .crawlNotFound := by
  rw [lookUpCrawl_eq holds, CrawlTable.run_findOf] at failed
  dsimp only at failed
  split at failed
  · split at failed
    · cases failed
    · exact (Except.error.inj failed).symm
  · exact (Except.error.inj failed).symm

/-- A crawl that is in the table is found for its organization. -/
theorem lookUpCrawl_of_get? (holds : HoldsTable s table) {crawl : Crawl}
    (isThere : table.get? crawl.id = some crawl) :
    lookUpCrawl s crawl.orgId crawl.id = .ok crawl := by
  rw [lookUpCrawl_eq holds, CrawlTable.run_findOf, isThere]
  exact if_pos rfl

/-- A crawl that is put into the table in the place of one of the same owner replaces that one. -/
theorem replaces (holds : HoldsTable s table) {crawl changed : Crawl}
    (isThere : table.get? crawl.id = some crawl) (same : changed.account = crawl.account)
    (holdsAfter : HoldsTable t (table.insert changed))
    (rest : ApartStore.butCrawls t = ApartStore.butCrawls s) : Replaces changed s t := by
  have sameId : changed.id = crawl.id := congrArg Crawl.Account.id same
  have sameOwner : changed.orgId = crawl.orgId := congrArg Crawl.Account.orgId same
  refine ⟨fun orgId id => ?_, rest⟩
  rw [lookUpCrawl_eq holdsAfter, lookUpCrawl_eq holds, CrawlTable.run_findOf,
    CrawlTable.run_findOf, Register.get?_insert]
  by_cases named : id = changed.id
  · rw [if_pos named]
    by_cases owner : orgId = changed.orgId
    · rw [if_pos ⟨owner, named⟩]
      exact if_pos owner.symm
    · rw [if_neg fun both => owner both.1, named, sameId, isThere]
      dsimp only
      rw [if_neg (Ne.symm owner), if_neg (sameOwner ▸ Ne.symm owner)]
  · rw [if_neg named, if_neg fun both => named both.2]

/-- A crawl that was stored is found. -/
theorem lookUpCrawl_insert (holds : HoldsTable s table) {crawl : Crawl}
    (storable : CanStore σ (.insert crawl)) :
    lookUpCrawl (StoreCall.after (.onCrawls (.insert crawl)) s) crawl.orgId crawl.id
      = .ok crawl := by
  have holdsAfter : HoldsTable (StoreCall.after (.onCrawls (.insert crawl)) s)
      (table.insert crawl) := (performs holds storable).2
  exact lookUpCrawl_of_get? holdsAfter (Register.get?_insert_self table crawl)

end TableStore

/-- A store of a table that stores nothing of crawls but the table. -/
class ExactTableStore (σ : Type) [AccountStore σ] extends TableStore σ where
  eq_of_holdsTable {s t : σ} {table : CrawlTable} (first : HoldsTable s table)
    (second : HoldsTable t table) (rest : ApartStore.butCrawls s = ApartStore.butCrawls t) : s = t

/-! ## The store in memory -/

instance : TableStore MemoryStore where
  HoldsTable s table := s.crawls = table
  CanStore _ := True
  canStore _ := trivial
  performs holds _ _ := by
    subst holds
    exact ⟨CrawlCall.sameResult_refl _, rfl⟩

instance : ExactTableStore MemoryStore where
  eq_of_holdsTable {s t table} first second rest := by
    have crawls : s.crawls = t.crawls := Eq.trans first (Eq.symm second)
    exact congrArg₂ (fun (rest : MemoryStore) crawls => { rest with crawls }) rest crawls

/-! ## The relational store -/

namespace RelationalStore

variable {s : RelationalStore} {table : CrawlTable}

/-- A crawl with a moment that has no text has no row. -/
theorem ofCrawl?_eq_none {crawl : Crawl} (unprintable : crawl.isPrintable = false) :
    CrawlRow.ofCrawl? crawl = none := by
  rw [← Crawl.isSome_toDatum?, Option.isSome_eq_false_iff, Option.isNone_iff_eq_none]
    at unprintable
  rw [CrawlRow.ofCrawl?, unprintable]
  rfl

/-- A crawl that is there is written over, unless a moment of it has no text. -/
theorem run_storeCrawl_cases (h : HoldCrawls s.crawls table) {id : String} {old crawl : Crawl}
    (isThere : table.get? id = some old) (same : crawl.account = old.account) :
    (storeCrawl crawl).run s = (.error .store, s) ∨
      ∃ rows, (storeCrawl crawl).run s = (.ok (), { s with crawls := rows }) ∧
        HoldCrawls rows (table.insert crawl) := by
  cases printable : crawl.isPrintable with
  | true => exact .inr (run_storeCrawl h isThere same printable)
  | false =>
    rw [storeCrawl, ofCrawl?_eq_none printable]
    exact .inl rfl

/-- A deletion that names too many ids fails. -/
theorem run_delete_many (s : RelationalStore) (orgId : String) {ids : List String}
    (type : CrawlType) (many : maxDeletedIds < ids.length) :
    (onCrawls (.delete orgId ids type)).run s = (.error .store, s) := by
  have some_ : ids.isEmpty = false := by
    cases ids with
    | nil => exact absurd many (Nat.not_lt_zero _)
    | cons id ids => rfl
  simp only [onCrawls, Attempt.run_atomically, performOnCrawls, deleteCrawls, some_, many, if_true]
  rfl

/-- A call on crawls changes nothing, or the rows as it changes the table. -/
theorem holdCrawls_onCrawls (h : HoldCrawls s.crawls table) (call : CrawlCall) :
    ((onCrawls call).run s).2 = s ∨
      HoldCrawls ((onCrawls call).run s).2.crawls ((CrawlTable.perform call).run table).2 := by
  cases storable : call.isStorable with
  | true => exact .inr (onCrawls_agrees h call storable).crawls
  | false =>
    cases call with
    | get | addReplica | updateMetadata | addCollection | removeCollection => cases storable
    | delete orgId ids type =>
      have many : maxDeletedIds < ids.length := by simpa [CrawlCall.isStorable] using storable
      exact .inl (congrArg Prod.snd (run_delete_many s orgId type many))
    | insert crawl =>
      have unwritten := ofCrawl?_eq_none storable
      simp only [onCrawls, Attempt.run_atomically, performOnCrawls, unwritten]
      exact .inl rfl
    | setSignedUrl id filename url expiresAt =>
      simp only [onCrawls, Attempt.run_atomically, performOnCrawls, CrawlTable.perform,
        Attempt.run_bind, run_loadCrawl?_none h, Attempt.run_get]
      cases isThere : table.get? id with
      | none => exact .inl rfl
      | some crawl =>
        rw [Option.bind_some]
        cases accepted : crawl.withSignedUrl? filename url expiresAt with
        | none => exact .inl rfl
        | some signed =>
          rcases run_storeCrawl_cases h isThere (Crawl.account_withSignedUrl? accepted) with
            failed | ⟨rows, stored, holds⟩
          · simp only [Attempt.run_bind, failed]
            exact .inl trivial
          · simp only [Attempt.run_bind, stored, Attempt.run_pure, CrawlTable.run_put]
            exact .inr holds
    | markCanceled id finished =>
      simp only [onCrawls, Attempt.run_atomically, performOnCrawls, CrawlTable.perform,
        Attempt.run_bind, run_loadCrawl_none h, CrawlTable.run_find]
      cases isThere : table.get? id with
      | none => exact .inl rfl
      | some crawl =>
        rcases run_storeCrawl_cases h isThere (crawl.account_canceledAt finished) with
          failed | ⟨rows, stored, holds⟩
        · simp only [failed]
          exact .inl trivial
        · simp only [stored, CrawlTable.run_put]
          exact .inr holds

/-- After a call on crawls the rows hold a table if they held one before. -/
theorem exists_holdCrawls_onCrawls (h : HoldCrawls s.crawls table) (call : CrawlCall) :
    ∃ after, HoldCrawls ((onCrawls call).run s).2.crawls after := by
  rcases holdCrawls_onCrawls h call with same | holds
  · rw [same]
    exact ⟨table, h⟩
  · exact ⟨_, holds⟩

/-- After a call the rows hold a table if they held one before. -/
theorem exists_holdCrawls_after (h : HoldCrawls s.crawls table) (call : StoreCall) :
    ∃ after, HoldCrawls (call.after s).crawls after := by
  cases call with
  | onOrgs call =>
    have same : Attempt.Preserves (fun t => t.crawls = s.crawls) (onOrgs call) :=
      (keptByRows_of_crawls (· = s.crawls) call.orgId).perform.atomically
    have same : (StoreCall.after (.onOrgs call) s).crawls = s.crawls := same s rfl
    rw [same]
    exact ⟨table, h⟩
  | onCrawls call => exact exists_holdCrawls_onCrawls h call

/-- Every relational store that calls come to holds a table of crawls. -/
theorem exists_holdCrawls_afterCalls (calls : List StoreCall) :
    ∃ table, HoldCrawls (afterCalls calls ({} : RelationalStore)).crawls table := by
  have run : ∀ (calls : List StoreCall) (s : RelationalStore) (table : CrawlTable),
      HoldCrawls s.crawls table → ∃ after, HoldCrawls (afterCalls calls s).crawls after := by
    intro calls
    induction calls with
    | nil => exact fun s table h => ⟨table, h⟩
    | cons call calls ih =>
      intro s table h
      obtain ⟨after, holds⟩ := exists_holdCrawls_after h call
      exact ih _ after holds
  exact run calls {} ∅ Holds.empty.crawls

instance : TableStore RelationalStore where
  HoldsTable s table := HoldCrawls s.crawls table
  CanStore call := call.isStorable = true
  canStore storable := storable
  performs holds _ storable :=
    have agrees := onCrawls_agrees holds _ storable
    ⟨agrees.result, agrees.crawls⟩

instance : ExactTableStore RelationalStore where
  eq_of_holdsTable {s t table} first second rest := by
    have crawls : s.crawls = t.crawls := SortedMap.ext_get? fun id =>
      (first.get?_eq id).trans (second.get?_eq id).symm
    exact congrArg₂ (fun (rest : RelationalStore) crawls => { rest with crawls }) rest crawls

end RelationalStore

end ArchiveAccounts
