import ArchiveAccounts.Proofs.Service.Calls
import ArchiveAccounts.Proofs.Store.LookUps

/-!
# Crawls and their owners

What deletions need of a store: a crawl is found for one organization only, to which it belongs,
calls on organizations change no crawl and calls on crawls no organization, and a deletion removes
none but the listed ones. Main statements: the instances of `RemovingStore` and `ApartStore`, and
`owned_afterCalls` for the relational stores that calls come to.
-/

namespace ArchiveAccounts
set_option autoImplicit false

open AccountStore

/-- A lawful store that finds a crawl for one organization only, of which calls on organizations
change no crawl, and from which a deletion removes none but listed crawls of its organization. -/
class RemovingStore (σ : Type) [AccountStore σ] extends LawfulStore σ where
  foreign {s : σ} {owner other id : String} {crawl : Crawl}
    (found : lookUpCrawl s owner id = .ok crawl) (isOther : other ≠ owner) :
    lookUpCrawl s other id = .error .crawlNotFound
  keepsCrawls (s : σ) (call : OrgCall) (sound : IsSound s) :
    let t := ((onOrgs call).run s).2
    IsSound t ∧ ∀ owner id, lookUpCrawl t owner id = lookUpCrawl s owner id
  removes (s : σ) (orgId : String) (ids : List String) (type : CrawlType) (sound : IsSound s) :
    let t := ((onCrawls (.delete orgId ids type)).run s).2
    IsSound t ∧ ∀ owner id, lookUpCrawl t owner id = lookUpCrawl s owner id ∨
      (owner = orgId ∧ id ∈ ids ∧ lookUpCrawl t owner id = .error .crawlNotFound)

/-- A store that keeps crawls apart from everything else, which calls on crawls do not change. -/
class ApartStore (σ : Type) [AccountStore σ] extends RemovingStore σ where
  /-- The store with everything but its crawls. -/
  butCrawls : σ → σ
  keepsRest (s : σ) (call : CrawlCall) : butCrawls ((onCrawls call).run s).2 = butCrawls s

/-- Whether every crawl belongs to the organization for which it is looked up. -/
def AccountStore.Owned {σ : Type} [AccountStore σ] (s : σ) : Prop :=
  ∀ orgId id crawl, lookUpCrawl s orgId id = .ok crawl → crawl.orgId = orgId

/-! ## The store in memory -/

namespace MemoryStore

/-- A crawl that is looked up is there, and it belongs to who looks it up. -/
theorem get?_of_lookUpCrawl {s : MemoryStore} {orgId id : String} {crawl : Crawl}
    (found : lookUpCrawl s orgId id = .ok crawl) :
    s.crawls.get? id = some crawl ∧ crawl.orgId = orgId := by
  rw [lookUpCrawl_eq] at found
  split at found
  · next stored isThere =>
    split at found
    · next owner =>
      obtain rfl := Except.ok.inj found
      exact ⟨isThere, owner⟩
    · cases found
  · cases found

theorem owned (s : MemoryStore) : Owned s := fun _ _ _ found => (get?_of_lookUpCrawl found).2

/-- A crawl that belongs to another organization is not found. -/
theorem lookUpCrawl_of_foreign {s : MemoryStore} {owner id : String} {crawl : Crawl}
    (isThere : s.crawls.get? id = some crawl) (foreign : crawl.orgId ≠ owner) :
    lookUpCrawl s owner id = .error .crawlNotFound := by
  rw [lookUpCrawl_eq, isThere]
  exact if_neg foreign

instance : RemovingStore MemoryStore where
  foreign found isOther := by
    obtain ⟨isThere, rfl⟩ := get?_of_lookUpCrawl found
    exact lookUpCrawl_of_foreign isThere isOther.symm
  keepsCrawls s call _ := by
    refine ⟨trivial, fun owner id => ?_⟩
    have same : ((AccountStore.onOrgs call).run s).2.crawls = s.crawls := crawls_onOrgs s call
    rw [lookUpCrawl_eq, lookUpCrawl_eq, same]
  removes s orgId ids type _ := by
    refine ⟨trivial, fun owner id => ?_⟩
    obtain ⟨removed, rest, run, deletes⟩ := CrawlTable.run_delete s.crawls orgId type ids
    have after : ((AccountStore.onCrawls (.delete orgId ids type)).run s).2.crawls = rest := by
      show ((onCrawls (.delete orgId ids type)).run s).2.crawls = rest
      rw [run_onCrawls, CrawlTable.perform, run]
    rw [lookUpCrawl_eq _ owner, after, deletes.get?_rest]
    by_cases gone : id ∈ removed
    · rw [if_pos gone]
      obtain ⟨listed, holds⟩ := (deletes.mem_removed id).1 gone
      rw [CrawlTable.holds, Option.any_eq_true] at holds
      obtain ⟨crawl, isThere, mine⟩ := holds
      rw [Bool.and_eq_true, beq_iff_eq] at mine
      by_cases isOwner : owner = orgId
      · exact .inr ⟨isOwner, listed, rfl⟩
      · have foreign : crawl.orgId ≠ owner := fun same => isOwner (same.symm.trans mine.1)
        exact .inl (lookUpCrawl_of_foreign isThere foreign).symm
    · rw [if_neg gone, lookUpCrawl_eq]
      exact .inl rfl

instance : ApartStore MemoryStore where
  butCrawls s := { s with crawls := ∅ }
  keepsRest _ _ := rfl

end MemoryStore

/-! ## The relational store -/

namespace RelationalStore

variable {s : RelationalStore}

/-- A crawl that is looked up is read from a row of who looks it up. -/
theorem row_of_lookUpCrawl {orgId id : String} {crawl : Crawl}
    (found : lookUpCrawl s orgId id = .ok crawl) :
    ∃ row, s.crawls.get? id = some row ∧ row.orgId = orgId ∧ row.crawl? = some crawl := by
  rw [lookUpCrawl_eq] at found
  cases isThere : s.crawls.get? id with
  | none =>
    rw [isThere] at found
    cases found
  | some row =>
    rw [isThere, answer] at found
    split at found
    · next owner =>
      cases reads : row.crawl? with
      | none =>
        rw [reads] at found
        cases found
      | some read =>
        rw [reads] at found
        obtain rfl := Except.ok.inj found
        exact ⟨row, rfl, owner.symm, reads⟩
    · cases found

/-- A row of another organization is not found. -/
theorem lookUpCrawl_of_foreign {owner id : String} {row : CrawlRow}
    (isThere : s.crawls.get? id = some row) (foreign : row.orgId ≠ owner) :
    lookUpCrawl s owner id = .error .crawlNotFound := by
  rw [lookUpCrawl_eq, isThere]
  exact if_neg foreign.symm

theorem lookUpCrawl_filter (keep : String → CrawlRow → Bool) (owner id : String) :
    lookUpCrawl { s with crawls := s.crawls.filter keep } owner id = lookUpCrawl s owner id ∨
      ((∃ row, row.orgId = owner ∧ keep id row = false) ∧
        lookUpCrawl { s with crawls := s.crawls.filter keep } owner id
          = .error .crawlNotFound) := by
  rw [lookUpCrawl_eq _ owner, SortedMap.get?_filter]
  cases isThere : s.crawls.get? id with
  | none =>
    rw [lookUpCrawl_eq, isThere]
    exact .inl rfl
  | some row =>
    rw [Option.filter_some]
    split
    · rw [lookUpCrawl_eq, isThere]
      exact .inl rfl
    · next goes =>
      by_cases owned : row.orgId = owner
      · exact .inr ⟨⟨row, owned, Bool.eq_false_iff.2 goes⟩, rfl⟩
      · exact .inl (lookUpCrawl_of_foreign isThere owned).symm

instance : RemovingStore RelationalStore where
  foreign found isOther := by
    obtain ⟨row, isThere, rfl, _⟩ := row_of_lookUpCrawl found
    exact lookUpCrawl_of_foreign isThere isOther.symm
  keepsCrawls s call sound := by
    refine ⟨NamesRows.after sound (.onOrgs call), fun owner id => ?_⟩
    have same : Attempt.Preserves (fun t => t.crawls = s.crawls) (onOrgs call) :=
      (keptByRows_of_crawls (· = s.crawls) call.orgId).perform.atomically
    have same : ((AccountStore.onOrgs call).run s).2.crawls = s.crawls := same s rfl
    rw [lookUpCrawl_eq, lookUpCrawl_eq, same]
  removes s orgId ids type sound := by
    refine ⟨NamesRows.after sound (.onCrawls (.delete orgId ids type)), fun owner id => ?_⟩
    let keep := fun (id : String) (row : CrawlRow) =>
      !(row.orgId == orgId && row.type == type.name && ids.contains id)
    have after : ((AccountStore.onCrawls (.delete orgId ids type)).run s).2 = s ∨
        ((AccountStore.onCrawls (.delete orgId ids type)).run s).2
          = { s with crawls := s.crawls.filter keep } := by
      show ((onCrawls (.delete orgId ids type)).run s).2 = s ∨
        ((onCrawls (.delete orgId ids type)).run s).2 = _
      rw [onCrawls, Attempt.run_atomically, performOnCrawls, deleteCrawls]
      by_cases none_ : ids.isEmpty = true
      · rw [if_pos none_]
        exact .inl rfl
      · rw [if_neg none_]
        by_cases tooMany : maxDeletedIds < ids.length
        · rw [if_pos tooMany]
          exact .inl rfl
        · rw [if_neg tooMany]
          exact .inr rfl
    rcases after with same | filtered
    · rw [same]
      exact .inl rfl
    · rw [filtered]
      refine (lookUpCrawl_filter keep owner id).imp_right fun ⟨⟨row, owned, goes⟩, absent⟩ => ?_
      simp only [keep, Bool.not_eq_false', Bool.and_eq_true, beq_iff_eq,
        List.contains_iff_mem] at goes
      obtain ⟨⟨isOwner, _⟩, listed⟩ := goes
      exact ⟨owned.symm.trans isOwner, listed, absent⟩

instance : ApartStore RelationalStore where
  butCrawls s := { s with crawls := ∅ }
  keepsRest s call := by
    let Same := fun t : RelationalStore =>
      ({ t with crawls := ∅ } : RelationalStore) = { s with crawls := ∅ }
    have same : Attempt.Preserves Same (onCrawls call) :=
      preserves_onCrawls (fun _ _ _ _ h => h) (fun _ _ h => h) call
    exact same s rfl

/-! ## Relational stores that calls come to -/

/-- Whether each row that can be read holds a crawl of its id and of its organization. -/
def OwnsRows (s : RelationalStore) : Prop :=
  ∀ id row crawl, s.crawls.get? id = some row → row.crawl? = some crawl →
    crawl.id = id ∧ crawl.orgId = row.orgId

theorem ownsRows_empty : OwnsRows {} := by
  intro id row crawl found
  cases found

namespace OwnsRows

theorem insert (h : OwnsRows s) {row : CrawlRow} {crawl : Crawl} (reads : row.crawl? = some crawl)
    (owner : crawl.orgId = row.orgId) :
    OwnsRows { s with crawls := s.crawls.insert crawl.id row } := by
  intro id other read found readsOther
  rw [SortedMap.get?_insert] at found
  split at found
  · next same =>
    obtain rfl := Option.some.inj found
    obtain rfl := Option.some.inj (reads.symm.trans readsOther)
    exact ⟨same.symm, owner⟩
  · exact h id other read found readsOther

theorem filter (h : OwnsRows s) (keep : String → CrawlRow → Bool) :
    OwnsRows { s with crawls := s.crawls.filter keep } := by
  intro id row crawl found
  rw [SortedMap.get?_filter, Option.filter_eq_some_iff] at found
  exact h id row crawl found.1

/-- A row that is written over belongs to the organization to which it belonged. -/
theorem storeCrawl (h : OwnsRows s) {row : CrawlRow} {crawl changed : Crawl}
    (found : s.crawls.get? crawl.id = some row) (reads : row.crawl? = some crawl)
    (same : changed.account = crawl.account) :
    OwnsRows ((RelationalStore.storeCrawl changed).run s).2 := by
  have sameId : changed.id = crawl.id := congrArg Crawl.Account.id same
  have sameOrg : changed.orgId = crawl.orgId := congrArg Crawl.Account.orgId same
  rw [RelationalStore.storeCrawl, Attempt.run_bind]
  cases writes : CrawlRow.ofCrawl? changed with
  | none => exact h
  | some written =>
    rw [run_need]
    dsimp only
    rw [Attempt.run_bind, Attempt.run_get]
    dsimp only
    rw [sameId, found]
    have owner := (h crawl.id row crawl found reads).2
    have readsAfter : ({ row with document := written.document } : CrawlRow).crawl?
        = some changed := crawl?_of_document writes rfl
    rw [← sameId]
    exact h.insert readsAfter (sameOrg.trans owner)

/-- What comes after a look-up of a crawl starts from the same store, with what its row holds. -/
theorem loadCrawl? (h : OwnsRows s) {α : Type} {orgId : Option String} {id : String}
    {f : Option Crawl → Attempt RelationalStore α} (none_ : OwnsRows ((f none).run s).2)
    (some_ : ∀ row crawl, s.crawls.get? crawl.id = some row → row.crawl? = some crawl →
      OwnsRows ((f (some crawl)).run s).2) :
    OwnsRows ((RelationalStore.loadCrawl? orgId id >>= f).run s).2 := by
  rw [Attempt.run_bind, RelationalStore.loadCrawl?, Attempt.run_bind, Attempt.run_get]
  dsimp only
  cases found : s.crawls.get? id with
  | none => exact none_
  | some row =>
    by_cases mine : orgId.all (fun wanted => wanted == row.orgId) = true
    · simp only [mine, if_true, Attempt.run_bind]
      cases reads : row.crawl? with
      | none => exact h
      | some crawl =>
        obtain rfl := (h id row crawl found reads).1
        exact some_ row crawl found reads
    · simp only [mine]
      exact none_

theorem loadCrawl (h : OwnsRows s) {α : Type} {orgId : Option String} {id : String}
    {f : Crawl → Attempt RelationalStore α}
    (some_ : ∀ row crawl, s.crawls.get? crawl.id = some row → row.crawl? = some crawl →
      OwnsRows ((f crawl).run s).2) :
    OwnsRows ((RelationalStore.loadCrawl orgId id >>= f).run s).2 := by
  rw [RelationalStore.loadCrawl, bind_assoc]
  exact h.loadCrawl? h some_

theorem performOnCrawls (h : OwnsRows s) (call : CrawlCall) :
    OwnsRows ((RelationalStore.performOnCrawls call).run s).2 := by
  cases call with
  | insert crawl =>
    rw [RelationalStore.performOnCrawls, Attempt.run_bind]
    cases writes : CrawlRow.ofCrawl? crawl with
    | none => exact h
    | some row =>
      exact h.insert (crawl?_of_document writes rfl) (CrawlRow.columns_of_ofCrawl? writes).1.symm
  | get orgId id => exact preserves_loadCrawl _ id s h
  | setSignedUrl id filename url expiresAt =>
    refine h.loadCrawl? h fun row crawl found reads => ?_
    rw [Option.bind_some]
    cases accepted : crawl.withSignedUrl? filename url expiresAt with
    | none => exact h
    | some signed =>
      exact Attempt.of_bind (h.storeCrawl found reads (Crawl.account_withSignedUrl? accepted))
        fun _ => .pure true
  | addReplica id filename replica =>
    refine h.loadCrawl fun row crawl found reads => ?_
    split
    · exact h.storeCrawl found reads (crawl.account_withReplica filename replica)
    · exact h
  | updateMetadata orgId id type update =>
    refine h.loadCrawl fun row crawl found reads => ?_
    split
    · exact h.storeCrawl found reads (crawl.account_withMetadata update)
    · exact h
  | markCanceled id finished =>
    exact h.loadCrawl fun row crawl found reads =>
      h.storeCrawl found reads (crawl.account_canceledAt finished)
  | addCollection orgId id collection =>
    refine h.loadCrawl fun row crawl found reads => ?_
    rw [Attempt.run_bind]
    cases joins : crawl.joined collection with
    | error e => exact h
    | ok joined => exact h.storeCrawl found reads (Crawl.account_joined joins)
  | removeCollection orgId id collection =>
    refine h.loadCrawl fun row crawl found reads => ?_
    split
    · exact h.storeCrawl found reads (crawl.account_left collection)
    · exact h
  | delete orgId ids type =>
    have deletes : Attempt.Preserves OwnsRows (deleteCrawls orgId ids type) :=
      .ite (fun _ => .pure _) fun _ => .check (.getBind fun s h => h.filter _)
    exact deletes s h

theorem after (h : OwnsRows s) (call : StoreCall) : OwnsRows (call.after s) := by
  cases call with
  | onOrgs call =>
    intro id row crawl found reads
    have same : Attempt.Preserves (fun t => t.crawls = s.crawls) (onOrgs call) :=
      (keptByRows_of_crawls (· = s.crawls) call.orgId).perform.atomically
    have same : (StoreCall.after (.onOrgs call) s).crawls = s.crawls := same s rfl
    rw [same] at found
    exact h id row crawl found reads
  | onCrawls call => exact Attempt.of_atomically h (h.performOnCrawls call)

end OwnsRows

/-- In every store that calls come to, crawls belong to the organization for which they are looked
up. -/
theorem owned_afterCalls (calls : List StoreCall) :
    Owned (afterCalls calls ({} : RelationalStore)) := by
  have owns : ∀ (calls : List StoreCall) (s : RelationalStore), OwnsRows s →
      OwnsRows (afterCalls calls s) := by
    intro calls
    induction calls with
    | nil => exact fun s h => h
    | cons call calls ih => exact fun s h => ih _ (h.after call)
  intro orgId id crawl found
  obtain ⟨row, isThere, rfl, reads⟩ := row_of_lookUpCrawl found
  exact (owns calls {} ownsRows_empty id row crawl isThere reads).2

end RelationalStore

end ArchiveAccounts
