import ArchiveAccounts.Proofs.Store.Run
import ArchiveAccounts.Proofs.Store.Steps
import ArchiveAccounts.Store.Memory

/-!
# Look-ups

What a store says of its documents when it is asked for them one by one. A look-up changes nothing,
and a crawl that is marked as canceled changes in the look-ups of that crawl only. Main statements:
the instances of `LawfulStore` for the store in memory and for the relational store, and
`namesRows_afterCalls`, that every relational store that calls come to is sound.
-/

namespace ArchiveAccounts
set_option autoImplicit false

open Calendar

namespace AccountStore

variable {σ : Type} [AccountStore σ]

/-- What a store says of the organization of an id. -/
def lookUpOrg (s : σ) (id : String) : Except Failure Organization := ((onOrgs (.get id)).run s).1

/-- What a store says of the crawl of an id in an organization. -/
def lookUpCrawl (s : σ) (orgId id : String) : Except Failure Crawl :=
  ((onCrawls (.get orgId id)).run s).1

/-- Whether two stores say the same but for a crawl, which is canceled in the second one. -/
structure Cancels (id : String) (finished : Moment) (s t : σ) : Prop where
  orgs : ∀ orgId, lookUpOrg t orgId = lookUpOrg s orgId
  crawls : ∀ orgId other, lookUpCrawl t orgId other
    = if other = id then (lookUpCrawl s orgId other).map (·.canceledAt finished)
      else lookUpCrawl s orgId other

end AccountStore

open AccountStore

/-- A store whose look-ups of crawls change nothing and that cancels one crawl at a time. -/
class LawfulStore (σ : Type) [AccountStore σ] where
  /-- Whether a store is in a state that calls come to. -/
  IsSound : σ → Prop
  lookUpCrawl_same : ∀ (s : σ) (orgId id : String), ((onCrawls (.get orgId id)).run s).2 = s
  named : ∀ (s : σ) (orgId id : String) (crawl : Crawl), IsSound s →
    lookUpCrawl s orgId id = .ok crawl → crawl.id = id
  cancels : ∀ (s : σ) (id : String) (finished : Moment), IsSound s →
    let t := ((onCrawls (.markCanceled id finished)).run s).2
    t = s ∨ (IsSound t ∧ Cancels id finished s t)

/-! ## The store in memory -/

namespace MemoryStore

variable (s : MemoryStore)

theorem lookUpOrg_eq (id : String) :
    lookUpOrg s id = match s.orgs.get? id with
      | some org => .ok org
      | none => .error .orgNotFound :=
  congrArg Prod.fst (run_find s id)

theorem lookUpCrawl_eq (orgId id : String) :
    lookUpCrawl s orgId id = match s.crawls.get? id with
      | some crawl => if crawl.orgId = orgId then .ok crawl else .error .crawlNotFound
      | none => .error .crawlNotFound := by
  have run : (AccountStore.onCrawls (.get orgId id)).run s = _ := run_onCrawls s _
  rw [CrawlTable.perform, CrawlTable.run_findOf] at run
  exact congrArg Prod.fst run

/-- A crawl that is there is replaced by the canceled one. -/
theorem cancels_insert {id : String} {crawl : Crawl} (isThere : s.crawls.get? id = some crawl)
    (finished : Moment) :
    Cancels id finished s { s with crawls := s.crawls.insert (crawl.canceledAt finished) } where
  orgs orgId := by rw [lookUpOrg_eq, lookUpOrg_eq]
  crawls orgId other := by
    have named : (crawl.canceledAt finished).id = id :=
      (Register.id_of_get? isThere : crawl.id = id)
    rw [lookUpCrawl_eq, lookUpCrawl_eq, Register.get?_insert, named]
    by_cases same : other = id
    · rw [if_pos same, if_pos same, same, isThere]
      by_cases owner : crawl.orgId = orgId
      · simp only [Crawl.canceledAt, owner, if_true, Except.map]
      · simp only [Crawl.canceledAt, owner, if_false, Except.map]
    · rw [if_neg same, if_neg same]

instance : LawfulStore MemoryStore where
  IsSound _ := True
  lookUpCrawl_same s orgId id := by
    have run : (AccountStore.onCrawls (.get orgId id)).run s = _ := run_onCrawls s _
    rw [run, CrawlTable.perform, CrawlTable.run_findOf]
  named s orgId id crawl _ found := by
    rw [lookUpCrawl_eq] at found
    split at found
    · next isThere =>
      split at found
      · injection found with same
        rw [← same]
        exact Register.id_of_get? isThere
      · exact nomatch found
    · exact nomatch found
  cancels s id finished _ := by
    have run : (AccountStore.onCrawls (.markCanceled id finished)).run s = _ := run_onCrawls s _
    rw [run, CrawlTable.perform, Attempt.run_bind, CrawlTable.run_find]
    cases isThere : s.crawls.get? id with
    | none => exact .inl rfl
    | some crawl => exact .inr ⟨trivial, cancels_insert s isThere finished⟩

end MemoryStore

/-! ## The relational store -/

/-- Whether each row of a table of crawls that can be read holds a crawl of its id. -/
def NameCrawls (rows : SortedMap String CrawlRow) : Prop :=
  ∀ id row crawl, rows.get? id = some row → row.crawl? = some crawl → crawl.id = id

namespace RelationalStore

variable {s : RelationalStore}

/-- What the row that there may be says to an organization that asks for its crawl. -/
def answer (orgId : String) : Option CrawlRow → Except Failure Crawl
  | none => .error .crawlNotFound
  | some row =>
    if orgId = row.orgId then
      match row.crawl? with
      | some crawl => .ok crawl
      | none => .error .store
    else .error .crawlNotFound

theorem run_loadCrawl_eq (s : RelationalStore) (orgId id : String) :
    (loadCrawl (some orgId) id).run s = (answer orgId (s.crawls.get? id), s) := by
  simp only [loadCrawl, loadCrawl?, Attempt.run_bind, Attempt.run_get]
  cases s.crawls.get? id with
  | none => rfl
  | some row =>
    by_cases owner : orgId = row.orgId
    · subst owner
      simp only [Option.all_some, beq_self_eq_true, if_true, answer]
      cases row.crawl? <;> rfl
    · have other : (orgId == row.orgId) = false := beq_eq_false_iff_ne.2 owner
      simp only [Option.all_some, other, owner, if_false, answer, Bool.false_eq_true]
      rfl

theorem run_getCrawl (s : RelationalStore) (orgId id : String) :
    (onCrawls (.get orgId id)).run s = (answer orgId (s.crawls.get? id), s) := by
  rw [onCrawls, performOnCrawls, Attempt.run_atomically, run_loadCrawl_eq]
  cases answer orgId (s.crawls.get? id) <;> rfl

theorem lookUpCrawl_eq (s : RelationalStore) (orgId id : String) :
    lookUpCrawl s orgId id = answer orgId (s.crawls.get? id) :=
  congrArg Prod.fst (run_getCrawl s orgId id)

theorem run_getOrg (s : RelationalStore) (id : String) :
    (onOrgs (.get id)).run s = (match s.orgs.get? id with
      | some row => (s.organization? id row).elim (.error .store) .ok
      | none => .error .orgNotFound, s) := by
  simp only [onOrgs, perform, load, Attempt.run_atomically, Attempt.run_bind, run_find]
  cases s.orgs.get? id with
  | none => rfl
  | some row =>
    simp only [Attempt.run_get]
    cases s.organization? id row <;> rfl

/-- An organization is looked up in its own rows. -/
theorem lookUpOrg_congr {t : RelationalStore} {id : String} (row : t.orgs.get? id = s.orgs.get? id)
    (seconds : t.secondsOf id = s.secondsOf id) (log : t.log id = s.log id) :
    lookUpOrg t id = lookUpOrg s id := by
  have reads : t.organization? id = s.organization? id := by
    funext row
    rw [organization?, organization?, seconds, log]
  have before := congrArg Prod.fst (run_getOrg s id)
  have after := congrArg Prod.fst (run_getOrg t id)
  rw [row, reads] at after
  exact after.trans before.symm

/-- A row that is there is written over with the canceled crawl. -/
theorem cancels_insert {id : String} {row after : CrawlRow} {crawl : Crawl} {finished : Moment}
    (found : s.crawls.get? id = some row) (reads : row.crawl? = some crawl)
    (owner : after.orgId = row.orgId)
    (readsAfter : after.crawl? = some (crawl.canceledAt finished)) :
    Cancels id finished s { s with crawls := s.crawls.insert id after } where
  orgs _ := lookUpOrg_congr rfl rfl rfl
  crawls orgId other := by
    rw [lookUpCrawl_eq, lookUpCrawl_eq, SortedMap.get?_insert]
    by_cases same : other = id
    · rw [if_pos same, if_pos same, same, found]
      simp only [answer, readsAfter, reads, owner]
      by_cases mine : orgId = row.orgId
      · simp only [mine, if_true, Except.map]
      · simp only [mine, if_false, Except.map]
    · rw [if_neg same, if_neg same]

/-- Whether the rows of crawls name the crawls that they hold. -/
def NamesRows (s : RelationalStore) : Prop := NameCrawls s.crawls

theorem namesRows_empty : NamesRows {} := by
  intro id row crawl found
  exact nomatch found

theorem NamesRows.insert (h : NamesRows s) {id : String} {row : CrawlRow} {crawl : Crawl}
    (named : crawl.id = id) (reads : row.crawl? = some crawl) :
    NamesRows { s with crawls := s.crawls.insert id row } := by
  intro other otherRow otherCrawl found readsOther
  rw [SortedMap.get?_insert] at found
  split at found
  · next same =>
    injection found with found
    rw [← found, reads] at readsOther
    injection readsOther with readsOther
    rw [← readsOther, named, same]
  · exact h other otherRow otherCrawl found readsOther

theorem cancels_or_same (h : NamesRows s) (id : String) (finished : Moment) :
    let t := ((onCrawls (.markCanceled id finished)).run s).2
    t = s ∨ (NamesRows t ∧ Cancels id finished s t) := by
  simp only [onCrawls, performOnCrawls, Attempt.run_atomically, Attempt.run_bind, loadCrawl,
    loadCrawl?, Attempt.run_get]
  cases found : s.crawls.get? id with
  | none => exact .inl rfl
  | some row =>
    simp only [Option.all_none, if_true, Attempt.run_bind]
    cases reads : row.crawl? with
    | none => exact .inl rfl
    | some crawl =>
      simp only [run_need, Attempt.run_pure, storeCrawl, Attempt.run_bind]
      cases writes : CrawlRow.ofCrawl? (crawl.canceledAt finished) with
      | none => exact .inl rfl
      | some written =>
        have named : (crawl.canceledAt finished).id = id := h id row crawl found reads
        simp only [run_need, Attempt.run_get, named, found, Attempt.run_modify]
        have readsAfter : ({ row with document := written.document } : CrawlRow).crawl?
            = some (crawl.canceledAt finished) := crawl?_of_document writes rfl
        exact .inr ⟨h.insert named readsAfter, cancels_insert found reads rfl readsAfter⟩

/-! ## Relational stores that calls come to -/

/-- Calls on the organizations keep every property of the crawls. -/
theorem keptByRows_of_crawls (Q : SortedMap String CrawlRow → Prop) (orgId : String) :
    KeptByRows (fun s => Q s.crawls) orgId where
  put _ _ h := h
  addSeconds _ _ _ _ h := h
  append _ _ _ h := h
  trim _ _ h := h
  clear _ h := h
  insertSeconds _ _ h := h

theorem NamesRows.filter (h : NamesRows s) (keep : String → CrawlRow → Bool) :
    NamesRows { s with crawls := s.crawls.filter keep } := by
  intro id row crawl found
  rw [SortedMap.get?_filter, Option.filter_eq_some_iff] at found
  exact h id row crawl found.1

/-- Each call keeps rows that hold crawls of their ids. -/
theorem NamesRows.after (h : NamesRows s) (call : StoreCall) : NamesRows (call.after s) := by
  cases call with
  | onOrgs call =>
    exact (keptByRows_of_crawls NameCrawls call.orgId).perform.atomically s h
  | onCrawls call =>
    have kept : Attempt.Preserves NamesRows (onCrawls call) :=
      preserves_onCrawls (fun s row crawl reads h => h.insert rfl reads)
        (fun _ keep h => h.filter keep) call
    exact kept s h

/-- Every store that calls come to holds crawls under their ids. -/
theorem namesRows_afterCalls (calls : List StoreCall) (h : NamesRows s) :
    NamesRows (afterCalls calls s) := by
  induction calls generalizing s with
  | nil => exact h
  | cons call calls ih => exact ih (h.after call)

instance : LawfulStore RelationalStore where
  IsSound := NamesRows
  lookUpCrawl_same s orgId id := congrArg Prod.snd (run_getCrawl s orgId id)
  named s orgId id crawl h found := by
    rw [lookUpCrawl_eq] at found
    cases isThere : s.crawls.get? id with
    | none =>
      rw [isThere] at found
      exact nomatch found
    | some row =>
      rw [isThere, answer] at found
      split at found
      · cases reads : row.crawl? with
        | none =>
          rw [reads] at found
          exact nomatch found
        | some read =>
          rw [reads] at found
          injection found with same
          rw [← same]
          exact h id row read isThere reads
      · exact nomatch found
  cancels s id finished h := cancels_or_same h id finished

end RelationalStore

end ArchiveAccounts
