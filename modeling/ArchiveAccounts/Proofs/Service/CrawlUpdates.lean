import ArchiveAccounts.Proofs.Service.Membership

/-!
# Updates of a crawl

An update is checked before anything is changed: it must give something, and the crawl must be there
and be of the type asked for. After that nothing fails, so that an update is carried out as a whole
or not at all. Main statement: `updateCrawl_whole`.
-/

namespace ArchiveAccounts
set_option autoImplicit false

open Calendar AccountStore

namespace Crawl

variable (crawl : Crawl) (update : CrawlUpdate)

/-- What an update makes of a crawl: all that it gives takes the place of what was there, and the
rest stays. -/
def updated : Crawl :=
  { crawl with
    name := update.name.or crawl.name
    description := update.description.or crawl.description
    tags := update.tags.getD crawl.tags
    collections := update.collections.elim crawl.collections .ofList }

/-- An update that was taken over has nothing more to give. -/
theorem updated_updated : (crawl.updated update).updated update = crawl.updated update := by
  obtain ⟨name, description, tags, collections⟩ := update
  cases name <;> cases description <;> cases tags <;> cases collections <;> rfl

variable {update}

theorem withMetadata_eq_self (none_ : update.hasMetadata = false) :
    crawl.withMetadata update = crawl := by
  simp only [CrawlUpdate.hasMetadata, Bool.or_eq_false_iff, Option.isSome_eq_false_iff,
    Option.isNone_iff_eq_none] at none_
  obtain ⟨⟨name, description⟩, tags⟩ := none_
  rw [withMetadata, name, description, tags]
  rfl

end Crawl

/-- What is told of an update: the collections that the crawl joins and then those it leaves. -/
def CrawlUpdate.events (update : CrawlUpdate) (crawl : Crawl) : List Event :=
  match update.collections with
  | none => []
  | some requested =>
    let change := MembershipChange.between crawl.collections (.ofList requested)
    change.added.map (.addToCollection · [crawl.id] crawl.orgId)
      ++ change.removed.map (.removeFromCollection · [crawl.id] crawl.orgId)

theorem CrawlUpdate.events_updated (update : CrawlUpdate) (crawl : Crawl) :
    update.events (crawl.updated update) = [] := by
  cases given : update.collections with
  | none => rw [events, given]
  | some requested =>
    rw [events, given, Crawl.updated, given]
    simp only [Option.elim_some, MembershipChange.between, SortedSet.diff_self_toList,
      List.map_nil, List.append_nil]

/-- What it comes to that an update is asked for: it is carried out as a whole, or nothing happens.
-/
structure UpdatesWhole {σ : Type} [AccountStore σ] [ApartStore σ] (crawlId : String)
    (org : Organization) (update : CrawlUpdate) (type : Option CrawlType) (w : World σ) : Prop where
  succeeds_iff : (∃ t, (Action.updateCrawl crawlId org update type).run w = (.ok (), t)) ↔
    update ≠ {} ∧ ∃ crawl, lookUpCrawl w.store org.id crawlId = .ok crawl ∧
      ∀ wanted ∈ type, wanted = crawl.type
  /-- The crawl has taken over what the update gives, and nothing else has changed in the store. -/
  updates : ∀ t, (Action.updateCrawl crawlId org update type).run w = (.ok (), t) →
    ∃ crawl, lookUpCrawl w.store org.id crawlId = .ok crawl ∧
      Replaces (crawl.updated update) w.store t.store ∧
      t = { w with store := t.store, trace := w.trace ++ update.events crawl }
  fails : ∀ e t, (Action.updateCrawl crawlId org update type).run w = (.error e, t) →
    t = w ∧ e = if update = {} then .badRequest "no_update_data" else .crawlNotFound
  /-- Once the update has been carried out, it changes nothing and tells nobody. -/
  again : ∀ t v, (Action.updateCrawl crawlId org update type).run w = (.ok (), t) →
    v.store = t.store → (Action.updateCrawl crawlId org update type).run v = (.ok (), v)

theorem CrawlTable.run_updateMetadata (table : CrawlTable) (crawl : Crawl)
    (collections : SortedSet String) {type : Option CrawlType}
    (fits : ∀ wanted ∈ type, wanted = crawl.type) (update : CrawlUpdate) :
    (perform (.updateMetadata crawl.orgId crawl.id type update)).run
        (table.withCollections crawl collections)
      = (.ok (), table.insert ({ crawl with collections }.withMetadata update)) := by
  have accepted : (type.all fun wanted => wanted == crawl.type) = true := by
    cases type with
    | none => rfl
    | some wanted => exact beq_iff_eq.2 (fits wanted rfl)
  simp only [perform, Attempt.run_bind, run_findOf, get?_withCollections, if_true, accepted,
    run_put]
  exact congrArg (Prod.mk _) (Register.insert_insert table rfl)

section Updating

open TableStore CrawlTable

variable {σ : Type} [AccountStore σ] [TableStore σ] {table : CrawlTable} {crawl : Crawl}
  {org : Organization} {update : CrawlUpdate} {type : Option CrawlType} {w : World σ}

variable (update type) in
/-- The last step of an update: a crawl that is in its collections takes over the rest. -/
theorem run_metadata {start : σ} {collections : SortedSet String}
    (has : HasCollections table crawl start collections w.store) (owner : crawl.orgId = org.id)
    (fits : ∀ wanted ∈ type, wanted = crawl.type) :
    ∃ s, (if update.hasMetadata then
            Action.onCrawls (.updateMetadata org.id crawl.id type update)
          else pure () : Action σ Unit).run w = (.ok (), { w with store := s }) ∧
      HoldsTable s (table.insert ({ crawl with collections }.withMetadata update)) ∧
      ApartStore.butCrawls s = ApartStore.butCrawls start := by
  cases given : update.hasMetadata with
  | false =>
    rw [Crawl.withMetadata_eq_self _ given]
    exact ⟨w.store, rfl, has.holds, has.rest⟩
  | true =>
    have storable : CanStore σ (.updateMetadata org.id crawl.id type update) := canStore rfl
    obtain ⟨s, run, holds, rest⟩ := run_onCrawls has.holds storable rfl
    rw [← owner, run_updateMetadata table crawl collections fits] at run holds
    refine ⟨s, ?_, holds, rest.trans has.rest⟩
    rw [if_pos rfl, Action.run_onCrawls, ← owner, run]

variable (type) in
/-- An update of a crawl that is there is carried out. -/
theorem run_updateCrawl (holds : HoldsTable w.store table)
    (isThere : table.get? crawl.id = some crawl) (owner : crawl.orgId = org.id)
    (notEmpty : update ≠ {}) (fits : ∀ wanted ∈ type, wanted = crawl.type) :
    ∃ s, (Action.updateCrawl crawl.id org update type).run w
        = (.ok (), { w with store := s, trace := w.trace ++ update.events crawl }) ∧
      HoldsTable s (table.insert (crawl.updated update)) ∧
      ApartStore.butCrawls s = ApartStore.butCrawls w.store := by
  have found : lookUpCrawl w.store org.id crawl.id = .ok crawl :=
    owner ▸ lookUpCrawl_of_get? holds isThere
  have given : update.isEmpty = false := beq_eq_false_iff_ne.2 notEmpty
  have accepted : (type.any fun wanted => wanted != crawl.type) = false := by
    cases type with
    | none => rfl
    | some wanted => exact bne_eq_false_iff_eq.2 (fits wanted rfl)
  simp only [Action.updateCrawl, given, Bool.false_eq_true, if_false]
  rw [Attempt.run_bind, Action.run_getCrawl_eq, found]
  simp only [accepted, Bool.false_eq_true, if_false]
  cases asked : update.collections with
  | none =>
    obtain ⟨s, run, holdsAfter, rest⟩ :=
      run_metadata update type (.start holds isThere) owner fits
    refine ⟨s, ?_, ?_, rest⟩
    · rw [CrawlUpdate.events, asked, List.append_nil]
      exact run
    · rw [Crawl.updated, asked]
      exact holdsAfter
  | some requested =>
    obtain ⟨mid, changed, has⟩ := run_setCollections holds isThere owner requested
    dsimp only at changed ⊢
    rw [Attempt.run_bind, changed]
    obtain ⟨s, run, holdsAfter, rest⟩ := run_metadata update type
      (w := { w with store := mid, trace := w.trace ++ update.events crawl }) has owner fits
    refine ⟨s, ?_, ?_, rest⟩
    · rw [CrawlUpdate.events, asked, owner] at run ⊢
      rw [List.append_assoc]
      exact run
    · rw [Crawl.updated, asked]
      exact holdsAfter

/-- An update that is not carried out changes nothing. -/
theorem run_updateCrawl_refused (holds : HoldsTable w.store table) {crawlId : String}
    (refused : ¬(update ≠ {} ∧ ∃ crawl, lookUpCrawl w.store org.id crawlId = .ok crawl ∧
      ∀ wanted ∈ type, wanted = crawl.type)) :
    (Action.updateCrawl crawlId org update type).run w
      = (.error (if update = {} then .badRequest "no_update_data" else .crawlNotFound), w) := by
  by_cases notEmpty : update = {}
  · subst notEmpty
    rfl
  have given : update.isEmpty = false := beq_eq_false_iff_ne.2 notEmpty
  simp only [Action.updateCrawl, given, Bool.false_eq_true, if_false]
  rw [Attempt.run_bind, Action.run_getCrawl_eq, if_neg notEmpty]
  cases found : lookUpCrawl w.store org.id crawlId with
  | error e => rw [error_of_lookUpCrawl holds found]
  | ok crawl =>
    have other : (type.any fun wanted => wanted != crawl.type) = true := by
      rw [Option.any_eq_true]
      by_contra none_
      refine refused ⟨notEmpty, crawl, found, fun wanted isWanted => ?_⟩
      by_contra different
      exact none_ ⟨wanted, isWanted, bne_iff_ne.2 different⟩
    simp only [other, if_true]
    rfl

end Updating

section Whole

open TableStore

variable {σ : Type} [AccountStore σ] [ExactTableStore σ] {table : CrawlTable} {w : World σ}

theorem updatesWhole (holds : HoldsTable w.store table) (crawlId : String) (org : Organization)
    (update : CrawlUpdate) (type : Option CrawlType) :
    UpdatesWhole crawlId org update type w := by
  by_cases accepted : update ≠ {} ∧ ∃ crawl, lookUpCrawl w.store org.id crawlId = .ok crawl ∧
      ∀ wanted ∈ type, wanted = crawl.type
  · obtain ⟨notEmpty, crawl, found, fits⟩ := accepted
    obtain ⟨isThere, owner⟩ := get?_of_lookUpCrawl holds found
    obtain rfl : crawl.id = crawlId := Register.id_of_get? isThere
    obtain ⟨s, run, holdsAfter, rest⟩ := run_updateCrawl type holds isThere owner notEmpty fits
    constructor
    case succeeds_iff => exact iff_of_true ⟨_, run⟩ ⟨notEmpty, crawl, found, fits⟩
    case updates =>
      rintro t done
      obtain rfl : _ = t := congrArg Prod.snd (run.symm.trans done)
      exact ⟨crawl, found, TableStore.replaces holds isThere rfl holdsAfter rest, rfl⟩
    case fails =>
      intro e t failed
      rw [run] at failed
      cases failed
    case again =>
      intro t v done kept
      obtain rfl : _ = t := congrArg Prod.snd (run.symm.trans done)
      -- the second time the crawl takes the place of its equal, in the table and so in the store
      have holdsNow : HoldsTable v.store (table.insert (crawl.updated update)) := kept ▸ holdsAfter
      have isThereNow := Register.get?_insert_self table (crawl.updated update)
      obtain ⟨u, runAgain, holdsLast, restLast⟩ :=
        run_updateCrawl type holdsNow isThereNow owner notEmpty fits
      rw [Crawl.updated_updated, Register.insert_insert table rfl] at holdsLast
      have same : u = v.store := ExactTableStore.eq_of_holdsTable holdsLast holdsNow restLast
      rw [same, CrawlUpdate.events_updated, List.append_nil] at runAgain
      exact runAgain
  · have run := run_updateCrawl_refused holds accepted
    have never : ∀ t, (Action.updateCrawl crawlId org update type).run w ≠ (.ok (), t) := by
      intro t done
      rw [run] at done
      cases done
    constructor
    case succeeds_iff => exact iff_of_false (fun ⟨t, done⟩ => never t done) accepted
    case updates => exact fun t done => absurd done (never t)
    case fails =>
      intro e t failed
      rw [run] at failed
      injection failed with result same
      exact ⟨same.symm, (Except.error.inj result).symm⟩
    case again => exact fun t v done => absurd done (never t)

end Whole

/-- An update succeeds exactly if it gives something and the crawl is there, of the organization and
of the type asked for. Then the crawl takes over all that it gives, once and for all, and nothing
else changes; otherwise nothing changes at all. -/
theorem updateCrawl_whole (crawlId : String) (org : Organization) (update : CrawlUpdate)
    (type : Option CrawlType) :
    (∀ w : World MemoryStore, UpdatesWhole crawlId org update type w) ∧
    ∀ (calls : List StoreCall) (w : World RelationalStore), w.store = afterCalls calls {} →
      UpdatesWhole crawlId org update type w := by
  constructor
  · intro w
    have holds : TableStore.HoldsTable w.store w.store.crawls := rfl
    exact updatesWhole holds crawlId org update type
  · intro calls w reached
    obtain ⟨table, holds⟩ := RelationalStore.exists_holdCrawls_afterCalls calls
    rw [← reached] at holds
    exact updatesWhole (σ := RelationalStore) holds crawlId org update type

theorem updateCrawl_whole_twice :
    let org : Organization := { id := "org-1" }
    let now := Moment.ofSeconds 1714564800
    let w : World MemoryStore := { store := { crawls := Register.insert ∅ sortedCrawl }, now }
    let v : World RelationalStore :=
      { store := afterCalls [.onCrawls (.insert sortedCrawl)] {}, now }
    let update : CrawlUpdate :=
      { name := some "Spring", tags := some ["t"], collections := some ["news", "maps", "news"] }
    let changed := { sortedCrawl with
      name := some "Spring", tags := ["t"], collections := .ofList ["maps", "news"] }
    let run {σ : Type} [AccountStore σ] (w : World σ) :=
      (Action.updateCrawl sortedCrawl.id org update (some .crawl)).run w
    (∃ t, run w = (.ok (), t) ∧ lookUpCrawl t.store "org-1" sortedCrawl.id = .ok changed ∧
      run t = (.ok (), t)) ∧
    ∃ t, run v = (.ok (), t) ∧ run t = (.ok (), t) := by
  intro org now w v update changed run
  obtain ⟨memory, rows⟩ := updateCrawl_whole sortedCrawl.id org update (some .crawl)
  have isWanted : ∀ wanted ∈ some CrawlType.crawl, wanted = sortedCrawl.type := by decide
  constructor
  · have whole := memory w
    have found : lookUpCrawl w.store "org-1" sortedCrawl.id = .ok sortedCrawl := by
      decide +kernel
    obtain ⟨t, done⟩ := whole.succeeds_iff.2 ⟨by decide, sortedCrawl, found, isWanted⟩
    obtain ⟨crawl, foundSame, replaces, _⟩ := whole.updates t done
    obtain rfl : crawl = sortedCrawl := Except.ok.inj (foundSame.symm.trans found)
    refine ⟨t, done, ?_, whole.again t t done rfl⟩
    rw [replaces.crawls, if_pos (by decide)]
    decide +kernel
  · have whole := rows _ v rfl
    have storable : (CrawlCall.insert sortedCrawl).isStorable = true := by decide +kernel
    have found := TableStore.lookUpCrawl_insert (σ := RelationalStore) Holds.empty.crawls storable
    obtain ⟨t, done⟩ := whole.succeeds_iff.2 ⟨by decide, sortedCrawl, found, isWanted⟩
    exact ⟨t, done, whole.again t t done rfl⟩

end ArchiveAccounts
