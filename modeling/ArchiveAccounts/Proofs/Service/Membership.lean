import ArchiveAccounts.Proofs.Service.LinksReused
import ArchiveAccounts.Proofs.Store.CrawlTables

/-!
# The collections of a crawl

A crawl is put into exactly the collections asked for by joining those that it is not in and leaving
those that are not asked for. Each change is made on the crawl as the ones before it left it; none
of them fails, since no collection is joined twice. Main statement: `setCollections_reconciles`.
-/

namespace ArchiveAccounts
set_option autoImplicit false

open Calendar AccountStore

/-! ## Sets -/

namespace SortedSet

variable {κ : Type} [Ord κ] [Std.LawfulEqOrd κ]

theorem mem_foldl_erase {l : List κ} {s : SortedSet κ} {a : κ} :
    a ∈ l.foldl erase s ↔ a ∈ s ∧ a ∉ l := by
  induction l generalizing s with
  | nil => simp
  | cons k l ih =>
    rw [List.foldl_cons, ih, mem_erase, List.mem_cons]
    grind

/-- What one set has more than another, put into that one, and what the other has more, taken out of
it, make it the first set. -/
theorem foldl_erase_insert_diff [Std.TransOrd κ] (s t : SortedSet κ) :
    (s.diff t).toList.foldl erase ((t.diff s).toList.foldl insert s) = t := by
  apply ext_mem
  intro a
  rw [mem_foldl_erase, mem_foldl_insert, ← mem_def, ← mem_def, mem_diff, mem_diff]
  grind

theorem diff_self_toList (s : SortedSet κ) : (s.diff s).toList = [] := by
  apply List.eq_nil_iff_forall_not_mem.2
  intro a mem
  rw [← mem_def, mem_diff] at mem
  exact mem.2 mem.1

end SortedSet

/-! ## Tables -/

namespace CrawlTable

/-- A table with a crawl in some collections. -/
def withCollections (table : CrawlTable) (crawl : Crawl) (collections : SortedSet String) :
    CrawlTable :=
  table.insert { crawl with collections }

variable (table : CrawlTable) (crawl : Crawl) (collections : SortedSet String)

theorem get?_withCollections :
    (table.withCollections crawl collections).get? crawl.id = some { crawl with collections } :=
  Register.get?_insert_self table { crawl with collections }

theorem insert_withCollections (others : SortedSet String) :
    (table.withCollections crawl collections).insert { crawl with collections := others }
      = table.withCollections crawl others :=
  Register.insert_insert table rfl

/-- The crawl joins a collection that it is not in. -/
theorem run_addCollection {collection : String} (absent : collection ∉ collections) :
    (perform (.addCollection crawl.orgId crawl.id collection)).run
        (table.withCollections crawl collections)
      = (.ok (), table.withCollections crawl (collections.insert collection)) := by
  have other : collections.contains collection = false := by
    rw [← Bool.not_eq_true, SortedSet.contains_iff]
    exact absent
  simp only [perform, Attempt.run_bind, run_findOf, get?_withCollections, if_true, Crawl.joined,
    other, Attempt.run_liftM, Bool.false_eq_true, if_false, run_put, insert_withCollections]

/-- The crawl leaves a collection. -/
theorem run_removeCollection (collection : String) :
    (perform (.removeCollection crawl.orgId crawl.id collection)).run
        (table.withCollections crawl collections)
      = (.ok (), table.withCollections crawl (collections.erase collection)) := by
  simp only [perform, Attempt.run_bind, run_findOf, get?_withCollections, if_true, Crawl.left,
    run_put, insert_withCollections]

end CrawlTable

/-! ## Reconciling -/

/-- What it comes to that a crawl is put into the collections asked for. -/
structure Reconciles {σ : Type} [AccountStore σ] [ApartStore σ] (org : Organization)
    (crawl : Crawl) (requested : List String) (w : World σ) (change : MembershipChange)
    (t : World σ) : Prop where
  mem_added : ∀ c, c ∈ change.added ↔ c ∈ requested ∧ c ∉ crawl.collections
  mem_removed : ∀ c, c ∈ change.removed ↔ c ∈ crawl.collections ∧ c ∉ requested
  /-- Both lists are in strictly ascending order, so that they name no collection twice. -/
  sorted_added : change.added.Pairwise fun a b => compare a b = .lt
  sorted_removed : change.removed.Pairwise fun a b => compare a b = .lt
  nodup : (change.added ++ change.removed).Nodup
  /-- Exactly the changes are told, and nothing but the store is changed by them. -/
  told : t = { w with
    store := t.store
    trace := w.trace
      ++ change.added.map (.addToCollection · [crawl.id] org.id)
      ++ change.removed.map (.removeFromCollection · [crawl.id] org.id) }
  /-- The crawl is in the collections asked for, and nothing else has changed in the store. -/
  replaces : Replaces { crawl with collections := .ofList requested } w.store t.store
  /-- Once it is, asking for the same set changes nothing and tells nobody. -/
  again : ∀ (same : List String) (v : World σ), (∀ c, c ∈ same ↔ c ∈ requested) →
    v.store = t.store → (Action.setCollections crawl.id org same).run v = (.ok {}, v)

theorem Attempt.run_forM_cons {γ σ : Type} {s : σ} (act : γ → Attempt σ PUnit) (x : γ)
    (later : List γ) :
    ((x :: later).forM act).run s
      = (match (act x).run s with
        | (.ok _, t) => (later.forM act).run t
        | (.error e, t) => (.error e, t) : Except Failure PUnit × σ) := by
  show (act x >>= fun _ => later.forM act).run s = _
  rw [run_bind]
  rcases (act x).run s with ⟨_ | _, t⟩ <;> rfl

/-- A change is told before it is made. -/
theorem run_told {σ : Type} {w : World σ} {act : String → Action σ Unit} {event : Event}
    {id : String} {s : σ}
    (run : (act id).run { w with trace := w.trace ++ [event] }
      = (.ok (), { w with store := s, trace := w.trace ++ [event] })) :
    (Action.record event >>= fun _ => [id].forM act).run w
      = (.ok (), { w with store := s, trace := w.trace ++ [event] }) := by
  rw [Attempt.run_bind, Action.run_record]
  show (act id >>= fun _ => pure ()).run { w with trace := w.trace ++ [event] } = _
  rw [Attempt.run_bind, run]
  rfl

section Reconciling

open TableStore CrawlTable

variable {σ : Type} [AccountStore σ] [TableStore σ] {table : CrawlTable} {crawl : Crawl}
  {org : Organization} {w : World σ}

/-- What is known while the collections of a crawl are changed: the crawl is in these ones, and the
store has changed in nothing else. -/
structure HasCollections (table : CrawlTable) (crawl : Crawl) (start : σ)
    (collections : SortedSet String) (s : σ) : Prop where
  holds : HoldsTable s (table.withCollections crawl collections)
  rest : ApartStore.butCrawls s = ApartStore.butCrawls start

theorem HasCollections.start {s : σ} (holds : HoldsTable s table)
    (isThere : table.get? crawl.id = some crawl) :
    HasCollections table crawl s crawl.collections s where
  holds := by
    rw [withCollections, Register.insert_eq_self isThere]
    exact holds
  rest := rfl

theorem HasCollections.step {start : σ} {collections others : SortedSet String}
    (has : HasCollections table crawl start collections w.store) (call : CrawlCall)
    (storable : call.isStorable = true) (onOne : call.isOnOne = true) {reply : call.Reply}
    (performs : (CrawlTable.perform call).run (table.withCollections crawl collections)
      = (.ok reply, table.withCollections crawl others)) :
    ∃ s, (Action.onCrawls call).run w = (.ok reply, { w with store := s }) ∧
      HasCollections table crawl start others s := by
  obtain ⟨s, run, holds, rest⟩ := run_onCrawls has.holds (canStore storable) onOne
  rw [performs] at run holds
  refine ⟨s, ?_, holds, rest.trans has.rest⟩
  rw [Action.run_onCrawls, run]

/-- One change after the other, each of which is told and made. -/
theorem run_forM_changes {act : String → Action σ Unit} {event : String → Event}
    {change : SortedSet String → String → SortedSet String}
    {P : SortedSet String → List String → Prop}
    (next : ∀ collections c rest, P collections (c :: rest) → P (change collections c) rest)
    {start : σ}
    (one : ∀ (w : World σ) collections c rest, P collections (c :: rest) →
      HasCollections table crawl start collections w.store →
      ∃ s, (act c).run w = (.ok (), { w with store := s, trace := w.trace ++ [event c] }) ∧
        HasCollections table crawl start (change collections c) s)
    {collections : SortedSet String} {changes : List String} (fits : P collections changes)
    (has : HasCollections table crawl start collections w.store) :
    ∃ s, (changes.forM act).run w
        = (.ok (), { w with store := s, trace := w.trace ++ changes.map event }) ∧
      HasCollections table crawl start (changes.foldl change collections) s := by
  induction changes generalizing w collections with
  | nil =>
    refine ⟨w.store, ?_, has⟩
    rw [List.map_nil, List.append_nil]
    rfl
  | cons c rest ih =>
    obtain ⟨s, first, hasNext⟩ := one w collections c rest fits has
    obtain ⟨t, later, hasLast⟩ := @ih { w with store := s, trace := w.trace ++ [event c] } _
      (next collections c rest fits) hasNext
    refine ⟨t, ?_, hasLast⟩
    rw [Attempt.run_forM_cons, first]
    dsimp only
    rw [later, List.map_cons]
    dsimp only
    rw [List.append_assoc, List.singleton_append]

/-- A crawl joins collections that it is not in, one after the other. -/
theorem run_forM_addToCollection {start : σ} {collections : SortedSet String}
    {joins : List String} (nodup : joins.Nodup) (absent : ∀ c ∈ joins, c ∉ collections)
    (owner : crawl.orgId = org.id)
    (has : HasCollections table crawl start collections w.store) :
    ∃ s, (joins.forM fun c => Action.addToCollection c [crawl.id] org).run w
        = (.ok (), { w with
            store := s
            trace := w.trace ++ joins.map (.addToCollection · [crawl.id] org.id) }) ∧
      HasCollections table crawl start (joins.foldl SortedSet.insert collections) s := by
  refine run_forM_changes (P := fun collections joins =>
    joins.Nodup ∧ ∀ c ∈ joins, c ∉ collections) ?_ ?_ ⟨nodup, absent⟩ has
  · rintro collections c rest ⟨nodup, absent⟩
    obtain ⟨isNew, nodup⟩ := List.nodup_cons.1 nodup
    obtain ⟨_, absent⟩ := List.forall_mem_cons.1 absent
    refine ⟨nodup, fun other mem joined => ?_⟩
    rcases SortedSet.mem_insert.1 joined with rfl | was
    · exact isNew mem
    · exact absent other mem was
  · rintro w collections c rest ⟨_, absent⟩ has
    have joins := run_addCollection table crawl collections (absent c List.mem_cons_self)
    rw [owner] at joins
    obtain ⟨s, run, hasNext⟩ := HasCollections.step
      (w := { w with trace := w.trace ++ [.addToCollection c [crawl.id] org.id] }) has
      (.addCollection org.id crawl.id c) rfl rfl joins
    exact ⟨s, run_told run, hasNext⟩

/-- A crawl leaves collections, one after the other. -/
theorem run_forM_removeFromCollection {start : σ} {collections : SortedSet String}
    (leaves : List String) (owner : crawl.orgId = org.id)
    (has : HasCollections table crawl start collections w.store) :
    ∃ s, (leaves.forM fun c => Action.removeFromCollection c [crawl.id] org).run w
        = (.ok (), { w with
            store := s
            trace := w.trace ++ leaves.map (.removeFromCollection · [crawl.id] org.id) }) ∧
      HasCollections table crawl start (leaves.foldl SortedSet.erase collections) s := by
  refine run_forM_changes (P := fun _ _ => True) (fun _ _ _ _ => trivial) ?_ trivial has
  intro w collections c rest _ has
  have leaves := run_removeCollection table crawl collections c
  rw [owner] at leaves
  obtain ⟨s, run, hasNext⟩ := HasCollections.step
    (w := { w with trace := w.trace ++ [.removeFromCollection c [crawl.id] org.id] }) has
    (.removeCollection org.id crawl.id c) rfl rfl leaves
  exact ⟨s, run_told run, hasNext⟩

/-- A crawl joins what it lacks and leaves what was not asked for, all of which is told. -/
theorem run_setCollections (holds : HoldsTable w.store table)
    (isThere : table.get? crawl.id = some crawl) (owner : crawl.orgId = org.id)
    (requested : List String) :
    let set : SortedSet String := .ofList requested
    let change := MembershipChange.between crawl.collections set
    ∃ s, (Action.setCollections crawl.id org requested).run w
        = (.ok change, { w with
            store := s
            trace := w.trace ++ change.added.map (.addToCollection · [crawl.id] org.id)
              ++ change.removed.map (.removeFromCollection · [crawl.id] org.id) }) ∧
      HasCollections table crawl w.store set s := by
  intro set change
  have found : lookUpCrawl w.store org.id crawl.id = .ok crawl :=
    owner ▸ lookUpCrawl_of_get? holds isThere
  have start := HasCollections.start holds isThere
  have isNew : ∀ c ∈ change.added, c ∉ crawl.collections :=
    fun c mem => (SortedSet.mem_diff.1 mem).2
  have nodup : change.added.Nodup := SortedSet.nodup_toList _
  obtain ⟨mid, joins, hasMid⟩ := run_forM_addToCollection nodup isNew owner start
  obtain ⟨last, leaves, hasLast⟩ := run_forM_removeFromCollection
    (w := { w with
      store := mid
      trace := w.trace ++ change.added.map (.addToCollection · [crawl.id] org.id) })
    change.removed owner hasMid
  refine ⟨last, ?_, ?_⟩
  · rw [Action.setCollections, Attempt.run_bind, Action.run_getCrawl_eq, found]
    dsimp only
    have changes : MembershipChange.between crawl.collections (.ofList requested) = change := rfl
    rw [changes, Attempt.run_bind, joins]
    dsimp only
    rw [Attempt.run_bind, leaves]
    rfl
  · have same := SortedSet.foldl_erase_insert_diff crawl.collections set
    rw [← same]
    exact hasLast

/-- Nothing is done for a crawl that is in exactly the collections asked for. -/
theorem run_setCollections_of_same {id : String} {requested : List String}
    (found : lookUpCrawl w.store org.id id = .ok crawl)
    (same : ∀ c, c ∈ requested ↔ c ∈ crawl.collections) :
    (Action.setCollections id org requested).run w = (.ok {}, w) := by
  have sameSet : SortedSet.ofList requested = crawl.collections := by
    apply SortedSet.ext_mem
    intro c
    rw [SortedSet.mem_ofList, same]
  have unchanged : MembershipChange.between crawl.collections crawl.collections = {} := by
    rw [MembershipChange.between, SortedSet.diff_self_toList]
  rw [Action.setCollections, Attempt.run_bind, Action.run_getCrawl_eq, found, sameSet]
  dsimp only
  rw [unchanged]
  rfl

theorem reconciles (holds : HoldsTable w.store table)
    (isThere : table.get? crawl.id = some crawl) (owner : crawl.orgId = org.id)
    (requested : List String) :
    ∃ change t, (Action.setCollections crawl.id org requested).run w = (.ok change, t) ∧
      Reconciles org crawl requested w change t := by
  obtain ⟨last, run, reached⟩ := run_setCollections holds isThere owner requested
  have mem_set : ∀ c, c ∈ SortedSet.ofList requested ↔ c ∈ requested :=
    fun c => SortedSet.mem_ofList
  have replaces : Replaces { crawl with collections := .ofList requested } w.store last :=
    TableStore.replaces holds isThere rfl reached.holds reached.rest
  refine ⟨_, _, run, ?_⟩
  constructor
  case mem_added =>
    intro c
    rw [← mem_set]
    exact SortedSet.mem_diff
  case mem_removed =>
    intro c
    rw [← mem_set]
    exact SortedSet.mem_diff
  case sorted_added => exact (SortedSet.diff _ crawl.collections).ordered
  case sorted_removed => exact (crawl.collections.diff _).ordered
  case nodup =>
    apply List.nodup_append.2 ⟨SortedSet.nodup_toList _, SortedSet.nodup_toList _, ?_⟩
    rintro c isAdded _ isRemoved rfl
    exact (SortedSet.mem_diff.1 isAdded).2 (SortedSet.mem_diff.1 isRemoved).1
  case told => rfl
  case replaces => exact replaces
  case again =>
    intro same v isSame kept
    have there : lookUpCrawl v.store org.id crawl.id
        = .ok { crawl with collections := .ofList requested } := by
      rw [kept, replaces.crawls]
      exact if_pos ⟨owner.symm, rfl⟩
    exact run_setCollections_of_same there fun c => (isSame c).trans (mem_set c).symm

end Reconciling

/-- A crawl is put into exactly the collections asked for, with one change for each difference, and
once it is in them there is nothing to change. -/
theorem setCollections_reconciles (org : Organization) (crawl : Crawl) (requested : List String) :
    (∀ w : World MemoryStore, lookUpCrawl w.store org.id crawl.id = .ok crawl →
      ∃ change t, (Action.setCollections crawl.id org requested).run w = (.ok change, t) ∧
        Reconciles org crawl requested w change t) ∧
    ∀ (calls : List StoreCall) (w : World RelationalStore), w.store = afterCalls calls {} →
      lookUpCrawl w.store org.id crawl.id = .ok crawl →
      ∃ change t, (Action.setCollections crawl.id org requested).run w = (.ok change, t) ∧
        Reconciles org crawl requested w change t := by
  constructor
  · intro w found
    have holds : TableStore.HoldsTable w.store w.store.crawls := rfl
    obtain ⟨isThere, owner⟩ := TableStore.get?_of_lookUpCrawl holds found
    exact reconciles holds isThere owner requested
  · intro calls w reached found
    obtain ⟨table, holds⟩ := RelationalStore.exists_holdCrawls_afterCalls calls
    rw [← reached] at holds
    obtain ⟨isThere, owner⟩ := TableStore.get?_of_lookUpCrawl holds found
    exact reconciles holds isThere owner requested

/-- A crawl in two collections. -/
def sortedCrawl : Crawl :=
  { crawlOfLinks [] with collections := .ofList ["art", "maps"] }

theorem setCollections_reconciles_twice :
    let org : Organization := { id := "org-1" }
    let now := Moment.ofSeconds 1714564800
    let w : World MemoryStore := { store := { crawls := Register.insert ∅ sortedCrawl }, now }
    let v : World RelationalStore :=
      { store := afterCalls [.onCrawls (.insert sortedCrawl)] {}, now }
    let id := sortedCrawl.id
    (∃ t, (Action.setCollections id org ["news", "maps", "news"]).run w
        = (.ok { added := ["news"], removed := ["art"] }, t) ∧
      t.trace = [.addToCollection "news" [id] "org-1", .removeFromCollection "art" [id] "org-1"] ∧
      (Action.setCollections id org ["maps", "news"]).run t = (.ok {}, t)) ∧
    ∃ change t, (Action.setCollections id org ["news", "maps", "news"]).run v = (.ok change, t) ∧
      (Action.setCollections id org ["maps", "news"]).run t = (.ok {}, t) := by
  intro org now w v id
  obtain ⟨memory, rows⟩ := setCollections_reconciles org sortedCrawl ["news", "maps", "news"]
  constructor
  · have answered : ((Action.setCollections id org ["news", "maps", "news"]).run w).1
        = .ok { added := ["news"], removed := ["art"] } := by decide +kernel
    obtain ⟨change, t, run, reconciles⟩ := memory w (by decide +kernel)
    rw [run] at answered
    obtain rfl := Except.ok.inj answered
    refine ⟨t, run, ?_, reconciles.again ["maps", "news"] t (by simp) rfl⟩
    rw [reconciles.told]
    rfl
  · have storable : (CrawlCall.insert sortedCrawl).isStorable = true := by decide +kernel
    obtain ⟨change, t, run, reconciles⟩ := rows _ v rfl
      (TableStore.lookUpCrawl_insert Holds.empty.crawls storable)
    exact ⟨change, t, run, reconciles.again ["maps", "news"] t (by simp) rfl⟩

end ArchiveAccounts
