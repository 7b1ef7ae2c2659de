import ArchiveAccounts.Proofs.Service.Membership

/-!
# Additions to a collection

Crawls are added to a collection one by one, and the first one that is refused ends the addition:
one that the organization does not have, or one that is in the collection, for which it is enough to
be listed twice. The crawls before that one stay in the collection, so that an addition that failed
has changed nothing only if it failed at once. Main statement: `addToCollection_inOrder`.
-/

namespace ArchiveAccounts
set_option autoImplicit false

open Calendar AccountStore

/-- The crawl after it has joined a collection. -/
def Crawl.inCollection (crawl : Crawl) (collection : String) : Crawl :=
  { crawl with collections := crawl.collections.insert collection }

theorem Crawl.inCollection_inCollection (crawl : Crawl) (collection : String) :
    (crawl.inCollection collection).inCollection collection = crawl.inCollection collection := by
  have isIn : collection ∈ crawl.collections.insert collection := SortedSet.mem_insert.2 (.inl rfl)
  rw [inCollection, inCollection, SortedSet.insert_eq_self isIn]

/-! ## What an addition comes to -/

section Outcomes

variable {σ : Type} [AccountStore σ] [ApartStore σ] (collection orgId : String)

/-- Whether the organization has a crawl of the id, which is not in the collection. -/
def CanJoin (s : σ) (id : String) : Prop :=
  ∃ crawl, lookUpCrawl s orgId id = .ok crawl ∧ collection ∉ crawl.collections

/-- Whether some crawls of the organization have joined the collection, and nothing else has
changed. -/
structure Joined (ids : List String) (s t : σ) : Prop where
  crawls : ∀ owner id, lookUpCrawl t owner id
    = if owner = orgId ∧ id ∈ ids then (lookUpCrawl s owner id).map (·.inCollection collection)
      else lookUpCrawl s owner id
  rest : ApartStore.butCrawls t = ApartStore.butCrawls s

/-- Why a crawl is refused after those before it have joined. -/
inductive Refused (s : σ) (before : List String) (id : String) : Failure → Prop
  | missing (absent : lookUpCrawl s orgId id = .error .crawlNotFound) :
      Refused s before id .crawlNotFound
  | member {crawl : Crawl} (found : lookUpCrawl s orgId id = .ok crawl)
      (isIn : collection ∈ crawl.collections) :
      Refused s before id (.conflict "crawl_already_in_collection")
  | repeated (again : id ∈ before) :
      Refused s before id (.conflict "crawl_already_in_collection")

/-- What an addition comes to: all crawls join, or those before the first one that is refused. -/
inductive Adds (s t : σ) : List String → Except Failure Unit → Prop
  | all {ids : List String} (nodup : ids.Nodup)
      (canJoin : ∀ id ∈ ids, CanJoin collection orgId s id)
      (joined : Joined collection orgId ids s t) : Adds s t ids (.ok ())
  | upTo {before later : List String} {id : String} {e : Failure} (nodup : before.Nodup)
      (canJoin : ∀ id ∈ before, CanJoin collection orgId s id)
      (refused : Refused collection orgId s before id e)
      (joined : Joined collection orgId before s t) : Adds s t (before ++ id :: later) (.error e)

variable {collection orgId} {s t u : σ} {ids before : List String} {id : String} {e : Failure}

theorem Joined.nil : Joined collection orgId [] s s where
  crawls _ _ := (if_neg fun both => List.not_mem_nil both.2).symm
  rest := rfl

/-- A crawl that could join and has joined is in the collection. -/
theorem Joined.exists_member (joined : Joined collection orgId ids s t) (mem : id ∈ ids)
    (canJoin : CanJoin collection orgId s id) :
    ∃ crawl, lookUpCrawl t orgId id = .ok crawl ∧ collection ∈ crawl.collections := by
  obtain ⟨crawl, found, _⟩ := canJoin
  refine ⟨crawl.inCollection collection, ?_, SortedSet.mem_insert.2 (.inl rfl)⟩
  rw [joined.crawls, if_pos ⟨rfl, mem⟩, found]
  rfl

omit [ApartStore σ] in
theorem not_canJoin_of_member {crawl : Crawl} (found : lookUpCrawl s orgId id = .ok crawl)
    (isIn : collection ∈ crawl.collections) : ¬CanJoin collection orgId s id := by
  rintro ⟨same, foundSame, absent⟩
  obtain rfl := Except.ok.inj (found.symm.trans foundSame)
  exact absent isIn

omit [ApartStore σ] in
/-- What is refused could not have joined from the start, or it has joined before. -/
theorem Refused.not_canJoin_or_mem (refused : Refused collection orgId s before id e) :
    ¬CanJoin collection orgId s id ∨ id ∈ before := by
  cases refused with
  | missing absent =>
    refine .inl ?_
    rintro ⟨crawl, found, _⟩
    rw [absent] at found
    cases found
  | member found isIn => exact .inl (not_canJoin_of_member found isIn)
  | repeated again => exact .inr again

theorem Adds.succeeds_iff {result : Except Failure Unit}
    (adds : Adds collection orgId s t ids result) :
    result = .ok () ↔ ids.Nodup ∧ ∀ id ∈ ids, CanJoin collection orgId s id := by
  cases adds with
  | all nodup canJoin joined => exact iff_of_true rfl ⟨nodup, canJoin⟩
  | @upTo before later id e _ _ refused joined =>
    refine iff_of_false nofun fun ⟨nodup, canJoin⟩ => ?_
    rcases refused.not_canJoin_or_mem with stays | again
    · exact stays (canJoin id (by simp))
    · exact (List.nodup_append.1 nodup).2.2 id again id List.mem_cons_self rfl

/-- The first crawl is in the collection afterwards if it could join. -/
theorem Adds.exists_member {later : List String} {result : Except Failure Unit}
    (adds : Adds collection orgId s t (id :: later) result)
    (canJoin : CanJoin collection orgId s id) :
    ∃ crawl, lookUpCrawl t orgId id = .ok crawl ∧ collection ∈ crawl.collections := by
  generalize ids : id :: later = ids at adds
  cases adds with
  | all _ _ joined =>
    subst ids
    exact joined.exists_member List.mem_cons_self canJoin
  | @upTo before _ _ _ _ _ refused joined =>
    cases before with
    | nil =>
      obtain ⟨rfl, -⟩ := List.cons.inj ids
      exact absurd canJoin (refused.not_canJoin_or_mem.resolve_right List.not_mem_nil)
    | cons first before =>
      obtain ⟨rfl, -⟩ := List.cons.inj ids
      exact joined.exists_member List.mem_cons_self canJoin

/-! ### One crawl joins -/

section Join

variable {crawl : Crawl} (found : lookUpCrawl s orgId crawl.id = .ok crawl)
  (owner : crawl.orgId = orgId) (replaces : Replaces (crawl.inCollection collection) s t)
include owner replaces

theorem lookUpCrawl_of_join (asking id : String) :
    lookUpCrawl t asking id
      = if asking = orgId ∧ id = crawl.id then .ok (crawl.inCollection collection)
        else lookUpCrawl s asking id := by
  rw [← owner]
  exact replaces.crawls asking id

/-- What can join afterwards could join before, and is another crawl. -/
theorem canJoin_of_join {other : String} (canJoin : CanJoin collection orgId t other) :
    CanJoin collection orgId s other ∧ other ≠ crawl.id := by
  obtain ⟨joining, foundNow, absent⟩ := canJoin
  rw [lookUpCrawl_of_join owner replaces] at foundNow
  split at foundNow
  · obtain rfl := Except.ok.inj foundNow
    exact absurd (SortedSet.mem_insert.2 (.inl rfl)) absent
  · next different =>
    exact ⟨⟨joining, foundNow, absent⟩, fun same => different ⟨rfl, same⟩⟩

/-- What is refused afterwards is refused in the whole. -/
theorem refused_of_join (refused : Refused collection orgId t before id e) :
    Refused collection orgId s (crawl.id :: before) id e := by
  by_cases same : id = crawl.id
  · cases refused with
    | missing absent =>
      rw [lookUpCrawl_of_join owner replaces, if_pos ⟨rfl, same⟩] at absent
      cases absent
    | member foundNow isIn => exact .repeated (same ▸ List.mem_cons_self)
    | repeated again => exact .repeated (List.mem_cons_of_mem _ again)
  · have unchanged : lookUpCrawl t orgId id = lookUpCrawl s orgId id := by
      rw [lookUpCrawl_of_join owner replaces, if_neg fun both => same both.2]
    cases refused with
    | missing absent => exact .missing (unchanged ▸ absent)
    | member foundNow isIn => exact .member (unchanged ▸ foundNow) isIn
    | repeated again => exact .repeated (List.mem_cons_of_mem _ again)

include found

theorem joined_of_join (joined : Joined collection orgId ids t u) :
    Joined collection orgId (crawl.id :: ids) s u where
  crawls asking id := by
    rw [joined.crawls, lookUpCrawl_of_join owner replaces]
    by_cases mine : asking = orgId ∧ id = crawl.id
    · have listed : orgId = orgId ∧ crawl.id ∈ crawl.id :: ids := ⟨rfl, List.mem_cons_self⟩
      rw [if_pos mine, mine.1, mine.2, if_pos listed, found]
      split
      · exact congrArg Except.ok (crawl.inCollection_inCollection collection)
      · rfl
    · have listed : (asking = orgId ∧ id ∈ crawl.id :: ids) ↔ asking = orgId ∧ id ∈ ids := by
        rw [List.mem_cons, and_or_left, or_iff_right mine]
      rw [if_neg mine]
      exact (if_congr listed rfl rfl).symm
  rest := joined.rest.trans replaces.rest

/-- One crawl that joins, and then what the addition of the others comes to. -/
theorem adds_of_join (absent : collection ∉ crawl.collections) {result : Except Failure Unit}
    (adds : Adds collection orgId t u ids result) :
    Adds collection orgId s u (crawl.id :: ids) result := by
  have first : CanJoin collection orgId s crawl.id := ⟨crawl, found, absent⟩
  -- a crawl that can join after this one is another one, so that the list names none twice
  have nodup : ∀ {l : List String}, (∀ id ∈ l, CanJoin collection orgId t id) → l.Nodup →
      (crawl.id :: l).Nodup := fun later once => List.nodup_cons.2
    ⟨fun mem => (canJoin_of_join owner replaces (later _ mem)).2 rfl, once⟩
  have all : ∀ {l : List String}, (∀ id ∈ l, CanJoin collection orgId t id) →
      ∀ id ∈ crawl.id :: l, CanJoin collection orgId s id := fun later =>
    List.forall_mem_cons.2 ⟨first, fun id mem => (canJoin_of_join owner replaces (later id mem)).1⟩
  cases adds with
  | all once canJoin joined =>
    exact .all (nodup canJoin once) (all canJoin) (joined_of_join found owner replaces joined)
  | upTo once canJoin refused joined =>
    exact .upTo (nodup canJoin once) (all canJoin) (refused_of_join owner replaces refused)
      (joined_of_join found owner replaces joined)

end Join

end Outcomes

/-! ## Stores of a table -/

/-- An addition to a table, by what is found of the crawl. -/
theorem CrawlTable.run_perform_addCollection (table : CrawlTable) (orgId id collection : String) :
    (perform (.addCollection orgId id collection)).run table
      = match ((findOf orgId id).run table).1 with
        | .error e => (.error e, table)
        | .ok crawl => match crawl.joined collection with
          | .error e => (.error e, table)
          | .ok joined => (.ok (), table.insert joined) := by
  simp only [perform, Attempt.run_bind, Attempt.run_liftM, run_findOf]
  cases table.get? id with
  | none => rfl
  | some crawl =>
    by_cases owner : crawl.orgId = orgId
    · simp only [owner, if_true]
      cases crawl.joined collection <;> rfl
    · simp only [owner, if_false]

section Adding

open TableStore

variable {σ : Type} [AccountStore σ] [ExactTableStore σ] {s : σ} {table : CrawlTable}
  {collection orgId id : String} {org : Organization} {w : World σ}

/-- A crawl that cannot join is refused, and nothing changes. -/
theorem run_addCollection_refused (holds : HoldsTable s table)
    (stays : ¬CanJoin collection orgId s id) :
    ∃ e, (onCrawls (.addCollection orgId id collection)).run s = (.error e, s) ∧
      Refused collection orgId s [] id e := by
  have storable : CanStore σ (.addCollection orgId id collection) := canStore rfl
  obtain ⟨t, run, holdsAfter, rest⟩ := run_onCrawls holds storable rfl
  have same : HoldsTable t table → t = s := fun holdsSame =>
    ExactTableStore.eq_of_holdsTable holdsSame holds rest
  rw [CrawlTable.run_perform_addCollection, ← lookUpCrawl_eq holds] at run holdsAfter
  cases found : lookUpCrawl s orgId id with
  | error e =>
    rw [found] at run holdsAfter
    obtain rfl := error_of_lookUpCrawl holds found
    exact ⟨_, same holdsAfter ▸ run, .missing found⟩
  | ok crawl =>
    have isIn : collection ∈ crawl.collections := by
      by_contra absent
      exact stays ⟨crawl, found, absent⟩
    have joins : crawl.joined collection = .error (.conflict "crawl_already_in_collection") :=
      if_pos (SortedSet.contains_iff.2 isIn)
    simp only [found, joins] at run holdsAfter
    exact ⟨_, same holdsAfter ▸ run, .member found isIn⟩

/-- A crawl that can join does, and nothing else changes. -/
theorem run_addCollection_joins (holds : HoldsTable s table) {crawl : Crawl}
    (found : lookUpCrawl s orgId id = .ok crawl) (absent : collection ∉ crawl.collections) :
    crawl.id = id ∧ crawl.orgId = orgId ∧
    ∃ t, (onCrawls (.addCollection orgId id collection)).run s = (.ok (), t) ∧
      HoldsTable t (table.insert (crawl.inCollection collection)) ∧
      Replaces (crawl.inCollection collection) s t := by
  obtain ⟨isThere, owner⟩ := get?_of_lookUpCrawl holds found
  obtain rfl : crawl.id = id := Register.id_of_get? isThere
  have storable : CanStore σ (.addCollection orgId crawl.id collection) := canStore rfl
  obtain ⟨t, run, holdsAfter, rest⟩ := run_onCrawls holds storable rfl
  have joins : crawl.joined collection = .ok (crawl.inCollection collection) :=
    if_neg (mt SortedSet.contains_iff.1 absent)
  rw [CrawlTable.run_perform_addCollection, ← lookUpCrawl_eq holds] at run holdsAfter
  simp only [found, joins] at run holdsAfter
  exact ⟨rfl, owner, t, run, holdsAfter, replaces holds isThere rfl holdsAfter rest⟩

/-- What the addition of some crawls comes to, one after the other. -/
theorem adds_forM (org : Organization) (holds : HoldsTable w.store table) (collection : String)
    (ids : List String) :
    ∃ result t,
      (ids.forM fun id => Action.onCrawls (.addCollection org.id id collection)).run w
        = (result, { w with store := t }) ∧
      Adds collection org.id w.store t ids result := by
  -- each crawl that joins leaves another store, with another table, to the crawls after it
  induction ids generalizing w table with
  | nil => exact ⟨.ok (), w.store, rfl, .all .nil nofun .nil⟩
  | cons id later ih =>
    rw [Attempt.run_forM_cons, Action.run_onCrawls]
    by_cases canJoin : CanJoin collection org.id w.store id
    · obtain ⟨crawl, found, absent⟩ := canJoin
      obtain ⟨rfl, owner, mid, run, holdsMid, replaces⟩ :=
        run_addCollection_joins holds found absent
      obtain ⟨result, t, rest, adds⟩ := ih (w := { w with store := mid }) holdsMid
      refine ⟨result, t, ?_, adds_of_join found owner replaces absent adds⟩
      rw [run]
      exact rest
    · obtain ⟨e, run, refused⟩ := run_addCollection_refused holds canJoin
      refine ⟨.error e, w.store, ?_, .upTo .nil nofun refused .nil⟩
      rw [run]

/-- If the first crawl cannot join, the addition only tells what was asked for. -/
theorem run_addToCollection_refused (holds : HoldsTable w.store table)
    (stays : ¬CanJoin collection org.id w.store id) (later : List String) :
    ∃ e, (Action.addToCollection collection (id :: later) org).run w = (.error e, { w with
        trace := w.trace ++ [.addToCollection collection (id :: later) org.id] }) ∧
      Refused collection org.id w.store [] id e := by
  obtain ⟨e, run, refused⟩ := run_addCollection_refused holds stays
  refine ⟨e, ?_, refused⟩
  rw [Action.addToCollection, Attempt.run_bind, Action.run_record]
  dsimp only
  rw [Attempt.run_forM_cons, Action.run_onCrawls, run]

end Adding

/-! ## The addition of crawls -/

/-- What it comes to that crawls are added to a collection, in the stores that can arise. -/
structure AddsInOrder {σ : Type} [AccountStore σ] [ApartStore σ] (Arises : σ → Prop)
    (collection : String) (org : Organization) (ids : List String) (w : World σ)
    (result : Except Failure Unit) (t : World σ) : Prop where
  adds : Adds collection org.id w.store t.store ids result
  /-- The addition is told as it was asked for, and only the store is changed by it. -/
  told : t = { w with
    store := t.store
    trace := w.trace ++ [.addToCollection collection ids org.id] }
  succeeds_iff : result = .ok () ↔ ids.Nodup ∧ ∀ id ∈ ids, CanJoin collection org.id w.store id
  /-- An addition that failed has changed nothing exactly if the first crawl could not join. -/
  unchanged_iff : ∀ e, result = .error e →
    (t.store = w.store ↔ ∀ id ∈ ids.head?, ¬CanJoin collection org.id w.store id)
  /-- If it could, the same addition fails ever after, as long as that crawl stays as it is. -/
  again : ∀ id ∈ ids.head?, CanJoin collection org.id w.store id → ∀ v, Arises v.store →
    lookUpCrawl v.store org.id id = lookUpCrawl t.store org.id id →
    (Action.addToCollection collection ids org).run v
      = (.error (.conflict "crawl_already_in_collection"), { v with
          trace := v.trace ++ [.addToCollection collection ids org.id] })

theorem addsInOrder {σ : Type} [AccountStore σ] [ExactTableStore σ] {Arises : σ → Prop}
    (holdsTable : ∀ s, Arises s → ∃ table, TableStore.HoldsTable s table) {w : World σ}
    (arises : Arises w.store) (collection : String) (org : Organization) (ids : List String) :
    ∃ result t, (Action.addToCollection collection ids org).run w = (result, t) ∧
      AddsInOrder Arises collection org ids w result t := by
  obtain ⟨table, holds⟩ := holdsTable _ arises
  obtain ⟨result, s, run, adds⟩ := adds_forM org
    (w := { w with trace := w.trace ++ [.addToCollection collection ids org.id] })
    holds collection ids
  have added : (Action.addToCollection collection ids org).run w = (result, { w with
      store := s, trace := w.trace ++ [.addToCollection collection ids org.id] }) := by
    rw [Action.addToCollection, Attempt.run_bind, Action.run_record]
    exact run
  refine ⟨_, _, added, ?_⟩
  constructor
  case adds => exact adds
  case told => rfl
  case succeeds_iff => exact adds.succeeds_iff
  case unchanged_iff =>
    rintro e rfl
    cases ids with
    | nil => cases adds.succeeds_iff.2 ⟨.nil, nofun⟩
    | cons id later =>
      simp only [List.head?_cons, Option.mem_some, forall_eq']
      constructor
      · intro (same : s = w.store) canJoin
        obtain ⟨crawl, found, isIn⟩ := adds.exists_member canJoin
        rw [same] at found
        exact not_canJoin_of_member found isIn canJoin
      · intro stays
        obtain ⟨_, refused, _⟩ := run_addToCollection_refused holds stays later
        rw [added] at refused
        exact congrArg (World.store ∘ Prod.snd) refused
  case again =>
    intro id first canJoin v arises kept
    obtain ⟨later, rfl⟩ := List.head?_eq_some_iff.1 first
    obtain ⟨crawl, found, isIn⟩ := adds.exists_member canJoin
    obtain ⟨_, holds⟩ := holdsTable _ arises
    rw [← kept] at found
    obtain ⟨e, refused, why⟩ :=
      run_addToCollection_refused holds (not_canJoin_of_member found isIn) later
    rw [refused]
    cases why with
    | missing absent =>
      rw [absent] at found
      cases found
    | member => rfl
    | repeated again => cases again

/-- Crawls are added up to the first one that the organization does not have, that is in the
collection or that was listed before; nothing else changes. -/
theorem addToCollection_inOrder (collection : String) (org : Organization) (ids : List String) :
    (∀ w : World MemoryStore, ∃ result t,
      (Action.addToCollection collection ids org).run w = (result, t) ∧
        AddsInOrder (fun _ => True) collection org ids w result t) ∧
    ∀ w : World RelationalStore, (∃ calls, w.store = afterCalls calls {}) → ∃ result t,
      (Action.addToCollection collection ids org).run w = (result, t) ∧
        AddsInOrder (fun s => ∃ calls, s = afterCalls calls {}) collection org ids w result t := by
  constructor
  · exact fun w => addsInOrder (fun s _ => ⟨s.crawls, rfl⟩) trivial collection org ids
  · intro w arises
    refine addsInOrder ?_ arises collection org ids
    rintro _ ⟨calls, rfl⟩
    exact RelationalStore.exists_holdCrawls_afterCalls calls

theorem addToCollection_inOrder_upTo :
    let org : Organization := { id := "org-1" }
    let now := Moment.ofSeconds 1714564800
    let w : World MemoryStore := { store := { crawls := Register.insert ∅ sortedCrawl }, now }
    let v : World RelationalStore :=
      { store := afterCalls [.onCrawls (.insert sortedCrawl)] {}, now }
    let id := sortedCrawl.id
    (∃ t, (Action.addToCollection "news" [id, "other"] org).run w = (.error .crawlNotFound, t) ∧
      lookUpCrawl t.store "org-1" id = .ok (sortedCrawl.inCollection "news") ∧
      ((Action.addToCollection "news" [id, "other"] org).run t).1
        = .error (.conflict "crawl_already_in_collection")) ∧
    ∃ t, (Action.addToCollection "news" [id] org).run v = (.ok (), t) := by
  intro org now w v id
  have absent : "news" ∉ sortedCrawl.collections :=
    mt SortedSet.contains_iff.2 (by decide +kernel)
  constructor
  · obtain ⟨memory, _⟩ := addToCollection_inOrder "news" org [id, "other"]
    have failed : ((Action.addToCollection "news" [id, "other"] org).run w).1
        = .error .crawlNotFound := by decide +kernel
    have joined : lookUpCrawl ((Action.addToCollection "news" [id, "other"] org).run w).2.store
        "org-1" id = .ok (sortedCrawl.inCollection "news") := by decide +kernel
    have found : lookUpCrawl w.store "org-1" id = .ok sortedCrawl := by decide +kernel
    obtain ⟨result, t, run, inOrder⟩ := memory w
    rw [run] at failed joined
    obtain rfl : result = _ := failed
    refine ⟨t, run, joined, ?_⟩
    rw [inOrder.again id rfl ⟨sortedCrawl, found, absent⟩ t trivial rfl]
  · obtain ⟨_, rows⟩ := addToCollection_inOrder "news" org [id]
    have storable : (CrawlCall.insert sortedCrawl).isStorable = true := by decide +kernel
    have found := TableStore.lookUpCrawl_insert (σ := RelationalStore) Holds.empty.crawls storable
    obtain ⟨result, t, run, inOrder⟩ := rows v ⟨_, rfl⟩
    obtain rfl := inOrder.succeeds_iff.2
      ⟨List.pairwise_singleton _ id, List.forall_mem_singleton.2 ⟨sortedCrawl, found, absent⟩⟩
    exact ⟨t, run⟩

/-- An addition that fails can change a crawl, and it fails again when the crawl that it failed for
has been put there. -/
theorem not_unchanged_addToCollection :
    let org : Organization := { id := "org-1" }
    let w : World MemoryStore :=
      { store := { crawls := Register.insert ∅ sortedCrawl }, now := Moment.ofSeconds 1714564800 }
    let add := (Action.addToCollection "news" [sortedCrawl.id, "other"] org).run
    (add w).1 = .error .crawlNotFound ∧
      lookUpCrawl (add w).2.store "org-1" sortedCrawl.id
        ≠ lookUpCrawl w.store "org-1" sortedCrawl.id ∧
      (let put : CrawlCall := .insert { sortedCrawl with id := "other" }
       let t := ((Action.onCrawls put).run (add w).2).2
       (add t).1 = .error (.conflict "crawl_already_in_collection")) := by
  decide +kernel

end ArchiveAccounts
