import ArchiveAccounts.Proofs.Service.Forbidden
import ArchiveAccounts.Proofs.Store.Owners

/-!
# Deletions of a user

A deletion for a user stops, cancels, announces and removes crawls of a batch that was validated:
crawls of the organization that the user made, or any of its crawls if the user owns it. This is so
however the deletion ends. While it runs others may delete crawls of the same organization; their
deletions are told apart. Each step of a deletion keeps `Touching`. Main statement:
`deletesOwnOnly`.
-/

namespace ArchiveAccounts
set_option autoImplicit false

open AccountStore Calendar LawfulStore

section Generic

variable {σ : Type} [AccountStore σ]

/-- What may become of a crawl while a batch is deleted at some time. -/
inductive Crawl.Fate (services : Services) (batch : List Crawl) (now : Moment) (id : String)
    (before : Except Failure Crawl) : Except Failure Crawl → Prop
  | kept : Fate services batch now id before before
  | canceled (crawl : Crawl) (mem : crawl ∈ batch) (named : crawl.id = id) :
    Fate services batch now id before
      (.ok { crawl with state := .canceled, finished := some now })
  | removed (crawl : Crawl) (mem : crawl ∈ batch) (named : crawl.id = id) :
    Fate services batch now id before (.error .crawlNotFound)
  /-- Others deleted the crawl while the object of a file was deleted. -/
  | overlapped (crawl : Crawl) (mem : crawl ∈ batch) (file : CrawlFile) (own : file ∈ crawl.files)
    (listed : id ∈ services.overlapping file) :
    Fate services batch now id before (.error .crawlNotFound)

namespace Crawl.Fate

variable {services : Services} {batch more : List Crawl} {now : Moment} {id : String}
  {before mid after : Except Failure Crawl}

theorem mono (h : Fate services batch now id before after)
    (subset : ∀ crawl ∈ batch, crawl ∈ more) : Fate services more now id before after := by
  cases h with
  | kept => exact .kept
  | canceled crawl mem named => exact .canceled crawl (subset crawl mem) named
  | removed crawl mem named => exact .removed crawl (subset crawl mem) named
  | overlapped crawl mem file own listed =>
    exact .overlapped crawl (subset crawl mem) file own listed

theorem trans (first : Fate services batch now id before mid)
    (later : Fate services batch now id mid after) : Fate services batch now id before after := by
  cases later with
  | kept => exact first
  | canceled crawl mem named => exact .canceled crawl mem named
  | removed crawl mem named => exact .removed crawl mem named
  | overlapped crawl mem file own listed => exact .overlapped crawl mem file own listed

/-- A crawl of the batch may be canceled, also if it was removed or canceled before. -/
theorem cancel (h : Fate services batch now id before after) {crawl : Crawl}
    (mem : crawl ∈ batch) (named : crawl.id = id) (stored : before = .ok crawl) :
    Fate services batch now id before (after.map (·.canceledAt now)) := by
  cases h with
  | kept =>
    rw [stored]
    exact .canceled crawl mem named
  | canceled other listed sameId => exact .canceled other listed sameId
  | removed other listed sameId => exact .removed other listed sameId
  | overlapped other listed file own goes => exact .overlapped other listed file own goes

end Crawl.Fate

/-- Whether a deletion of a batch that led from one world to another touched crawls of the batch
only. -/
structure TouchesOnly (services : Services) (orgId : String) (batch : List Crawl) (w t : World σ) :
    Prop where
  concerns : World.Concerns orgId batch w t
  foreign : ∀ owner id, owner ≠ orgId → lookUpCrawl t.store owner id = lookUpCrawl w.store owner id
  crawls : ∀ id, Crawl.Fate services batch w.now id (lookUpCrawl w.store orgId id)
    (lookUpCrawl t.store orgId id)

namespace TouchesOnly

variable {services : Services} {orgId : String} {batch more : List Crawl} {w mid t : World σ}

theorem nothing (w : World σ) : TouchesOnly services orgId [] w w where
  concerns := .start w
  foreign _ _ _ := rfl
  crawls _ := .kept

theorem trans (first : TouchesOnly services orgId batch w mid)
    (later : TouchesOnly services orgId more mid t) (now : mid.now = w.now) :
    TouchesOnly services orgId (batch ++ more) w t where
  concerns := by
    refine (first.concerns.mono fun crawl mem => ?_).trans
      (later.concerns.mono fun crawl mem => ?_)
    · exact List.mem_append_left _ mem
    · exact List.mem_append_right _ mem
  foreign owner id other := (later.foreign owner id other).trans (first.foreign owner id other)
  crawls id := by
    have fate := later.crawls id
    rw [now] at fate
    refine ((first.crawls id).mono fun crawl mem => ?_).trans (fate.mono fun crawl mem => ?_)
    · exact List.mem_append_left _ mem
    · exact List.mem_append_right _ mem

/-- Crawls that are left belong to the organization for which they are looked up, as before. -/
theorem owned (h : TouchesOnly services orgId batch w t) (before : Owned w.store)
    (mine : ∀ crawl ∈ batch, crawl.orgId = orgId) : Owned t.store := by
  intro owner id crawl found
  by_cases isMine : owner = orgId
  · subst isMine
    have fate := h.crawls id
    rw [found] at fate
    generalize stored : lookUpCrawl w.store owner id = before_ at fate
    cases fate with
    | kept => exact before owner id crawl stored
    | canceled crawl mem named => exact mine crawl mem
  · rw [h.foreign owner id isMine] at found
    exact before owner id crawl found

/-- What is left and is of another type than all crawls of the batch was there before. -/
theorem stored (h : TouchesOnly services orgId batch w t) {crawl : Crawl}
    (other : ∀ deleted ∈ batch, deleted.type ≠ crawl.type) {id : String}
    (found : lookUpCrawl t.store orgId id = .ok crawl) :
    lookUpCrawl w.store orgId id = .ok crawl := by
  have fate := h.crawls id
  rw [found] at fate
  generalize lookUpCrawl w.store orgId id = before at fate
  cases fate with
  | kept => rfl
  | canceled deleted mem named => exact absurd rfl (other deleted mem)

end TouchesOnly

/-- What holds of the crawls all along while a batch is deleted. -/
structure Touching [LawfulStore σ] (services : Services) (orgId : String) (batch : List Crawl)
    (w t : World σ) : Prop where
  foreign : ∀ owner id, owner ≠ orgId → lookUpCrawl t.store owner id = lookUpCrawl w.store owner id
  crawls : ∀ id, Crawl.Fate services batch w.now id (lookUpCrawl w.store orgId id)
    (lookUpCrawl t.store orgId id)
  sound : IsSound t.store
  now : t.now = w.now

namespace Touching

variable [RemovingStore σ] {services : Services} {orgId : String} {batch : List Crawl}
  {w t : World σ}

theorem start (sound : IsSound w.store) : Touching services orgId batch w w where
  foreign _ _ _ := rfl
  crawls _ := .kept
  sound := sound
  now := rfl

/-- Anything may be told and counted. -/
theorem told (h : Touching services orgId batch w t) (trace : List Event) (metrics : Metrics) :
    Touching services orgId batch w { t with trace, metrics } :=
  ⟨h.foreign, h.crawls, h.sound, h.now⟩

theorem onOrgs (h : Touching services orgId batch w t) (call : OrgCall) :
    Touching services orgId batch w ((Action.onOrgs call).run t).2 := by
  obtain ⟨sound, same⟩ := RemovingStore.keepsCrawls t.store call h.sound
  refine ⟨fun owner id other => ?_, fun id => ?_, sound, h.now⟩
  · exact (same owner id).trans (h.foreign owner id other)
  · have fate := h.crawls id
    rw [← same orgId id] at fate
    exact fate

/-- A deletion of ids that may go touches the crawls of the organization only. -/
theorem delete (h : Touching services orgId batch w t) (ids : List String) (type : CrawlType)
    (goes : ∀ id ∈ ids, ∀ before,
      Crawl.Fate services batch w.now id before (.error .crawlNotFound)) :
    Touching services orgId batch w ((Action.onCrawls (.delete orgId ids type)).run t).2 := by
  obtain ⟨sound, removes⟩ := RemovingStore.removes t.store orgId ids type h.sound
  refine ⟨fun owner id other => ?_, fun id => ?_, sound, h.now⟩
  · rcases removes owner id with same | ⟨mine, _⟩
    · exact same.trans (h.foreign owner id other)
    · exact absurd mine other
  · rcases removes orgId id with same | ⟨_, listed, absent⟩
    · have fate := h.crawls id
      rw [← same] at fate
      exact fate
    · have fate := goes id listed (lookUpCrawl w.store orgId id)
      rw [← absent] at fate
      exact fate

/-- A crawl of the batch may be canceled. Other organizations have none of its id. -/
theorem cancel (h : Touching services orgId batch w t) {crawl : Crawl} (mem : crawl ∈ batch)
    (stored : lookUpCrawl w.store orgId crawl.id = .ok crawl) :
    Touching services orgId batch w ((Action.onCrawls (.markCanceled crawl.id t.now)).run t).2 := by
  rw [Action.run_onCrawls]
  rcases cancels t.store crawl.id t.now h.sound with same | ⟨sound, canceled⟩
  · dsimp only
    rw [same]
    exact h
  · refine ⟨fun owner id other => ?_, fun id => ?_, sound, h.now⟩
    · dsimp only
      rw [canceled.crawls, h.foreign owner id other]
      split
      · next named =>
        rw [named, RemovingStore.foreign stored other]
        rfl
      · rfl
    · dsimp only
      rw [canceled.crawls, h.now]
      split
      · next named =>
        subst named
        exact (h.crawls crawl.id).cancel mem rfl stored
      · exact h.crawls id

end Touching

namespace Action

variable [RemovingStore σ] {services : Services} {org : Organization} {batch : List Crawl}
  {w : World σ}

theorem touching_stopCrawl {crawl : Crawl} (mem : crawl ∈ batch)
    (stored : lookUpCrawl w.store org.id crawl.id = .ok crawl) :
    Attempt.Preserves (Touching services org.id batch w) (stopCrawl services crawl) := by
  refine .bind (fun t h => h.told _ _) fun answer => ?_
  refine .ite (fun _ => .pure _) fun _ => .ite (fun _ => ?_) fun _ => .throw _
  exact .getBind fun t h => h.cancel mem stored

theorem touching_deleteMeanwhile {ids : List String}
    (goes : ∀ id ∈ ids, ∀ before,
      Crawl.Fate services batch w.now id before (.error .crawlNotFound)) (type : CrawlType) :
    Attempt.Preserves (Touching services org.id batch w) (deleteMeanwhile org ids type) := by
  refine .ite (fun _ => .pure _) fun _ => .tryCatch (.bind ?_ fun _ => .pure _) fun _ => .pure _
  intro t h
  exact h.delete ids type goes

theorem touching_deleteFile {crawl : Crawl} {file : CrawlFile} (mem : crawl ∈ batch)
    (own : file ∈ crawl.files) :
    Attempt.Preserves (Touching services org.id batch w) (deleteFile services org crawl file) := by
  have meanwhile : ∀ type, Attempt.Preserves (Touching services org.id batch w)
      (deleteMeanwhile org (services.overlapping file) type) :=
    touching_deleteMeanwhile fun _ listed _ => .overlapped crawl mem file own listed
  refine .bind .get fun before => ?_
  refine .bind (meanwhile .crawl) fun _ => .bind (meanwhile .upload) fun _ => ?_
  refine .bind (fun t h => h.told _ _) fun deleted => ?_
  exact .ite (fun _ t h => h.told _ _) fun _ => .throw _

theorem touching_reclaim
    (stored : ∀ crawl ∈ batch, lookUpCrawl w.store org.id crawl.id = .ok crawl) :
    Attempt.Preserves (Touching services org.id batch w) (reclaim services org batch) :=
  preserves_reclaim_of (fun crawl mem _ _ => touching_stopCrawl mem (stored crawl mem))
    (fun _ mem _ own => touching_deleteFile mem own) (fun _ _ _ h => h.told _ _)
    fun _ h => h.told _ _

theorem touching_commit (type : CrawlType) :
    Attempt.Preserves (Touching services org.id batch w) (commit services org batch type) := by
  have settles : ∀ deleted reclaimed, Attempt.Preserves (Touching services org.id batch w)
      (settle services org deleted reclaimed) := by
    intro deleted reclaimed
    refine .bind (.forM fun entry _ => ?_) fun _ => .bind (fun t h => h.told _ _) fun _ => ?_
    · refine .bind (fun t h => h.told _ _) fun isThere => ?_
      exact .ite (fun _ => .pure _) fun _ => .throw _
    · exact .bind (fun t h => h.onOrgs _) fun _ => .pure _
  refine .bind (fun t h => h.delete _ _ fun id listed _ => ?_) fun removed => ?_
  · obtain ⟨crawl, mem, named⟩ := List.mem_map.1 listed
    exact .removed crawl mem named
  · exact .ite (fun _ => .bind (fun t h => h.onOrgs _) fun _ => settles _ _) fun _ => settles _ _

theorem touching_carryOut (type : CrawlType)
    (stored : ∀ crawl ∈ batch, lookUpCrawl w.store org.id crawl.id = .ok crawl) :
    Attempt.Preserves (Touching services org.id batch w) (carryOut services org type batch) := by
  refine .ite (fun _ => .bind (fun t h => h.onOrgs _) fun _ => .pure _) fun _ => ?_
  exact .bind (touching_reclaim stored) fun _ => touching_commit type

end Action

/-- What a user may delete of what a deletion is asked for: crawls of the organization that the user
made, and all of them if the user owns it. -/
structure MayDelete (org : Organization) (ids : List String) (user : String) (s : σ)
    (crawl : Crawl) : Prop where
  stored : lookUpCrawl s org.id crawl.id = .ok crawl
  listed : crawl.id ∈ ids
  owner : crawl.orgId = org.id
  allowed : crawl.userId = some user ∨ org.isOwner user = true

namespace MayDelete

variable {services : Services} {org : Organization} {ids more : List String} {user : String}
  {w t : World σ} {crawl : Crawl}

theorem mono {s : σ} (h : MayDelete org ids user s crawl) (subset : ∀ id ∈ ids, id ∈ more) :
    MayDelete org more user s crawl :=
  { h with listed := subset crawl.id h.listed }

/-- What a user may delete after other crawls were deleted, all of another type, could be deleted
before. -/
theorem of_touchesOnly {batch : List Crawl} (touches : TouchesOnly services org.id batch w t)
    (other : ∀ deleted ∈ batch, deleted.type ≠ crawl.type)
    (h : MayDelete org ids user t.store crawl) : MayDelete org ids user w.store crawl :=
  { h with stored := touches.stored other h.stored }

end MayDelete

/-- Whether a deletion of one type for a user, which led from one world to another, touched only
what the user may delete. -/
def TouchesOwn [LawfulStore σ] (services : Services) (org : Organization) (ids : List String)
    (user : String) (type : CrawlType) (w t : World σ) : Prop :=
  ∃ batch : List Crawl,
    (∀ crawl ∈ batch, MayDelete org ids user w.store crawl ∧ crawl.type = type) ∧
      TouchesOnly services org.id batch w t ∧ IsSound t.store ∧ t.now = w.now

theorem TouchesOwn.nothing [LawfulStore σ] {services : Services} {org : Organization}
    {ids : List String} {user : String} {type : CrawlType} {w : World σ} (sound : IsSound w.store) :
    TouchesOwn services org ids user type w w :=
  ⟨[], List.forall_mem_nil _, .nothing w, sound, rfl⟩

namespace Action

variable [RemovingStore σ] {services : Services} {org : Organization} {ids : List String}
  {user : String} {w : World σ}

/-- A deletion of one type touches only what the user may delete. -/
theorem touches_deleteCrawls (sound : IsSound w.store) (owned : Owned w.store) (type : CrawlType) :
    TouchesOwn services org ids user type w
      ((deleteCrawls services org ids type (some user)).run w).2 := by
  obtain ⟨result, validates, spec⟩ := run_validated_eq org ids type (some user) sound
  have run : (deleteCrawls services org ids type (some user)).run w
      = (validated org ids type (some user) >>= carryOut services org type).run w := by
    rw [deleteCrawls_eq]
    rfl
  rw [run, Attempt.run_bind, validates]
  cases result with
  | error e => exact .nothing sound
  | ok batch =>
    have stored : ∀ crawl ∈ batch, lookUpCrawl w.store org.id crawl.id = .ok crawl :=
      fun crawl mem => (spec batch rfl crawl mem).2.2
    have allowed : ∀ crawl ∈ batch, org.allowsDeletion (some user) crawl = true := by
      rw [validated] at validates
      split at validates
      · cases validates
      · exact allowed_of_validate validates
    have touching : Touching services org.id batch w ((carryOut services org type batch).run w).2 :=
      touching_carryOut type stored w (.start sound)
    refine ⟨batch, fun crawl mem => ⟨⟨stored crawl mem, ?_, ?_, ?_⟩, ?_⟩,
      ⟨concerns_carryOut type w (.start w), touching.foreign, touching.crawls⟩, touching.sound,
      touching.now⟩
    · exact (spec batch rfl crawl mem).1
    · exact owned org.id crawl.id crawl (stored crawl mem)
    · simpa [Organization.allowsDeletion] using allowed crawl mem
    · exact (spec batch rfl crawl mem).2.1

/-- A part of a deletion does what a deletion does, if it is asked for anything. -/
theorem touches_deletePart (ids : List String) (sound : IsSound w.store)
    (owned : Owned w.store) (type : CrawlType) (soFar : DeletionOutcome) :
    TouchesOwn services org ids user type w
      ((deletePart services org ids type (some user) soFar).run w).2 := by
  rw [deletePart_eq]
  split
  · exact .nothing sound
  · exact Attempt.of_bind (P := TouchesOwn services org ids user type w)
      (touches_deleteCrawls sound owned type) fun _ => .pure _

/-- Uploads that are deleted after crawls were there before the crawls were deleted, as a crawl that
was canceled meanwhile is no upload. -/
theorem touches_deleteFound {found : List Crawl} (sound : IsSound w.store) (owned : Owned w.store)
    (listed : ∀ crawl ∈ found, crawl.id ∈ ids) :
    ∃ batch : List Crawl, (∀ crawl ∈ batch, MayDelete org ids user w.store crawl) ∧
      TouchesOnly services org.id batch w
        ((deleteFound services org (some user) found).run w).2 := by
  have among : ∀ type, ∀ id ∈ Crawl.idsOf type found, id ∈ ids := by
    intro type id mem
    obtain ⟨crawl, isThere, _, rfl⟩ := Crawl.mem_idsOf.1 mem
    exact listed crawl isThere
  obtain ⟨batch, mine, touches, midSound, now⟩ :=
    touches_deletePart (Crawl.idsOf .crawl found) sound owned .crawl {}
  have crawls : ∀ crawl ∈ batch, MayDelete org ids user w.store crawl :=
    fun crawl mem => (mine crawl mem).1.mono (among .crawl)
  rw [deleteFound]
  split
  · exact ⟨[], List.forall_mem_nil _, .nothing w⟩
  · rw [Attempt.run_bind]
    split
    · next soFar mid run =>
      rw [run] at touches midSound now
      have midOwned : Owned mid.store :=
        touches.owned owned fun crawl mem => (crawls crawl mem).owner
      obtain ⟨more, uploads, touchesMore, _⟩ :=
        touches_deletePart (Crawl.idsOf .upload found) midSound midOwned .upload soFar
      have before : ∀ crawl ∈ more, MayDelete org ids user w.store crawl := by
        intro crawl mem
        obtain ⟨may, isUpload⟩ := uploads crawl mem
        refine (may.mono (among .upload)).of_touchesOnly touches fun deleted mem => ?_
        rw [(mine deleted mem).2, isUpload]
        rintro ⟨⟩
      refine ⟨batch ++ more, List.forall_mem_append.2 ⟨crawls, before⟩, ?_⟩
      exact Attempt.of_bind (P := TouchesOnly services org.id (batch ++ more) w)
        (touches.trans touchesMore now) fun answer => .ite (fun _ => .throw _) fun _ => .pure _
    · next run =>
      rw [run] at touches
      exact ⟨batch, crawls, touches⟩

theorem touches_deleteAll (sound : IsSound w.store) (owned : Owned w.store) :
    ∃ batch : List Crawl, (∀ crawl ∈ batch, MayDelete org ids user w.store crawl) ∧
      TouchesOnly services org.id batch w
        ((deleteAll services org ids (some user)).run w).2 := by
  rw [deleteAll_eq, Attempt.run_bind, run_mapM_getCrawl]
  cases finds : ids.mapM (lookUpCrawl w.store org.id) with
  | error e => exact ⟨[], List.forall_mem_nil _, .nothing w⟩
  | ok found =>
    refine touches_deleteFound sound owned fun crawl mem => ?_
    obtain ⟨id, listed, isThere⟩ := (mem_of_mapM_ok finds).2 crawl mem
    rw [LawfulStore.named w.store org.id id crawl sound isThere]
    exact listed

end Action

/-- What deletions for a user touch, however they end: crawls that the user may delete, and of one
type only if they are asked for one type. -/
structure DeletesOwnOnly (services : Services) (org : Organization) (ids : List String)
    (user : String) (w : World σ) : Prop where
  ofType : ∀ type, ∃ batch : List Crawl,
    (∀ crawl ∈ batch, MayDelete org ids user w.store crawl ∧ crawl.type = type) ∧
      TouchesOnly services org.id batch w
        ((Action.deleteCrawls services org ids type (some user)).run w).2
  ofAll : ∃ batch : List Crawl, (∀ crawl ∈ batch, MayDelete org ids user w.store crawl) ∧
    TouchesOnly services org.id batch w ((Action.deleteAll services org ids (some user)).run w).2

theorem deletesOwnOnly_of_owned [RemovingStore σ] (services : Services) (org : Organization)
    (ids : List String) (user : String) {w : World σ} (sound : IsSound w.store)
    (owned : Owned w.store) : DeletesOwnOnly services org ids user w where
  ofType type := by
    obtain ⟨batch, mine, touches, _⟩ := Action.touches_deleteCrawls sound owned type
    exact ⟨batch, mine, touches⟩
  ofAll := Action.touches_deleteAll sound owned

end Generic

/-- A deletion for a user touches only crawls of the organization that the user made, or any of them
if the user owns it. This is so whatever collaborators answer and however the deletion ends, on
every store in memory and on every relational store that calls come to. -/
theorem deletesOwnOnly (services : Services) (org : Organization) (ids : List String)
    (user : String) :
    (∀ w : World MemoryStore, DeletesOwnOnly services org ids user w) ∧
      ∀ (calls : List StoreCall) (w : World RelationalStore), w.store = afterCalls calls {} →
        DeletesOwnOnly services org ids user w := by
  constructor
  · intro w
    exact deletesOwnOnly_of_owned services org ids user trivial w.store.owned
  · intro calls w reached
    have sound : RelationalStore.NamesRows w.store := by
      rw [reached]
      exact RelationalStore.namesRows_afterCalls calls RelationalStore.namesRows_empty
    have owned : Owned w.store := by
      rw [reached]
      exact RelationalStore.owned_afterCalls calls
    exact deletesOwnOnly_of_owned services org ids user sound owned

/-- The upload of another user stays when a user asks for it to be deleted with a crawl that the
user made. -/
theorem deletesOwnOnly_mixed :
    let now := Moment.ofSeconds 1714564800
    let w : World MemoryStore := { store := afterCalls bringMixed {}, now }
    let rows : World RelationalStore := { store := afterCalls bringMixed {}, now }
    let t := ((Action.deleteAll compliant { id := "org-1" } ["b", "c"] (some "carl")).run w).2
    lookUpCrawl w.store "org-1" "b" = .ok mixedCrawls[0] ∧
      lookUpCrawl t.store "org-1" "b" = lookUpCrawl w.store "org-1" "b" ∧
      lookUpCrawl t.store "org-1" "c" = .error .crawlNotFound ∧
      DeletesOwnOnly compliant { id := "org-1" } ["b", "c"] "carl" rows := by
  intro now w rows t
  obtain ⟨inMemory, inRows⟩ := deletesOwnOnly compliant { id := "org-1" } ["b", "c"] "carl"
  have stored : lookUpCrawl w.store "org-1" "b" = .ok mixedCrawls[0] := by decide +kernel
  refine ⟨stored, ?_, by decide +kernel, inRows bringMixed rows rfl⟩
  obtain ⟨batch, mine, touches⟩ := (inMemory w).ofAll
  have notHers : ∀ crawl ∈ batch, crawl.id ≠ "b" := by
    intro crawl mem named
    have may := mine crawl mem
    have isThere := may.stored
    rw [named, stored] at isThere
    obtain rfl := Except.ok.inj isThere
    exact absurd may.allowed (by decide +kernel)
  have fate := touches.crawls "b"
  generalize lookUpCrawl w.store "org-1" "b" = before at fate
  generalize lookUpCrawl t.store "org-1" "b" = after at fate
  cases fate with
  | kept => rfl
  | canceled crawl mem named => exact absurd named (notHers crawl mem)
  | removed crawl mem named => exact absurd named (notHers crawl mem)
  | overlapped crawl mem file own listed => exact nomatch listed

end ArchiveAccounts
