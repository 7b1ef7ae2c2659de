import ArchiveAccounts.Proofs.Service.LinksReused
import ArchiveAccounts.Proofs.Store.CrawlTables

/-!
# Links that are refreshed

New links for a file may be stored in any order, as when several clients ask for one at once. The
link that ends last stays, with its own end, and of those that end together the last one to come.
Main statement: `refreshes_keepLatest`.
-/

namespace ArchiveAccounts
set_option autoImplicit false

open Calendar AccountStore

/-- A new link with its end. -/
structure Refresh where
  url : String
  expiresAt : Moment
  deriving DecidableEq

/-- The call that stores a new link with the first file of a name. -/
abbrev Refresh.call (r : Refresh) (id filename : String) : CrawlCall :=
  .setSignedUrl id filename r.url r.expiresAt

/-- A greatest number does not depend on the order. -/
theorem max?_perm {a b : List Int} (perm : a.Perm b) : a.max? = b.max? := by
  cases greatest : b.max? with
  | none =>
    rw [List.max?_eq_none_iff] at greatest ⊢
    subst greatest
    exact perm.eq_nil
  | some n =>
    rw [List.max?_eq_some_iff] at greatest ⊢
    obtain ⟨mem, bound⟩ := greatest
    exact ⟨perm.mem_iff.2 mem, fun m among => bound m (perm.mem_iff.1 among)⟩

/-! ## Files -/

namespace CrawlFile

/-- The point in time at which the link of a file ends. -/
def ends (file : CrawlFile) : Option Int := file.expiresAt.map Moment.instant

/-- A file with a new link, unless it has one that ends later. -/
def refreshed (file : CrawlFile) (r : Refresh) : CrawlFile :=
  if Crawl.acceptsExpiry file r.expiresAt then file.signed r.url r.expiresAt else file

/-- A file after new links, one after the other. -/
def refreshedAll (file : CrawlFile) (refreshes : List Refresh) : CrawlFile :=
  refreshes.foldl refreshed file

/-- The new links that take the place of what a file has, each after the ones before it. -/
def takes : CrawlFile → List Refresh → List Refresh
  | _, [] => []
  | file, r :: rest =>
    if Crawl.acceptsExpiry file r.expiresAt then r :: takes (file.refreshed r) rest
    else takes (file.refreshed r) rest

variable {file : CrawlFile} {r : Refresh}

theorem acceptsExpiry_iff {expiresAt : Moment} :
    Crawl.acceptsExpiry file expiresAt = true ↔ file.ends ≤ some expiresAt.instant := by
  unfold Crawl.acceptsExpiry ends
  cases file.expiresAt with
  | none => simp
  | some ended => simp [Moment.isBefore]

theorem refreshed_of_accepts (accepts : Crawl.acceptsExpiry file r.expiresAt = true) :
    file.refreshed r = file.signed r.url r.expiresAt :=
  if_pos accepts

theorem refreshed_of_refuses (refuses : Crawl.acceptsExpiry file r.expiresAt = false) :
    file.refreshed r = file :=
  if_neg (Bool.eq_false_iff.1 refuses)

theorem filename_refreshed (file : CrawlFile) (r : Refresh) :
    (file.refreshed r).filename = file.filename := by
  unfold refreshed
  split
  · rfl
  · rfl

/-- The end after a new link is the later one. -/
theorem ends_refreshed (file : CrawlFile) (r : Refresh) :
    (file.refreshed r).ends
      = some (file.ends.elim r.expiresAt.instant (max · r.expiresAt.instant)) := by
  cases accepts : Crawl.acceptsExpiry file r.expiresAt with
  | true =>
    rw [refreshed_of_accepts accepts]
    rw [acceptsExpiry_iff] at accepts
    show some r.expiresAt.instant = _
    cases ended : file.ends with
    | none => rfl
    | some ended' =>
      rw [ended, Option.some_le_some] at accepts
      simp only [Option.elim_some]
      congr 1
      omega
  | false =>
    rw [refreshed_of_refuses accepts]
    rw [← Bool.not_eq_true, acceptsExpiry_iff] at accepts
    cases ended : file.ends with
    | none => simp [ended] at accepts
    | some ended' =>
      rw [ended, Option.some_le_some] at accepts
      simp only [Option.elim_some]
      congr 1
      omega

theorem ends_le_refreshed (file : CrawlFile) (r : Refresh) :
    file.ends ≤ (file.refreshed r).ends := by
  rw [ends_refreshed]
  cases file.ends with
  | none => simp
  | some ended =>
    simp only [Option.elim_some, Option.some_le_some]
    omega

theorem refreshedAll_concat (file : CrawlFile) (refreshes : List Refresh) (r : Refresh) :
    file.refreshedAll (refreshes ++ [r]) = (file.refreshedAll refreshes).refreshed r := by
  simp [refreshedAll]

/-- After new links the end is the latest of all. -/
theorem ends_refreshedAll (file : CrawlFile) (refreshes : List Refresh) :
    (file.refreshedAll refreshes).ends
      = (file.ends.toList ++ refreshes.map (·.expiresAt.instant)).max? := by
  induction refreshes generalizing file with
  | nil =>
    rw [refreshedAll, List.foldl_nil]
    cases file.ends with
    | none => rfl
    | some ended => rfl
  | cons r rest ih =>
    have := ih (file.refreshed r)
    rw [ends_refreshed] at this
    rw [refreshedAll, List.foldl_cons]
    refine this.trans ?_
    cases file.ends with
    | none => simp
    | some ended => simp only [Option.elim_some, Option.toList_some, List.singleton_append,
        List.map_cons, List.max?_cons', List.foldl_cons]

/-- The link that a file has at the end is the last one that took the place of another. -/
theorem refreshedAll_eq (file : CrawlFile) (refreshes : List Refresh) :
    file.refreshedAll refreshes = match (file.takes refreshes).getLast? with
      | some r => file.signed r.url r.expiresAt
      | none => file := by
  induction refreshes generalizing file with
  | nil => rfl
  | cons r rest ih =>
    rw [refreshedAll, List.foldl_cons, ← refreshedAll, ih, takes]
    cases accepts : Crawl.acceptsExpiry file r.expiresAt with
    | true =>
      rw [refreshed_of_accepts accepts, if_pos rfl, List.getLast?_cons]
      cases (takes (file.signed r.url r.expiresAt) rest).getLast? with
      | none => rfl
      | some last => rfl
    | false =>
      rw [refreshed_of_refuses accepts]
      rfl

theorem filename_refreshedAll (refreshes : List Refresh) (file : CrawlFile) :
    (file.refreshedAll refreshes).filename = file.filename := by
  rw [refreshedAll_eq]
  split
  · rfl
  · rfl

theorem size_refreshedAll (refreshes : List Refresh) (file : CrawlFile) :
    (file.refreshedAll refreshes).size = file.size := by
  rw [refreshedAll_eq]
  split
  · rfl
  · rfl

theorem takes_sublist (file : CrawlFile) (refreshes : List Refresh) :
    (file.takes refreshes).Sublist refreshes := by
  induction refreshes generalizing file with
  | nil => exact .slnil
  | cons r rest ih =>
    rw [takes]
    split
    · exact (ih _).cons_cons r
    · exact (ih _).cons r

/-- No new link ends after the link that is there after all of them. -/
theorem le_ends_refreshedAll {refreshes : List Refresh} (mem : r ∈ refreshes) :
    some r.expiresAt.instant ≤ (file.refreshedAll refreshes).ends := by
  have listed : r.expiresAt.instant
      ∈ file.ends.toList ++ refreshes.map (·.expiresAt.instant) :=
    List.mem_append_right _ (List.mem_map_of_mem mem)
  cases latest : (file.refreshedAll refreshes).ends with
  | none =>
    rw [ends_refreshedAll, List.max?_eq_none_iff] at latest
    rw [latest] at listed
    cases listed
  | some ended =>
    rw [ends_refreshedAll, List.max?_eq_some_iff] at latest
    exact Option.some_le_some.2 (latest.2 _ listed)

/-- A link that ends after all others is there at the end, whenever it comes. -/
theorem refreshedAll_of_latest {refreshes others : List Refresh}
    (perm : refreshes.Perm (r :: others))
    (latest : ∀ other ∈ others, other.expiresAt.instant < r.expiresAt.instant)
    (exceeds : file.ends < some r.expiresAt.instant) :
    file.refreshedAll refreshes = file.signed r.url r.expiresAt := by
  have reaches : some r.expiresAt.instant ≤ (file.refreshedAll refreshes).ends :=
    le_ends_refreshedAll (perm.mem_iff.2 List.mem_cons_self)
  rw [refreshedAll_eq] at reaches ⊢
  cases last : (file.takes refreshes).getLast? with
  | none =>
    rw [last] at reaches
    dsimp only at reaches
    cases ended : file.ends with
    | none => simp [ended] at reaches
    | some ended' =>
      rw [ended] at reaches exceeds
      have after := Option.some_le_some.1 reaches
      have before := Option.some_lt_some.1 exceeds
      omega
  | some kept =>
    rw [last] at reaches
    have among : kept ∈ r :: others :=
      perm.mem_iff.1 ((file.takes_sublist refreshes).subset (List.mem_of_getLast? last))
    rcases List.mem_cons.1 among with rfl | other
    · rfl
    · have before := latest kept other
      have after : r.expiresAt.instant ≤ kept.expiresAt.instant := Option.some_le_some.1 reaches
      omega

end CrawlFile

/-! ## Crawls -/

/-- A new link is taken if it ends no earlier than the one that is there. -/
theorem CrawlTable.run_refresh {table : CrawlTable} {crawl : Crawl}
    (isThere : table.get? crawl.id = some crawl) (filename : String) (r : Refresh) :
    (perform (r.call crawl.id filename)).run table
      = (.ok ((crawl.file? filename).any (Crawl.acceptsExpiry · r.expiresAt)),
        table.insert (crawl.mapFile filename (·.refreshed r))) := by
  simp only [perform, Attempt.run_bind, Attempt.run_get, isThere, Option.bind_some,
    Crawl.withSignedUrl?]
  cases accepts : (crawl.file? filename).any (Crawl.acceptsExpiry · r.expiresAt) with
  | true =>
    have same : crawl.mapFile filename (·.refreshed r)
        = crawl.mapFile filename (·.signed r.url r.expiresAt) := by
      apply Crawl.mapFile_congr
      intro file isFile
      rw [isFile] at accepts
      exact CrawlFile.refreshed_of_accepts accepts
    rw [same]
    rfl
  | false =>
    have same : crawl.mapFile filename (·.refreshed r) = crawl := by
      apply Crawl.mapFile_eq_self
      intro file isFile
      rw [isFile] at accepts
      exact CrawlFile.refreshed_of_refuses accepts
    rw [same, Register.insert_eq_self isThere]
    rfl

/-! ## Stores -/

namespace AccountStore

section Refreshes

variable {σ : Type} [AccountStore σ]

/-- What a store answers to a new link: whether it takes it. -/
def answerTo (r : Refresh) (id filename : String) (s : σ) : Except Failure Bool :=
  ((onCrawls (r.call id filename)).run s).1

/-- The store after new links for a file, one after the other. -/
def afterRefreshes (id filename : String) (refreshes : List Refresh) (s : σ) : σ :=
  afterCalls (refreshes.map fun r => .onCrawls (r.call id filename)) s

/-- The new links that a store takes, each after the ones before it. -/
def taken (id filename : String) : List Refresh → σ → List Refresh
  | [], _ => []
  | r :: rest, s =>
    let later := taken id filename rest (afterRefreshes id filename [r] s)
    match answerTo r id filename s with
    | .ok true => r :: later
    | _ => later

/-- The first file of a name in the crawl that is stored for one of its id and its owner. -/
def storedFile? (crawl : Crawl) (filename : String) (s : σ) : Option CrawlFile :=
  (lookUpCrawl s crawl.orgId crawl.id).toOption.bind fun stored =>
    stored.files.find? fun file => file.filename == filename

/-- The point in time at which the link of the stored file ends. -/
def storedEnd (crawl : Crawl) (filename : String) (s : σ) : Option Int :=
  (storedFile? crawl filename s).bind CrawlFile.ends

/-- What new links for the first file of a name come to in a store that has the crawl. -/
structure KeepsLatest [ApartStore σ] (crawl : Crawl) (filename : String)
    (refreshes : List Refresh) (s : σ) : Prop where
  /-- A link is taken if it ends no earlier than the one that is stored then. -/
  answers : ∀ earlier r later, refreshes = earlier ++ r :: later →
    let v := afterRefreshes crawl.id filename earlier s
    ∃ isTaken, answerTo r crawl.id filename v = .ok isTaken ∧
      (isTaken = true ↔ ∃ file, storedFile? crawl filename v = some file ∧
        file.ends ≤ some r.expiresAt.instant)
  /-- No link makes the end earlier. -/
  grows : ∀ earlier r later, refreshes = earlier ++ r :: later →
    storedEnd crawl filename (afterRefreshes crawl.id filename earlier s)
      ≤ storedEnd crawl filename (afterRefreshes crawl.id filename (earlier ++ [r]) s)
  /-- The end is the latest of all. -/
  latest : ∀ file, crawl.files.find? (fun file => file.filename == filename) = some file →
    storedEnd crawl filename (afterRefreshes crawl.id filename refreshes s)
      = (file.ends.toList ++ refreshes.map (·.expiresAt.instant)).max?
  /-- The file has the last link that was taken; the files before and after it and all else that is
  stored have not changed. -/
  replaces : ∀ before file after, crawl.files = before ++ file :: after →
    file.filename = filename → (∀ other ∈ before, other.filename ≠ filename) →
    Replaces { crawl with
        files := before
          ++ (match (taken crawl.id filename refreshes s).getLast? with
            | some r => { file with signedUrl := some r.url, expiresAt := some r.expiresAt }
            | none => file)
          :: after }
      s (afterRefreshes crawl.id filename refreshes s)
  /-- Without a file of the name nothing changes. -/
  keeps : (∀ file ∈ crawl.files, file.filename ≠ filename) →
    Replaces crawl s (afterRefreshes crawl.id filename refreshes s)
  /-- In any other order the end is the same, and so is the file if the latest link is the only one
  that ends then. -/
  anyOrder : ∀ order, refreshes.Perm order →
    storedEnd crawl filename (afterRefreshes crawl.id filename order s)
        = storedEnd crawl filename (afterRefreshes crawl.id filename refreshes s) ∧
      ∀ r others, refreshes.Perm (r :: others) →
        (∀ other ∈ others, other.expiresAt.instant < r.expiresAt.instant) →
        storedEnd crawl filename s < some r.expiresAt.instant →
        storedFile? crawl filename (afterRefreshes crawl.id filename order s)
          = storedFile? crawl filename (afterRefreshes crawl.id filename refreshes s)

end Refreshes

end AccountStore

section KeepsLatest

open TableStore

variable {σ : Type} [AccountStore σ] [TableStore σ] {s : σ} {table : CrawlTable} {crawl : Crawl}
  {filename : String} {refreshes : List Refresh}

/-- One new link is taken or not, and the table has the crawl after it. -/
theorem refreshStep (holds : HoldsTable s table) (isThere : table.get? crawl.id = some crawl)
    {r : Refresh} (storable : CanStore σ (r.call crawl.id filename)) :
    answerTo r crawl.id filename s
        = .ok ((crawl.file? filename).any (Crawl.acceptsExpiry · r.expiresAt)) ∧
      HoldsTable (afterRefreshes crawl.id filename [r] s)
        (table.insert (crawl.mapFile filename (·.refreshed r))) := by
  obtain ⟨t, run, holdsAfter, _⟩ := run_onCrawls holds storable rfl
  rw [CrawlTable.run_refresh isThere] at run holdsAfter
  have after : afterRefreshes crawl.id filename [r] s = t := congrArg Prod.snd run
  rw [after]
  exact ⟨congrArg Prod.fst run, holdsAfter⟩

/-- After new links the table has the crawl after all of them. -/
theorem holdsTable_afterRefreshes (holds : HoldsTable s table)
    (isThere : table.get? crawl.id = some crawl)
    (storable : ∀ r ∈ refreshes, CanStore σ (r.call crawl.id filename)) :
    HoldsTable (afterRefreshes crawl.id filename refreshes s)
      (table.insert (crawl.mapFile filename (·.refreshedAll refreshes))) := by
  induction refreshes generalizing s table crawl with
  | nil =>
    have same : crawl.mapFile filename (·.refreshedAll []) = crawl :=
      crawl.mapFile_eq_self fun _ _ => rfl
    rw [same, Register.insert_eq_self isThere]
    exact holds
  | cons r rest ih =>
    obtain ⟨first, storable⟩ := List.forall_mem_cons.1 storable
    obtain ⟨_, holdsNext⟩ := refreshStep holds isThere first
    have last := ih holdsNext (Register.get?_insert_self _ _) storable
    have both : (crawl.mapFile filename (·.refreshed r)).mapFile filename (·.refreshedAll rest)
        = crawl.mapFile filename (·.refreshedAll (r :: rest)) :=
      crawl.mapFile_mapFile (CrawlFile.filename_refreshed · r)
    have sameId : (crawl.mapFile filename (·.refreshed r)).id
        = (crawl.mapFile filename (·.refreshedAll (r :: rest))).id := rfl
    rw [both, Register.insert_insert table sameId] at last
    exact last

theorem butCrawls_afterRefreshes (id filename : String) (refreshes : List Refresh) (s : σ) :
    ApartStore.butCrawls (afterRefreshes id filename refreshes s) = ApartStore.butCrawls s := by
  induction refreshes generalizing s with
  | nil => rfl
  | cons r rest ih =>
    have first : ApartStore.butCrawls (afterRefreshes id filename [r] s)
        = ApartStore.butCrawls s := ApartStore.keepsRest s (r.call id filename)
    exact (ih _).trans first

/-- The file that is stored after new links. -/
theorem storedFile?_afterRefreshes (holds : HoldsTable s table)
    (isThere : table.get? crawl.id = some crawl)
    (storable : ∀ r ∈ refreshes, CanStore σ (r.call crawl.id filename)) :
    storedFile? crawl filename (afterRefreshes crawl.id filename refreshes s)
      = (crawl.file? filename).map (·.refreshedAll refreshes) := by
  have holdsAfter := holdsTable_afterRefreshes holds isThere storable
  have named : (crawl.mapFile filename (·.refreshedAll refreshes)).id = crawl.id := rfl
  have owner : (crawl.mapFile filename (·.refreshedAll refreshes)).orgId = crawl.orgId := rfl
  rw [storedFile?, lookUpCrawl_eq holdsAfter, CrawlTable.run_findOf, ← named,
    Register.get?_insert_self]
  dsimp only
  rw [if_pos owner]
  exact crawl.file?_mapFile (CrawlFile.filename_refreshedAll refreshes)

/-- The store takes the links that the file takes. -/
theorem taken_eq (holds : HoldsTable s table) (isThere : table.get? crawl.id = some crawl)
    (storable : ∀ r ∈ refreshes, CanStore σ (r.call crawl.id filename)) {file : CrawlFile}
    (isFile : crawl.file? filename = some file) :
    taken crawl.id filename refreshes s = file.takes refreshes := by
  induction refreshes generalizing s table crawl file with
  | nil => rfl
  | cons r rest ih =>
    obtain ⟨first, storable⟩ := List.forall_mem_cons.1 storable
    obtain ⟨answer, holdsNext⟩ := refreshStep holds isThere first
    have isNext : (crawl.mapFile filename (·.refreshed r)).file? filename
        = some (file.refreshed r) := by
      rw [crawl.file?_mapFile (CrawlFile.filename_refreshed · r), isFile]
      rfl
    have later := ih holdsNext (Register.get?_insert_self _ _) storable isNext
    have named : (crawl.mapFile filename (·.refreshed r)).id = crawl.id := rfl
    rw [named] at later
    rw [taken, answer, isFile, later, CrawlFile.takes, Option.any_some]
    cases Crawl.acceptsExpiry file r.expiresAt with
    | true => rfl
    | false => rfl

theorem keepsLatest (holds : HoldsTable s table) (isThere : table.get? crawl.id = some crawl)
    (storable : ∀ r ∈ refreshes, CanStore σ (r.call crawl.id filename)) :
    KeepsLatest crawl filename refreshes s := by
  -- What is stored after some of the links, in any order.
  have stored : ∀ some_ : List Refresh, some_ ⊆ refreshes →
      storedFile? crawl filename (afterRefreshes crawl.id filename some_ s)
        = (crawl.file? filename).map (·.refreshedAll some_) := by
    intro some_ among
    exact storedFile?_afterRefreshes holds isThere fun r mem => storable r (among mem)
  have changed : Replaces (crawl.mapFile filename (·.refreshedAll refreshes)) s
      (afterRefreshes crawl.id filename refreshes s) :=
    replaces holds isThere (crawl.account_mapFile filename (CrawlFile.size_refreshedAll refreshes))
      (holdsTable_afterRefreshes holds isThere storable) (butCrawls_afterRefreshes _ _ _ s)
  constructor
  case answers =>
    rintro earlier r later rfl
    obtain ⟨_, last⟩ := List.forall_mem_append.1 storable
    have holdsThen := holdsTable_afterRefreshes holds isThere
      fun r mem => storable r (List.mem_append_left _ mem)
    obtain ⟨answer, _⟩ := refreshStep holdsThen (Register.get?_insert_self _ _)
      (last r List.mem_cons_self)
    refine ⟨_, answer, ?_⟩
    rw [Option.any_eq_true, stored earlier (by simp),
      crawl.file?_mapFile (CrawlFile.filename_refreshedAll earlier)]
    simp only [CrawlFile.acceptsExpiry_iff]
  case grows =>
    rintro earlier r later rfl
    rw [storedEnd, storedEnd, stored earlier (by simp), stored (earlier ++ [r]) (by simp)]
    cases crawl.file? filename with
    | none => simp
    | some file =>
      simp only [Option.map_some, Option.bind_some, file.refreshedAll_concat]
      exact CrawlFile.ends_le_refreshed _ r
  case latest =>
    intro file isFile
    have isFile : crawl.file? filename = some file := isFile
    rw [storedEnd, stored refreshes (List.Subset.refl _), isFile]
    exact file.ends_refreshedAll refreshes
  case replaces =>
    rintro before file after files rfl first
    have isFile := Crawl.file?_append files first
    rw [Crawl.mapFile_append files first, file.refreshedAll_eq,
      ← taken_eq holds isThere storable isFile] at changed
    exact changed
  case keeps =>
    intro none_
    have missing : crawl.file? filename = none := by
      simpa [Crawl.file?] using none_
    have same : crawl.mapFile filename (·.refreshedAll refreshes) = crawl := by
      apply Crawl.mapFile_eq_self
      intro file isFile
      rw [missing] at isFile
      cases isFile
    rw [same] at changed
    exact changed
  case anyOrder =>
    intro order perm
    rw [storedEnd, storedEnd, stored refreshes (List.Subset.refl _),
      stored order perm.symm.subset]
    constructor
    · cases crawl.file? filename with
      | none => rfl
      | some file =>
        simp only [Option.map_some, Option.bind_some, CrawlFile.ends_refreshedAll]
        exact max?_perm ((perm.symm.map _).append_left _)
    · intro r others isLatest latest exceeds
      have now : storedFile? crawl filename s = crawl.file? filename :=
        (stored [] (List.nil_subset _)).trans Option.map_id'
      rw [storedEnd, now] at exceeds
      cases isFile : crawl.file? filename with
      | none => rfl
      | some file =>
        rw [isFile] at exceeds
        simp only [Option.map_some]
        rw [file.refreshedAll_of_latest isLatest latest exceeds,
          file.refreshedAll_of_latest (perm.symm.trans isLatest) latest exceeds]

end KeepsLatest

/-- New links for a file come to the same in any order: the one that ends last stays, with its end,
and nothing else changes. -/
theorem refreshes_keepLatest (crawl : Crawl) (filename : String) (refreshes : List Refresh) :
    (∀ s : MemoryStore, lookUpCrawl s crawl.orgId crawl.id = .ok crawl →
      KeepsLatest crawl filename refreshes s) ∧
    ∀ (calls : List StoreCall) (s : RelationalStore), s = afterCalls calls {} →
      (∀ r ∈ refreshes, Rfc3339.isPrintable r.expiresAt = true) →
      lookUpCrawl s crawl.orgId crawl.id = .ok crawl → KeepsLatest crawl filename refreshes s := by
  constructor
  · intro s found
    have holds : TableStore.HoldsTable s s.crawls := rfl
    obtain ⟨isThere, _⟩ := TableStore.get?_of_lookUpCrawl holds found
    exact keepsLatest holds isThere fun _ _ => trivial
  · rintro calls s rfl printable found
    obtain ⟨table, holds⟩ := RelationalStore.exists_holdCrawls_afterCalls calls
    obtain ⟨isThere, _⟩ := TableStore.get?_of_lookUpCrawl holds found
    exact keepsLatest holds isThere printable

/-- A link that ends at two o'clock, as a clock two hours ahead shows it. -/
def lastRefresh : Refresh := ⟨"last", { Moment.ofSeconds 1714572000 with offset := 7200 }⟩

/-- A link that ends half an hour earlier. -/
def nextRefresh : Refresh := ⟨"next", .ofSeconds 1714570200⟩

theorem refreshes_keepLatest_twoOrders :
    let crawl := crawlOfLinks endedAndUsable
    let s : MemoryStore := { crawls := Register.insert ∅ crawl }
    let t : RelationalStore := afterCalls [.onCrawls (.insert crawl)] {}
    storedEnd crawl "b" (afterRefreshes "c" "b" [nextRefresh, lastRefresh] s)
        = some 1714572000000000000 ∧
      storedFile? crawl "b" (afterRefreshes "c" "b" [lastRefresh, nextRefresh] t)
        = storedFile? crawl "b" (afterRefreshes "c" "b" [nextRefresh, lastRefresh] t) := by
  intro crawl s t
  have printable : ∀ r ∈ [nextRefresh, lastRefresh], Rfc3339.isPrintable r.expiresAt = true := by
    decide +kernel
  have isThere : lookUpCrawl s crawl.orgId crawl.id = .ok crawl := by decide +kernel
  have inRow : lookUpCrawl t crawl.orgId crawl.id = .ok crawl := by
    have storable : (CrawlCall.insert crawl).isStorable = true := by decide +kernel
    exact TableStore.lookUpCrawl_insert Holds.empty.crawls storable
  have noLink : storedEnd crawl "b" t = none := by
    rw [storedEnd, storedFile?, inRow]
    decide
  have inMemory := (refreshes_keepLatest crawl "b" [nextRefresh, lastRefresh]).1 s isThere
  have inRows := (refreshes_keepLatest crawl "b" [nextRefresh, lastRefresh]).2 _ t rfl printable
    inRow
  constructor
  · exact inMemory.latest { filename := "b" } (by decide)
  · apply (inRows.anyOrder _ (.swap _ _ _)).2 lastRefresh [nextRefresh] (.swap _ _ _) (by decide)
    rw [noLink]
    exact Option.none_lt_some

end ArchiveAccounts
