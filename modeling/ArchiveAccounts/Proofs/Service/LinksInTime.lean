import ArchiveAccounts.Proofs.Crawl.Updates
import ArchiveAccounts.Proofs.Service.Calls
import ArchiveAccounts.Proofs.Service.Preserves
import ArchiveAccounts.Proofs.Service.Requests
import ArchiveAccounts.Proofs.Service.Success
import ArchiveAccounts.Proofs.Storage.LinkLife

/-!
# Links that are used in time

A file keeps the link that was minted for it, and gives it out until the end that was stored with
it. Main statements: `resolveFiles_inTime`, this end is never later than what the link itself says
exactly if no more than a week was asked for, and `linksInTime_afterRequests`, then no link is ever
given out after the storage has stopped accepting it.
-/

namespace ArchiveAccounts
set_option autoImplicit false

open Calendar

/-! ## Links that are kept -/

namespace CrawlFile

/-- Whether a file keeps a link that ends at `expiresAt`. -/
def Keeps (file : CrawlFile) (url : String) (expiresAt : Moment) : Prop :=
  file.signedUrl = some url ∧ file.expiresAt = some expiresAt

/-- The links that a file gives out are those that it keeps and that have not ended. -/
theorem usableUrl_eq_some_iff {file : CrawlFile} {now : Moment} {url : String} :
    file.usableUrl now = some url
      ↔ ∃ expiresAt, file.Keeps url expiresAt ∧ now.instant < expiresAt.instant := by
  have before_iff : ∀ ends : Moment, now.isBefore ends = true ↔ now.instant < ends.instant :=
    fun ends => decide_eq_true_iff
  rw [usableUrl]
  split
  · next kept ends isUrl isEnd =>
    rw [ite_eq_iff]
    simp only [before_iff, reduceCtorEq, and_false, or_false, Keeps, isUrl, isEnd,
      Option.some.injEq]
    constructor
    · rintro ⟨before, rfl⟩
      exact ⟨ends, ⟨rfl, rfl⟩, before⟩
    · rintro ⟨_, ⟨rfl, rfl⟩, before⟩
      exact ⟨before, rfl⟩
  · next missing =>
    refine ⟨nofun, ?_⟩
    rintro ⟨ends, ⟨isUrl, isEnd⟩, _⟩
    exact (missing url ends isUrl isEnd).elim

end CrawlFile

/-- Whether a crawl has a file of a name that keeps a link. -/
def Crawl.Keeps (crawl : Crawl) (filename url : String) (expiresAt : Moment) : Prop :=
  ∃ file ∈ crawl.files, file.filename = filename ∧ file.Keeps url expiresAt

/-- Whether a crawl of a store has one. -/
def MemoryStore.Keeps (s : MemoryStore) (id filename url : String) (expiresAt : Moment) : Prop :=
  ∃ crawl, s.crawls.get? id = some crawl ∧ crawl.Keeps filename url expiresAt

section Frame

variable {filename url : String} {expiresAt : Moment}

theorem Crawl.mem_mapFile_go {name : String} {change : CrawlFile → CrawlFile}
    {files : List CrawlFile} {file : CrawlFile} (mem : file ∈ mapFile.go name change files) :
    file ∈ files ∨ ∃ old ∈ files, old.filename = name ∧ file = change old := by
  induction files with
  | nil => exact nomatch mem
  | cons first files ih =>
    rw [mapFile.go] at mem
    split at mem
    · next named =>
      rcases List.mem_cons.1 mem with rfl | mem
      · exact .inr ⟨first, List.mem_cons_self, named, rfl⟩
      · exact .inl (List.mem_cons_of_mem _ mem)
    · rcases List.mem_cons.1 mem with rfl | mem
      · exact .inl List.mem_cons_self
      · rcases ih mem with mem | ⟨old, among, named, changed⟩
        · exact .inl (List.mem_cons_of_mem _ mem)
        · exact .inr ⟨old, List.mem_cons_of_mem _ among, named, changed⟩

/-- A link that a crawl keeps after an update was kept before, or is the one that was stored. -/
theorem CrawlCall.Updates.keeps {call : CrawlCall} {crawl changed : Crawl}
    (updates : call.Updates crawl changed) (kept : changed.Keeps filename url expiresAt) :
    crawl.Keeps filename url expiresAt
      ∨ call = .setSignedUrl crawl.id filename url expiresAt := by
  cases updates with
  | setSignedUrl accepted =>
    rw [Crawl.eq_of_withSignedUrl? accepted] at kept
    obtain ⟨file, mem, named, isUrl, isEnd⟩ := kept
    rcases Crawl.mem_mapFile_go mem with mem | ⟨old, _, rfl, rfl⟩
    · exact .inl ⟨file, mem, named, isUrl, isEnd⟩
    · obtain rfl := Option.some.inj isUrl
      obtain rfl := Option.some.inj isEnd
      obtain rfl := named
      exact .inr rfl
  | addReplica _ name replica =>
    obtain ⟨file, mem, named, keeps⟩ := kept
    rcases Crawl.mem_mapFile_go mem with mem | ⟨old, among, _, rfl⟩
    · exact .inl ⟨file, mem, named, keeps⟩
    · exact .inl ⟨old, among, named, keeps⟩
  | updateMetadata | markCanceled | removeCollection => exact .inl kept
  | addCollection orgId joins =>
    rw [Crawl.eq_of_joined joins] at kept
    exact .inl kept

/-- Whether a call brings the crawl that it is about. -/
def CrawlCall.isInsert : CrawlCall → Bool
  | insert _ => true
  | _ => false

/-- A link that a store keeps after a call was kept before, or is the one that the call stores. -/
theorem MemoryStore.keeps_onCrawls {call : CrawlCall} (old : call.isInsert = false)
    {s : MemoryStore} {id : String}
    (kept : ((onCrawls call).run s).2.Keeps id filename url expiresAt) :
    s.Keeps id filename url expiresAt ∨ call = .setSignedUrl id filename url expiresAt := by
  obtain ⟨crawl, found, kept⟩ := kept
  rw [run_onCrawls] at found
  dsimp only at found
  have oneCrawl : call.isOnOne = true →
      s.Keeps id filename url expiresAt ∨ call = .setSignedUrl id filename url expiresAt := by
    intro onOne
    rcases CrawlTable.perform_cases onOne s.crawls with
      same | ⟨first, changed, isThere, updates, after⟩
    · rw [same] at found
      exact .inl ⟨crawl, found, kept⟩
    · have keptId : changed.id = first.id := congrArg Crawl.Account.id updates.account
      rw [after, Register.get?_insert, keptId] at found
      split at found
      · next here =>
        obtain rfl := Option.some.inj found
        rcases updates.keeps kept with before | rfl
        · exact .inl ⟨first, here ▸ isThere, before⟩
        · exact .inr (here ▸ rfl)
      · exact .inl ⟨crawl, found, kept⟩
  cases call with
  | insert => exact nomatch old
  | delete orgId ids type =>
    obtain ⟨removed, rest, run, deletes⟩ := CrawlTable.run_delete s.crawls orgId type ids
    rw [CrawlTable.perform, run] at found
    dsimp only at found
    rw [deletes.get?_rest] at found
    split at found
    · exact nomatch found
    · exact .inl ⟨crawl, found, kept⟩
  | get | setSignedUrl | addReplica | updateMetadata | markCanceled | addCollection
  | removeCollection => exact oneCrawl rfl

/-- A link that a crawl takes is stored. -/
theorem MemoryStore.get?_setSignedUrl {s : MemoryStore} {id : String} {crawl signed : Crawl}
    (found : s.crawls.get? id = some crawl)
    (accepted : crawl.withSignedUrl? filename url expiresAt = some signed) :
    ((onCrawls (.setSignedUrl id filename url expiresAt)).run s).2.crawls.get? id
      = some signed := by
  have own : crawl.id = id := Register.id_of_get? found
  have sameId : signed.id = id :=
    (congrArg Crawl.Account.id (Crawl.account_withSignedUrl? accepted)).trans own
  rw [run_onCrawls, CrawlTable.perform, Attempt.run_bind, Attempt.run_get]
  dsimp only
  rw [found, Option.bind_some, accepted, ← sameId]
  exact Register.get?_insert_self s.crawls signed

end Frame

/-! ## Links that are minted -/

/-- Whether links to files are signed by a storage that reads the same clock. -/
def ObjectStorage.Serves (storage : ObjectStorage) (services : ObjectService) : Prop :=
  ∀ before now org file seconds,
    services.mintLink before now org file seconds = storage.link now org.id file.filename seconds

/-- A link to one of the files that is minted now: when it is accepted by what it says itself, and
the end that is kept with it. -/
structure ObjectStorage.Mints (storage : ObjectStorage) (now : Moment) (seconds : Counter)
    (orgId : String) (files : List CrawlFile) (filename url : String) (expiresAt : Moment) :
    Prop where
  needed : ∃ file ∈ files, file.filename = filename ∧ file.usableUrl now = none
  minted : storage.MintedUntil orgId filename url (ObjectStorage.linkAcceptedUntil now seconds)
  ends : expiresAt = linkEnd now seconds

/-- What is answered for a file: the link that it gives out, or one that is minted now. -/
def ObjectStorage.Answers (storage : ObjectStorage) (now : Moment) (seconds : Counter)
    (orgId crawlId : String) (file : CrawlFile) (d : FileDescriptor) : Prop :=
  match file.usableUrl now with
  | some url => d = file.describe crawlId (some url)
  | none => ∃ expiresAt, storage.Mints now seconds orgId [file] file.filename d.path expiresAt ∧
      d.expiresAt = (Rfc3339.print? expiresAt).getD ""

/-- Whether the clock shows a time and the store satisfies `Q`. -/
def World.At {σ : Type} (now : Moment) (Q : σ → Prop) (w : World σ) : Prop :=
  w.now = now ∧ Q w.store

namespace Action

section Resolve

variable {storage : ObjectStorage} {services : ObjectService} (serves : storage.Serves services)
  {σ : Type} [AccountStore σ] {now : Moment} {seconds : Counter} {org : Organization}
  {crawlId : String} {Q : σ → Prop} {file : CrawlFile}

include serves

/-- Minting stores one link, which was signed. -/
theorem preserves_mintLink_of_link
    (stores : ∀ url, storage.link now org.id file.filename seconds = .ok url → Attempt.Preserves Q
      (AccountStore.onCrawls (.setSignedUrl crawlId file.filename url (linkEnd now seconds)))) :
    Attempt.Preserves (World.At now Q) (mintLink services seconds org crawlId file) := by
  refine .bindOk .get fun w _ clock found => ?_
  obtain rfl := Except.ok.inj found
  obtain ⟨rfl, _⟩ := clock
  refine .bindOk (fun v h => h) fun url v _ answered => ?_
  have signs : storage.link _ org.id file.filename seconds = .ok url :=
    (serves _ _ _ _ _).symm.trans answered
  refine .bind (fun v h => ⟨h.1, stores url signs v.store h.2⟩) fun _ => ?_
  exact .bind (fun v h => h) fun _ => .pure _

/-- Resolving stores a link only for a file that gives out none. -/
theorem preserves_resolveFile_of_link
    (stores : file.usableUrl now = none → ∀ url,
      storage.link now org.id file.filename seconds = .ok url → Attempt.Preserves Q
        (AccountStore.onCrawls (.setSignedUrl crawlId file.filename url (linkEnd now seconds)))) :
    Attempt.Preserves (World.At now Q) (resolveFile services seconds org crawlId file) := by
  refine .bindOk .get fun w _ clock found => ?_
  obtain rfl := Except.ok.inj found
  obtain ⟨rfl, _⟩ := clock
  split
  · exact .bind (fun v h => h) fun _ => .pure _
  · next missing => exact preserves_mintLink_of_link serves (stores missing)

theorem answers_of_resolveFile {w t : World σ} {d : FileDescriptor}
    (done : (resolveFile services seconds org crawlId file).run w = (.ok d, t)) :
    storage.Answers w.now seconds org.id crawlId file d := by
  rw [resolveFile, Attempt.run_bind, Attempt.run_get] at done
  dsimp only at done
  rw [ObjectStorage.Answers]
  cases usable : file.usableUrl w.now with
  | some url =>
    rw [usable] at done
    obtain ⟨_, _, _, done⟩ := Attempt.run_bind_eq_ok_iff.1 done
    exact (Attempt.run_pure_eq_ok_iff.1 done).1
  | none =>
    rw [usable, mintLink, Attempt.run_bind, Attempt.run_get] at done
    obtain ⟨url, _, answered, done⟩ := Attempt.run_bind_eq_ok_iff.1 done
    have signs : storage.link w.now org.id file.filename seconds = .ok url :=
      (serves _ _ _ _ _).symm.trans (congrArg Prod.fst answered)
    obtain ⟨_, _, _, done⟩ := Attempt.run_bind_eq_ok_iff.1 done
    obtain ⟨_, _, _, done⟩ := Attempt.run_bind_eq_ok_iff.1 done
    obtain ⟨rfl, _⟩ := Attempt.run_pure_eq_ok_iff.1 done
    exact ⟨_, ⟨⟨file, List.mem_singleton_self _, rfl, usable⟩,
      ObjectStorage.mintedUntil_of_link signs, rfl⟩, rfl⟩

/-- What is answered for files. -/
theorem answers_of_resolveFiles {w t : World σ} {files : List CrawlFile}
    {descriptors : List FileDescriptor}
    (done : (resolveFiles services seconds org crawlId files).run w = (.ok descriptors, t)) :
    List.Forall₂ (storage.Answers w.now seconds org.id crawlId) files descriptors := by
  refine Attempt.of_mapM (P := fun v => v.now = w.now) ?_ rfl done
  rintro file _ s after d sameTime resolved
  have keepsTime : Attempt.Preserves (World.At w.now fun _ : σ => True)
      (resolveFile services seconds org crawlId file) :=
    preserves_resolveFile_of_link serves fun _ _ _ _ _ => trivial
  have later := keepsTime s ⟨sameTime, trivial⟩
  rw [resolved] at later
  exact ⟨sameTime ▸ answers_of_resolveFile serves resolved, later.1⟩

end Resolve

end Action

/-! ## Links in time -/

/-- Whether a link that a file of the store gives out is still accepted by the storage. -/
def MemoryStore.LinksInTime (storage : ObjectStorage) (s : MemoryStore) : Prop :=
  ∀ id crawl, s.crawls.get? id = some crawl → ∀ file ∈ crawl.files, ∀ now url,
    file.usableUrl now = some url → ∃ orgId ends,
      storage.MintedUntil orgId file.filename url ends ∧ now.instant < ends * 1000000000

namespace MemoryStore

variable {storage : ObjectStorage} {s t : MemoryStore}

/-- Links that were kept before stay in time, and so do new ones that end in time. -/
theorem LinksInTime.of_keeps (inTime : s.LinksInTime storage)
    (later : ∀ id filename url expiresAt, t.Keeps id filename url expiresAt →
      s.Keeps id filename url expiresAt ∨ ∃ orgId ends,
        storage.MintedUntil orgId filename url ends ∧ expiresAt.instant ≤ ends * 1000000000) :
    t.LinksInTime storage := by
  intro id crawl found file mem now url usable
  obtain ⟨expiresAt, keeps, before⟩ := CrawlFile.usableUrl_eq_some_iff.1 usable
  rcases later id file.filename url expiresAt ⟨crawl, found, file, mem, rfl, keeps⟩ with
    ⟨crawl, found, old, mem, named, kept⟩ | ⟨orgId, ends, minted, within⟩
  · rw [← named]
    exact inTime id crawl found old mem now url
      (CrawlFile.usableUrl_eq_some_iff.2 ⟨expiresAt, kept, before⟩)
  · exact ⟨orgId, ends, minted, Int.lt_of_lt_of_le before within⟩

end MemoryStore

section InTime

variable {storage : ObjectStorage} {services : ObjectService} {w t : World MemoryStore}
  {seconds : Counter} {org : Organization} {crawlId : String} {files : List CrawlFile}

/-- After files were resolved, each link was kept before or was minted for one of them, whether all
of them were resolved or not. -/
theorem keeps_of_resolveFiles (serves : storage.Serves services) {id filename url : String}
    {expiresAt : Moment}
    (kept : ((Action.resolveFiles services seconds org crawlId files).run w).2.store.Keeps
      id filename url expiresAt) :
    w.store.Keeps id filename url expiresAt ∨
      id = crawlId ∧ storage.Mints w.now seconds org.id files filename url expiresAt := by
  let Q : MemoryStore → Prop := fun s => ∀ id filename url expiresAt,
    s.Keeps id filename url expiresAt → w.store.Keeps id filename url expiresAt ∨
      id = crawlId ∧ storage.Mints w.now seconds org.id files filename url expiresAt
  have each : ∀ file ∈ files, Attempt.Preserves (World.At w.now Q)
      (Action.resolveFile services seconds org crawlId file) := by
    intro file mem
    refine Action.preserves_resolveFile_of_link serves fun missing url signs s before => ?_
    intro id filename link expiresAt kept
    rcases MemoryStore.keeps_onCrawls rfl kept with earlier | same
    · exact before id filename link expiresAt earlier
    · injection same with sameId sameName sameUrl sameEnd
      subst sameId sameName sameUrl sameEnd
      exact .inr ⟨rfl, ⟨file, mem, rfl, missing⟩, ObjectStorage.mintedUntil_of_link signs, rfl⟩
  have all : Attempt.Preserves (World.At w.now Q)
      (Action.resolveFiles services seconds org crawlId files) := .mapM each
  exact (all w ⟨rfl, fun _ _ _ _ => .inl⟩).2 id filename url expiresAt kept

/-- A file that gives out no link is answered with one that can be signed, which is stored. -/
theorem Action.run_resolveFile_of_link (serves : storage.Serves services) (w : World MemoryStore)
    (org : Organization) (crawlId : String) (file : CrawlFile) {url : String}
    (missing : file.usableUrl w.now = none)
    (signs : storage.link w.now org.id file.filename seconds = .ok url) :
    ∃ t, t.now = w.now ∧ t.store = ((MemoryStore.onCrawls (.setSignedUrl crawlId file.filename url
        (linkEnd w.now seconds))).run w.store).2 ∧
      (resolveFile services seconds org crawlId file).run w = (.ok (CrawlFile.describe
        { file with signedUrl := some url, expiresAt := some (linkEnd w.now seconds) } crawlId
        (some url)), t) := by
  have answered := (serves w.trace w.now org file seconds).trans signs
  let stored := (MemoryStore.onCrawls (.setSignedUrl crawlId file.filename url
    (linkEnd w.now seconds))).run w.store
  obtain ⟨isStored, stores⟩ : ∃ isStored, stored.1 = .ok isStored := by
    show ∃ isStored, ((CrawlTable.perform (.setSignedUrl crawlId file.filename url
      (linkEnd w.now seconds))).run w.store.crawls).1 = .ok isStored
    rw [CrawlTable.perform, Attempt.run_bind, Attempt.run_get]
    dsimp only
    split
    · exact ⟨true, rfl⟩
    · exact ⟨false, rfl⟩
  let asked : World MemoryStore :=
    { w with trace := w.trace ++ [.mintLink org.id file.filename seconds] }
  refine ⟨{ asked with store := stored.2, metrics := w.metrics.addMinted }, rfl, rfl, ?_⟩
  refine Attempt.run_bind_eq_ok_iff.2 ⟨w, w, rfl, ?_⟩
  rw [missing]
  refine Attempt.run_bind_eq_ok_iff.2 ⟨w, w, rfl, ?_⟩
  refine Attempt.run_bind_eq_ok_iff.2 ⟨url, asked, Prod.ext answered rfl, ?_⟩
  refine Attempt.run_bind_eq_ok_iff.2 ⟨isStored, { asked with store := stored.2 },
    Prod.ext stores rfl, ?_⟩
  exact Attempt.run_bind_eq_ok_iff.2 ⟨(), _, rfl, rfl⟩

/-- Files are all answered if links can be signed for those that give out none. -/
theorem Action.exists_resolveFiles (serves : storage.Serves services)
    (signs : ∀ file ∈ files, file.usableUrl w.now = none →
      ∃ url, storage.link w.now org.id file.filename seconds = .ok url) :
    ∃ descriptors t, (resolveFiles services seconds org crawlId files).run w
      = (.ok descriptors, t) := by
  refine Attempt.exists_mapM (P := fun v => v.now = w.now) (fun file mem v sameTime => ?_) rfl
  rw [← sameTime] at signs ⊢
  cases missing : file.usableUrl v.now with
  | none =>
    obtain ⟨url, signs⟩ := signs file mem missing
    obtain ⟨t, later, _, run⟩ := run_resolveFile_of_link serves v org crawlId file missing signs
    exact ⟨_, t, run, later⟩
  | some url =>
    refine ⟨file.describe crawlId (some url), { v with metrics := v.metrics.addReused },
      Attempt.run_bind_eq_ok_iff.2 ⟨v, v, rfl, ?_⟩, rfl⟩
    rw [missing]
    exact Attempt.run_bind_eq_ok_iff.2 ⟨(), _, rfl, rfl⟩

/-- Resolving keeps links in time if the new ones are. -/
theorem linksInTime_resolveFiles (serves : storage.Serves services) (whole : w.now.nanos = 0)
    (shows : firstSecond ≤ w.now.shown) (used : ObjectStorage.UsedInTime w.now seconds)
    (inTime : w.store.LinksInTime storage) :
    ((Action.resolveFiles services seconds org crawlId files).run w).2.store.LinksInTime
      storage := by
  refine inTime.of_keeps fun id filename url expiresAt kept => ?_
  refine (keeps_of_resolveFiles serves kept).imp_right fun ⟨_, mints⟩ => ?_
  refine ⟨org.id, _, mints.minted, ?_⟩
  rw [mints.ends]
  exact (ObjectStorage.instant_linkEnd_le_iff whole shows seconds).2 used

/-- Files are resolved on a clock that shows a whole second of the calendar. Each of them is
answered with the link that it gives out, or with one that is minted now; what the store keeps is
what it kept before and such links. The end that is answered and kept is no later than what a minted
link says itself exactly if the link is used in time, as it is for all seconds that settings ask
for. Then no link is given out after the storage has stopped accepting it. -/
theorem resolveFiles_inTime (serves : storage.Serves services) (whole : w.now.nanos = 0)
    (shows : firstSecond ≤ w.now.shown) {result : Except Failure (List FileDescriptor)}
    (run : (Action.resolveFiles services seconds org crawlId files).run w = (result, t)) :
    ((∀ file ∈ files, file.usableUrl w.now = none →
        ∃ url, storage.link w.now org.id file.filename seconds = .ok url) →
      ∃ descriptors, result = .ok descriptors) ∧
    (∀ descriptors, result = .ok descriptors →
      List.Forall₂ (storage.Answers w.now seconds org.id crawlId) files descriptors) ∧
    (∀ id filename url expiresAt, t.store.Keeps id filename url expiresAt →
      w.store.Keeps id filename url expiresAt ∨
        id = crawlId ∧ storage.Mints w.now seconds org.id files filename url expiresAt) ∧
    ((linkEnd w.now seconds).instant
        ≤ ObjectStorage.linkAcceptedUntil w.now seconds * 1000000000
      ↔ ObjectStorage.UsedInTime w.now seconds) ∧
    (∀ (settings : Settings) (env : Environment), settings.linkSeconds env = .ok seconds →
      ObjectStorage.UsedInTime w.now seconds) ∧
    (ObjectStorage.UsedInTime w.now seconds → w.store.LinksInTime storage →
      t.store.LinksInTime storage) := by
  have after : t = ((Action.resolveFiles services seconds org crawlId files).run w).2 :=
    (congrArg Prod.snd run).symm
  refine ⟨fun signs => ?_, ?_, fun id filename url expiresAt kept => ?_,
    ObjectStorage.instant_linkEnd_le_iff whole shows seconds,
    fun settings env asked => .inl (settings.toNat_linkSeconds_le asked), fun used inTime => ?_⟩
  · obtain ⟨descriptors, _, answers⟩ := Action.exists_resolveFiles serves signs
    exact ⟨descriptors, congrArg Prod.fst (run.symm.trans answers)⟩
  · rintro descriptors rfl
    exact Action.answers_of_resolveFiles serves run
  · rw [after] at kept
    exact keeps_of_resolveFiles serves kept
  · rw [after]
    exact linksInTime_resolveFiles serves whole shows used inTime

end InTime

/-- Collaborators with a storage on one host. -/
def minioService : ObjectService where
  deleteObject _ _ _ _ := .ok true
  mintLink _ now org file seconds := ObjectStorage.minio.link now org.id file.filename seconds

theorem serves_minioService : ObjectStorage.minio.Serves minioService := fun _ _ _ _ _ => rfl

/-- A crawl with one file. -/
def crawlWithFile : Crawl where
  id := "c"
  orgId := "org-1"
  type := .crawl
  state := .complete
  files := [{ filename := "a.wacz" }]

/-- A world with that crawl. -/
def worldWithFile : World MemoryStore where
  store := { crawls := Register.insert ∅ crawlWithFile }
  now := .ofSeconds 1714564800

theorem linksInTime_worldWithFile : worldWithFile.store.LinksInTime ObjectStorage.minio := by
  intro id crawl found file mem now url usable
  obtain ⟨expiresAt, ⟨isUrl, _⟩, _⟩ := CrawlFile.usableUrl_eq_some_iff.1 usable
  rw [worldWithFile, Register.get?_insert] at found
  split at found
  · obtain rfl := Option.some.inj found
    obtain rfl := List.mem_singleton.1 mem
    exact nomatch isUrl
  · exact nomatch found

/-- The file is resolved for any time asked for. -/
theorem run_worldWithFile (seconds : Counter) :
    ∃ url t, ObjectStorage.minio.link worldWithFile.now "org-1" "a.wacz" seconds = .ok url ∧
      (Action.resolveFiles minioService seconds { id := "org-1" } "c" crawlWithFile.files).run
        worldWithFile = (.ok [CrawlFile.describe ⟨"a.wacz", "", 0, 0, ∅, some url,
          some (linkEnd worldWithFile.now seconds)⟩ "c" (some url)], t) ∧
      t.store = ((MemoryStore.onCrawls (.setSignedUrl "c" "a.wacz" url
        (linkEnd worldWithFile.now seconds))).run worldWithFile.store).2 := by
  let read : Url :=
    { scheme := "http", authority := some { host := .name "minio", port := some 9000 }
      path := "/crawls/data/org-1/a.wacz" }
  have target : Signing.parseTarget (ObjectStorage.minio.url "org-1" "a.wacz")
      = .ok (read, "minio:9000") := by
    decide +kernel
  have dated : worldWithFile.now.isInUtcCalendar = true := by decide
  obtain ⟨url, signs⟩ := ObjectStorage.exists_link dated target seconds
  obtain ⟨t, _, stores, run⟩ := Action.run_resolveFile_of_link serves_minioService worldWithFile
    { id := "org-1" } "c" { filename := "a.wacz" } rfl signs
  refine ⟨url, t, signs, ?_, stores⟩
  rw [Action.resolveFiles, crawlWithFile, List.mapM_cons]
  exact Attempt.run_bind_eq_ok_iff.2 ⟨_, t, run, rfl⟩

/-- A link that lasts as long as settings ask for where they say nothing. -/
theorem resolveFiles_inTime_bySettings :
    ∃ d t, (Action.resolveFiles minioService 604740 { id := "org-1" } "c" crawlWithFile.files).run
        worldWithFile = (.ok [d], t) ∧
      ObjectStorage.minio.MintedUntil "org-1" "a.wacz" d.path 1715169540 ∧
      d.expiresAt = "2024-05-08T11:59:00Z" ∧ t.store.LinksInTime ObjectStorage.minio := by
  obtain ⟨url, t, _, run, _⟩ := run_worldWithFile 604740
  have asked : ({} : Settings).linkSeconds {} = .ok 604740 := by decide
  obtain ⟨_, answers, _, _, used, inTime⟩ :=
    resolveFiles_inTime serves_minioService rfl (by decide) run
  obtain ⟨expiresAt, mints, ends⟩ := (List.forall₂_cons.1 (answers _ rfl)).1
  have accepted : ObjectStorage.linkAcceptedUntil worldWithFile.now 604740 = 1715169540 := by decide
  refine ⟨_, t, run, accepted ▸ mints.minted, ?_, inTime (used _ _ asked) linksInTime_worldWithFile⟩
  rw [ends, mints.ends]
  decide +kernel

/-- A link for a second more than a week is given out when the storage no longer accepts it. -/
theorem resolveFiles_beyondWeek :
    ∃ d t, (Action.resolveFiles minioService 604801 { id := "org-1" } "c" crawlWithFile.files).run
        worldWithFile = (.ok [d], t) ∧
      Signing.acceptedUntil? (Signing.pairsOfLink d.path) = some 1715169600 ∧
      d.expiresAt = "2024-05-08T12:00:01Z" ∧
      ∃ crawl, t.store.crawls.get? "c" = some crawl ∧ ∃ file ∈ crawl.files,
        file.usableUrl (.ofSeconds 1715169600) = some d.path := by
  obtain ⟨url, t, signs, run, stores⟩ := run_worldWithFile 604801
  have free : '?' ∉ (ObjectStorage.minio.url "org-1" "a.wacz").toList := by decide +kernel
  have accepted : ObjectStorage.linkAcceptedUntil worldWithFile.now 604801 = 1715169600 := by decide
  refine ⟨_, t, run, ?_, ?_, ?_⟩
  · rw [← accepted]
    exact (ObjectStorage.mintedUntil_of_link signs).reads free
  · show (Rfc3339.print? (linkEnd worldWithFile.now 604801)).getD "" = "2024-05-08T12:00:01Z"
    decide +kernel
  · let signed : CrawlFile :=
      ⟨"a.wacz", "", 0, 0, ∅, some url, some (linkEnd worldWithFile.now 604801)⟩
    have accepted : crawlWithFile.withSignedUrl? "a.wacz" url (linkEnd worldWithFile.now 604801)
        = some { crawlWithFile with files := [signed] } := rfl
    have usable : signed.usableUrl (.ofSeconds 1715169600) = some url :=
      CrawlFile.usableUrl_eq_some_iff.2 ⟨_, ⟨rfl, rfl⟩, by decide⟩
    rw [stores, MemoryStore.get?_setSignedUrl (Register.get?_insert_self ∅ crawlWithFile) accepted]
    exact ⟨_, rfl, signed, List.mem_singleton_self _, usable⟩

/-! ## Requests -/

section Requests

variable {storage : ObjectStorage}

theorem linksInTime_onOrgs (call : OrgCall) :
    Action.Preserves (MemoryStore.LinksInTime storage) (Action.onOrgs call) := by
  refine .onStore fun s inTime id crawl found => ?_
  have same : ((AccountStore.onOrgs call).run s).2.crawls = s.crawls :=
    MemoryStore.crawls_onOrgs s call
  rw [same] at found
  exact inTime id crawl found

theorem linksInTime_onCrawls {call : CrawlCall} (old : call.isInsert = false)
    (noLink : ∀ id filename url expiresAt, call ≠ .setSignedUrl id filename url expiresAt) :
    Action.Preserves (MemoryStore.LinksInTime storage) (Action.onCrawls call) := by
  refine .onStore fun s inTime => inTime.of_keeps fun id filename url expiresAt kept => ?_
  have before := MemoryStore.keeps_onCrawls old kept
  exact .inl (before.resolve_right (noLink id filename url expiresAt))

/-- Whether a request that resolves links uses them in time, on a clock that shows a whole second of
the calendar. -/
def Request.UsesInTime (now : Moment) : Request → Prop
  | resolveCrawl seconds _ _ =>
    now.nanos = 0 ∧ firstSecond ≤ now.shown ∧ ObjectStorage.UsedInTime now seconds
  | _ => True

instance (now : Moment) : (request : Request) → Decidable (request.UsesInTime now)
  | .resolveCrawl .. => inferInstanceAs (Decidable (_ ∧ _ ∧ _))
  | .deleteCrawls .. | .deleteAll .. | .recordUsage .. | .updateQuotas .. | .setCollections ..
  | .updateCrawl .. | .markCanceled .. | .addReplica .. => inferInstanceAs (Decidable True)

theorem Request.linksInTime_after {services : Services}
    (serves : storage.Serves services.toObjectService) {request : Request} {w : World MemoryStore}
    (used : request.UsesInTime w.now) (inTime : w.store.LinksInTime storage) :
    (request.after services w).store.LinksInTime storage := by
  have orgs : ∀ call : OrgCall,
      Action.Preserves (MemoryStore.LinksInTime storage) (Action.onOrgs call) := linksInTime_onOrgs
  have updates : ∀ call : CrawlCall, call.isUpdate = true →
      Action.Preserves (MemoryStore.LinksInTime storage) (Action.onCrawls call) := by
    intro call update
    cases call with
    | insert | setSignedUrl | delete => exact nomatch update
    | get | addReplica | updateMetadata | markCanceled | addCollection | removeCollection =>
      exact linksInTime_onCrawls rfl nofun
  have removes : ∀ orgId ids type, Action.Preserves (MemoryStore.LinksInTime storage)
      (Action.onCrawls (.delete orgId ids type)) :=
    fun _ _ _ => linksInTime_onCrawls rfl nofun
  have deletes : ∀ org ids type user, Action.Preserves (MemoryStore.LinksInTime storage)
      (Action.deleteCrawls services org ids type user) :=
    .deleteCrawls (fun call _ => orgs call) updates removes services
  cases request with
  | deleteCrawls org ids type user => exact deletes org ids type user w inTime
  | deleteAll org ids user =>
    exact Action.Preserves.deleteAll (fun _ => updates _ rfl)
      (fun ids type => deletes org ids type user) ids w inTime
  | recordUsage orgId duration isExecTime =>
    exact Action.Preserves.recordUsage (fun call _ => orgs call) orgId duration isExecTime w inTime
  | updateQuotas orgId patch retention =>
    exact Action.Preserves.updateQuotas (fun _ => orgs _) w inTime
  | resolveCrawl seconds org crawlId =>
    obtain ⟨whole, shows, used⟩ := used
    have looked := updates (.get org.id crawlId) rfl w inTime
    rw [Request.after, Action.resolveCrawl, Attempt.run_bind, Action.getCrawl, Action.run_onCrawls]
    rw [Action.run_onCrawls] at looked
    split
    · next crawl v found =>
      obtain rfl := congrArg Prod.snd found
      exact linksInTime_resolveFiles serves whole shows used looked
    · next e v found =>
      obtain rfl := congrArg Prod.snd found
      exact looked
  | setCollections crawlId org requested =>
    exact Action.Preserves.setCollections updates crawlId org requested w inTime
  | updateCrawl crawlId org update type =>
    exact Action.Preserves.updateCrawl updates crawlId org update type w inTime
  | markCanceled id finished => exact updates (.markCanceled id finished) rfl w inTime
  | addReplica id filename replica => exact updates (.addReplica id filename replica) rfl w inTime

/-- Through requests of all kinds, whether they fail or not, no link is ever given out after the
storage has stopped accepting it, if links are never asked to last for more than a week. -/
theorem linksInTime_afterRequests {services : Services}
    (serves : storage.Serves services.toObjectService) {requests : List (Moment × Request)}
    {w : World MemoryStore} (used : ∀ r ∈ requests, r.2.UsesInTime r.1)
    (inTime : w.store.LinksInTime storage) :
    (afterRequests services requests w).store.LinksInTime storage := by
  induction requests generalizing w with
  | nil => exact inTime
  | cons first requests ih =>
    obtain ⟨now, request⟩ := first
    obtain ⟨usedNow, usedLater⟩ := List.forall_mem_cons.1 used
    exact ih usedLater (request.linksInTime_after serves (w := { w with now }) usedNow inTime)

end Requests

end ArchiveAccounts
