import ArchiveAccounts.Store.CrawlTable

/-!
# What updates of a crawl keep

No update of a crawl changes its id, its owner, its type or its size, which are all that an account
sees of it, and an update that is given moments that have texts leaves the crawl with such moments.
Main statement: `CrawlTable.perform_cases`, a call on one crawl updates it or changes nothing.
-/

namespace ArchiveAccounts
set_option autoImplicit false

open Calendar

namespace Crawl

/-- A crawl as its organization's account sees it. -/
structure Account where
  id : String
  orgId : String
  type : CrawlType
  totalSize : Counter

/-- What a crawl is to the account of its organization. -/
def account (crawl : Crawl) : Account := ⟨crawl.id, crawl.orgId, crawl.type, crawl.totalSize⟩

section MapFile

variable (crawl : Crawl) (filename : String) {change : CrawlFile → CrawlFile}

theorem foldl_mapFile_go (h : ∀ file, (change file).size = file.size) (files : List CrawlFile)
    (sum : Counter) :
    (mapFile.go filename change files).foldl (fun sum file => Counter.plus sum file.size) sum
      = files.foldl (fun sum file => Counter.plus sum file.size) sum := by
  induction files generalizing sum with
  | nil => rfl
  | cons file rest ih =>
    rw [mapFile.go]
    split
    · rw [List.foldl_cons, List.foldl_cons, h]
    · rw [List.foldl_cons, List.foldl_cons, ih]

/-- A change of one file that keeps its size keeps the account. -/
theorem account_mapFile (h : ∀ file, (change file).size = file.size) :
    (crawl.mapFile filename change).account = crawl.account := by
  have size : (crawl.mapFile filename change).totalSize = crawl.totalSize :=
    foldl_mapFile_go filename h crawl.files 0
  rw [account, account, size]
  rfl

theorem all_mapFile_go {p : CrawlFile → Bool} (h : ∀ file, p file = true → p (change file) = true)
    {files : List CrawlFile} (all : files.all p = true) :
    (mapFile.go filename change files).all p = true := by
  induction files with
  | nil => rfl
  | cons file rest ih =>
    rw [List.all_cons, Bool.and_eq_true] at all
    rw [mapFile.go]
    split
    · rw [List.all_cons, h file all.1, all.2]
      rfl
    · rw [List.all_cons, all.1, ih all.2]
      rfl

theorem isPrintable_mapFile (h : ∀ file, file.isPrintable = true → (change file).isPrintable = true)
    {crawl : Crawl} (printable : crawl.isPrintable = true) :
    (crawl.mapFile filename change).isPrintable = true := by
  simp only [isPrintable, Bool.and_eq_true] at printable ⊢
  obtain ⟨⟨files, started⟩, finished⟩ := printable
  exact ⟨⟨all_mapFile_go filename h files, started⟩, finished⟩

end MapFile

section FirstFile

variable (crawl : Crawl) {filename : String} {change later : CrawlFile → CrawlFile}

theorem file?_mapFile
    (keepsName : ∀ file : CrawlFile, (change file).filename = file.filename) :
    (crawl.mapFile filename change).file? filename = (crawl.file? filename).map change := by
  have go : ∀ files : List CrawlFile,
      (mapFile.go filename change files).find? (fun file => file.filename == filename)
        = (files.find? fun file => file.filename == filename).map change := by
    intro files
    induction files with
    | nil => rfl
    | cons file rest ih =>
      rw [mapFile.go]
      split
      · next named => simp [keepsName, named]
      · next other => simp [other, ih]
  exact go crawl.files

theorem mapFile_mapFile
    (keepsName : ∀ file : CrawlFile, (change file).filename = file.filename) :
    (crawl.mapFile filename change).mapFile filename later
      = crawl.mapFile filename fun file => later (change file) := by
  have go : ∀ files : List CrawlFile,
      mapFile.go filename later (mapFile.go filename change files)
        = mapFile.go filename (fun file => later (change file)) files := by
    intro files
    induction files with
    | nil => rfl
    | cons file rest ih =>
      by_cases named : file.filename = filename
      · simp [mapFile.go, named, keepsName]
      · simp [mapFile.go, named, ih]
  simp only [mapFile, go]

theorem mapFile_congr {crawl : Crawl}
    (h : ∀ file, crawl.file? filename = some file → change file = later file) :
    crawl.mapFile filename change = crawl.mapFile filename later := by
  have go : ∀ files : List CrawlFile,
      (∀ file, files.find? (fun file => file.filename == filename) = some file →
        change file = later file) →
      mapFile.go filename change files = mapFile.go filename later files := by
    intro files same
    induction files with
    | nil => rfl
    | cons file rest ih =>
      by_cases named : file.filename = filename
      · simp [mapFile.go, named, same file (by simp [named])]
      · simp [mapFile.go, named, ih fun found h => same found (by simp [named, h])]
  simp only [mapFile, go crawl.files h]

/-- A change that leaves the first file of a name as it is changes nothing. -/
theorem mapFile_eq_self (h : ∀ file, crawl.file? filename = some file → change file = file) :
    crawl.mapFile filename change = crawl := by
  have go : ∀ files, mapFile.go filename (fun file => file) files = files := by
    intro files
    induction files with
    | nil => rfl
    | cons file rest ih =>
      rw [mapFile.go, ih]
      exact ite_self _
  calc
    crawl.mapFile filename change = crawl.mapFile filename fun file => file := mapFile_congr h
    _ = crawl := by rw [mapFile, go]

end FirstFile

section SignedUrl

variable {crawl signed : Crawl} {filename url : String} {expiresAt : Moment}

theorem eq_of_withSignedUrl? (h : crawl.withSignedUrl? filename url expiresAt = some signed) :
    signed = crawl.mapFile filename fun file =>
      { file with signedUrl := some url, expiresAt := some expiresAt } := by
  unfold withSignedUrl? at h
  split at h
  · injection h with h
    exact h.symm
  · exact nomatch h

theorem account_withSignedUrl? (h : crawl.withSignedUrl? filename url expiresAt = some signed) :
    signed.account = crawl.account := by
  rw [eq_of_withSignedUrl? h]
  exact account_mapFile crawl filename fun _ => rfl

theorem isPrintable_withSignedUrl? (h : crawl.withSignedUrl? filename url expiresAt = some signed)
    (expiry : Rfc3339.isPrintable expiresAt = true) (printable : crawl.isPrintable = true) :
    signed.isPrintable = true := by
  rw [eq_of_withSignedUrl? h]
  apply isPrintable_mapFile filename _ printable
  intro file _
  exact expiry

end SignedUrl

variable (crawl : Crawl)

theorem account_withReplica (filename : String) (replica : Replica) :
    (crawl.withReplica filename replica).account = crawl.account :=
  account_mapFile crawl filename fun _ => rfl

theorem isPrintable_withReplica (filename : String) (replica : Replica) {crawl : Crawl}
    (printable : crawl.isPrintable = true) :
    (crawl.withReplica filename replica).isPrintable = true := by
  apply isPrintable_mapFile filename _ printable
  intro file filePrintable
  exact filePrintable

/-- A replica that the file has, or for which there is no file, changes nothing. -/
theorem withReplica_eq_self {filename : String} {replica : Replica}
    (h : ((crawl.file? filename).any fun file => !file.replicas.contains replica) = false) :
    crawl.withReplica filename replica = crawl := by
  apply mapFile_eq_self
  intro file found
  rw [found, Option.any_some, Bool.not_eq_false', SortedSet.contains_iff] at h
  rw [SortedSet.insert_eq_self h]

theorem account_withMetadata (update : CrawlUpdate) :
    (crawl.withMetadata update).account = crawl.account :=
  rfl

theorem account_canceledAt (finished : Moment) :
    (crawl.canceledAt finished).account = crawl.account :=
  rfl

theorem isPrintable_canceledAt {finished : Moment} (ended : Rfc3339.isPrintable finished = true)
    {crawl : Crawl} (printable : crawl.isPrintable = true) :
    (crawl.canceledAt finished).isPrintable = true := by
  simp only [isPrintable, Bool.and_eq_true] at printable ⊢
  exact ⟨printable.1, ended⟩

theorem eq_of_joined {crawl joined : Crawl} {collection : String}
    (h : crawl.joined collection = .ok joined) :
    joined = { crawl with collections := crawl.collections.insert collection } := by
  unfold Crawl.joined at h
  split at h
  · cases h
  · injection h with h
    exact h.symm

theorem account_joined {crawl joined : Crawl} {collection : String}
    (h : crawl.joined collection = .ok joined) : joined.account = crawl.account := by
  rw [eq_of_joined h]
  rfl

theorem isPrintable_joined {crawl joined : Crawl} {collection : String}
    (h : crawl.joined collection = .ok joined) (printable : crawl.isPrintable = true) :
    joined.isPrintable = true := by
  rw [eq_of_joined h]
  exact printable

theorem account_left (collection : String) : (crawl.left collection).account = crawl.account :=
  rfl

/-- Leaving a collection that the crawl is not in changes nothing. -/
theorem left_eq_self {collection : String} (h : crawl.collections.contains collection = false) :
    crawl.left collection = crawl := by
  rw [← Bool.not_eq_true, SortedSet.contains_iff] at h
  rw [left, SortedSet.erase_eq_self h]

end Crawl

/-! ## Calls on one crawl -/

namespace CrawlCall

/-- Whether a call is about a crawl that is there, and leaves it there. -/
def isOnOne : CrawlCall → Bool
  | insert _ | delete .. => false
  | _ => true

/-- What a call makes of the crawl that it is about. -/
inductive Updates : CrawlCall → Crawl → Crawl → Prop
  | setSignedUrl {crawl signed : Crawl} {filename url : String} {expiresAt : Moment}
      (accepted : crawl.withSignedUrl? filename url expiresAt = some signed) :
      Updates (.setSignedUrl crawl.id filename url expiresAt) crawl signed
  | addReplica (crawl : Crawl) (filename : String) (replica : Replica) :
      Updates (.addReplica crawl.id filename replica) crawl (crawl.withReplica filename replica)
  | updateMetadata (crawl : Crawl) (orgId : String) (type : Option CrawlType)
      (update : CrawlUpdate) :
      Updates (.updateMetadata orgId crawl.id type update) crawl (crawl.withMetadata update)
  | markCanceled (crawl : Crawl) (finished : Moment) :
      Updates (.markCanceled crawl.id finished) crawl (crawl.canceledAt finished)
  | addCollection {crawl joined : Crawl} {collection : String} (orgId : String)
      (joins : crawl.joined collection = .ok joined) :
      Updates (.addCollection orgId crawl.id collection) crawl joined
  | removeCollection (crawl : Crawl) (orgId collection : String) :
      Updates (.removeCollection orgId crawl.id collection) crawl (crawl.left collection)

theorem Updates.account {call : CrawlCall} {crawl changed : Crawl}
    (updates : call.Updates crawl changed) : changed.account = crawl.account := by
  cases updates with
  | setSignedUrl accepted => exact Crawl.account_withSignedUrl? accepted
  | addReplica _ filename replica => exact crawl.account_withReplica filename replica
  | updateMetadata _ orgId type update => exact crawl.account_withMetadata update
  | markCanceled _ finished => exact crawl.account_canceledAt finished
  | addCollection orgId joins => exact Crawl.account_joined joins
  | removeCollection _ orgId collection => exact crawl.account_left collection

end CrawlCall

/-- A call on one crawl updates it, or changes nothing. -/
theorem CrawlTable.perform_cases {call : CrawlCall} (onOne : call.isOnOne = true)
    (table : CrawlTable) :
    ((perform call).run table).2 = table ∨ ∃ crawl changed, table.get? crawl.id = some crawl ∧
      call.Updates crawl changed ∧ ((perform call).run table).2 = table.insert changed := by
  -- A crawl that is found is under its own id.
  have own : ∀ {id : String} {crawl : Crawl}, table.get? id = some crawl → crawl.id = id :=
    Register.id_of_get?
  cases call with
  | insert crawl | delete orgId ids type => exact nomatch onOne
  | get orgId id =>
    rw [perform, run_findOf]
    exact .inl rfl
  | setSignedUrl id filename url expiresAt =>
    simp only [perform, Attempt.run_bind, Attempt.run_get]
    cases found : table.get? id with
    | none => exact .inl rfl
    | some crawl =>
      obtain rfl := own found
      rw [Option.bind_some]
      cases accepted : crawl.withSignedUrl? filename url expiresAt with
      | none => exact .inl rfl
      | some signed => exact .inr ⟨crawl, signed, found, .setSignedUrl accepted, rfl⟩
  | addReplica id filename replica =>
    simp only [perform, Attempt.run_bind, run_find]
    cases found : table.get? id with
    | none => exact .inl rfl
    | some crawl =>
      obtain rfl := own found
      exact .inr ⟨crawl, _, found, .addReplica crawl filename replica, rfl⟩
  | updateMetadata orgId id type update =>
    simp only [perform, Attempt.run_bind, run_findOf]
    cases found : table.get? id with
    | none => exact .inl rfl
    | some crawl =>
      obtain rfl := own found
      by_cases owner : crawl.orgId = orgId
      · simp only [owner, if_true]
        split
        · exact .inr ⟨crawl, _, found, .updateMetadata crawl orgId type update, rfl⟩
        · exact .inl rfl
      · simp only [owner, if_false, true_or]
  | markCanceled id finished =>
    simp only [perform, Attempt.run_bind, run_find]
    cases found : table.get? id with
    | none => exact .inl rfl
    | some crawl =>
      obtain rfl := own found
      exact .inr ⟨crawl, _, found, .markCanceled crawl finished, rfl⟩
  | addCollection orgId id collection =>
    simp only [perform, Attempt.run_bind, run_findOf]
    cases found : table.get? id with
    | none => exact .inl rfl
    | some crawl =>
      obtain rfl := own found
      by_cases owner : crawl.orgId = orgId
      · simp only [owner, if_true, Attempt.run_liftM]
        cases joins : crawl.joined collection with
        | error e => exact .inl rfl
        | ok joined => exact .inr ⟨crawl, joined, found, .addCollection orgId joins, rfl⟩
      · simp only [owner, if_false, true_or]
  | removeCollection orgId id collection =>
    simp only [perform, Attempt.run_bind, run_findOf]
    cases found : table.get? id with
    | none => exact .inl rfl
    | some crawl =>
      obtain rfl := own found
      by_cases owner : crawl.orgId = orgId
      · simp only [owner, if_true]
        exact .inr ⟨crawl, _, found, .removeCollection crawl orgId collection, rfl⟩
      · simp only [owner, if_false, true_or]

end ArchiveAccounts
