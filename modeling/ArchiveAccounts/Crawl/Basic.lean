import ArchiveAccounts.Calendar.Rfc3339
import ArchiveAccounts.Crawl.Kind
import ArchiveAccounts.Data.Counter
import ArchiveAccounts.Data.SortedSet

/-!
# Crawls and their files

A crawl belongs to an organization and has files, each of which may hold a signed link with the
moment at which it ends.
-/

namespace ArchiveAccounts
set_option autoImplicit false

open Calendar

/-- How far a crawl has come. -/
inductive CrawlState where
  | starting
  | running
  | stopping
  | complete
  | partialComplete
  | canceled
  | failed
  deriving DecidableEq, Repr

/-- The states by name. -/
def CrawlState.names : List (String × CrawlState) :=
  [("starting", .starting), ("running", .running), ("stopping", .stopping),
    ("complete", .complete), ("partial_complete", .partialComplete), ("canceled", .canceled),
    ("failed", .failed)]

/-- The name of a state. -/
def CrawlState.name : CrawlState → String
  | starting => "starting"
  | running => "running"
  | stopping => "stopping"
  | complete => "complete"
  | partialComplete => "partial_complete"
  | canceled => "canceled"
  | failed => "failed"

/-- A storage that holds a copy of a file. -/
structure Replica where
  name : String
  custom : Bool := false
  deriving DecidableEq, Repr

/-- Replicas are ordered by name, and of one name the custom one comes last. -/
instance : Ord Replica := ⟨compareLex (compareOn Replica.name) (compareOn Replica.custom)⟩

instance : Std.TransOrd Replica :=
  inferInstanceAs (Std.TransCmp (compareLex (compareOn Replica.name) (compareOn Replica.custom)))

instance : Std.LawfulEqOrd Replica where
  eq_of_compare {a b} h := by
    have h : (compare a.name b.name).then (compare a.custom b.custom) = .eq := h
    rw [Ordering.then_eq_eq, Std.compare_eq_iff_eq, Std.compare_eq_iff_eq] at h
    obtain ⟨⟩ := a
    obtain ⟨⟩ := b
    simp_all

/-- A stored file of a crawl. -/
structure CrawlFile where
  filename : String
  hash : String := ""
  crc32 : UInt32 := 0
  size : Counter := 0
  replicas : SortedSet Replica := ∅
  signedUrl : Option String := none
  expiresAt : Option Moment := none
  deriving DecidableEq

namespace CrawlFile

instance : Inhabited CrawlFile := ⟨{ filename := "" }⟩

/-- The link of a file, if it ends strictly after `now`. -/
def usableUrl (file : CrawlFile) (now : Moment) : Option String :=
  match file.signedUrl, file.expiresAt with
  | some url, some expiresAt => if now.isBefore expiresAt then some url else none
  | _, _ => none

/-- Whether the link's end can be written. -/
def isPrintable (file : CrawlFile) : Bool := file.expiresAt.all Rfc3339.isPrintable

end CrawlFile

/-- A crawl or an upload. -/
structure Crawl where
  id : String
  orgId : String
  configId : Option String := none
  userId : Option String := none
  type : CrawlType
  state : CrawlState
  name : Option String := none
  description : Option String := none
  tags : List String := []
  files : List CrawlFile := []
  collections : SortedSet String := ∅
  started : Option Moment := none
  finished : Option Moment := none
  deriving DecidableEq

/-- New values for some of what describes a crawl, and for its collections. -/
structure CrawlUpdate where
  name : Option String := none
  description : Option String := none
  tags : Option (List String) := none
  collections : Option (List String) := none
  deriving DecidableEq, Repr

namespace CrawlUpdate

/-- Whether an update gives no value. -/
def isEmpty (update : CrawlUpdate) : Bool := update == {}

/-- Whether an update gives a name, a description or tags. -/
def hasMetadata (update : CrawlUpdate) : Bool :=
  update.name.isSome || update.description.isSome || update.tags.isSome

end CrawlUpdate

/-- What clients see of a file. -/
structure FileDescriptor where
  name : String
  path : String
  hash : String
  crc32 : UInt32
  size : Counter
  crawlId : String
  replicaCount : Counter
  expiresAt : String
  deriving DecidableEq, Repr

/-- Describes a file with a link, if there is one. The link's end is empty without a link and where
it cannot be written. -/
def CrawlFile.describe (file : CrawlFile) (crawlId : String) (url : Option String) :
    FileDescriptor where
  name := file.filename
  path := url.getD ""
  hash := file.hash
  crc32 := file.crc32
  size := file.size
  crawlId
  replicaCount := Counter.ofNatCapped file.replicas.size
  expiresAt := match url with
    | some _ => (file.expiresAt.bind Rfc3339.print?).getD ""
    | none => ""

namespace Crawl

instance : Inhabited Crawl := ⟨{ id := "", orgId := "", type := .crawl, state := .starting }⟩

/-- Whether a crawl has ended. -/
def isFinished (crawl : Crawl) : Bool := crawl.finished.isSome

/-- The bytes of all files. -/
def totalSize (crawl : Crawl) : Counter :=
  crawl.files.foldl (fun sum file => Counter.plus sum file.size) 0

/-- The first file of a name. -/
def file? (crawl : Crawl) (filename : String) : Option CrawlFile :=
  crawl.files.find? fun file => file.filename == filename

/-- Whether every moment of a crawl can be written. -/
def isPrintable (crawl : Crawl) : Bool :=
  crawl.files.all CrawlFile.isPrintable && crawl.started.all Rfc3339.isPrintable
    && crawl.finished.all Rfc3339.isPrintable

/-- Changes the first file of a name, if there is one. -/
def mapFile (crawl : Crawl) (filename : String) (change : CrawlFile → CrawlFile) : Crawl :=
  { crawl with files := go crawl.files }
where
  /-- Changes the first of these files that has the name. -/
  go : List CrawlFile → List CrawlFile
    | [] => []
    | file :: rest => if file.filename = filename then change file :: rest else file :: go rest

/-- Whether a new end of a link may take the place of the one on a file: not if that is later. -/
def acceptsExpiry (file : CrawlFile) (expiresAt : Moment) : Bool :=
  !file.expiresAt.any expiresAt.isBefore

/-- Stores a link on the first file of a name, unless one that ends later is there. -/
def withSignedUrl? (crawl : Crawl) (filename url : String) (expiresAt : Moment) : Option Crawl :=
  if (crawl.file? filename).any fun file => acceptsExpiry file expiresAt then
    some (crawl.mapFile filename fun file =>
      { file with signedUrl := some url, expiresAt := some expiresAt })
  else none

/-- Adds a replica to the first file of a name. -/
def withReplica (crawl : Crawl) (filename : String) (replica : Replica) : Crawl :=
  crawl.mapFile filename fun file => { file with replicas := file.replicas.insert replica }

/-- Takes over the name, description and tags that an update gives. -/
def withMetadata (crawl : Crawl) (update : CrawlUpdate) : Crawl :=
  { crawl with
    name := update.name.or crawl.name
    description := update.description.or crawl.description
    tags := update.tags.getD crawl.tags }

/-- Ends a crawl as canceled. -/
def canceledAt (crawl : Crawl) (finished : Moment) : Crawl :=
  { crawl with state := .canceled, finished := some finished }

end Crawl

end ArchiveAccounts
