import ArchiveAccounts.Failure
import ArchiveAccounts.Text.Blank

/-!
# Kinds of crawls and of stored bytes
-/

namespace ArchiveAccounts
set_option autoImplicit false

/-- Whether pages were crawled or an archive was uploaded. -/
inductive CrawlType where
  | crawl
  | upload
  deriving DecidableEq, Repr

/-- What stored bytes belong to. -/
inductive StorageKind where
  | crawl
  | upload
  | profile
  deriving DecidableEq, Repr

namespace CrawlType

/-- The types by name. -/
def names : List (String × CrawlType) := [("crawl", .crawl), ("upload", .upload)]

/-- The name of a type. -/
def name : CrawlType → String
  | crawl => "crawl"
  | upload => "upload"

/-- The type that a filter names, blanks around it aside. -/
def parse (raw : String) : Except Failure CrawlType :=
  match List.lookup (Text.trim raw) names with
  | some type => .ok type
  | none => .error (.badRequest "invalid_crawl_type")

/-- The kind of the bytes that files of a type take. -/
def storageKind : CrawlType → StorageKind
  | crawl => .crawl
  | upload => .upload

end CrawlType

/-- The kinds by name. -/
def StorageKind.names : List (String × StorageKind) :=
  [("crawl", .crawl), ("upload", .upload), ("profile", .profile)]

/-- The name of a kind. -/
def StorageKind.name : StorageKind → String
  | crawl => "crawl"
  | upload => "upload"
  | profile => "profile"

end ArchiveAccounts
