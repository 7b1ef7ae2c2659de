/-!
# Failures

Why an operation on accounts and crawls was refused, with a reason that machines can read.
-/

namespace ArchiveAccounts
set_option autoImplicit false

/-- A refusal, with its reason where there is more than one. -/
inductive Failure where
  | notFound (reason : String)
  | forbidden (reason : String)
  | badRequest (reason : String)
  | conflict (reason : String)
  /-- A collaborator failed. -/
  | collaborator (reason : String)
  | nothingToDelete
  /-- The store could not read or write a value. -/
  | store
  /-- The clock shows a moment that has no date in UTC. -/
  | outsideCalendar
  deriving DecidableEq, Repr

namespace Failure

/-- There is no organization of that id. -/
def orgNotFound : Failure := .notFound "org_not_found"

/-- There is no crawl of that id, or it belongs to another organization. -/
def crawlNotFound : Failure := .notFound "crawl_not_found"

/-- The reason, as a stable name. -/
def reason : Failure → String
  | notFound r | forbidden r | badRequest r | conflict r | collaborator r => r
  | nothingToDelete => "nothing_to_delete"
  | store => "store_error"
  | outsideCalendar => "outside_calendar"

/-- The class of the failure as an HTTP status. -/
def status : Failure → Nat
  | notFound _ => 404
  | forbidden _ => 403
  | badRequest _ | nothingToDelete => 400
  | conflict _ => 409
  | collaborator _ => 502
  | store | outsideCalendar => 500

/-- The failure in words. -/
def message : Failure → String
  | notFound r => "not found: " ++ r
  | forbidden r => "forbidden: " ++ r
  | badRequest r => "bad request: " ++ r
  | conflict r => "conflict: " ++ r
  | collaborator r => "upstream failure: " ++ r
  | nothingToDelete => "nothing to delete"
  | store => "store error"
  | outsideCalendar => "no such date in UTC"

end Failure

end ArchiveAccounts
