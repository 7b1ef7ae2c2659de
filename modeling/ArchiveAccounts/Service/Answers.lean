import ArchiveAccounts.Crawl.Basic

/-!
# What services answer and send

The results of the services and the messages that they leave for others.
-/

namespace ArchiveAccounts
set_option autoImplicit false

/-- How the seconds of one recording were credited. -/
structure Allocation where
  period : String := ""
  duration : Counter := 0
  monthly : Counter := 0
  gifted : Counter := 0
  extra : Counter := 0
  uncredited : Counter := 0
  deriving DecidableEq, Repr

/-- The seconds credited under the quota and out of the pools. -/
def Allocation.credited (a : Allocation) : Counter :=
  Counter.plus (Counter.plus a.monthly a.gifted) a.extra

/-- The collections that a crawl joins and leaves, each in ascending order. -/
structure MembershipChange where
  added : List String := []
  removed : List String := []
  deriving DecidableEq, Repr

namespace MembershipChange

/-- The change from one set of collections to another. -/
def between (current requested : SortedSet String) : MembershipChange where
  added := (requested.diff current).toList
  removed := (current.diff requested).toList

/-- Whether nothing changes. -/
def isEmpty (change : MembershipChange) : Bool :=
  change.added.isEmpty && change.removed.isEmpty

end MembershipChange

/-- What a deletion did. -/
structure DeletionOutcome where
  deleted : Counter := 0
  storageQuotaReached : Bool := false
  deriving DecidableEq, Repr

/-- What the orchestrator answers to a stop. -/
structure StopAnswer where
  success : Bool
  error : Option String := none
  deriving DecidableEq, Repr

/-- Asks for the copies of a deleted file to be deleted. -/
structure ReplicaJob where
  orgId : String
  crawlId : String
  crawlType : CrawlType
  file : CrawlFile
  deriving DecidableEq

/-- Tells that the files of a crawl are deleted. -/
structure DeletionNotice where
  orgId : String
  crawlId : String
  crawlType : CrawlType
  deriving DecidableEq, Repr

/-- How long a new link lasts, in seconds: the minutes asked for, from one minute up to a minute
less than a week, which is also what stands for no wish. -/
def linkSeconds (minutes : Option Counter) : Counter :=
  .ofNat (max 1 (min ((minutes.map UInt64.toNat).getD 10079) 10079) * 60)

end ArchiveAccounts
