import ArchiveAccounts.Service.Accounting
import ArchiveAccounts.Service.Collections
import ArchiveAccounts.Service.Deletion
import ArchiveAccounts.Service.Links

/-!
# Runs of requests

Requests to the services one after the other, each at a time of its own, whether they fail or not.
`EachRequest` says something of each request and the world that it finds.
-/

namespace ArchiveAccounts
set_option autoImplicit false

open Calendar

/-- A request on documents that are there. -/
inductive Request where
  | deleteCrawls (org : Organization) (ids : List String) (type : CrawlType) (user : Option String)
  | deleteAll (org : Organization) (ids : List String) (user : Option String)
  | recordUsage (orgId : String) (duration : Counter) (isExecTime : Bool)
  | updateQuotas (orgId : String) (patch : QuotaPatch) (retention : Option Nat)
  | resolveCrawl (seconds : Counter) (org : Organization) (crawlId : String)
  | setCollections (crawlId : String) (org : Organization) (requested : List String)
  | updateCrawl (crawlId : String) (org : Organization) (update : CrawlUpdate)
      (type : Option CrawlType)
  | markCanceled (id : String) (finished : Moment)
  | addReplica (id filename : String) (replica : Replica)

section Run

variable {σ : Type} [AccountStore σ]

/-- The world after a request. -/
def Request.after (services : Services) (request : Request) (w : World σ) : World σ :=
  match request with
  | deleteCrawls org ids type user => ((Action.deleteCrawls services org ids type user).run w).2
  | deleteAll org ids user => ((Action.deleteAll services org ids user).run w).2
  | recordUsage orgId duration isExecTime =>
    ((Action.recordUsage orgId duration isExecTime).run w).2
  | updateQuotas orgId patch retention => ((Action.updateQuotas orgId patch retention).run w).2
  | resolveCrawl seconds org crawlId =>
    ((Action.resolveCrawl services.toObjectService seconds org crawlId).run w).2
  | setCollections crawlId org requested => ((Action.setCollections crawlId org requested).run w).2
  | updateCrawl crawlId org update type => ((Action.updateCrawl crawlId org update type).run w).2
  | markCanceled id finished => ((Action.onCrawls (.markCanceled id finished)).run w).2
  | addReplica id filename replica =>
    ((Action.onCrawls (.addReplica id filename replica)).run w).2

/-- The world after requests, each at its time. -/
def afterRequests (services : Services) (requests : List (Moment × Request)) (w : World σ) :
    World σ :=
  requests.foldl (fun w (now, request) => request.after services { w with now }) w

/-- Whether each request satisfies `p` in the world that it finds. -/
def EachRequest (services : Services) (p : Request → World σ → Prop) :
    List (Moment × Request) → World σ → Prop
  | [], _ => True
  | (now, request) :: requests, w =>
    p request { w with now } ∧
      EachRequest services p requests (request.after services { w with now })

instance decidableEachRequest (services : Services) (p : Request → World σ → Prop)
    [∀ request w, Decidable (p request w)] :
    (requests : List (Moment × Request)) → (w : World σ) →
      Decidable (EachRequest services p requests w)
  | [], _ => inferInstanceAs (Decidable True)
  | (now, request) :: requests, w =>
    have := decidableEachRequest services p requests (request.after services { w with now })
    inferInstanceAs (Decidable (_ ∧ _))

end Run

end ArchiveAccounts
