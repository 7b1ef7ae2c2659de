import ArchiveAccounts.Org.Limits
import ArchiveAccounts.Org.Usage
import ArchiveAccounts.Store.CrawlTable

/-!
# A store in memory

Organizations and crawls as they are. Every number and every moment can be stored.
-/

namespace ArchiveAccounts
set_option autoImplicit false

/-- Organizations by id. -/
abbrev OrgTable := Register Organization Organization.id

/-- Organizations and crawls. -/
structure MemoryStore where
  orgs : OrgTable := ∅
  crawls : CrawlTable := ∅
  deriving DecidableEq

namespace OrgCall

/-- The id of the organization that a call is about. -/
def orgId : OrgCall → String
  | insert org => org.id
  | get id | countSeconds id .. | creditMonthly id .. | drawPool id .. | shiftBytes id ..
  | updateQuotas id .. => id

/-- What a call answers about an organization, and the organization after it. -/
def apply : (call : OrgCall) → Organization → call.Reply × Organization
  | insert new, _ => ((), new)
  | get _, org => (org, org)
  | countSeconds _ counter period seconds, org => ((), org.countSeconds counter period seconds)
  | creditMonthly _ period seconds quota, org => org.creditMonthly period seconds quota
  | drawPool _ pool period seconds, org => org.drawPool pool period seconds
  | shiftBytes _ delta kind, org => ((), org.shiftBytes delta kind)
  | updateQuotas _ patch modified retention, org =>
    let org := org.applyQuotaPatch patch modified retention
    (org, org)

theorem id_apply {call : OrgCall} {org : Organization} (h : org.id = call.orgId) :
    (call.apply org).2.id = call.orgId := by
  cases call with
  | insert new => rfl
  | get id | countSeconds id counter period seconds | shiftBytes id delta kind
  | updateQuotas id patch modified retention => exact h
  | creditMonthly id period seconds quota =>
    simp only [apply, Organization.creditMonthly]
    split <;> exact h
  | drawPool id pool period seconds =>
    simp only [apply, Organization.drawPool]
    split <;> exact h

/-- Whether a call brings the organization that it is about. -/
def isInsert : OrgCall → Bool
  | insert _ => true
  | _ => false

end OrgCall

namespace MemoryStore

/-- The organization of an id. -/
def find (id : String) : Attempt MemoryStore Organization := do
  match (← get).orgs.get? id with
  | some org => return org
  | none => throw .orgNotFound

/-- Puts an organization under its id. -/
def put (org : Organization) : Attempt MemoryStore Unit :=
  modify fun s => { s with orgs := s.orgs.insert org }

/-- Performs a call on the organizations. -/
def onOrgs : (call : OrgCall) → Attempt MemoryStore call.Reply
  | .insert org => put org
  | .get id => find id
  | .countSeconds id counter period seconds => do
    put ((← find id).countSeconds counter period seconds)
  | .creditMonthly id period seconds quota => do
    let (credit, org) := (← find id).creditMonthly period seconds quota
    put org
    return credit
  | .drawPool id pool period seconds => do
    let (taken, org) := (← find id).drawPool pool period seconds
    put org
    return taken
  | .shiftBytes id delta kind => do
    put ((← find id).shiftBytes delta kind)
  | .updateQuotas id patch modified retention => do
    let org := (← find id).applyQuotaPatch patch modified retention
    put org
    return org

/-- Performs a call on the crawls. -/
def onCrawls (call : CrawlCall) : Attempt MemoryStore call.Reply :=
  Attempt.zoom (·.crawls) (fun s crawls => { s with crawls }) (CrawlTable.perform call)

instance : AccountStore MemoryStore := ⟨{}, onOrgs, onCrawls⟩

section Run

variable (s : MemoryStore)

theorem run_find (id : String) :
    (find id).run s = (match s.orgs.get? id with
      | some org => .ok org
      | none => .error .orgNotFound, s) := by
  simp only [find, Attempt.run_bind, Attempt.run_get]
  cases s.orgs.get? id <;> rfl

theorem run_put (org : Organization) :
    (put org).run s = (.ok (), { s with orgs := s.orgs.insert org }) :=
  rfl

/-- A call on an organization that is there answers and changes it. -/
theorem run_onOrgs {s : MemoryStore} {call : OrgCall} {org : Organization}
    (isThere : s.orgs.get? call.orgId = some org) :
    (onOrgs call).run s
      = (.ok (call.apply org).1, { s with orgs := s.orgs.insert (call.apply org).2 }) := by
  cases call with
  | insert new => rfl
  | get id =>
    simp only [OrgCall.orgId] at isThere
    simp only [onOrgs, run_find, isThere, OrgCall.apply, Register.insert_eq_self isThere]
  | countSeconds id counter period seconds | shiftBytes id delta kind
  | creditMonthly id period seconds quota | drawPool id pool period seconds
  | updateQuotas id patch modified retention =>
    simp only [OrgCall.orgId] at isThere
    simp only [onOrgs, Attempt.run_bind, run_find, isThere, run_put, Attempt.run_pure,
      OrgCall.apply]

/-- A call on an organization that is not there fails and changes nothing. -/
theorem run_onOrgs_of_none {s : MemoryStore} {call : OrgCall}
    (absent : s.orgs.get? call.orgId = none) (old : call.isInsert = false) :
    (onOrgs call).run s = (.error .orgNotFound, s) := by
  cases call with
  | insert new => exact nomatch old
  | get id | countSeconds id counter period seconds | shiftBytes id delta kind
  | creditMonthly id period seconds quota | drawPool id pool period seconds
  | updateQuotas id patch modified retention =>
    simp only [OrgCall.orgId] at absent
    simp only [onOrgs, Attempt.run_bind, run_find, absent]

theorem run_onCrawls (call : CrawlCall) :
    (onCrawls call).run s = (((CrawlTable.perform call).run s.crawls).1,
      { s with crawls := ((CrawlTable.perform call).run s.crawls).2 }) :=
  rfl

end Run

end MemoryStore

end ArchiveAccounts
