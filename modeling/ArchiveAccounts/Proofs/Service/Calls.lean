import ArchiveAccounts.Service.World
import ArchiveAccounts.Store.Memory

/-!
# Calls of services on a store in memory

What a call of a service comes to when its store is in memory: an answer, and a world that differs
in one organization or in its crawls.
-/

namespace ArchiveAccounts
set_option autoImplicit false

/-- Calls on the organizations keep the crawls. -/
theorem MemoryStore.crawls_onOrgs (s : MemoryStore) (call : OrgCall) :
    ((onOrgs call).run s).2.crawls = s.crawls := by
  by_cases new : call.isInsert
  · cases call with
    | insert org => rfl
    | _ => exact nomatch new
  · cases isThere : s.orgs.get? call.orgId with
    | none => rw [run_onOrgs_of_none isThere (Bool.eq_false_iff.2 new)]
    | some org => rw [run_onOrgs isThere]

namespace World

/-- The world with an organization put into its store. -/
def withOrg (w : World MemoryStore) (org : Organization) : World MemoryStore :=
  { w with store := { w.store with orgs := w.store.orgs.insert org } }

/-- The world with other crawls in its store. -/
def withCrawls (w : World MemoryStore) (crawls : CrawlTable) : World MemoryStore :=
  { w with store := { w.store with crawls } }

@[simp] theorem orgs_withCrawls (w : World MemoryStore) (crawls : CrawlTable) :
    (w.withCrawls crawls).store.orgs = w.store.orgs :=
  rfl

@[simp] theorem orgs_withOrg (w : World MemoryStore) (org : Organization) :
    (w.withOrg org).store.orgs = w.store.orgs.insert org :=
  rfl

theorem withOrg_eq_self {w : World MemoryStore} {id : String} {org : Organization}
    (stored : w.store.orgs.get? id = some org) : w.withOrg org = w := by
  rw [withOrg, Register.insert_eq_self stored]

theorem withOrg_withOrg (w : World MemoryStore) {a b : Organization} (h : a.id = b.id) :
    (w.withOrg a).withOrg b = w.withOrg b := by
  simp only [withOrg, Register.insert_insert w.store.orgs h]

end World

namespace Action

variable {w : World MemoryStore}

/-- A call on an organization that is there. -/
theorem run_onOrgs_of_get? {call : OrgCall} {org : Organization}
    (isThere : w.store.orgs.get? call.orgId = some org) :
    (onOrgs call).run w = (.ok (call.apply org).1, w.withOrg (call.apply org).2) := by
  have run : (AccountStore.onOrgs call).run w.store = _ := MemoryStore.run_onOrgs isThere
  rw [Action.run_onOrgs, run]
  rfl

/-- A call on the organization that was put there. -/
theorem run_onOrgs_withOrg (w : World MemoryStore) (call : OrgCall) {org : Organization}
    (h : org.id = call.orgId) :
    (onOrgs call).run (w.withOrg org) = (.ok (call.apply org).1, w.withOrg (call.apply org).2) := by
  have isThere : (w.withOrg org).store.orgs.get? call.orgId = some org := by
    rw [← h]
    exact Register.get?_insert_self w.store.orgs org
  rw [run_onOrgs_of_get? isThere, w.withOrg_withOrg (h.trans (OrgCall.id_apply h).symm)]

/-- An organization that is found is there. -/
theorem get?_of_getOrg {t : World MemoryStore} {id : String} {org : Organization}
    (found : (getOrg id).run w = (.ok org, t)) : w.store.orgs.get? id = some org ∧ t = w := by
  have call : (AccountStore.onOrgs (.get id)).run w.store = _ := MemoryStore.run_find w.store id
  rw [getOrg, Action.run_onOrgs, call] at found
  injection found with result same
  cases isThere : w.store.orgs.get? id with
  | none =>
    rw [isThere] at result
    exact nomatch result
  | some stored =>
    rw [isThere] at result
    exact ⟨congrArg some (Except.ok.inj result), same.symm⟩

/-- A look-up of a crawl, which changes nothing. -/
theorem run_getCrawl (w : World MemoryStore) (orgId id : String) :
    ∃ result, (getCrawl orgId id).run w = (result, w) ∧
      ∀ crawl, result = .ok crawl → w.store.crawls.get? id = some crawl := by
  have call : (AccountStore.onCrawls (.get orgId id)).run w.store = _ :=
    MemoryStore.run_onCrawls w.store _
  rw [CrawlTable.perform, CrawlTable.run_findOf] at call
  refine ⟨_, by rw [getCrawl, Action.run_onCrawls, call], ?_⟩
  intro crawl found
  split at found
  · next stored isThere =>
    split at found
    · injection found with same
      rw [isThere, same]
    · exact nomatch found
  · exact nomatch found

/-- A deletion of crawls. -/
theorem run_onCrawls_delete (w : World MemoryStore) (orgId : String) (ids : List String)
    (type : CrawlType) :
    ∃ removed rest, (onCrawls (.delete orgId ids type)).run w = (.ok removed, w.withCrawls rest) ∧
      CrawlTable.Deletes orgId type ids w.store.crawls removed rest := by
  obtain ⟨removed, rest, run, deletes⟩ := CrawlTable.run_delete w.store.crawls orgId type ids
  have call : (AccountStore.onCrawls (.delete orgId ids type)).run w.store = _ :=
    MemoryStore.run_onCrawls w.store _
  rw [CrawlTable.perform, run] at call
  refine ⟨removed, rest, ?_, deletes⟩
  rw [Action.run_onCrawls, call]
  rfl

end Action

end ArchiveAccounts
