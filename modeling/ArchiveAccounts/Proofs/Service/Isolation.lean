import ArchiveAccounts.Proofs.Service.OneTenant

/-!
# Isolation of tenants

Requests for one organization, one after the other. Whatever ids they name and whatever comes of
them, they leave the documents of others as they were, and no answer depends on those. Main
statement: `serveAll_isolated`.
-/

namespace ArchiveAccounts
set_option autoImplicit false

open AccountStore Calendar PartedStore
open Attempt (Any)

/-- An organization as one who acts for it knows it, be it up to date or not. -/
abbrev Acting (tenant : String) := { org : Organization // org.id = tenant }

/-- A request to the services for an organization. -/
inductive TenantRequest (tenant : String) where
  | recordUsage (duration : Counter) (isExecTime : Bool)
  | recordBytes (delta : Int) (kind : StorageKind)
  | updateQuotas (patch : QuotaPatch) (retention : Option Nat)
  | deleteCrawls (org : Acting tenant) (ids : List String) (type : CrawlType)
      (user : Option String)
  | deleteAll (org : Acting tenant) (ids : List String) (user : Option String)
  | setCollections (org : Acting tenant) (crawlId : String) (requested : List String)
  | updateCrawl (org : Acting tenant) (crawlId : String) (update : CrawlUpdate)
      (type : Option CrawlType)
  | resolveCrawl (org : Acting tenant) (crawlId : String) (seconds : Counter)

namespace TenantRequest

variable {tenant : String}

/-- The type of the answer to a request. -/
abbrev Reply : TenantRequest tenant → Type
  | recordUsage .. => Allocation
  | recordBytes .. => Bool
  | updateQuotas .. => Organization
  | deleteCrawls .. | deleteAll .. => DeletionOutcome
  | setCollections .. => MembershipChange
  | updateCrawl .. => Unit
  | resolveCrawl .. => List FileDescriptor

/-- Serves a request. -/
def serve {σ : Type} [AccountStore σ] (services : Services) :
    (request : TenantRequest tenant) → Action σ request.Reply
  | recordUsage duration isExecTime => Action.recordUsage tenant duration isExecTime
  | recordBytes delta kind => Action.recordBytes tenant delta kind
  | updateQuotas patch retention => Action.updateQuotas tenant patch retention
  | deleteCrawls org ids type user => Action.deleteCrawls services org ids type user
  | deleteAll org ids user => Action.deleteAll services org ids user
  | setCollections org crawlId requested => Action.setCollections crawlId org requested
  | updateCrawl org crawlId update type => Action.updateCrawl crawlId org update type
  | resolveCrawl org crawlId seconds =>
    Action.resolveCrawl services.toObjectService seconds org crawlId

end TenantRequest

/-- A request and what came of it. -/
structure Served (tenant : String) where
  request : TenantRequest tenant
  result : Except Failure request.Reply

section Run

variable {σ : Type} [AccountStore σ] {tenant : String}

/-- Serves requests, each at its time and whether the ones before it failed or not; answers what
came of each and the world after them. -/
def serveAll (services : Services) :
    List (Moment × TenantRequest tenant) → World σ → List (Served tenant) × World σ
  | [], w => ([], w)
  | (now, request) :: requests, w =>
    let served := (request.serve services).run { w with now }
    let later := serveAll services requests served.2
    (⟨request, served.1⟩ :: later.1, later.2)

variable [TenantStore σ] {others : σ}

/-- A request for an organization comes to the same beside the documents of others. -/
theorem TenantRequest.agrees_serve (services : Services) (request : TenantRequest tenant) :
    Action.Agrees (Beside tenant others) Any (request.serve services) := by
  cases request with
  | recordUsage duration isExecTime => exact Action.agrees_recordUsage duration isExecTime
  | recordBytes delta kind => exact Action.agrees_recordBytes delta kind
  | updateQuotas patch retention => exact Action.agrees_updateQuotas patch retention
  | deleteCrawls org ids type user =>
    obtain ⟨org, rfl⟩ := org
    exact Action.agrees_deleteCrawls services org ids type user
  | deleteAll org ids user =>
    obtain ⟨org, rfl⟩ := org
    exact Action.agrees_deleteAll services org ids user
  | setCollections org crawlId requested =>
    obtain ⟨org, rfl⟩ := org
    exact Action.agrees_setCollections org crawlId requested
  | updateCrawl org crawlId update type =>
    obtain ⟨org, rfl⟩ := org
    exact Action.agrees_updateCrawl org crawlId update type
  | resolveCrawl org crawlId seconds =>
    obtain ⟨org, rfl⟩ := org
    exact Action.agrees_resolveCrawl services.toObjectService seconds org crawlId

/-- Requests one after the other come to the same beside the documents of others. -/
theorem serveAll_alike (services : Services) (requests : List (Moment × TenantRequest tenant))
    {w v : World σ} (alike : World.Alike (Beside tenant others) w v) :
    (serveAll services requests w).1 = (serveAll services requests v).1 ∧
      World.Alike (Beside tenant others) (serveAll services requests w).2
        (serveAll services requests v).2 := by
  induction requests generalizing w v with
  | nil => exact ⟨rfl, alike⟩
  | cons first requests ih =>
    obtain ⟨now, request⟩ := first
    have started : World.Alike (Beside tenant others) { w with now } { v with now } := by
      obtain ⟨store, beside, rfl⟩ := alike
      exact ⟨store, beside, rfl⟩
    have meet := request.agrees_serve services _ _ started
    obtain ⟨later, after⟩ := ih meet.related
    refine ⟨?_, after⟩
    simp only [serveAll, meet.same, later]

/-- Whether requests for an organization leave the documents of others alone and come to the same
without them. -/
structure Isolated (services : Services) (requests : List (Moment × TenantRequest tenant))
    (w : World σ) : Prop where
  /-- The documents of others are as before. -/
  others : without tenant (serveAll services requests w).2.store = without tenant w.store
  /-- Others find the organizations that they found before. -/
  orgs : ∀ id, id ≠ tenant →
    lookUpOrg (serveAll services requests w).2.store id = lookUpOrg w.store id
  /-- Others find the crawls that they found before. -/
  crawls : ∀ orgId id, orgId ≠ tenant →
    lookUpCrawl (serveAll services requests w).2.store orgId id = lookUpCrawl w.store orgId id
  /-- Without the documents of others every request comes to the same. -/
  results : (serveAll services requests { w with store := only tenant w.store }).1
    = (serveAll services requests w).1
  /-- Without the documents of others they leave the same world, but for those documents. -/
  after : (serveAll services requests { w with store := only tenant w.store }).2
    = { (serveAll services requests w).2 with
        store := only tenant (serveAll services requests w).2.store }

theorem isolated (services : Services) (requests : List (Moment × TenantRequest tenant))
    {w : World σ} (sound : IsSound w.store) : Isolated services requests w := by
  have alike : World.Alike (Beside tenant (without tenant w.store)) w
      { w with store := only tenant w.store } := ⟨_, ⟨sound, rfl, rfl⟩, rfl⟩
  obtain ⟨results, store, beside, after⟩ := serveAll_alike services requests alike
  constructor
  · exact beside.others
  · intro id other
    rw [← TenantStore.lookUpOrg_without _ other, beside.others,
      TenantStore.lookUpOrg_without _ other]
  · intro orgId id other
    rw [← TenantStore.lookUpCrawl_without _ id other, beside.others,
      TenantStore.lookUpCrawl_without _ id other]
  · exact results.symm
  · rw [after, beside.own]

end Run

/-- Requests for one organization, with whatever ids and whatever comes of them, are isolated from
all others, on every store in memory and on every relational store that calls come to. -/
theorem serveAll_isolated {tenant : String} (services : Services)
    (requests : List (Moment × TenantRequest tenant)) :
    (∀ w : World MemoryStore, Isolated services requests w) ∧
      ∀ (calls : List StoreCall) (w : World RelationalStore), w.store = afterCalls calls {} →
        Isolated services requests w := by
  constructor
  · intro w
    exact isolated services requests trivial
  · intro calls w reached
    have sound : RelationalStore.Sound w.store := by
      rw [reached]
      exact RelationalStore.sound_afterCalls calls
    exact isolated services requests sound

/-- Crawls of an organization and of its neighbour. -/
def neighbourCrawls : List Crawl :=
  [{ id := "c", orgId := "o", type := .crawl, state := .running,
      files := [{ filename := "f", size := 1000 }] },
    { id := "d", orgId := "p", type := .crawl, state := .running,
      files := [{ filename := "g", size := 300 }] }]

/-- The calls that bring an organization, its neighbour and their crawls. -/
def bringNeighbours : List StoreCall :=
  [.onOrgs (.insert { id := "o" }), .onOrgs (.insert { id := "p" })]
    ++ neighbourCrawls.map fun crawl => .onCrawls (.insert crawl)

/-- Collaborators that know no crawl job and delete every file. -/
def obliging : Services where
  deleteObject _ _ _ _ := .ok true
  mintLink _ _ _ _ _ := .ok "https://link"
  stop _ _ _ := .ok ⟨false, some "Not Found"⟩
  correctConfig _ _ _ _ := .ok true

/-- Requests for the one organization, half of them about the crawl of its neighbour. -/
def trespassing : List (Moment × TenantRequest "o") :=
  let now := Moment.ofSeconds 1714521600
  let org : Acting "o" := ⟨{ id := "o" }, rfl⟩
  [(now, .resolveCrawl org "d" 60),
    (now, .resolveCrawl org "c" 60),
    (now, .setCollections org "d" ["news"]),
    (now, .setCollections org "c" ["news"]),
    (now, .deleteCrawls org ["d", "c"] .crawl none),
    (now, .deleteCrawls org ["c"] .crawl none)]

theorem serveAll_isolated_neighbours :
    let now := Moment.ofSeconds 1714521600
    let w : World MemoryStore := { store := afterCalls bringNeighbours {}, now }
    let rows : World RelationalStore := { store := afterCalls bringNeighbours {}, now }
    Isolated obliging trespassing w ∧ Isolated obliging trespassing rows ∧
      (serveAll obliging trespassing w).1.map (·.result.isOk)
        = [false, true, false, true, false, true] := by
  intro now w rows
  obtain ⟨inMemory, inRows⟩ := serveAll_isolated obliging trespassing
  exact ⟨inMemory w, inRows bringNeighbours rows rfl, by decide +kernel⟩

end ArchiveAccounts
