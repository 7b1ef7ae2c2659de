import ArchiveAccounts.Proofs.Store.CrawlRows
import ArchiveAccounts.Proofs.Store.OrgRows
import ArchiveAccounts.Proofs.Store.Run
import Mathlib.Data.List.Forall2

/-!
# The two stores are the same store

A store in memory and a relational store that both begin empty answer all calls the same, as long as
every number in memory is a signed 64-bit number and what the calls give can be stored. The relation
between them is that the tables hold the organizations and the crawls; each call preserves it. Main
statement: `stores_agree`.
-/

namespace ArchiveAccounts
set_option autoImplicit false

namespace StoreCall

/-- Whether what a call gives can be stored. -/
def isStorable : StoreCall → Bool
  | onOrgs call => call.isStorable
  | onCrawls call => call.isStorable

/-- Whether two outcomes of a call are the same; the ids of deleted crawls count in any order. -/
def SameResult : (call : StoreCall) → Except Failure call.Reply → Except Failure call.Reply → Prop
  | onOrgs _, a, b => a = b
  | onCrawls call, a, b => call.SameResult a b

end StoreCall

/-- Whether two exchanges are of the same call, with the same outcome. -/
inductive Exchange.Same : Exchange → Exchange → Prop where
  | intro {call : StoreCall} {a b : Except Failure call.Reply} (same : call.SameResult a b) :
      Same ⟨call, a⟩ ⟨call, b⟩

/-- Whether tables hold a store in memory. -/
structure Holds (s : RelationalStore) (m : MemoryStore) : Prop where
  orgs : HoldOrgs s m.orgs
  crawls : HoldCrawls s.crawls m.crawls

namespace Holds

variable {s t : RelationalStore} {m : MemoryStore}

theorem empty : Holds {} {} := by
  have orgs : ∀ id, ({} : MemoryStore).orgs.get? id = none := fun _ => rfl
  have crawls : ∀ id, ({} : MemoryStore).crawls.get? id = none := fun _ => rfl
  have seconds : ∀ key, ({} : RelationalStore).seconds.get? key = none := fun _ => rfl
  have changes : ∀ number, ({} : RelationalStore).changes.get? number = none := fun _ => rfl
  refine ⟨⟨fun _ => rfl, ?_, ?_, ?_, ?_⟩, ⟨fun _ => rfl, ?_⟩⟩
  · simp [orgs]
  · simp [seconds]
  · simp [orgs]
  · simp [RelationalStore.NumbersBelow, changes]
  · simp [crawls]

/-- The organizations do not depend on the rows of crawls. -/
theorem orgs_of_crawls {orgs : OrgTable} (h : HoldOrgs s orgs)
    (rows : SortedMap String CrawlRow) : HoldOrgs { s with crawls := rows } orgs :=
  ⟨h.rows, h.seconds, h.named, h.log, h.numbersBelow⟩

/-- Each call comes to the same on both stores and keeps the tables holding the store in memory. -/
theorem step (h : Holds s m) (call : StoreCall) (storable : call.isStorable = true)
    (fits : m.FitsSigned) (fitsAfter : (call.after m).FitsSigned) :
    Exchange.Same (call.exchange m) (call.exchange s) ∧ Holds (call.after s) (call.after m) := by
  cases call with
  | onOrgs call =>
    obtain ⟨result, orgs, crawlsInMemory, crawlsInRows⟩ :=
      RelationalStore.onOrgs_agrees h.orgs call storable fits fitsAfter
    refine ⟨⟨result⟩, orgs, ?_⟩
    have crawls := h.crawls
    rw [← crawlsInMemory, ← crawlsInRows] at crawls
    exact crawls
  | onCrawls call =>
    obtain ⟨result, crawls, others⟩ := RelationalStore.onCrawls_agrees h.crawls call storable
    refine ⟨⟨result⟩, ?_, crawls⟩
    have orgs := orgs_of_crawls h.orgs ((RelationalStore.onCrawls call).run s).2.crawls
    rw [← others] at orgs
    exact orgs

/-- So do calls one after the other. -/
theorem run (h : Holds s m) (calls : List StoreCall)
    (storable : ∀ call ∈ calls, call.isStorable = true)
    (fits : Always MemoryStore.FitsSigned calls m) :
    List.Forall₂ Exchange.Same (exchanges calls m) (exchanges calls s) ∧
      Holds (afterCalls calls s) (afterCalls calls m) := by
  induction calls generalizing s m with
  | nil => exact ⟨.nil, h⟩
  | cons call calls ih =>
    obtain ⟨now, later⟩ := always_cons.1 fits
    have next : (call.after m).FitsSigned := later [] List.nil_prefix
    obtain ⟨same, hold⟩ := h.step call (storable call List.mem_cons_self) now next
    obtain ⟨others, last⟩ :=
      ih hold (fun call mem => storable call (List.mem_cons_of_mem _ mem)) later
    exact ⟨.cons same others, last⟩

end Holds

/-- A store in memory and a relational store answer all calls the same, and after them they hold
the same organizations and the same crawls. -/
theorem stores_agree (calls : List StoreCall) (storable : ∀ call ∈ calls, call.isStorable = true)
    (fits : Always MemoryStore.FitsSigned calls {}) :
    List.Forall₂ Exchange.Same (exchanges calls ({} : MemoryStore))
        (exchanges calls ({} : RelationalStore)) ∧
      (∀ id, ((StoreCall.onOrgs (.get id)).perform.run (afterCalls calls ({} : MemoryStore))).1
        = ((StoreCall.onOrgs (.get id)).perform.run (afterCalls calls ({} : RelationalStore))).1) ∧
      ∀ orgId id,
        ((StoreCall.onCrawls (.get orgId id)).perform.run (afterCalls calls ({} : MemoryStore))).1
          = ((StoreCall.onCrawls (.get orgId id)).perform.run
              (afterCalls calls ({} : RelationalStore))).1 := by
  obtain ⟨same, hold⟩ := Holds.empty.run calls storable fits
  have last : (afterCalls calls ({} : MemoryStore)).FitsSigned := fits calls (List.prefix_refl _)
  refine ⟨same, ?_, ?_⟩
  · intro id
    have unchanged : ((MemoryStore.onOrgs (.get id)).run (afterCalls calls {})).2
        = afterCalls calls {} := by rw [MemoryStore.onOrgs, MemoryStore.run_find]
    have still : ((MemoryStore.onOrgs (.get id)).run (afterCalls calls {})).2.FitsSigned := by
      rw [unchanged]
      exact last
    exact (RelationalStore.onOrgs_agrees hold.orgs (.get id) rfl last still).result
  · intro orgId id
    exact CrawlCall.eq_of_sameResult rfl
      (RelationalStore.getCrawl_agrees hold.crawls orgId id).result

/-- A short run of both stores. -/
def shortRun : List StoreCall :=
  [.onOrgs (.insert { id := "o", users := SortedMap.ofList [("u", .owner)], pools := ⟨90, 0⟩ }),
    .onOrgs (.countSeconds "o" .crawlExec "2024-05" 60),
    .onOrgs (.drawPool "o" .gifted "2024-05" 60),
    .onOrgs (.updateQuotas "o" { QuotaPatch.empty with extraExecMinutes := some 2 }
      (.ofSeconds 1714521600) (some 1)),
    .onCrawls (.insert { id := "c", orgId := "o", type := .crawl, state := .running }),
    .onCrawls (.markCanceled "c" (.ofSeconds 1714521601)),
    .onCrawls (.delete "o" ["c", "d", "c"] .crawl),
    .onOrgs (.get "p")]

theorem stores_agree_shortRun :
    List.Forall₂ Exchange.Same (exchanges shortRun ({} : MemoryStore))
      (exchanges shortRun ({} : RelationalStore)) :=
  (stores_agree shortRun (by decide) (by decide)).1

end ArchiveAccounts
