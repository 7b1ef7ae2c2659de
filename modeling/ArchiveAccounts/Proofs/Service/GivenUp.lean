import ArchiveAccounts.Proofs.Service.Preserves
import ArchiveAccounts.Proofs.Store.LookUps
import ArchiveAccounts.Service.Deletion

/-!
# Deletions that are given up

A deletion that fails before its last step leaves every document as it was, whatever collaborators
answer, except that running crawls that the orchestrator does not know are canceled. Each step
before the last one keeps `Reclaiming`. Main statement: `deleteCrawls_failsSafely`.
-/

namespace ArchiveAccounts
set_option autoImplicit false

open AccountStore Calendar LawfulStore

/-- What a deletion that is given up moves among the running totals. -/
structure Metrics.CountsAborted (m after : Metrics) : Prop where
  aborted : after.deletionsAborted.toNat = (m.deletionsAborted.toNat + 1) % UInt64.size
  others : after = { m with deletionsAborted := after.deletionsAborted }

theorem Metrics.countsAborted_addAborted (m : Metrics) : m.CountsAborted m.addAborted where
  aborted := UInt64.toNat_add m.deletionsAborted 1
  others := rfl

/-- Whether the totals of a crawl config were corrected. -/
def Event.isCorrection : Event → Bool
  | correctConfig .. => true
  | _ => false

/-- Whether between two traces the orchestrator was asked to stop a crawl that it did not know. -/
def Services.Forgot (services : Services) (id : String) (before after : List Event) : Prop :=
  ∃ earlier answer, before <+: earlier ∧ earlier ++ [.stop id false] <+: after ∧
    services.stop earlier id false = .ok answer ∧ answer.success = false ∧
    answer.error = some "Not Found"

/-- Whether a running crawl of a batch was unknown to the orchestrator. -/
def Services.ForgotLive (services : Services) (batch : List Crawl) (id : String)
    (before after : List Event) : Prop :=
  (∃ crawl ∈ batch, crawl.id = id ∧ crawl.type = .crawl ∧ crawl.isFinished = false) ∧
    services.Forgot id before after

theorem Services.ForgotLive.append {services : Services} {batch : List Crawl} {id : String}
    {before after : List Event} (h : services.ForgotLive batch id before after)
    (events : List Event) : services.ForgotLive batch id before (after ++ events) := by
  obtain ⟨live, earlier, answer, from_, asked, answers⟩ := h
  exact ⟨live, earlier, answer, from_, asked.trans (List.prefix_append _ _), answers⟩

section Generic

variable {σ : Type} [AccountStore σ]

/-- What a deletion that was given up leaves: every organization as it was, every crawl as it was or
canceled because the orchestrator did not know it, and no totals of a crawl config corrected. -/
structure LosesNothing (services : Services) (batch : List Crawl) (w t : World σ) : Prop where
  orgs : ∀ id, lookUpOrg t.store id = lookUpOrg w.store id
  crawls : ∀ orgId id, lookUpCrawl t.store orgId id = lookUpCrawl w.store orgId id ∨
    (services.ForgotLive batch id w.trace t.trace ∧
      lookUpCrawl t.store orgId id = (lookUpCrawl w.store orgId id).map fun crawl =>
        { crawl with state := .canceled, finished := some w.now })
  corrections : ∃ events, t.trace = w.trace ++ events ∧
    ∀ event ∈ events, event.isCorrection = false

/-- What holds all along while a batch is reclaimed. -/
structure Reclaiming [LawfulStore σ] (services : Services) (batch : List Crawl) (w t : World σ) :
    Prop extends LosesNothing services batch w t where
  sound : IsSound t.store
  now : t.now = w.now
  metrics : t.metrics = w.metrics

namespace Reclaiming

variable [LawfulStore σ] {services : Services} {batch : List Crawl} {w t : World σ}

theorem start (sound : IsSound w.store) : Reclaiming services batch w w where
  orgs _ := rfl
  crawls _ _ := .inl rfl
  corrections := ⟨[], (List.append_nil _).symm, nofun⟩
  sound := sound
  now := rfl
  metrics := rfl

/-- Anything but a correction may happen. -/
theorem record (h : Reclaiming services batch w t) {event : Event}
    (other : event.isCorrection = false) :
    Reclaiming services batch w { t with trace := t.trace ++ [event] } where
  orgs := h.orgs
  crawls orgId id := by
    rcases h.crawls orgId id with same | ⟨forgot, canceled⟩
    · exact .inl same
    · exact .inr ⟨forgot.append [event], canceled⟩
  corrections := by
    obtain ⟨events, trace, none_⟩ := h.corrections
    refine ⟨events ++ [event], ?_, ?_⟩
    · rw [trace, List.append_assoc]
    · rw [List.forall_mem_append, List.forall_mem_singleton]
      exact ⟨none_, other⟩
  sound := h.sound
  now := h.now
  metrics := h.metrics

/-- A running crawl that the orchestrator does not know may be canceled, more than once. -/
theorem cancel (h : Reclaiming services batch w t) {id : String}
    (forgot : services.ForgotLive batch id w.trace t.trace) :
    Reclaiming services batch w ((Action.onCrawls (.markCanceled id t.now)).run t).2 := by
  rw [Action.run_onCrawls]
  rcases cancels t.store id t.now h.sound with same | ⟨sound, canceled⟩
  · dsimp only
    rw [same]
    exact h
  · refine ⟨⟨?_, ?_, h.corrections⟩, sound, h.now, h.metrics⟩
    · intro orgId
      rw [canceled.orgs, h.orgs]
    · intro orgId other
      dsimp only
      rw [canceled.crawls]
      split
      · next same =>
        subst same
        refine .inr ⟨forgot, ?_⟩
        rw [h.now]
        rcases h.crawls orgId other with before | ⟨_, before⟩
        · rw [before]
          rfl
        · rw [before]
          cases lookUpCrawl w.store orgId other <;> rfl
      · exact h.crawls orgId other

end Reclaiming

namespace Action

/-- The crawls of a batch, or why it is refused. -/
def validated (org : Organization) (ids : List String) (type : CrawlType) (user : Option String) :
    Action σ (List Crawl) :=
  if ids.isEmpty then throw .nothingToDelete else validate org type user ids.eraseDups

section Steps

variable [LawfulStore σ] {services : Services} {batch : List Crawl} {w : World σ}

theorem reclaiming_stopCrawl {crawl : Crawl} (mem : crawl ∈ batch) (isCrawl : crawl.type = .crawl)
    (live : crawl.isFinished = false) :
    Attempt.Preserves (Reclaiming services batch w) (stopCrawl services crawl) := by
  intro t h
  have asked : Reclaiming services batch w { t with trace := t.trace ++ [.stop crawl.id false] } :=
    h.record rfl
  rw [stopCrawl, Attempt.run_bind, run_ask]
  cases answers : services.stop t.trace crawl.id false with
  | error e => exact asked
  | ok answer =>
    dsimp only
    split
    · exact asked
    · next failed =>
      split
      · next notFound =>
        rw [Attempt.run_bind, Attempt.run_get]
        apply asked.cancel
        have from_ : w.trace <+: t.trace := by
          obtain ⟨events, trace, _⟩ := h.corrections
          rw [trace]
          exact List.prefix_append _ _
        exact ⟨⟨crawl, mem, rfl, isCrawl, live⟩, t.trace, answer, from_, List.prefix_refl _,
          answers, Bool.eq_false_iff.2 failed, notFound⟩
      · exact asked

theorem reclaiming_deleteFile (alone : ∀ file, services.overlapping file = [])
    (org : Organization) (crawl : Crawl) (file : CrawlFile) :
    Attempt.Preserves (Reclaiming services batch w) (deleteFile services org crawl file) := by
  refine .bind .get fun before => ?_
  simp only [alone, deleteMeanwhile, List.isEmpty_nil, if_true]
  refine .bind (.pure _) fun _ => .bind (.pure _) fun _ => .bind ?_ fun deleted => ?_
  · intro t h
    exact h.record rfl
  · refine .ite (fun _ => ?_) fun _ => .throw _
    intro t h
    exact h.record rfl

/-- Up to the last step of a deletion nothing is lost. -/
theorem reclaiming_reclaim (alone : ∀ file, services.overlapping file = []) (org : Organization) :
    Attempt.Preserves (Reclaiming services batch w)
      (batch.forM (reclaimCrawl services org)) :=
  preserves_reclaimCrawls_of (fun _ mem isCrawl live => reclaiming_stopCrawl mem isCrawl live)
    (fun crawl _ file _ => reclaiming_deleteFile alone org crawl file)
    fun _ _ _ h => h.record rfl

/-- A batch that is given up is counted, unless the clock has left the calendar. -/
theorem run_reclaim_error (alone : ∀ file, services.overlapping file = []) (org : Organization)
    (sound : IsSound w.store) {e : Failure}
    (failed : ((reclaim services org batch).run w).1 = .error e) :
    LosesNothing services batch w ((reclaim services org batch).run w).2 ∧
      if e = .outsideCalendar then
        ((reclaim services org batch).run w).2.metrics = w.metrics
      else w.metrics.CountsAborted ((reclaim services org batch).run w).2.metrics := by
  have reclaiming : Reclaiming services batch w _ := reclaiming_reclaim alone org w (.start sound)
  rw [reclaim, Attempt.run_tryCatch] at failed ⊢
  rcases run : (batch.forM (reclaimCrawl services org)).run w with ⟨result, t⟩
  rw [run] at failed reclaiming
  cases result with
  | ok done => exact nomatch failed
  | error failure =>
    dsimp only at failed ⊢
    by_cases outside : failure = .outsideCalendar
    · subst outside
      obtain rfl : Failure.outsideCalendar = e := Except.error.inj failed
      exact ⟨reclaiming.toLosesNothing, reclaiming.metrics⟩
    · rw [if_pos outside] at failed ⊢
      obtain rfl : failure = e := Except.error.inj failed
      rw [if_neg outside, ← reclaiming.metrics]
      exact ⟨⟨reclaiming.orgs, reclaiming.crawls, reclaiming.corrections⟩,
        t.metrics.countsAborted_addAborted⟩

/-- A look-up of a crawl. -/
theorem run_getCrawl_eq (orgId id : String) :
    (getCrawl orgId id).run w = (lookUpCrawl w.store orgId id, w) := by
  have same := lookUpCrawl_same w.store orgId id
  rw [getCrawl, run_onCrawls, same]
  rfl

/-- A validation changes nothing, and gives crawls of the organization and the type among the
ids. -/
theorem run_validate_eq (org : Organization) (type : CrawlType) (user : Option String)
    (ids : List String) (sound : IsSound w.store) :
    ∃ result, (validate org type user ids).run w = (result, w) ∧
      ∀ batch, result = .ok batch → ∀ crawl ∈ batch,
        crawl.id ∈ ids ∧ crawl.type = type ∧ lookUpCrawl w.store org.id crawl.id = .ok crawl := by
  induction ids with
  | nil =>
    refine ⟨.ok [], rfl, ?_⟩
    rintro batch ⟨⟩
    exact List.forall_mem_nil _
  | cons id rest ih =>
    obtain ⟨result, run, spec⟩ := ih
    have later : ∀ batch, result = .ok batch → ∀ crawl ∈ batch,
        crawl.id ∈ id :: rest ∧ crawl.type = type ∧
          lookUpCrawl w.store org.id crawl.id = .ok crawl := by
      intro batch valid crawl mem
      obtain ⟨listed, facts⟩ := spec batch valid crawl mem
      exact ⟨List.mem_cons_of_mem _ listed, facts⟩
    rw [validate, Attempt.run_bind, run_getCrawl_eq]
    cases found : lookUpCrawl w.store org.id id with
    | error e =>
      refine ⟨.error e, rfl, ?_⟩
      rintro _ ⟨⟩
    | ok crawl =>
      dsimp only
      split
      · exact ⟨result, run, later⟩
      · next sameType =>
        split
        · rw [Attempt.run_bind, run]
          cases result with
          | error e =>
            refine ⟨.error e, rfl, ?_⟩
            rintro _ ⟨⟩
          | ok batch =>
            refine ⟨.ok (crawl :: batch), rfl, ?_⟩
            rintro _ ⟨⟩
            have named : crawl.id = id := LawfulStore.named w.store org.id id crawl sound found
            refine List.forall_mem_cons.2 ⟨⟨?_, ?_, ?_⟩, later batch rfl⟩
            · rw [named]
              exact List.mem_cons_self
            · exact not_not.1 sameType
            · rw [named]
              exact found
        · refine ⟨_, rfl, ?_⟩
          rintro _ ⟨⟩

/-- A batch that is validated holds crawls of the organization and the type among the ids. -/
theorem run_validated_eq (org : Organization) (ids : List String) (type : CrawlType)
    (user : Option String) (sound : IsSound w.store) :
    ∃ result, (validated org ids type user).run w = (result, w) ∧
      ∀ batch, result = .ok batch → ∀ crawl ∈ batch,
        crawl.id ∈ ids ∧ crawl.type = type ∧ lookUpCrawl w.store org.id crawl.id = .ok crawl := by
  rw [validated]
  split
  · exact ⟨_, rfl, nofun⟩
  · obtain ⟨result, run, spec⟩ := run_validate_eq org type user ids.eraseDups sound
    refine ⟨result, run, fun batch valid crawl mem => ?_⟩
    obtain ⟨listed, facts⟩ := spec batch valid crawl mem
    exact ⟨List.mem_eraseDups.1 listed, facts⟩

end Steps

/-- A deletion validates its batch first, and goes on if there is anything to delete. -/
theorem deleteCrawls_eq (services : Services) (org : Organization) (ids : List String)
    (type : CrawlType) (user : Option String) :
    (deleteCrawls services org ids type user : Action σ DeletionOutcome) = (do
      let batch ← validated org ids type user
      if batch.isEmpty then
        return { deleted := 0, storageQuotaReached := (← getOrg org.id).storageQuotaReached }
      reclaim services org batch
      commit services org batch type) := by
  rw [deleteCrawls, validated]
  split
  · rfl
  · rfl

end Action

/-- What can be said of a deletion that fails before its last step, be it that its batch is refused
or that the batch is given up while crawls are stopped and files deleted. -/
structure FailsSafely (services : Services) (org : Organization) (ids : List String)
    (type : CrawlType) (user : Option String) (w : World σ) : Prop where
  /-- A batch that is refused leaves the world as it was. -/
  refused : ∀ e, ((Action.validated org ids type user).run w).1 = .error e →
    (Action.deleteCrawls services org ids type user).run w = (.error e, w)
  /-- A batch that is given up loses nothing and is counted. Only a clock outside of the calendar
  ends everything before that. -/
  givenUp : ∀ batch e, ((Action.validated org ids type user).run w).1 = .ok batch →
    ((Action.reclaim services org batch).run w).1 = .error e →
    (∀ crawl ∈ batch, crawl.id ∈ ids ∧ crawl.type = type ∧
      lookUpCrawl w.store org.id crawl.id = .ok crawl) ∧
    ∃ t, (Action.deleteCrawls services org ids type user).run w = (.error e, t) ∧
      LosesNothing services batch w t ∧
      if e = .outsideCalendar then t.metrics = w.metrics else w.metrics.CountsAborted t.metrics

theorem failsSafely [LawfulStore σ] {services : Services}
    (alone : ∀ file, services.overlapping file = []) (org : Organization) (ids : List String)
    (type : CrawlType) (user : Option String) {w : World σ} (sound : IsSound w.store) :
    FailsSafely services org ids type user w := by
  obtain ⟨result, run, spec⟩ := Action.run_validated_eq org ids type user sound
  constructor
  · intro e refused
    rw [run] at refused
    obtain rfl : result = .error e := refused
    rw [Action.deleteCrawls_eq, Attempt.run_bind, run]
  · intro batch e valid failed
    rw [run] at valid
    obtain rfl : result = .ok batch := valid
    obtain ⟨keeps, counted⟩ := Action.run_reclaim_error alone org sound failed
    refine ⟨spec batch rfl, _, ?_, keeps, counted⟩
    rw [Action.deleteCrawls_eq, Attempt.run_bind, run]
    dsimp only
    cases batch with
    | nil => exact nomatch failed
    | cons crawl batch =>
      rw [List.isEmpty_cons, if_neg Bool.false_ne_true, Attempt.run_bind]
      rcases reclaims : (Action.reclaim services org (crawl :: batch)).run w with ⟨result, t⟩
      rw [reclaims] at failed
      obtain rfl : result = .error e := failed
      rfl

end Generic

/-- A deletion that fails before its last step loses nothing, on every store in memory and on every
relational store that calls come to, whatever collaborators answer, as long as they do not write to
the store themselves. -/
theorem deleteCrawls_failsSafely {services : Services}
    (alone : ∀ file, services.overlapping file = []) (org : Organization) (ids : List String)
    (type : CrawlType) (user : Option String) :
    (∀ w : World MemoryStore, FailsSafely services org ids type user w) ∧
      ∀ (calls : List StoreCall) (w : World RelationalStore), w.store = afterCalls calls {} →
        FailsSafely services org ids type user w := by
  constructor
  · intro w
    exact failsSafely alone org ids type user trivial
  · intro calls w reached
    have sound : RelationalStore.NamesRows w.store := by
      rw [reached]
      exact RelationalStore.namesRows_afterCalls calls RelationalStore.namesRows_empty
    exact failsSafely alone org ids type user sound

/-- Two running crawls of an organization. -/
def runningCrawls : List Crawl :=
  [{ id := "c", orgId := "o", type := .crawl, state := .running,
      files := [{ filename := "f", size := 1000 }] },
    { id := "d", orgId := "o", type := .crawl, state := .running,
      files := [{ filename := "g", size := 300 }] }]

/-- Collaborators that know no crawl job and keep one file. -/
def keepingOne : Services where
  deleteObject _ _ _ file := .ok (file.filename != "g")
  mintLink _ _ _ _ _ := .ok "https://link"
  stop _ _ _ := .ok ⟨false, some "Not Found"⟩
  correctConfig _ _ _ _ := .ok true

/-- The calls that bring the organization and its crawls. -/
def bringRunning : List StoreCall :=
  .onOrgs (.insert { id := "o" }) :: runningCrawls.map fun crawl => .onCrawls (.insert crawl)

theorem deleteCrawls_failsSafely_running :
    let now := Moment.ofSeconds 1714521600
    let w : World MemoryStore := { store := afterCalls bringRunning {}, now }
    let rows : World RelationalStore := { store := afterCalls bringRunning {}, now }
    (∃ t, (Action.deleteCrawls keepingOne { id := "o" } ["c", "d", "c"] .crawl none).run w
        = (.error (.collaborator "file_deletion_error"), t) ∧
      LosesNothing keepingOne runningCrawls w t ∧ t.metrics = { deletionsAborted := 1 }) ∧
    (Action.deleteCrawls keepingOne { id := "o" } ["e", "c"] .crawl none).run rows
      = (.error .crawlNotFound, rows) := by
  intro now w rows
  have alone : ∀ file, keepingOne.overlapping file = [] := fun _ => rfl
  obtain ⟨inMemory, _⟩ :=
    deleteCrawls_failsSafely alone { id := "o" } ["c", "d", "c"] .crawl none
  obtain ⟨_, inRows⟩ := deleteCrawls_failsSafely alone { id := "o" } ["e", "c"] .crawl none
  constructor
  · obtain ⟨_, t, run, keeps, counts⟩ := (inMemory w).givenUp runningCrawls
      (.collaborator "file_deletion_error") (by decide) (by decide)
    have one : t.metrics.deletionsAborted = 1 := UInt64.toNat_inj.1 counts.aborted
    refine ⟨t, run, keeps, ?_⟩
    rw [counts.others, one]
  · exact (inRows bringRunning rows rfl).refused .crawlNotFound (by decide +kernel)

end ArchiveAccounts
