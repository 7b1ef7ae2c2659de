import ArchiveAccounts.Proofs.Service.GivenUp
import ArchiveAccounts.Proofs.Store.Owners

/-!
# The steps of a reclamation

The crawls of a batch are reclaimed step by step: a running crawl is stopped, its files are deleted
in order, and it is announced as deleted. A step that is done leaves its events, and one that fails
leaves the question that was answered badly; the steps after it are not taken. Whatever comes of
them, the steps change nothing but crawls and remove none. Main statements: `forM_reclaimCrawl`,
that a reclamation is its steps, `runEnds_forM_perform` and `sparing_forM_perform`.
-/

namespace ArchiveAccounts
set_option autoImplicit false

open AccountStore ApartStore Calendar LawfulStore

/-- A step of a reclamation. -/
inductive ReclaimStep where
  | stop (crawl : Crawl)
  | deleteFile (crawl : Crawl) (file : CrawlFile)
  | announce (crawl : Crawl)

namespace ReclaimStep

/-- How a crawl is reclaimed. -/
def ofCrawl (crawl : Crawl) : List ReclaimStep :=
  (if crawl.type = .crawl ∧ !crawl.isFinished then [stop crawl] else []) ++
    crawl.files.map (deleteFile crawl) ++ [announce crawl]

/-- How a batch is reclaimed, one crawl after the other. -/
def ofBatch (batch : List Crawl) : List ReclaimStep := batch.flatMap ofCrawl

section Events

variable (org : Organization) (received : Bool)

/-- What a step asks or tells first. -/
def question : ReclaimStep → Event
  | stop crawl => .stop crawl.id false
  | deleteFile _ file => .deleteObject org.id file.filename
  | announce crawl => .send (.deleted ⟨org.id, crawl.id, crawl.type⟩) received

/-- What a step tells when its question was answered well. -/
def followUp : ReclaimStep → List Event
  | deleteFile crawl file => [.send (.replicaJob ⟨org.id, crawl.id, crawl.type, file⟩) received]
  | stop _ | announce _ => []

/-- The events of a step that is done. -/
def events (step : ReclaimStep) : List Event :=
  step.question org received :: step.followUp org received

end Events

/-- All events of the reclamation of a batch, in order. -/
def canonical (org : Organization) (received : Bool) (batch : List Crawl) : List Event :=
  (ofBatch batch).flatMap (events org received)

/-- No step corrects the totals of a crawl config. -/
theorem isCorrection_of_mem_events {org : Organization} {received : Bool} {step : ReclaimStep}
    {event : Event} (mem : event ∈ step.events org received) : event.isCorrection = false := by
  rcases List.mem_cons.1 mem with rfl | told
  · cases step <;> rfl
  · cases step with
    | deleteFile crawl file =>
      obtain rfl := List.mem_singleton.1 told
      rfl
    | stop crawl | announce crawl => cases told

theorem isCorrection_of_mem_canonical {org : Organization} {received : Bool} {batch : List Crawl}
    {event : Event} (mem : event ∈ canonical org received batch) : event.isCorrection = false := by
  obtain ⟨step, _, told⟩ := List.mem_flatMap.1 mem
  exact isCorrection_of_mem_events told

/-- The last step announces a crawl. -/
theorem ofBatch_eq_concat {batch : List Crawl} (nonempty : batch ≠ []) :
    ∃ before crawl, ofBatch batch = before ++ [announce crawl] := by
  obtain ⟨others, crawl, rfl⟩ := (List.eq_nil_or_concat batch).resolve_left nonempty
  rw [List.concat_eq_append, ofBatch, List.flatMap_append, List.flatMap_singleton, ofCrawl,
    ← List.append_assoc]
  exact ⟨_, crawl, rfl⟩

end ReclaimStep

/-! ## Steps that are taken -/

section Generic

variable {σ : Type} [AccountStore σ]

namespace ReclaimStep

/-- Takes a step. -/
def perform (services : Services) (org : Organization) : ReclaimStep → Action σ Unit
  | stop crawl => Action.stopCrawl services crawl
  | deleteFile crawl file => Action.deleteFile services org crawl file
  | announce crawl => Action.send (.deleted ⟨org.id, crawl.id, crawl.type⟩)

/-- Why a step fails. -/
inductive Fails (services : Services) (org : Organization) (w : World σ) :
    ReclaimStep → Failure → Prop
  | stopUnanswered (crawl : Crawl) (e : Failure)
    (asked : services.stop w.trace crawl.id false = .error e) : Fails services org w (stop crawl) e
  | stopRefused (crawl : Crawl) (answer : StopAnswer)
    (asked : services.stop w.trace crawl.id false = .ok answer) (refused : answer.success = false)
    (known : answer.error ≠ some "Not Found") :
    Fails services org w (stop crawl) (.collaborator "crawl_stop_failed")
  /-- The crawl is unknown to the orchestrator, and the store cannot mark it as canceled. -/
  | cancelFailed (crawl : Crawl) (answer : StopAnswer) (e : Failure)
    (asked : services.stop w.trace crawl.id false = .ok answer) (refused : answer.success = false)
    (unknown : answer.error = some "Not Found")
    (failed : ((onCrawls (.markCanceled crawl.id w.now)).run w.store).1 = .error e) :
    Fails services org w (stop crawl) e
  | deletionUnanswered (crawl : Crawl) (file : CrawlFile) (e : Failure)
    (asked : services.deleteObject w.trace w.now org file = .error e) :
    Fails services org w (deleteFile crawl file) e
  | deletionRefused (crawl : Crawl) (file : CrawlFile)
    (asked : services.deleteObject w.trace w.now org file = .ok false) :
    Fails services org w (deleteFile crawl file) (.collaborator "file_deletion_error")

/-- How a step ends: it is done, or its question is answered badly. -/
inductive Ends (services : Services) (org : Organization) (step : ReclaimStep) (w : World σ) :
    Except Failure Unit × World σ → Prop
  | done (store : σ) : Ends services org step w
      (.ok (), { w with store, trace := w.trace ++ step.events org w.isReceiving })
  | failed (store : σ) (e : Failure) (fails : step.Fails services org w e) :
    Ends services org step w
      (.error e, { w with store, trace := w.trace ++ [step.question org w.isReceiving] })

/-- How steps end that are taken one after the other: all are done, or one fails after those before
it were done. -/
inductive RunEnds (services : Services) (org : Organization) (steps : List ReclaimStep)
    (w : World σ) : Except Failure Unit × World σ → Prop
  | done (t : World σ)
    (trace : t.trace = w.trace ++ steps.flatMap (events org w.isReceiving)) :
    RunEnds services org steps w (.ok (), t)
  | failed (before after : List ReclaimStep) (step : ReclaimStep) (mid t : World σ) (e : Failure)
    (split : steps = before ++ step :: after)
    (taken : (before.forM (perform services org)).run w = (.ok (), mid))
    (midTrace : mid.trace = w.trace ++ before.flatMap (events org w.isReceiving))
    (fails : step.Fails services org mid e)
    (trace : t.trace = mid.trace ++ [step.question org w.isReceiving]) :
    RunEnds services org steps w (.error e, t)

end ReclaimStep

namespace Action

variable {services : Services} {org : Organization}

/-- A crawl is reclaimed by its steps. -/
theorem reclaimCrawl_eq (crawl : Crawl) :
    (reclaimCrawl services org crawl : Action σ Unit)
      = (ReclaimStep.ofCrawl crawl).forM (ReclaimStep.perform services org) := by
  rw [reclaimCrawl, ReclaimStep.ofCrawl, List.append_assoc]
  split
  · simp [List.forM_append, List.forM_map, ReclaimStep.perform]
  · simp [List.forM_append, List.forM_map, ReclaimStep.perform]

/-- A batch is reclaimed by its steps. -/
theorem forM_reclaimCrawl (services : Services) (org : Organization) (batch : List Crawl) :
    (batch.forM (reclaimCrawl services org) : Action σ Unit)
      = (ReclaimStep.ofBatch batch).forM (ReclaimStep.perform services org) := by
  induction batch with
  | nil => rfl
  | cons crawl batch ih =>
    have first : (crawl :: batch).forM (reclaimCrawl services org)
        = (reclaimCrawl services org crawl >>= fun _ =>
          batch.forM (reclaimCrawl services org) : Action σ Unit) :=
      List.forM_cons
    rw [first, reclaimCrawl_eq, ih]
    exact List.forM_append.symm

/-- Others that delete crawls change the store only, and their failures are their own. -/
theorem run_deleteMeanwhile_eq (org : Organization) (ids : List String) (type : CrawlType)
    (w : World σ) :
    ∃ store, (deleteMeanwhile org ids type).run w = (.ok (), { w with store }) := by
  rw [deleteMeanwhile]
  split
  · exact ⟨w.store, rfl⟩
  · refine ⟨((onCrawls (.delete org.id ids type)).run w).2.store, ?_⟩
    rw [Attempt.run_tryCatch, Attempt.run_bind, run_onCrawls]
    cases ((AccountStore.onCrawls (.delete org.id ids type)).run w.store).1 <;> rfl

theorem ends_stopCrawl (crawl : Crawl) (w : World σ) :
    (ReclaimStep.stop crawl).Ends services org w ((stopCrawl services crawl).run w) := by
  rw [stopCrawl, Attempt.run_bind, run_ask]
  cases asked : services.stop w.trace crawl.id false with
  | error e => exact .failed w.store e (.stopUnanswered crawl e asked)
  | ok answer =>
    dsimp only
    by_cases done : answer.success = true
    · rw [if_pos done]
      exact .done w.store
    · have refused : answer.success = false := Bool.eq_false_iff.2 done
      rw [if_neg done]
      by_cases unknown : answer.error = some "Not Found"
      · rw [if_pos unknown, Attempt.run_bind, Attempt.run_get]
        dsimp only
        rw [run_onCrawls]
        generalize marks : (AccountStore.onCrawls (.markCanceled crawl.id w.now)).run w.store
          = marked
        obtain ⟨result, store⟩ := marked
        cases result with
        | ok => exact .done store
        | error e =>
          exact .failed store e
            (.cancelFailed crawl answer e asked refused unknown (congrArg Prod.fst marks))
      · rw [if_neg unknown]
        exact .failed w.store _ (.stopRefused crawl answer asked refused unknown)

theorem ends_deleteFile (crawl : Crawl) (file : CrawlFile) (w : World σ) :
    (ReclaimStep.deleteFile crawl file).Ends services org w
      ((deleteFile services org crawl file).run w) := by
  obtain ⟨first, runFirst⟩ :=
    run_deleteMeanwhile_eq org (services.overlapping file) .crawl w
  obtain ⟨store, runRest⟩ :=
    run_deleteMeanwhile_eq org (services.overlapping file) .upload { w with store := first }
  simp only [deleteFile, Attempt.run_bind, Attempt.run_get, runFirst, runRest, run_ask]
  cases asked : services.deleteObject w.trace w.now org file with
  | error e => exact .failed store e (.deletionUnanswered crawl file e asked)
  | ok deleted =>
    cases deleted with
    | false => exact .failed store _ (.deletionRefused crawl file asked)
    | true =>
      simp only [if_true, run_send, List.append_assoc]
      exact .done store

/-- A step is done or fails at its question. -/
theorem ends_perform (step : ReclaimStep) (w : World σ) :
    step.Ends services org w ((step.perform services org).run w) := by
  cases step with
  | stop crawl => exact ends_stopCrawl crawl w
  | deleteFile crawl file => exact ends_deleteFile crawl file w
  | announce crawl => exact .done w.store

/-- Steps may be taken after one that was done. -/
theorem runEnds_cons {step : ReclaimStep} {steps : List ReclaimStep} {w mid : World σ}
    {result : Except Failure Unit × World σ}
    (done : (step.perform services org).run w = (.ok (), mid))
    (trace : mid.trace = w.trace ++ step.events org w.isReceiving)
    (receives : mid.isReceiving = w.isReceiving)
    (later : ReclaimStep.RunEnds services org steps mid result) :
    ReclaimStep.RunEnds services org (step :: steps) w result := by
  cases later with
  | done t rest =>
    refine .done t ?_
    rw [rest, trace, receives, List.flatMap_cons, List.append_assoc]
  | failed before after last fails t e split taken midTrace failing rest =>
    rw [receives] at midTrace rest
    refine .failed (step :: before) after last fails t e (congrArg (step :: ·) split) ?_ ?_ failing
      rest
    · show (step.perform services org >>= fun _ =>
        before.forM (ReclaimStep.perform services org)).run w = _
      rw [Attempt.run_bind, done]
      exact taken
    · rw [midTrace, trace, List.flatMap_cons, List.append_assoc]

/-- Steps are taken in order up to the one that fails. -/
theorem runEnds_forM_perform (steps : List ReclaimStep) (w : World σ) :
    ReclaimStep.RunEnds services org steps w
      ((steps.forM (ReclaimStep.perform services org)).run w) := by
  induction steps generalizing w with
  | nil => exact .done w (List.append_nil _).symm
  | cons step steps ih =>
    show ReclaimStep.RunEnds services org (step :: steps) w
      ((step.perform services org >>= fun _ =>
        steps.forM (ReclaimStep.perform services org)).run w)
    rw [Attempt.run_bind]
    have ends : step.Ends services org w ((step.perform services org).run w) :=
      ends_perform step w
    generalize runs : (step.perform services org).run w = result at ends
    cases ends with
    | done store =>
      -- who receives messages does not change, so the later events are those of the first world
      exact runEnds_cons runs rfl rfl (ih _)
    | failed store e fails =>
      exact .failed [] steps step w _ e rfl rfl (List.append_nil _).symm fails rfl

end Action

/-! ## What steps leave as it was -/

/-- What may become of a crawl while steps are taken for an organization at some time. -/
inductive Crawl.Spared (services : Services) (orgId : String) (steps : List ReclaimStep)
    (now : Moment) (owner id : String) (before : Except Failure Crawl) :
    Except Failure Crawl → Prop
  | kept : Spared services orgId steps now owner id before before
  /-- The crawl was to be stopped. -/
  | canceled (crawl : Crawl) (stopped : .stop crawl ∈ steps) (named : crawl.id = id) :
    Spared services orgId steps now owner id before
      (before.map fun crawl => { crawl with state := .canceled, finished := some now })
  /-- Others deleted the crawl while the object of a file was deleted. -/
  | overlapped (crawl : Crawl) (file : CrawlFile) (deleted : .deleteFile crawl file ∈ steps)
    (listed : id ∈ services.overlapping file) (mine : owner = orgId) :
    Spared services orgId steps now owner id before (.error .crawlNotFound)

/-- Whether steps that led from one world to another changed nothing but crawls, and removed
none. -/
structure Spares [ApartStore σ] (services : Services) (org : Organization)
    (steps : List ReclaimStep) (w t : World σ) : Prop where
  rest : butCrawls t.store = butCrawls w.store
  crawls : ∀ owner id, Crawl.Spared services org.id steps w.now owner id
    (lookUpCrawl w.store owner id) (lookUpCrawl t.store owner id)

/-- What holds all along while steps are taken. -/
structure Sparing [ApartStore σ] (services : Services) (org : Organization)
    (steps : List ReclaimStep) (w t : World σ) : Prop extends Spares services org steps w t where
  sound : IsSound t.store
  now : t.now = w.now

variable [ApartStore σ] {services : Services} {org : Organization} {steps : List ReclaimStep}
  {w t : World σ}

namespace Sparing

theorem start (sound : IsSound w.store) : Sparing services org steps w w where
  rest := rfl
  crawls _ _ := .kept
  sound := sound
  now := rfl

/-- Anything may be told. -/
theorem told (h : Sparing services org steps w t) (trace : List Event) :
    Sparing services org steps w { t with trace } :=
  ⟨⟨h.rest, h.crawls⟩, h.sound, h.now⟩

/-- A crawl that is to be stopped may be canceled, also if it was canceled before. -/
theorem cancel (h : Sparing services org steps w t) {crawl : Crawl}
    (stopped : .stop crawl ∈ steps) :
    Sparing services org steps w ((Action.onCrawls (.markCanceled crawl.id t.now)).run t).2 := by
  rw [Action.run_onCrawls]
  have rest := keepsRest t.store (.markCanceled crawl.id t.now)
  rcases cancels t.store crawl.id t.now h.sound with same | ⟨sound, canceled⟩
  · dsimp only
    rw [same]
    exact h
  · refine ⟨⟨rest.trans h.rest, fun owner id => ?_⟩, sound, h.now⟩
    dsimp only
    rw [canceled.crawls, h.now]
    split
    · next named =>
      have fate := h.crawls owner id
      generalize lookUpCrawl t.store owner id = after at fate
      cases fate with
      | kept => exact .canceled crawl stopped named.symm
      | canceled other before sameId =>
        -- a second cancellation comes at the same time and changes nothing
        let cancel (crawl : Crawl) := { crawl with state := .canceled, finished := some w.now }
        have again : ((lookUpCrawl w.store owner id).map cancel).map (·.canceledAt w.now)
            = (lookUpCrawl w.store owner id).map cancel := by
          cases lookUpCrawl w.store owner id <;> rfl
        rw [again]
        exact .canceled crawl stopped named.symm
      | overlapped other file deleted listed mine =>
        exact .overlapped other file deleted listed mine
    · exact h.crawls owner id

/-- Others may delete crawls of the organization while the object of a file is deleted. -/
theorem overlap (h : Sparing services org steps w t) {crawl : Crawl} {file : CrawlFile}
    (deleted : .deleteFile crawl file ∈ steps) (type : CrawlType) :
    Sparing services org steps w
      ((Action.onCrawls (.delete org.id (services.overlapping file) type)).run t).2 := by
  let ids := services.overlapping file
  obtain ⟨sound, removes⟩ := RemovingStore.removes t.store org.id ids type h.sound
  have rest := keepsRest t.store (.delete org.id ids type)
  refine ⟨⟨rest.trans h.rest, fun owner id => ?_⟩, sound, h.now⟩
  rw [Action.run_onCrawls]
  dsimp only
  rcases removes owner id with same | ⟨mine, listed, absent⟩
  · rw [same]
    exact h.crawls owner id
  · rw [absent]
    exact .overlapped crawl file deleted listed mine

end Sparing

namespace Action

theorem sparing_deleteMeanwhile {crawl : Crawl} {file : CrawlFile}
    (deleted : .deleteFile crawl file ∈ steps) (type : CrawlType) :
    Attempt.Preserves (Sparing services org steps w)
      (deleteMeanwhile org (services.overlapping file) type) := by
  refine .ite (fun _ => .pure _) fun _ => .tryCatch (.bind ?_ fun _ => .pure _) fun _ => .pure _
  intro t h
  exact h.overlap deleted type

theorem sparing_perform {step : ReclaimStep} (mem : step ∈ steps) :
    Attempt.Preserves (Sparing services org steps w) (step.perform services org) := by
  cases step with
  | stop crawl =>
    refine .bind (fun t h => h.told _) fun answer => ?_
    refine .ite (fun _ => .pure _) fun _ => .ite (fun _ => ?_) fun _ => .throw _
    exact .getBind fun t h => h.cancel mem
  | deleteFile crawl file =>
    refine .bind .get fun before => ?_
    refine .bind (sparing_deleteMeanwhile mem .crawl) fun _ => ?_
    refine .bind (sparing_deleteMeanwhile mem .upload) fun _ => ?_
    refine .bind (fun t h => h.told _) fun deleted => ?_
    exact .ite (fun _ t h => h.told _) fun _ => .throw _
  | announce crawl => exact fun t h => h.told _

/-- Steps change nothing but crawls and remove none, whether they are all done or not. -/
theorem sparing_forM_perform (sound : IsSound w.store) (steps : List ReclaimStep) :
    Sparing services org steps w ((steps.forM (ReclaimStep.perform services org)).run w).2 :=
  Attempt.Preserves.forM (fun _ mem => sparing_perform mem) w (.start sound)

end Action

end Generic

end ArchiveAccounts
