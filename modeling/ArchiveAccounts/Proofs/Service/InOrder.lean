import ArchiveAccounts.Proofs.Service.ReclaimSteps
import ArchiveAccounts.Proofs.Service.Success

/-!
# Deletions in order

What a deletion asks and tells before its batch is committed comes in one order: for each crawl of
the batch the stop if it is running, each file followed by the deletion of its copies, and the
notice that the crawl is deleted. A deletion that is given up breaks off at the question that was
answered badly; only one that has come to the end of the order removes crawls, moves bytes and
corrects crawl configs. Main statement: `deleteCrawls_inOrder`.
-/

namespace ArchiveAccounts
set_option autoImplicit false

open AccountStore Calendar LawfulStore

/-- Whether only crawl configs were corrected between two worlds. -/
def World.OnlyCorrects {σ : Type} (w t : World σ) : Prop :=
  ∃ corrections, t.trace = w.trace ++ corrections ∧
    ∀ event ∈ corrections, event.isCorrection = true

namespace World.OnlyCorrects

variable {σ : Type} {w t : World σ}

theorem start (w : World σ) : OnlyCorrects w w :=
  ⟨[], (List.append_nil _).symm, List.forall_mem_nil _⟩

theorem record (h : OnlyCorrects w t) {event : Event} (corrects : event.isCorrection = true) :
    OnlyCorrects w { t with trace := t.trace ++ [event] } := by
  obtain ⟨corrections, trace, all⟩ := h
  refine ⟨corrections ++ [event], ?_, ?_⟩
  · rw [trace, List.append_assoc]
  · rw [List.forall_mem_append, List.forall_mem_singleton]
    exact ⟨all, corrects⟩

end World.OnlyCorrects

section Generic

variable {σ : Type} [AccountStore σ]

/-- The crawls of a type among the ids, each where its id comes first. -/
def AccountStore.batchOf (s : σ) (orgId : String) (type : CrawlType) (ids : List String) :
    List Crawl :=
  ids.eraseDups.filterMap fun id => (lookUpCrawl s orgId id).toOption.filter (·.type == type)

/-- What a deletion of a batch did that had some effects before it was committed or given up. -/
structure InOrder [ApartStore σ] (services : Services) (org : Organization)
    (type : CrawlType) (batch : List Crawl) (w : World σ) (effects : List Event)
    (run : Except Failure DeletionOutcome × World σ) : Prop where
  /-- The effects come in order, and none of them corrects a crawl config. -/
  inOrder : effects <+: ReclaimStep.canonical org w.isReceiving batch
  uncorrected : ∀ event ∈ effects, event.isCorrection = false
  /-- They are whole if and only if the batch is committed. -/
  whole : effects = ReclaimStep.canonical org w.isReceiving batch ↔
    ((Action.reclaim services org batch).run w).1 = .ok ()
  committed : ∀ mid, (Action.reclaim services org batch).run w = (.ok (), mid) →
    mid.trace = w.trace ++ effects ∧ run = (Action.commit services org batch type).run mid ∧
      World.OnlyCorrects mid run.2
  /-- A batch that is given up ends with the question of a step that fails. -/
  givenUp : ∀ e t, (Action.reclaim services org batch).run w = (.error e, t) →
    t.trace = w.trace ++ effects ∧ run = (.error e, t) ∧
      Spares services org (ReclaimStep.ofBatch batch) w t ∧
      ∃ before step after mid, ReclaimStep.ofBatch batch = before ++ step :: after ∧
        (before.forM (ReclaimStep.perform services org)).run w = (.ok (), mid) ∧
        step.Fails services org mid e ∧
        effects = before.flatMap (ReclaimStep.events org w.isReceiving) ++
          [step.question org w.isReceiving]
  /-- The batch is reclaimed by its steps, which change nothing but crawls and remove none, however
  many of them were taken. -/
  reclaims : (batch.forM (Action.reclaimCrawl services org)).run w
    = ((ReclaimStep.ofBatch batch).forM (ReclaimStep.perform services org)).run w
  halfway : ∀ steps, steps <+: ReclaimStep.ofBatch batch →
    Spares services org steps w ((steps.forM (ReclaimStep.perform services org)).run w).2

/-- Whether a deletion does what it does in order, if its batch is validated and holds a crawl. -/
def DeletesInOrder [ApartStore σ] (services : Services) (org : Organization) (ids : List String)
    (type : CrawlType) (user : Option String) (w : World σ) : Prop :=
  ∀ batch, ((Action.validated org ids type user).run w).1 = .ok batch → batch ≠ [] →
    batch = batchOf w.store org.id type ids ∧
      ∃ effects, InOrder services org type batch w effects
        ((Action.deleteCrawls services org ids type user).run w)

namespace ReclaimStep

variable {services : Services} {org : Organization} {received : Bool} {batch : List Crawl}
  {before after : List ReclaimStep} {step : ReclaimStep}

/-- The canonical events go on after the question of each step. -/
theorem canonical_of_split (split : ofBatch batch = before ++ step :: after) :
    canonical org received batch
      = (before.flatMap (events org received) ++ [step.question org received]) ++
        (step.followUp org received ++ after.flatMap (events org received)) := by
  rw [canonical, split, List.flatMap_append, List.flatMap_cons, events]
  simp

theorem prefix_canonical_of_split (split : ofBatch batch = before ++ step :: after) :
    before.flatMap (events org received) ++ [step.question org received]
      <+: canonical org received batch :=
  ⟨_, (canonical_of_split split).symm⟩

/-- A step that fails is not the last one. -/
theorem Fails.after_ne_nil {w : World σ} {e : Failure} (fails : step.Fails services org w e)
    (nonempty : batch ≠ []) (split : ofBatch batch = before ++ step :: after) : after ≠ [] := by
  rintro rfl
  obtain ⟨others, crawl, ends⟩ := ofBatch_eq_concat nonempty
  have last : step = announce crawl := by
    have same := split.symm.trans ends
    exact (List.append_singleton_inj.1 same).2
  subst last
  cases fails

theorem canonical_ne_of_fails {w : World σ} {e : Failure} (fails : step.Fails services org w e)
    (nonempty : batch ≠ []) (split : ofBatch batch = before ++ step :: after) :
    before.flatMap (events org received) ++ [step.question org received]
      ≠ canonical org received batch := by
  rw [canonical_of_split split]
  intro same
  have none_ := List.append_right_eq_self.1 same.symm
  obtain ⟨_, none_⟩ := List.append_eq_nil_iff.1 none_
  cases after with
  | nil => exact fails.after_ne_nil nonempty split rfl
  | cons next after => cases none_

end ReclaimStep

namespace Action

variable {services : Services} {org : Organization} {type : CrawlType} {batch : List Crawl}
  {w : World σ}

/-- A reclamation is its steps, but for what is counted. -/
theorem run_reclaim_eq (w : World σ) :
    ∃ metrics,
      let run := ((ReclaimStep.ofBatch batch).forM (ReclaimStep.perform services org)).run w
      (reclaim services org batch).run w = (run.1, { run.2 with metrics }) := by
  rw [reclaim, Attempt.run_tryCatch, forM_reclaimCrawl]
  generalize ((ReclaimStep.ofBatch batch).forM (ReclaimStep.perform services org)).run w = run
  obtain ⟨result, t⟩ := run
  cases result with
  | ok => exact ⟨t.metrics, rfl⟩
  | error e =>
    dsimp only
    split
    · exact ⟨t.metrics.addAborted, rfl⟩
    · exact ⟨t.metrics, rfl⟩

/-- When a batch is committed no collaborator but the crawl configs hears of it. -/
theorem onlyCorrects_commit :
    Attempt.Preserves (World.OnlyCorrects w) (commit services org batch type) := by
  have correct : ∀ config c,
      Attempt.Preserves (World.OnlyCorrects w) (correctConfig services config c) := by
    intro config c
    exact .bind (fun t h => h.record rfl) fun isThere => .ite (fun _ => .pure _) fun _ => .throw _
  have settles : ∀ deleted reclaimed,
      Attempt.Preserves (World.OnlyCorrects w) (settle services org deleted reclaimed) := by
    intro deleted reclaimed
    refine .bind (.forM fun entry _ => correct entry.1 entry.2) fun _ => ?_
    exact .bind (fun t h => h) fun _ => .bind (fun t h => h) fun _ => .pure _
  refine .bind (fun t h => h) fun removed => ?_
  exact .ite (fun _ => .bind (fun t h => h) fun _ => settles _ _) fun _ => settles _ _

/-- A batch that is validated holds its crawls in the order of the ids. -/
theorem eq_filterMap_of_validate [LawfulStore σ] {user : Option String} {ids : List String}
    {t : World σ} (valid : (validate org type user ids).run w = (.ok batch, t)) :
    batch = ids.filterMap fun id =>
      (lookUpCrawl w.store org.id id).toOption.filter (·.type == type) := by
  induction ids generalizing batch t with
  | nil =>
    obtain ⟨rfl, _⟩ := Attempt.run_pure_eq_ok_iff.1 valid
    rfl
  | cons id rest ih =>
    obtain ⟨crawl, mid, looks, later⟩ := Attempt.run_bind_eq_ok_iff.1 valid
    rw [run_getCrawl_eq] at looks
    obtain ⟨found, rfl⟩ := Prod.mk.inj looks
    rw [List.filterMap_cons, found, Except.toOption, Option.filter_some]
    split at later
    · next other =>
      rw [if_neg (by simpa using other)]
      exact ih later
    · next same =>
      rw [if_pos (by simpa using same)]
      split at later
      · obtain ⟨others, end_, rest, done⟩ := Attempt.run_bind_eq_ok_iff.1 later
        obtain ⟨rfl, _⟩ := Attempt.run_pure_eq_ok_iff.1 done
        rw [ih rest]
      · cases later

section Ends

variable [ApartStore σ] {t : World σ}

/-- A batch of which all steps were done is committed. -/
theorem inOrder_of_done (sound : IsSound w.store)
    (run : (reclaim services org batch).run w = (.ok (), t))
    (trace : t.trace = w.trace ++ ReclaimStep.canonical org w.isReceiving batch) :
    InOrder services org type batch w (ReclaimStep.canonical org w.isReceiving batch)
      ((commit services org batch type).run t) where
  inOrder := List.prefix_refl _
  uncorrected _ := ReclaimStep.isCorrection_of_mem_canonical
  whole := by
    rw [run]
    exact ⟨fun _ => rfl, fun _ => rfl⟩
  committed mid reclaimed := by
    obtain ⟨_, rfl⟩ := Prod.mk.inj (run.symm.trans reclaimed)
    exact ⟨trace, rfl, onlyCorrects_commit t (.start t)⟩
  givenUp e last failed := by
    rw [run] at failed
    cases failed
  reclaims := congrArg (fun a : Action σ Unit => a.run w) (forM_reclaimCrawl services org batch)
  halfway steps _ := (sparing_forM_perform sound steps).toSpares

/-- A batch of which a step fails is given up there. -/
theorem inOrder_of_fails (sound : IsSound w.store) (nonempty : batch ≠ []) {e : Failure}
    {before after : List ReclaimStep} {step : ReclaimStep} {mid : World σ}
    (run : (reclaim services org batch).run w = (.error e, t))
    (spares : Spares services org (ReclaimStep.ofBatch batch) w t)
    (split : ReclaimStep.ofBatch batch = before ++ step :: after)
    (taken : (before.forM (ReclaimStep.perform services org)).run w = (.ok (), mid))
    (midTrace : mid.trace = w.trace ++ before.flatMap (ReclaimStep.events org w.isReceiving))
    (fails : step.Fails services org mid e)
    (trace : t.trace = mid.trace ++ [step.question org w.isReceiving]) :
    InOrder services org type batch w
      (before.flatMap (ReclaimStep.events org w.isReceiving) ++
        [step.question org w.isReceiving]) (.error e, t) where
  inOrder := ReclaimStep.prefix_canonical_of_split split
  uncorrected _ mem := ReclaimStep.isCorrection_of_mem_canonical
    ((ReclaimStep.prefix_canonical_of_split split).subset mem)
  whole := by
    rw [run]
    constructor
    · exact fun same => absurd same (ReclaimStep.canonical_ne_of_fails fails nonempty split)
    · rintro ⟨⟩
  committed mid reclaimed := by
    rw [run] at reclaimed
    cases reclaimed
  givenUp failure last failed := by
    obtain ⟨same, rfl⟩ := Prod.mk.inj (run.symm.trans failed)
    obtain rfl := Except.error.inj same
    refine ⟨?_, rfl, spares, before, step, after, mid, split, taken, fails, rfl⟩
    rw [← List.append_assoc, ← midTrace]
    exact trace
  reclaims := congrArg (fun a : Action σ Unit => a.run w) (forM_reclaimCrawl services org batch)
  halfway steps _ := (sparing_forM_perform sound steps).toSpares

/-- The effects of a batch that is reclaimed and committed come in order. -/
theorem exists_inOrder (sound : IsSound w.store) (nonempty : batch ≠ []) :
    ∃ effects, InOrder services org type batch w effects
      ((reclaim services org batch >>= fun _ => commit services org batch type).run w) := by
  have spares : Spares services org (ReclaimStep.ofBatch batch) w _ :=
    (sparing_forM_perform sound (ReclaimStep.ofBatch batch)).toSpares
  have ends : ReclaimStep.RunEnds services org (ReclaimStep.ofBatch batch) w _ :=
    runEnds_forM_perform (ReclaimStep.ofBatch batch) w
  have run : ∃ metrics, (reclaim services org batch).run w = _ := run_reclaim_eq w
  obtain ⟨metrics, run⟩ := run
  generalize ((ReclaimStep.ofBatch batch).forM (ReclaimStep.perform services org)).run w
    = result at ends run spares
  rw [Attempt.run_bind, run]
  cases ends with
  | done t trace => exact ⟨_, inOrder_of_done sound run trace⟩
  | failed before after step mid t e split taken midTrace fails trace =>
    exact ⟨_, inOrder_of_fails sound nonempty run ⟨spares.rest, spares.crawls⟩ split taken midTrace
      fails trace⟩

end Ends

/-- A deletion of a batch that is validated does what it does in order. -/
theorem deletesInOrder [ApartStore σ] (services : Services) (org : Organization)
    (ids : List String) (type : CrawlType) (user : Option String) (sound : IsSound w.store) :
    DeletesInOrder services org ids type user w := by
  intro batch valid nonempty
  obtain ⟨result, run, _⟩ := run_validated_eq org ids type user sound
  rw [run] at valid
  obtain rfl : result = .ok batch := valid
  have isEmpty : batch.isEmpty = false := by
    rw [← Bool.not_eq_true, List.isEmpty_iff]
    exact nonempty
  constructor
  · rw [validated] at run
    split at run
    · cases run
    · exact eq_filterMap_of_validate run
  · rw [deleteCrawls_eq, Attempt.run_bind, run]
    dsimp only
    rw [isEmpty, if_neg Bool.false_ne_true]
    exact exists_inOrder sound nonempty

end Action

end Generic

/-- The stops, deletions of objects, messages and corrections of a deletion come in order, whatever
collaborators answer and others delete meanwhile, on every store in memory and on every relational
store that calls come to. -/
theorem deleteCrawls_inOrder (services : Services) (org : Organization) (ids : List String)
    (type : CrawlType) (user : Option String) :
    (∀ w : World MemoryStore, DeletesInOrder services org ids type user w) ∧
      ∀ (calls : List StoreCall) (w : World RelationalStore), w.store = afterCalls calls {} →
        DeletesInOrder services org ids type user w := by
  constructor
  · intro w
    exact Action.deletesInOrder services org ids type user trivial
  · intro calls w reached
    have sound : RelationalStore.NamesRows w.store := by
      rw [reached]
      exact RelationalStore.namesRows_afterCalls calls RelationalStore.namesRows_empty
    exact Action.deletesInOrder services org ids type user sound

/-- A batch of which the second crawl cannot be reclaimed: the first one is announced, and nothing
comes after the object that is kept. -/
theorem deleteCrawls_inOrder_running :
    let org : Organization := { id := "o" }
    let now := Moment.ofSeconds 1714521600
    let w : World MemoryStore := { store := afterCalls bringRunning {}, now }
    let rows : World RelationalStore := { store := afterCalls bringRunning {}, now }
    let run := (Action.deleteCrawls keepingOne org ["c", "d", "c"] .crawl none).run w
    run.2.trace = [.stop "c" false, .deleteObject "o" "f",
        .send (.replicaJob ⟨"o", "c", .crawl, { filename := "f", size := 1000 }⟩) true,
        .send (.deleted ⟨"o", "c", .crawl⟩) true, .stop "d" false, .deleteObject "o" "g"] ∧
      (∃ effects, InOrder keepingOne org .crawl runningCrawls w effects run) ∧
      DeletesInOrder keepingOne org ["c", "d", "c"] .crawl none rows := by
  intro org now w rows run
  obtain ⟨inMemory, inRows⟩ :=
    deleteCrawls_inOrder keepingOne org ["c", "d", "c"] .crawl none
  refine ⟨by decide +kernel, ?_, inRows bringRunning rows rfl⟩
  exact (inMemory w runningCrawls (by decide +kernel) (by decide)).2

end ArchiveAccounts
