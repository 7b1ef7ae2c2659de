import ArchiveAccounts.Proofs.Service.Success
import ArchiveAccounts.Proofs.Store.LookUps

/-!
# Checks before changes

All that a call on a store reads and checks comes before what it writes, so that one that fails has
changed nothing, even before anything is taken back. Main statements: `failsUnchanged_perform` for
tables of crawls and for the organizations of a relational store, `failsUnchanged_performOnCrawls`
for its crawls, and `failsUnchanged_onOrgs` for the store in memory.
-/

namespace ArchiveAccounts
set_option autoImplicit false

namespace Attempt

variable {σ τ α β : Type}

/-- Whether a computation has changed nothing if it fails. -/
def FailsUnchanged (a : Attempt σ α) : Prop := ∀ s e t, a.run s = (.error e, t) → t = s

theorem succeeds_modify (f : σ → σ) : Succeeds (fun _ => True) (modify f : Attempt σ PUnit) :=
  .change fun _ h => h

namespace FailsUnchanged

theorem throw (e : Failure) : FailsUnchanged (MonadExcept.throw e : Attempt σ α) := by
  rintro s _ _ ⟨⟩
  rfl

/-- A computation that never fails. -/
theorem succeeds {a : Attempt σ α} (h : Succeeds (fun _ => True) a) : FailsUnchanged a := by
  intro s e t failed
  obtain ⟨x, u, run, _⟩ := h s trivial
  rw [run] at failed
  cases failed

/-- What comes after a computation that keeps every property of the state. -/
theorem bind {a : Attempt σ α} {f : α → Attempt σ β} (looks : ∀ P : σ → Prop, Preserves P a)
    (later : ∀ x, FailsUnchanged (f x)) : FailsUnchanged (a >>= f) := by
  intro s e t failed
  have same : (a.run s).2 = s := looks (· = s) s rfl
  rw [run_bind] at failed
  split at failed
  · next x u run =>
    rw [run] at same
    rw [← show u = s from same]
    exact later x u e t failed
  · next _ u run =>
    rw [run] at same
    exact (congrArg Prod.snd failed).symm.trans same

/-- What fails unchanged does so before a computation that never fails. -/
theorem before {a : Attempt σ α} {f : α → Attempt σ β} (first : FailsUnchanged a)
    (later : ∀ x, Succeeds (fun _ => True) (f x)) : FailsUnchanged (a >>= f) := by
  intro s e t failed
  rw [run_bind] at failed
  split at failed
  · next x u run =>
    obtain ⟨y, v, succeeded, _⟩ := later x u trivial
    rw [succeeded] at failed
    cases failed
  · next _ u run =>
    injection failed with _ same
    rw [← same]
    exact first s _ u run

theorem getBind {f : σ → Attempt σ α} (later : ∀ s, FailsUnchanged (f s)) :
    FailsUnchanged (MonadState.get >>= f) :=
  bind (fun _ => .get) later

theorem ite {c : Prop} [Decidable c] {a b : Attempt σ α} (yes : FailsUnchanged a)
    (no : FailsUnchanged b) : FailsUnchanged (if c then a else b) := by
  split
  · exact yes
  · exact no

/-- What comes after a check that may throw. -/
theorem check {c : Prop} [Decidable c] {e : Failure} {k : PUnit → Attempt σ α}
    (passed : FailsUnchanged (k ())) :
    FailsUnchanged (if c then MonadExcept.throw e >>= k else k ()) :=
  ite (bind (fun _ => .throw e) fun _ => passed) passed

/-- Nothing has to be taken back of a computation that fails unchanged. -/
theorem atomically_eq {a : Attempt σ α} (h : FailsUnchanged a) : atomically a = a := by
  funext s
  show (atomically a).run s = a.run s
  rw [run_atomically]
  split
  · next run => rw [run]
  · next e t run => rw [run, h s e t run]

theorem zoom {part : σ → τ} {replace : σ → τ → σ} (same : ∀ s, replace s (part s) = s)
    {a : Attempt τ α} (h : FailsUnchanged a) :
    FailsUnchanged (Attempt.zoom part replace a) := by
  intro s e t failed
  rw [run_zoom] at failed
  injection failed with error after
  have kept : (a.run (part s)).2 = part s := h (part s) e _ (Prod.ext error rfl)
  rw [← after]
  exact (congrArg (replace s) kept).trans (same s)

end FailsUnchanged

end Attempt

open Attempt (FailsUnchanged Succeeds succeeds_modify)

/-! ## The store in memory -/

namespace CrawlTable

theorem succeeds_put (crawl : Crawl) : Succeeds (fun _ => True) (put crawl) := succeeds_modify _

theorem looks_find (id : String) (P : CrawlTable → Prop) : Attempt.Preserves P (find id) := by
  intro table h
  rw [run_find]
  exact h

theorem looks_findOf (orgId id : String) (P : CrawlTable → Prop) :
    Attempt.Preserves P (findOf orgId id) := by
  intro table h
  rw [run_findOf]
  exact h

/-- A call on a table of crawls that fails has changed nothing. -/
theorem failsUnchanged_perform (call : CrawlCall) : FailsUnchanged (perform call) := by
  cases call with
  | insert crawl => exact .succeeds (succeeds_put crawl)
  | get orgId id =>
    intro table e t failed
    rw [perform, run_findOf] at failed
    exact (congrArg Prod.snd failed).symm
  | setSignedUrl id filename url expiresAt =>
    refine .getBind fun table => ?_
    split
    · exact .succeeds ((succeeds_put _).bind fun _ => .pure _)
    · exact .succeeds (.pure _)
  | addReplica id filename replica | markCanceled id finished =>
    exact .bind (looks_find id) fun crawl => .succeeds (succeeds_put _)
  | updateMetadata orgId id type update =>
    refine .bind (looks_findOf orgId id) fun crawl => .ite ?_ (.throw _)
    exact .succeeds (succeeds_put _)
  | addCollection orgId id collection =>
    refine .bind (looks_findOf orgId id) fun crawl => .bind ?_ fun joined => ?_
    · intro P table h
      rw [Attempt.run_liftM]
      exact h
    · exact .succeeds (succeeds_put joined)
  | removeCollection orgId id collection =>
    exact .bind (looks_findOf orgId id) fun crawl => .succeeds (succeeds_put _)
  | delete orgId ids type =>
    intro table e t failed
    obtain ⟨removed, rest, run, _⟩ := run_delete table orgId type ids
    rw [perform, run] at failed
    cases failed

end CrawlTable

namespace MemoryStore

/-- A call on the organizations in memory that fails has changed nothing. -/
theorem failsUnchanged_onOrgs (call : OrgCall) : FailsUnchanged (onOrgs call) := by
  intro s e t failed
  cases isThere : s.orgs.get? call.orgId with
  | none =>
    cases new : call.isInsert with
    | true =>
      cases call with
      | insert org => cases failed
      | _ => cases new
    | false =>
      rw [run_onOrgs_of_none isThere new] at failed
      exact (congrArg Prod.snd failed).symm
  | some org =>
    rw [run_onOrgs isThere] at failed
    cases failed

theorem failsUnchanged_onCrawls (call : CrawlCall) : FailsUnchanged (onCrawls call) :=
  .zoom (fun _ => rfl) (CrawlTable.failsUnchanged_perform call)

end MemoryStore

/-! ## The relational store -/

namespace RelationalStore

theorem failsUnchanged_need {α : Type} (value : Option α) : FailsUnchanged (need value) := by
  cases value with
  | none => exact .throw _
  | some a => exact .succeeds (.pure a)

/-- What comes after a value was needed. -/
theorem failsUnchanged_needBind {α β : Type} {value : Option α} {f : α → Attempt RelationalStore β}
    (later : ∀ a, FailsUnchanged (f a)) : FailsUnchanged (need value >>= f) := by
  refine .bind (fun P s h => ?_) later
  cases value <;> exact h

theorem succeeds_put (id : String) (row : OrgRow) : Succeeds (fun _ => True) (put id row) :=
  succeeds_modify _

/-- All that a call on the organizations reads and checks comes before what it writes. -/
theorem failsUnchanged_perform (call : OrgCall) : FailsUnchanged (perform call) := by
  cases call with
  | insert org =>
    refine failsUnchanged_needBind fun rows => ?_
    exact .succeeds ((succeeds_put org.id _).bind fun _ => succeeds_modify _)
  | get id =>
    exact .bind (fun P => preserves_find id) fun row => .getBind fun s => failsUnchanged_need _
  | countSeconds id counter period n =>
    exact .bind (fun P => preserves_find id) fun row => .succeeds (succeeds_modify _)
  | creditMonthly id period n quota =>
    refine .bind (fun P => preserves_find id) fun row => .getBind fun s => ?_
    refine failsUnchanged_needBind fun used => .succeeds (.ite ?_ (.pure _))
    exact (succeeds_modify _).bind fun _ => .pure _
  | drawPool id pool period n =>
    refine .bind (fun P => preserves_find id) fun row => failsUnchanged_needBind fun left => ?_
    refine .succeeds (.ite ?_ (.pure _))
    exact (succeeds_put id _).bind fun _ => (succeeds_modify _).bind fun _ => .pure _
  | shiftBytes id delta kind =>
    exact .bind (fun P => preserves_find id) fun row => .succeeds (succeeds_put id _)
  | updateQuotas id patch modified retention =>
    refine failsUnchanged_needBind fun change => .bind (fun P => preserves_load id) fun org => ?_
    refine .bind (fun P => preserves_find id) fun row => .succeeds ?_
    refine (succeeds_put id _).bind fun _ => (succeeds_modify _).bind fun _ => ?_
    split
    · exact (succeeds_modify _).bind fun _ => .pure _
    · exact .pure _

theorem failsUnchanged_storeCrawl (crawl : Crawl) : FailsUnchanged (storeCrawl crawl) := by
  refine failsUnchanged_needBind fun written => .getBind fun s => .succeeds ?_
  split
  · exact .pure ()
  · exact succeeds_modify _

/-- All that a call on the crawls reads and checks comes before what it writes. -/
theorem failsUnchanged_performOnCrawls (call : CrawlCall) :
    FailsUnchanged (performOnCrawls call) := by
  cases call with
  | insert crawl => exact failsUnchanged_needBind fun row => .succeeds (succeeds_modify _)
  | get orgId id =>
    intro s e t failed
    rw [performOnCrawls, run_loadCrawl_eq] at failed
    exact (congrArg Prod.snd failed).symm
  | setSignedUrl id filename url expiresAt =>
    refine .bind (fun P => preserves_loadCrawl? none id) fun found => ?_
    split
    · exact .before (failsUnchanged_storeCrawl _) fun _ => .pure _
    · exact .succeeds (.pure _)
  | addReplica id filename replica =>
    refine .bind (fun P => preserves_loadCrawl none id) fun crawl => .ite ?_ ?_
    · exact failsUnchanged_storeCrawl _
    · exact .succeeds (.pure _)
  | updateMetadata orgId id type update =>
    refine .bind (fun P => preserves_loadCrawl _ id) fun crawl => .ite ?_ (.throw _)
    exact failsUnchanged_storeCrawl _
  | markCanceled id finished =>
    exact .bind (fun P => preserves_loadCrawl none id) fun crawl => failsUnchanged_storeCrawl _
  | addCollection orgId id collection =>
    refine .bind (fun P => preserves_loadCrawl _ id) fun crawl => .bind ?_ fun joined => ?_
    · intro P s h
      rw [Attempt.run_liftM]
      exact h
    · exact failsUnchanged_storeCrawl joined
  | removeCollection orgId id collection =>
    refine .bind (fun P => preserves_loadCrawl _ id) fun crawl => .ite ?_ ?_
    · exact failsUnchanged_storeCrawl _
    · exact .succeeds (.pure _)
  | delete orgId ids type =>
    refine .ite (.succeeds (.pure _)) (.check (.getBind fun s => ?_))
    exact .succeeds ((succeeds_modify _).bind fun _ => .pure _)

end RelationalStore

end ArchiveAccounts
