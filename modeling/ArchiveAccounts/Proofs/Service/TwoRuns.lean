import ArchiveAccounts.Service.World

/-!
# Two runs of one computation

A computation agrees on related states if it comes to the same answer on them and leaves them
related. It is enough that each step agrees; what is known of an answer is known to the steps that
come after it. Main statements: `bind`, `tryCatch`, `forM` and `mapM`.
-/

namespace ArchiveAccounts
set_option autoImplicit false

namespace Attempt

variable {σ α β γ : Type}

/-- Whether two runs came to the same answer, of which `Q` holds, and to related states. -/
structure Meet (R : σ → σ → Prop) (Q : α → Prop) (x y : Except Failure α × σ) : Prop where
  same : x.1 = y.1
  answers : ∀ a, x.1 = .ok a → Q a
  related : R x.2 y.2

/-- Runs that meet both succeed or both fail. -/
theorem Meet.cases {R : σ → σ → Prop} {Q : α → Prop} {x y : Except Failure α × σ}
    (h : Meet R Q x y) :
    (∃ a s t, x = (.ok a, s) ∧ y = (.ok a, t) ∧ Q a ∧ R s t) ∨
      ∃ e s t, x = (.error e, s) ∧ y = (.error e, t) ∧ R s t := by
  obtain ⟨result, s⟩ := x
  obtain ⟨result', t⟩ := y
  obtain ⟨same, answers, related⟩ := h
  obtain rfl : result = result' := same
  cases result with
  | ok a => exact .inl ⟨a, s, t, rfl, rfl, answers a rfl, related⟩
  | error e => exact .inr ⟨e, s, t, rfl, rfl, related⟩

/-- Whether a computation comes to the same on related states, with an answer of which `Q` holds. -/
def Agrees (R : σ → σ → Prop) (Q : α → Prop) (a : Attempt σ α) : Prop :=
  ∀ s t, R s t → Meet R Q (a.run s) (a.run t)

/-- What is known of an answer of which nothing has to be known. -/
abbrev Any : α → Prop := fun _ => True

namespace Agrees

variable {R : σ → σ → Prop} {Q : α → Prop} {Q' : β → Prop}

theorem pure {x : α} (h : Q x) : Agrees R Q (Pure.pure x) := by
  intro s t related
  refine ⟨rfl, ?_, related⟩
  rintro _ ⟨⟩
  exact h

theorem throw (e : Failure) : Agrees R Q (MonadExcept.throw e) := by
  intro s t related
  exact ⟨rfl, nofun, related⟩

theorem lift {x : Except Failure α} (h : ∀ a, x = .ok a → Q a) :
    Agrees R Q (liftM x : Attempt σ α) := by
  cases x with
  | error e => exact throw e
  | ok a => exact pure (h a rfl)

theorem change {f : σ → σ} (h : ∀ s t, R s t → R (f s) (f t)) :
    Agrees R Any (modify f : Attempt σ PUnit) := by
  intro s t related
  exact ⟨rfl, fun _ _ => trivial, h s t related⟩

theorem imp {P : α → Prop} {a : Attempt σ α} (h : Agrees R P a) (weaker : ∀ x, P x → Q x) :
    Agrees R Q a := by
  intro s t related
  obtain ⟨same, answers, after⟩ := h s t related
  exact ⟨same, fun x answer => weaker x (answers x answer), after⟩

theorem bind {a : Attempt σ α} {f : α → Attempt σ β} (first : Agrees R Q a)
    (later : ∀ x, Q x → Agrees R Q' (f x)) : Agrees R Q' (a >>= f) := by
  intro s t related
  rw [run_bind, run_bind]
  obtain ⟨x, s', t', run, run', known, after⟩ | ⟨e, s', t', run, run', after⟩ :=
    (first s t related).cases
  · rw [run, run']
    exact later x known s' t' after
  · rw [run, run']
    exact ⟨rfl, nofun, after⟩

/-- What comes after a look at the state may depend on it. -/
theorem getBind {f : σ → Attempt σ α} (h : ∀ s t, R s t → Meet R Q ((f s).run s) ((f t).run t)) :
    Agrees R Q (MonadState.get >>= f) := by
  intro s t related
  rw [run_bind, run_bind, run_get, run_get]
  exact h s t related

/-- A look at what related states have in common. -/
theorem view {f : σ → Attempt σ α} (same : ∀ s t, R s t → f t = f s)
    (each : ∀ s, Agrees R Q (f s)) : Agrees R Q (MonadState.get >>= f) := by
  refine getBind fun s t related => ?_
  rw [same s t related]
  exact each s s t related

theorem tryCatch {a : Attempt σ α} {handle : Failure → Attempt σ α} (first : Agrees R Q a)
    (later : ∀ e, Agrees R Q (handle e)) : Agrees R Q (MonadExcept.tryCatch a handle) := by
  intro s t related
  rw [run_tryCatch, run_tryCatch]
  obtain ⟨x, s', t', run, run', known, after⟩ | ⟨e, s', t', run, run', after⟩ :=
    (first s t related).cases
  · rw [run, run']
    exact pure known s' t' after
  · rw [run, run']
    exact later e s' t' after

theorem atomically {a : Attempt σ α} (h : Agrees R Q a) : Agrees R Q (Attempt.atomically a) := by
  intro s t related
  rw [run_atomically, run_atomically]
  obtain ⟨x, s', t', run, run', known, after⟩ | ⟨e, s', t', run, run', _⟩ :=
    (h s t related).cases
  · rw [run, run']
    exact pure known s' t' after
  · rw [run, run']
    exact throw e s t related

theorem ite {c : Prop} [Decidable c] {a b : Attempt σ α} (yes : c → Agrees R Q a)
    (no : ¬c → Agrees R Q b) : Agrees R Q (if c then a else b) := by
  split
  · next h => exact yes h
  · next h => exact no h

/-- What comes after a check that may throw. -/
theorem check {c : Prop} [Decidable c] {e : Failure} {k : PUnit → Attempt σ α}
    (passed : Agrees R Q (k ())) :
    Agrees R Q (if c then MonadExcept.throw e >>= k else k ()) :=
  ite (fun _ => bind (Q := Any) (throw e) fun _ _ => passed) fun _ => passed

theorem forM {l : List γ} {f : γ → Attempt σ PUnit} (each : ∀ x ∈ l, Agrees R Any (f x)) :
    Agrees R Any (l.forM f) := by
  induction l with
  | nil => exact pure trivial
  | cons x l ih =>
    obtain ⟨first, later⟩ := List.forall_mem_cons.1 each
    exact bind first fun _ _ => ih later

theorem mapM {l : List γ} {f : γ → Attempt σ β} (each : ∀ x ∈ l, Agrees R Any (f x)) :
    Agrees R Any (l.mapM f) := by
  induction l with
  | nil => exact pure trivial
  | cons x l ih =>
    obtain ⟨first, later⟩ := List.forall_mem_cons.1 each
    rw [List.mapM_cons]
    exact bind first fun _ _ => bind (ih later) fun _ _ => pure trivial

end Agrees

end Attempt

/-- Whether two worlds differ in their stores only, which are related. -/
def World.Alike {σ : Type} (R : σ → σ → Prop) (w v : World σ) : Prop :=
  ∃ store, R w.store store ∧ v = { w with store }

namespace Action

variable {σ α : Type}

/-- Whether an action comes to the same in worlds that differ in related stores only. -/
def Agrees (R : σ → σ → Prop) (Q : α → Prop) (a : Action σ α) : Prop :=
  Attempt.Agrees (World.Alike R) Q a

namespace Agrees

open Attempt (Any)

variable {R : σ → σ → Prop} {Q : α → Prop}

theorem onStore {a : Attempt σ α} (h : Attempt.Agrees R Q a) :
    Action.Agrees R Q (Action.onStore a) := by
  rintro w _ ⟨store, related, rfl⟩
  obtain ⟨same, answers, after⟩ := h w.store store related
  exact ⟨same, answers, _, after, rfl⟩

theorem record (event : Event) : Action.Agrees R Any (Action.record event) := by
  rintro w _ ⟨store, related, rfl⟩
  exact ⟨rfl, fun _ _ => trivial, store, related, rfl⟩

theorem ask (event : Event) (answer : List Event → Except Failure α) :
    Action.Agrees R Any (Action.ask event answer) := by
  rintro w _ ⟨store, related, rfl⟩
  exact ⟨rfl, fun _ _ => trivial, store, related, rfl⟩

theorem count (change : Metrics → Metrics) : Action.Agrees R Any (Action.count change) := by
  rintro w _ ⟨store, related, rfl⟩
  exact ⟨rfl, fun _ _ => trivial, store, related, rfl⟩

theorem send (message : Message) : Action.Agrees R Any (Action.send message) := by
  rintro w _ ⟨store, related, rfl⟩
  exact ⟨rfl, fun _ _ => trivial, store, related, rfl⟩

/-- A look at anything but the store. -/
theorem view {f : World σ → Action σ α} (same : ∀ w store, f { w with store } = f w)
    (each : ∀ w, Action.Agrees R Q (f w)) : Action.Agrees R Q (MonadState.get >>= f) := by
  refine Attempt.Agrees.view ?_ each
  rintro w _ ⟨store, _, rfl⟩
  exact same w store

theorem period : Action.Agrees R Any (Action.period : Action σ String) := by
  refine view (fun _ _ => rfl) fun w => ?_
  exact .ite (fun _ => .pure trivial) fun _ => .throw _

end Agrees

end Action

end ArchiveAccounts
