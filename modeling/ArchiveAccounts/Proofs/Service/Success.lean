import ArchiveAccounts.Store.Call
import Mathlib.Data.List.Forall2

/-!
# Computations that succeed

What is known of the steps of a computation that came to an answer: each step came to one, and the
next one went on from there. Main statements: `run_bind_eq_ok_iff`, `of_forM` and `of_mapM`, and
`Succeeds` for computations that always come to one.
-/

namespace ArchiveAccounts.Attempt
set_option autoImplicit false

variable {σ α β γ δ : Type} {s t : σ}

theorem run_bind_eq_ok_iff {a : Attempt σ α} {f : α → Attempt σ β} {y : β} :
    (a >>= f).run s = (Except.ok y, t) ↔
      ∃ x mid, a.run s = (Except.ok x, mid) ∧ (f x).run mid = (Except.ok y, t) := by
  rw [run_bind]
  constructor
  · intro h
    split at h
    · next x mid first => exact ⟨x, mid, first, h⟩
    · exact nomatch h
  · rintro ⟨x, mid, first, later⟩
    rw [first]
    exact later

theorem run_pure_eq_ok_iff {x y : α} :
    (pure x : Attempt σ α).run s = (Except.ok y, t) ↔ y = x ∧ t = s := by
  rw [run_pure]
  constructor
  · intro h
    injection h with result same
    injection result with result
    exact ⟨result.symm, same.symm⟩
  · rintro ⟨rfl, rfl⟩
    rfl

/-- What each step of a loop does adds up, if it can be put together. -/
theorem of_forM {R : List δ → σ → σ → Prop} (start : ∀ s, R [] s s)
    (append : ∀ {a b s t u}, R a s t → R b t u → R (a ++ b) s u) {l : List γ}
    {f : γ → Attempt σ PUnit} {g : γ → List δ}
    (each : ∀ x ∈ l, ∀ s t, (f x).run s = (Except.ok ⟨⟩, t) → R (g x) s t)
    (done : (l.forM f).run s = (Except.ok ⟨⟩, t)) : R (l.flatMap g) s t := by
  induction l generalizing s with
  | nil =>
    obtain ⟨_, rfl⟩ := run_pure_eq_ok_iff.1 done
    exact start t
  | cons x l ih =>
    obtain ⟨_, mid, first, later⟩ := run_bind_eq_ok_iff.1 done
    obtain ⟨now, rest⟩ := List.forall_mem_cons.1 each
    exact append (now s mid first) (ih rest later)

/-- What each step of a loop answers, if all of them find the state as they need it. -/
theorem of_mapM {P : σ → Prop} {R : γ → β → Prop} {l : List γ} {f : γ → Attempt σ β} {ys : List β}
    (each : ∀ x ∈ l, ∀ s t y, P s → (f x).run s = (Except.ok y, t) → R x y ∧ P t) (start : P s)
    (done : (l.mapM f).run s = (Except.ok ys, t)) : List.Forall₂ R l ys := by
  induction l generalizing s ys with
  | nil =>
    obtain ⟨rfl, _⟩ := run_pure_eq_ok_iff.1 done
    exact .nil
  | cons x l ih =>
    rw [List.mapM_cons] at done
    obtain ⟨y, mid, first, later⟩ := run_bind_eq_ok_iff.1 done
    obtain ⟨more, _, rest, ends⟩ := run_bind_eq_ok_iff.1 later
    obtain ⟨rfl, rfl⟩ := run_pure_eq_ok_iff.1 ends
    obtain ⟨eachNow, eachLater⟩ := List.forall_mem_cons.1 each
    obtain ⟨answer, next⟩ := eachNow s mid y start first
    exact .cons answer (ih eachLater next rest)

/-- A loop comes to an answer if each of its steps does. -/
theorem exists_mapM {P : σ → Prop} {l : List γ} {f : γ → Attempt σ β}
    (each : ∀ x ∈ l, ∀ s, P s → ∃ y t, (f x).run s = (Except.ok y, t) ∧ P t) (start : P s) :
    ∃ ys t, (l.mapM f).run s = (Except.ok ys, t) := by
  induction l generalizing s with
  | nil => exact ⟨[], s, rfl⟩
  | cons x l ih =>
    obtain ⟨eachNow, eachLater⟩ := List.forall_mem_cons.1 each
    obtain ⟨y, mid, first, next⟩ := eachNow s start
    obtain ⟨ys, t, rest⟩ := ih eachLater next
    rw [List.mapM_cons]
    refine ⟨y :: ys, t, run_bind_eq_ok_iff.2 ⟨y, mid, first, ?_⟩⟩
    exact run_bind_eq_ok_iff.2 ⟨ys, t, rest, rfl⟩

/-- Whether a computation comes to an answer from each state of a kind, and ends in one. -/
def Succeeds (P : σ → Prop) (a : Attempt σ α) : Prop :=
  ∀ s, P s → ∃ x t, a.run s = (Except.ok x, t) ∧ P t

namespace Succeeds

variable {P : σ → Prop}

theorem pure (x : α) : Succeeds P (Pure.pure x : Attempt σ α) := fun s start => ⟨x, s, rfl, start⟩

theorem change {f : σ → σ} (h : ∀ s, P s → P (f s)) : Succeeds P (modify f : Attempt σ PUnit) :=
  fun s start => ⟨(), f s, rfl, h s start⟩

theorem ite {c : Prop} [Decidable c] {a b : Attempt σ α} (yes : Succeeds P a)
    (no : Succeeds P b) : Succeeds P (if c then a else b) := by
  split
  · exact yes
  · exact no

theorem bind {a : Attempt σ α} {f : α → Attempt σ β} (first : Succeeds P a)
    (later : ∀ x, Succeeds P (f x)) : Succeeds P (a >>= f) := by
  intro s start
  obtain ⟨x, mid, run, next⟩ := first s start
  obtain ⟨y, t, rest, ends⟩ := later x mid next
  exact ⟨y, t, run_bind_eq_ok_iff.2 ⟨x, mid, run, rest⟩, ends⟩

theorem forM {l : List γ} {f : γ → Attempt σ PUnit} (each : ∀ x ∈ l, Succeeds P (f x)) :
    Succeeds P (l.forM f) := by
  induction l with
  | nil => exact fun s start => ⟨⟨⟩, s, rfl, start⟩
  | cons x l ih =>
    obtain ⟨now, rest⟩ := List.forall_mem_cons.1 each
    exact now.bind fun _ => ih rest

end Succeeds

end ArchiveAccounts.Attempt
