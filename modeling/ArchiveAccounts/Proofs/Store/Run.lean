import ArchiveAccounts.Store.Call

/-!
# Runs of a store

Calls on a store one after the other, whether they fail or not, with what came of each.
-/

namespace ArchiveAccounts
set_option autoImplicit false

/-- A call on a store. -/
inductive StoreCall where
  | onOrgs (call : OrgCall)
  | onCrawls (call : CrawlCall)

/-- The type of the answer to a call. -/
abbrev StoreCall.Reply : StoreCall → Type
  | onOrgs call => call.Reply
  | onCrawls call => call.Reply

/-- A call and what came of it. -/
structure Exchange where
  call : StoreCall
  result : Except Failure call.Reply

namespace StoreCall

variable {σ : Type} [AccountStore σ]

/-- Performs a call. -/
def perform : (call : StoreCall) → Attempt σ call.Reply
  | .onOrgs call => AccountStore.onOrgs call
  | .onCrawls call => AccountStore.onCrawls call

/-- The store after a call. -/
def after (call : StoreCall) (s : σ) : σ := (call.perform.run s).2

/-- The call with what comes of it. -/
def exchange (call : StoreCall) (s : σ) : Exchange := ⟨call, (call.perform.run s).1⟩

end StoreCall

section Run

variable {σ : Type} [AccountStore σ]

/-- The store after calls. -/
def afterCalls (calls : List StoreCall) (s : σ) : σ := calls.foldl (fun s call => call.after s) s

/-- The calls with what comes of each. -/
def exchanges : List StoreCall → σ → List Exchange
  | [], _ => []
  | call :: calls, s => call.exchange s :: exchanges calls (call.after s)

/-- Whether every store that calls come to satisfies `p`, the first and the last among them. -/
def Always (p : σ → Prop) (calls : List StoreCall) (s : σ) : Prop :=
  ∀ earlier, earlier <+: calls → p (afterCalls earlier s)

theorem always_nil {p : σ → Prop} {s : σ} : Always p [] s ↔ p s := by
  constructor
  · intro h
    exact h [] (List.prefix_refl [])
  · intro h earlier isPrefix
    rw [List.prefix_nil.1 isPrefix]
    exact h

theorem always_cons {p : σ → Prop} {call : StoreCall} {calls : List StoreCall} {s : σ} :
    Always p (call :: calls) s ↔ p s ∧ Always p calls (call.after s) := by
  constructor
  · intro h
    refine ⟨h [] List.nil_prefix, ?_⟩
    intro earlier isPrefix
    exact h (call :: earlier) (List.cons_prefix_cons.2 ⟨rfl, isPrefix⟩)
  · rintro ⟨now, later⟩ earlier isPrefix
    cases earlier with
    | nil => exact now
    | cons first earlier =>
      obtain ⟨rfl, rest⟩ := List.cons_prefix_cons.1 isPrefix
      exact later earlier rest

instance decidableAlways (p : σ → Prop) [DecidablePred p] :
    (calls : List StoreCall) → (s : σ) → Decidable (Always p calls s)
  | [], _ => decidable_of_iff _ always_nil.symm
  | call :: calls, s =>
    have := decidableAlways p calls (call.after s)
    decidable_of_iff _ always_cons.symm

/-- Whether each call satisfies `p` on the store that it finds. -/
def EachCall (p : StoreCall → σ → Prop) : List StoreCall → σ → Prop
  | [], _ => True
  | call :: calls, s => p call s ∧ EachCall p calls (call.after s)

instance decidableEachCall (p : StoreCall → σ → Prop) [∀ call s, Decidable (p call s)] :
    (calls : List StoreCall) → (s : σ) → Decidable (EachCall p calls s)
  | [], _ => inferInstanceAs (Decidable True)
  | call :: calls, s =>
    have := decidableEachCall p calls (call.after s)
    inferInstanceAs (Decidable (_ ∧ _))

end Run

end ArchiveAccounts
