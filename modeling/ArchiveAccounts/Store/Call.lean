import ArchiveAccounts.Crawl.Basic
import ArchiveAccounts.Org.Limits
import ArchiveAccounts.Org.Usage

/-!
# What stores are asked

The calls on a store of organizations and of crawls, with the type of the answer to each. A store is
a type of states with a way to perform every call; a call that fails may still say what the state is
afterwards. Main statements: `run_bind`, a computation goes on from where the one before it came to,
and `run_atomically`, one that fails atomically changes nothing.
-/

namespace ArchiveAccounts
set_option autoImplicit false

open Calendar

/-- A computation on a state that may fail; the state stays known when it does. -/
abbrev Attempt (σ : Type) := ExceptT Failure (StateM σ)

namespace Attempt

variable {σ τ α : Type}

/-- Runs a computation on a part of the state. -/
def zoom (part : σ → τ) (replace : σ → τ → σ) (a : Attempt τ α) : Attempt σ α :=
  ExceptT.mk fun s =>
    let (result, t) := a.run (part s)
    (result, replace s t)

/-- Runs a computation, and takes back what it did if it fails. -/
def atomically (a : Attempt σ α) : Attempt σ α :=
  ExceptT.mk fun s =>
    match a.run s with
    | (.ok result, t) => (.ok result, t)
    | (.error e, _) => (.error e, s)

section Run

variable {β : Type} (s : σ)

theorem run_pure (x : α) : (pure x : Attempt σ α).run s = (.ok x, s) := rfl

theorem run_get : (get : Attempt σ σ).run s = (.ok s, s) := rfl

theorem run_modify (f : σ → σ) : (modify f : Attempt σ PUnit).run s = (.ok (), f s) := rfl

theorem run_liftM (x : Except Failure α) : (liftM x : Attempt σ α).run s = (x, s) := by
  cases x <;> rfl

theorem run_bind (a : Attempt σ α) (f : α → Attempt σ β) :
    (a >>= f).run s = (match a.run s with
      | (Except.ok x, t) => (f x).run t
      | (Except.error e, t) => (Except.error e, t) : Except Failure β × σ) := by
  show ExceptT.run (a >>= f) s = _
  simp only [ExceptT.run, bind, ExceptT.bind, ExceptT.mk, ExceptT.bindCont, StateT.bind]
  rcases (a : StateM σ (Except Failure α)) s with ⟨x | x, t⟩ <;> rfl

theorem run_tryCatch (a : Attempt σ α) (handle : Failure → Attempt σ α) :
    (tryCatch a handle).run s = (match a.run s with
      | (Except.ok x, t) => (Except.ok x, t)
      | (Except.error e, t) => (handle e).run t : Except Failure α × σ) := by
  show ExceptT.run (tryCatch a handle) s = _
  simp only [tryCatch, tryCatchThe, MonadExceptOf.tryCatch, ExceptT.tryCatch, ExceptT.run,
    ExceptT.mk, bind, StateT.bind]
  rcases (a : StateM σ (Except Failure α)) s with ⟨x | x, t⟩ <;> rfl

end Run

@[simp] theorem run_zoom (part : σ → τ) (replace : σ → τ → σ) (a : Attempt τ α) (s : σ) :
    (zoom part replace a).run s = ((a.run (part s)).1, replace s (a.run (part s)).2) :=
  rfl

theorem run_atomically (a : Attempt σ α) (s : σ) :
    (atomically a).run s = (match a.run s with
      | (Except.ok result, t) => (Except.ok result, t)
      | (Except.error e, _) => (Except.error e, s) : Except Failure α × σ) :=
  rfl

theorem run_atomically_eq_ok_iff {a : Attempt σ α} {s t : σ} {result : α} :
    (atomically a).run s = (Except.ok result, t) ↔ a.run s = (Except.ok result, t) := by
  rw [run_atomically]
  split
  · next h => rw [h]
  · next h =>
    rw [h]
    exact ⟨nofun, nofun⟩

end Attempt

/-- A call on the organizations of a store. -/
inductive OrgCall where
  | insert (org : Organization)
  | get (id : String)
  /-- Adds to the seconds of a month, whatever the quotas. -/
  | countSeconds (id : String) (counter : TimeCounter) (period : String) (seconds : Counter)
  /-- Credits seconds of a month as far as the quota goes; answers how many. -/
  | creditMonthly (id : String) (period : String) (seconds quota : Counter)
  /-- Takes seconds out of a pool as far as it goes; answers how many. -/
  | drawPool (id : String) (pool : Pool) (period : String) (seconds : Counter)
  | shiftBytes (id : String) (delta : Int) (kind : StorageKind)
  /-- Applies a patch of the quotas and logs it; answers the organization after it. -/
  | updateQuotas (id : String) (patch : QuotaPatch) (modified : Moment) (retention : Option Nat)

/-- The type of the answer to a call. -/
abbrev OrgCall.Reply : OrgCall → Type
  | insert _ | countSeconds .. | shiftBytes .. => Unit
  | get _ | updateQuotas .. => Organization
  | creditMonthly .. | drawPool .. => Counter

/-- A call on the crawls of a store. -/
inductive CrawlCall where
  | insert (crawl : Crawl)
  | get (orgId id : String)
  /-- Stores a signed link of a file; answers whether it took the place of what was there. -/
  | setSignedUrl (id filename url : String) (expiresAt : Moment)
  | addReplica (id filename : String) (replica : Replica)
  | updateMetadata (orgId id : String) (type : Option CrawlType) (update : CrawlUpdate)
  | markCanceled (id : String) (finished : Moment)
  | addCollection (orgId id collection : String)
  | removeCollection (orgId id collection : String)
  /-- Deletes the crawls of one type; answers the ids of those that were there. -/
  | delete (orgId : String) (ids : List String) (type : CrawlType)

/-- The type of the answer to a call. -/
abbrev CrawlCall.Reply : CrawlCall → Type
  | insert _ | addReplica .. | updateMetadata .. | markCanceled .. => Unit
  | addCollection .. | removeCollection .. => Unit
  | get .. => Crawl
  | setSignedUrl .. => Bool
  | delete .. => List String

/-- A store of organizations and crawls. -/
class AccountStore (σ : Type) where
  /-- A store that holds nothing. -/
  empty : σ
  /-- Performs a call on the organizations. -/
  onOrgs (call : OrgCall) : Attempt σ call.Reply
  /-- Performs a call on the crawls. -/
  onCrawls (call : CrawlCall) : Attempt σ call.Reply

end ArchiveAccounts
