import ArchiveAccounts.Calendar.Moment
import ArchiveAccounts.Data.Counter

/-!
# Quotas and changes of them

An organization has one number for each quota; 0 is no limit. A patch gives new numbers for some of
them. Main statement: `get_applyTo`, a patch decides the quotas that it names and no other.
-/

namespace ArchiveAccounts
set_option autoImplicit false

/-- One value for each quota. -/
structure PerQuota (α : Type) where
  storageBytes : α
  monthlyExecMinutes : α
  concurrentCrawls : α
  pagesPerCrawl : α
  extraExecMinutes : α
  giftedExecMinutes : α
  deriving DecidableEq, Repr

/-- The name of a quota. -/
inductive QuotaName where
  | storageBytes
  | monthlyExecMinutes
  | concurrentCrawls
  | pagesPerCrawl
  | extraExecMinutes
  | giftedExecMinutes
  deriving DecidableEq, Repr

namespace PerQuota

variable {α β γ : Type}

/-- The value for a quota. -/
def get (q : PerQuota α) : QuotaName → α
  | .storageBytes => q.storageBytes
  | .monthlyExecMinutes => q.monthlyExecMinutes
  | .concurrentCrawls => q.concurrentCrawls
  | .pagesPerCrawl => q.pagesPerCrawl
  | .extraExecMinutes => q.extraExecMinutes
  | .giftedExecMinutes => q.giftedExecMinutes

/-- The value that `f` gives for each quota. -/
def ofFn (f : QuotaName → α) : PerQuota α :=
  ⟨f .storageBytes, f .monthlyExecMinutes, f .concurrentCrawls, f .pagesPerCrawl,
    f .extraExecMinutes, f .giftedExecMinutes⟩

@[simp] theorem get_ofFn (f : QuotaName → α) (name : QuotaName) : (ofFn f).get name = f name := by
  cases name <;> rfl

theorem ext_get {p q : PerQuota α} (h : ∀ name, p.get name = q.get name) : p = q := by
  obtain ⟨⟩ := p
  obtain ⟨⟩ := q
  simp only [mk.injEq]
  exact ⟨h .storageBytes, h .monthlyExecMinutes, h .concurrentCrawls, h .pagesPerCrawl,
    h .extraExecMinutes, h .giftedExecMinutes⟩

end PerQuota

/-- The quotas of an organization. -/
abbrev Quotas := PerQuota Counter

/-- New values for some quotas. -/
abbrev QuotaPatch := PerQuota (Option Counter)

/-- No limits and nothing granted. -/
def Quotas.none : Quotas := .ofFn fun _ => 0

instance : Inhabited Quotas := ⟨Quotas.none⟩

namespace QuotaPatch

/-- A patch that names no quota. -/
def empty : QuotaPatch := .ofFn fun _ => Option.none

instance : Inhabited QuotaPatch := ⟨empty⟩

/-- Whether a patch names no quota. -/
def isEmpty (p : QuotaPatch) : Bool := p == empty

/-- The quotas with the values of the patch where it has some. -/
def applyTo (p : QuotaPatch) (q : Quotas) : Quotas :=
  .ofFn fun name => (p.get name).getD (q.get name)

@[simp] theorem get_applyTo (p : QuotaPatch) (q : Quotas) (name : QuotaName) :
    (p.applyTo q).get name = (p.get name).getD (q.get name) :=
  PerQuota.get_ofFn _ _

end QuotaPatch

/-- An entry of the log of quota changes. -/
structure QuotaChange where
  patch : QuotaPatch
  modified : Calendar.Moment
  deriving DecidableEq, Repr

end ArchiveAccounts
