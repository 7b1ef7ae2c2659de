import ArchiveAccounts.Org.Basic

/-!
# Limits of an organization

Whether a quota is used up, the report of what is used, and what a change of quotas does to an
organization.
-/

namespace ArchiveAccounts
set_option autoImplicit false

open Calendar

namespace Organization

/-- Whether the stored bytes have come up to the storage quota. -/
def storageQuotaReached (org : Organization) : Bool :=
  decide (0 < org.quotas.storageBytes) && decide (org.quotas.storageBytes ≤ org.bytes.total)

/-- Whether the whole minutes of a month have come up to the monthly quota; seconds left in a pool
count against that where they may be used. -/
def execQuotaReached (org : Organization) (period : String) (includePools : Bool) : Bool :=
  let pooled := includePools && (decide (0 < org.pools.gifted) || decide (0 < org.pools.extra))
  let quota := org.quotas.monthlyExecMinutes
  !pooled && decide (quota ≠ 0) &&
    decide (quota.toNat ≤ (org.seconds.inPeriod .monthly period).toNat / 60)

end Organization

/-- What an organization uses and may use. -/
structure UsageReport where
  orgId : String
  period : String
  bytes : StoredBytes
  storageQuota : Counter
  monthlyExecSeconds : Counter
  giftedExecSeconds : Counter
  extraExecSeconds : Counter
  monthlyExecMinutes : Counter
  pools : Pools
  storageQuotaReached : Bool
  execQuotaReached : Bool
  deriving DecidableEq, Repr

/-- The report of an organization for a month. -/
def Organization.report (org : Organization) (period : String) : UsageReport where
  orgId := org.id
  period
  bytes := org.bytes
  storageQuota := org.quotas.storageBytes
  monthlyExecSeconds := org.seconds.inPeriod .monthly period
  giftedExecSeconds := org.seconds.inPeriod .gifted period
  extraExecSeconds := org.seconds.inPeriod .extra period
  monthlyExecMinutes := org.quotas.monthlyExecMinutes
  pools := org.pools
  storageQuotaReached := org.storageQuotaReached
  execQuotaReached := org.execQuotaReached period true

/-- The newest entries of a log that are kept: at least one, or all without a limit. -/
def keepNewest {α : Type} (retention : Option Nat) (log : List α) : List α :=
  match retention with
  | none => log
  | some count => log.drop (log.length - max count 1)

theorem keepNewest_suffix {α : Type} (retention : Option Nat) (log : List α) :
    keepNewest retention log <:+ log := by
  cases retention with
  | none => exact List.suffix_rfl
  | some count => exact List.drop_suffix _ _

namespace Organization

/-- By how many seconds a patch moves a pool: a minute granted more or less is sixty, within the
signed 64-bit numbers. -/
def poolDelta (old : Quotas) (patch : QuotaPatch) (pool : Pool) : Option Int :=
  (patch.get pool.quota).map fun minutes =>
    Counter.clampSigned (((minutes.toNat : Int) - (old.get pool.quota).toNat) * 60)

/-- Moves a pool by what a patch grants. -/
def movePool (org : Organization) (patch : QuotaPatch) (pools : Pools) (pool : Pool) : Pools :=
  match poolDelta org.quotas patch pool with
  | none => pools
  | some delta => pools.set pool (Counter.shift (pools.get pool) delta)

/-- The organization after a change of its quotas: the quotas named in the patch, the pools moved by
the change of the minutes granted, and the change in the log. -/
def applyQuotaPatch (org : Organization) (patch : QuotaPatch) (modified : Moment)
    (retention : Option Nat) : Organization :=
  { org with
    quotas := patch.applyTo org.quotas
    pools := [Pool.gifted, Pool.extra].foldl (org.movePool patch) org.pools
    quotaChanges := keepNewest retention (org.quotaChanges ++ [⟨patch, modified⟩]) }

end Organization

end ArchiveAccounts
