import ArchiveAccounts.Service.World

/-!
# Accounting

Recording time and bytes, changing quotas, and asking whether they are used up. Execution time is
credited under the monthly quota first, then out of the gifted pool, then out of the extra pool;
what is left stays uncredited.
-/

namespace ArchiveAccounts
set_option autoImplicit false

/-- The seconds of a quota in minutes. -/
def Quotas.monthlyExecSeconds (q : Quotas) : Counter := Counter.times q.monthlyExecMinutes 60

namespace Action

variable {σ : Type} [AccountStore σ]

/-- Takes seconds out of a pool, if there are any to take. -/
def drawPool (orgId : String) (pool : Pool) (period : String) (seconds : Counter) :
    Action σ Counter :=
  if seconds = 0 then return 0 else onOrgs (.drawPool orgId pool period seconds)

/-- Credits execution time under the quota and out of the pools. -/
def allocate (orgId period : String) (duration quota : Counter) : Action σ Allocation := do
  let monthly : Counter ← onOrgs (.creditMonthly orgId period duration quota)
  let overQuota := Counter.minus duration monthly
  let gifted ← drawPool orgId .gifted period overQuota
  let overGifted := Counter.minus overQuota gifted
  let extra ← drawPool orgId .extra period overGifted
  let uncredited := Counter.minus overGifted extra
  count fun m => m.addCredit monthly gifted extra uncredited
  return { period, duration, monthly, gifted, extra, uncredited }

/-- Records running time, which is credited if it is execution time and the organization has a quota
or a pool for it. -/
def recordUsage (orgId : String) (duration : Counter) (isExecTime : Bool) :
    Action σ Allocation := do
  let period ← period
  let counter := if isExecTime then TimeCounter.crawlExec else .usage
  onOrgs (.countSeconds orgId counter period duration)
  if isExecTime then
    let org ← getOrg orgId
    let quota := org.quotas.monthlyExecSeconds
    if quota = 0 ∧ org.pools.gifted = 0 ∧ org.pools.extra = 0 then return { period, duration }
    else allocate orgId period duration quota
  else return { period, duration }

/-- Records stored bytes; answers whether the storage quota is used up. -/
def recordBytes (orgId : String) (delta : Int) (kind : StorageKind) : Action σ Bool := do
  onOrgs (.shiftBytes orgId delta kind)
  return (← getOrg orgId).storageQuotaReached

/-- Changes quotas at the time of the clock and logs the change. -/
def updateQuotas (orgId : String) (patch : QuotaPatch) (retention : Option Nat) :
    Action σ Organization := do
  if patch.isEmpty then throw (.badRequest "no_update_data")
  onOrgs (.updateQuotas orgId patch (← get).now retention)

/-- Whether the storage quota is used up. -/
def storageQuotaReached (orgId : String) : Action σ Bool := do
  return (← getOrg orgId).storageQuotaReached

/-- Whether the execution time of the current month is used up. -/
def execQuotaReached (orgId : String) (includePools : Bool) : Action σ Bool := do
  let org ← getOrg orgId
  return org.execQuotaReached (← period) includePools

/-- What is used in the current month. -/
def usageReport (orgId : String) : Action σ UsageReport := do
  let org ← getOrg orgId
  return org.report (← period)

end Action

end ArchiveAccounts
