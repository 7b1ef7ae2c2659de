import ArchiveAccounts.Org.Basic

/-!
# What is used of an account

Seconds are credited under the monthly quota or taken out of a pool, never more than there are. Main
statement: `toNat_drawPool`, what is drawn out of a pool is what the pool loses.
-/

namespace ArchiveAccounts
set_option autoImplicit false

/-- The seconds that still fit under a monthly quota. -/
def monthlyCredit (used seconds quota : Counter) : Counter :=
  Counter.least seconds (Counter.minus quota used)

@[simp] theorem toNat_monthlyCredit (used seconds quota : Counter) :
    (monthlyCredit used seconds quota).toNat = min seconds.toNat (quota.toNat - used.toNat) := by
  simp [monthlyCredit]

namespace Organization

/-- Adds seconds to a counter. -/
def countSeconds (org : Organization) (counter : TimeCounter) (period : String)
    (seconds : Counter) : Organization :=
  { org with seconds := org.seconds.add counter period seconds }

@[simp] theorem id_countSeconds (org : Organization) (counter : TimeCounter) (period : String)
    (n : Counter) : (org.countSeconds counter period n).id = org.id :=
  rfl

theorem get?_countSeconds (org : Organization) (counter other : TimeCounter)
    (period month : String) (n : Counter) :
    ((org.countSeconds counter period n).seconds.get other).get? month
      = if other = counter ∧ month = period then
          some (Counter.plus (org.seconds.inPeriod counter period) n)
        else (org.seconds.get other).get? month :=
  Seconds.get?_put org.seconds counter other period month _

/-- Credits seconds under the monthly quota; also gives how many. -/
def creditMonthly (org : Organization) (period : String) (seconds quota : Counter) :
    Counter × Organization :=
  let credit := monthlyCredit (org.seconds.inPeriod .monthly period) seconds quota
  (credit, if credit = 0 then org else org.countSeconds .monthly period credit)

/-- Takes seconds out of a pool. -/
def takeSeconds (org : Organization) (pool : Pool) (seconds : Counter) : Organization :=
  { org with pools := org.pools.set pool (Counter.minus (org.pools.get pool) seconds) }

/-- Moves seconds out of a pool into the pool's counter; also gives how many. -/
def drawPool (org : Organization) (pool : Pool) (period : String) (seconds : Counter) :
    Counter × Organization :=
  let taken := Counter.least seconds (org.pools.get pool)
  (taken, if taken = 0 then org
    else (org.takeSeconds pool taken).countSeconds pool.counter period taken)

/-- What is drawn out of a pool is what the pool loses. -/
theorem toNat_drawPool (org : Organization) (pool : Pool) (period : String) (seconds : Counter) :
    let (taken, after) := org.drawPool pool period seconds
    (after.pools.get pool).toNat + taken.toNat = (org.pools.get pool).toNat := by
  simp only [drawPool]
  split
  · simp_all
  · simp only [countSeconds, takeSeconds, PerPool.get_set, ↓reduceIte, Counter.toNat_minus,
      Counter.toNat_least]
    omega

/-- Moves the stored bytes by a signed amount. -/
def shiftBytes (org : Organization) (delta : Int) (kind : StorageKind) : Organization :=
  { org with bytes := org.bytes.shift delta kind }

@[simp] theorem id_shiftBytes (org : Organization) (delta : Int) (kind : StorageKind) :
    (org.shiftBytes delta kind).id = org.id :=
  rfl

@[simp] theorem shiftBytes_zero (org : Organization) (kind : StorageKind) :
    org.shiftBytes 0 kind = org := by
  have same : org.bytes.shift 0 kind = org.bytes := by
    cases kind <;> simp [StoredBytes.shift, ByteTotals.change, ByteTotals.set, ByteTotals.get]
  rw [shiftBytes, same]

end Organization

end ArchiveAccounts
