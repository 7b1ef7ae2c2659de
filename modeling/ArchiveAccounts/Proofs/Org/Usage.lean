import ArchiveAccounts.Org.Usage

/-!
# What is used, as equations

Crediting seconds and drawing on a pool change the seconds of one counter in one month, and nothing
is written for no seconds at all. Main statements: `creditMonthly_eq` and `drawPool_eq`.
-/

namespace ArchiveAccounts
set_option autoImplicit false

namespace Seconds

/-- Adds to the seconds of one month, which gets no entry for none. -/
def credit (s : Seconds) (counter : TimeCounter) (period : String) (n : Counter) : Seconds :=
  if n = 0 then s else s.add counter period n

variable (s : Seconds) (counter other : TimeCounter) (period month : String) (n : Counter)

theorem inPeriod_add :
    (s.add counter period n).inPeriod other month
      = if other = counter ∧ month = period then Counter.plus (s.inPeriod counter period) n
        else s.inPeriod other month := by
  rw [inPeriod, SortedMap.getD, add, get?_put]
  split
  · rfl
  · rfl

theorem inPeriod_credit :
    (s.credit counter period n).inPeriod other month
      = if other = counter ∧ month = period then Counter.plus (s.inPeriod counter period) n
        else s.inPeriod other month := by
  rw [credit]
  split
  · next none_ =>
    rw [none_, Counter.plus_zero]
    split
    · next same => rw [same.1, same.2]
    · rfl
  · exact inPeriod_add s counter other period month n

theorem get?_add_of_ne (h : ¬(other = counter ∧ month = period)) :
    ((s.add counter period n).get other).get? month = (s.get other).get? month := by
  rw [add, get?_put, if_neg h]

/-- Only an entry to which something is added changes. -/
theorem get?_credit_of_ne (h : ¬(other = counter ∧ month = period ∧ n ≠ 0)) :
    ((s.credit counter period n).get other).get? month = (s.get other).get? month := by
  rw [credit]
  split
  · rfl
  · next some_ =>
    apply get?_add_of_ne
    rintro ⟨same, now⟩
    exact h ⟨same, now, some_⟩

end Seconds

namespace Organization

variable (org : Organization) (period : String) (n : Counter)

theorem countSeconds_eq (counter : TimeCounter) :
    org.countSeconds counter period n
      = { org with seconds := org.seconds.add counter period n } :=
  rfl

/-- Seconds credited under the quota. -/
theorem creditMonthly_eq (quota : Counter) :
    (org.creditMonthly period n quota).2
      = { org with
          seconds := org.seconds.credit .monthly period (org.creditMonthly period n quota).1 } := by
  by_cases none_ : monthlyCredit (org.seconds.inPeriod .monthly period) n quota = 0
  · simp only [creditMonthly, Seconds.credit, none_, if_true]
  · simp only [creditMonthly, Seconds.credit, none_, if_false, countSeconds_eq]

/-- Seconds taken out of a pool. -/
theorem drawPool_eq (pool : Pool) :
    (org.drawPool pool period n).2
      = { org with
          seconds := org.seconds.credit pool.counter period (org.drawPool pool period n).1
          pools := org.pools.set pool
            (Counter.minus (org.pools.get pool) (org.drawPool pool period n).1) } := by
  by_cases none_ : Counter.least n (org.pools.get pool) = 0
  · simp only [drawPool, Seconds.credit, none_, if_true, Counter.minus_zero, PerPool.set_get]
  · simp only [drawPool, Seconds.credit, none_, if_false, countSeconds_eq, takeSeconds]

end Organization

end ArchiveAccounts
