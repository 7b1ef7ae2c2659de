import ArchiveAccounts.Proofs.Org.Usage
import ArchiveAccounts.Proofs.Service.Calls
import ArchiveAccounts.Service.Accounting

/-!
# The waterfall of execution time

Execution time is credited under the monthly quota first, then out of the gifted pool, then out of
the extra pool, and the rest is left uncredited. Main statement: `run_recordUsage`, which says for
every duration how it is split, and what the organization and the metrics are afterwards.
-/

namespace ArchiveAccounts
set_option autoImplicit false

open Calendar

/-- How many seconds of a recording are credited from where, and how many are not. -/
structure Credits where
  monthly : Nat := 0
  gifted : Nat := 0
  extra : Nat := 0
  uncredited : Nat := 0
  deriving DecidableEq

namespace Credits

/-- The split of a duration over what is left of the quota and over the pools. -/
def waterfall (duration left gifted extra : Nat) : Credits :=
  let monthly := min duration left
  let fromGifted := min (duration - monthly) gifted
  let fromExtra := min (duration - monthly - fromGifted) extra
  { monthly
    gifted := fromGifted
    extra := fromExtra
    uncredited := duration - monthly - fromGifted - fromExtra }

/-- A waterfall loses nothing. -/
theorem sum_waterfall (duration left gifted extra : Nat) :
    let c := waterfall duration left gifted extra
    c.monthly + c.gifted + c.extra + c.uncredited = duration := by
  simp only [waterfall]
  omega

/-- The seconds credited out of a pool. -/
def ofPool (c : Credits) : Pool → Nat
  | .gifted => c.gifted
  | .extra => c.extra

/-- The seconds that a recording adds to a counter. -/
def added (c : Credits) (duration : Nat) : TimeCounter → Nat
  | .usage => 0
  | .crawlExec => duration
  | .monthly => c.monthly
  | .gifted => c.gifted
  | .extra => c.extra

end Credits

/-- The monthly quota in seconds. -/
def Organization.quotaSeconds (org : Organization) : Nat :=
  min (60 * org.quotas.monthlyExecMinutes.toNat) Counter.maxNat

/-- Whether an organization has no monthly quota and nothing in its pools. -/
def Organization.HasNoCredit (org : Organization) : Prop :=
  org.quotaSeconds = 0 ∧ org.pools.gifted.toNat = 0 ∧ org.pools.extra.toNat = 0

instance (org : Organization) : Decidable org.HasNoCredit := inferInstanceAs (Decidable (_ ∧ _))

/-- The credits for a duration: none at all without a quota and pools. -/
def Organization.creditsFor (org : Organization) (period : String) (duration : Nat) : Credits :=
  if org.HasNoCredit then {}
  else .waterfall duration (org.quotaSeconds - (org.seconds.inPeriod .monthly period).toNat)
    org.pools.gifted.toNat org.pools.extra.toNat

/-- What a recording reports. -/
structure Allocation.Reports (a : Allocation) (period : String) (duration : Counter) (c : Credits) :
    Prop where
  period : a.period = period
  duration : a.duration = duration
  monthly : a.monthly.toNat = c.monthly
  gifted : a.gifted.toNat = c.gifted
  extra : a.extra.toNat = c.extra
  uncredited : a.uncredited.toNat = c.uncredited

/-- What a recording changes of an organization: the seconds of a month and the pools. -/
structure Organization.Charged (org after : Organization) (period : String) (duration : Nat)
    (c : Credits) : Prop where
  others : after = { org with seconds := after.seconds, pools := after.pools }
  pools : ∀ pool, (after.pools.get pool).toNat = (org.pools.get pool).toNat - c.ofPool pool
  poolsSuffice : ∀ pool, c.ofPool pool ≤ (org.pools.get pool).toNat
  monthly : (after.seconds.inPeriod .monthly period).toNat
    = (org.seconds.inPeriod .monthly period).toNat + c.monthly
  seconds : ∀ counter, (after.seconds.inPeriod counter period).toNat
    = min ((org.seconds.inPeriod counter period).toNat + c.added duration counter) Counter.maxNat
  entries : ∀ counter month,
    month ≠ period ∨ (counter ≠ .crawlExec ∧ c.added duration counter = 0) →
    (after.seconds.get counter).get? month = (org.seconds.get counter).get? month

/-- What a recording changes of the metrics, which wrap. -/
structure Metrics.Counted (m after : Metrics) (c : Credits) : Prop where
  monthly : after.monthlySecondsCredited.toNat
    = (m.monthlySecondsCredited.toNat + c.monthly) % UInt64.size
  gifted : after.giftedSecondsCredited.toNat
    = (m.giftedSecondsCredited.toNat + c.gifted) % UInt64.size
  extra : after.extraSecondsCredited.toNat
    = (m.extraSecondsCredited.toNat + c.extra) % UInt64.size
  uncredited : after.uncreditedExecSeconds.toNat
    = (m.uncreditedExecSeconds.toNat + c.uncredited) % UInt64.size
  others : after = { m with
    monthlySecondsCredited := after.monthlySecondsCredited
    giftedSecondsCredited := after.giftedSecondsCredited
    extraSecondsCredited := after.extraSecondsCredited
    uncreditedExecSeconds := after.uncreditedExecSeconds }

/-- What recording execution time comes to when it is credited in the given way: the answer, the
organization, and the metrics afterwards. -/
def World.Records (w : World MemoryStore) (org : Organization) (duration : Counter) (c : Credits) :
    Prop :=
  ∃ allocation after metrics,
    (Action.recordUsage org.id duration true).run w
      = (.ok allocation, { w.withOrg after with metrics }) ∧
    allocation.Reports w.now.period duration c ∧
    org.Charged after w.now.period duration.toNat c ∧ w.metrics.Counted metrics c

namespace Metrics

theorem counted_addCredit (m : Metrics) {monthly gifted extra uncredited : Counter} {c : Credits}
    (sameMonthly : monthly.toNat = c.monthly) (sameGifted : gifted.toNat = c.gifted)
    (sameExtra : extra.toNat = c.extra) (sameUncredited : uncredited.toNat = c.uncredited) :
    m.Counted (m.addCredit monthly gifted extra uncredited) c where
  monthly := by rw [addCredit, UInt64.toNat_add, sameMonthly]
  gifted := by rw [addCredit, UInt64.toNat_add, sameGifted]
  extra := by rw [addCredit, UInt64.toNat_add, sameExtra]
  uncredited := by rw [addCredit, UInt64.toNat_add, sameUncredited]
  others := rfl

theorem counted_zero (m : Metrics) : m.Counted m {} where
  monthly := (Nat.mod_eq_of_lt (UInt64.toNat_lt _)).symm
  gifted := (Nat.mod_eq_of_lt (UInt64.toNat_lt _)).symm
  extra := (Nat.mod_eq_of_lt (UInt64.toNat_lt _)).symm
  uncredited := (Nat.mod_eq_of_lt (UInt64.toNat_lt _)).symm
  others := rfl

end Metrics

/-! ## The steps of a recording -/

namespace Action

variable (w : World MemoryStore) (org : Organization) (period : String) (n : Counter)

theorem run_drawPool (pool : Pool) :
    (drawPool org.id pool period n).run (w.withOrg org)
      = (.ok (org.drawPool pool period n).1, w.withOrg (org.drawPool pool period n).2) := by
  rw [drawPool]
  split
  · next none_ =>
    rw [none_, Organization.drawPool, Counter.zero_least]
    rfl
  · exact run_onOrgs_withOrg w (.drawPool org.id pool period n) rfl

/-- What an allocation comes to, step by step. -/
theorem run_allocate (quota : Counter) {credited gifted extra : Counter × Organization}
    (first : org.creditMonthly period n quota = credited)
    (second : credited.2.drawPool .gifted period (Counter.minus n credited.1) = gifted)
    (third : gifted.2.drawPool .extra period
      (Counter.minus (Counter.minus n credited.1) gifted.1) = extra) :
    let uncredited :=
      Counter.minus (Counter.minus (Counter.minus n credited.1) gifted.1) extra.1
    (allocate org.id period n quota).run (w.withOrg org)
      = (.ok ⟨period, n, credited.1, gifted.1, extra.1, uncredited⟩,
        { w.withOrg extra.2 with
          metrics := w.metrics.addCredit credited.1 gifted.1 extra.1 uncredited }) := by
  have sameId : credited.2.id = org.id := by
    rw [← first, Organization.creditMonthly_eq]
  have sameId' : gifted.2.id = org.id := by
    rw [← second, Organization.drawPool_eq]
    exact sameId
  have run := run_onOrgs_withOrg w (.creditMonthly org.id period n quota) (rfl : org.id = _)
  have runGifted := run_drawPool w credited.2 period (Counter.minus n credited.1) .gifted
  have runExtra := run_drawPool w gifted.2 period
    (Counter.minus (Counter.minus n credited.1) gifted.1) .extra
  rw [OrgCall.apply, first] at run
  rw [sameId, second] at runGifted
  rw [sameId', third] at runExtra
  simp only [allocate, Attempt.run_bind, run, runGifted, runExtra, run_count, Attempt.run_pure]
  rfl

end Action

/-! ## The organization afterwards -/

namespace Organization

/-- The organization after a recording that is credited with the given seconds. -/
def charge (org : Organization) (period : String) (duration monthly gifted extra : Counter) :
    Organization :=
  { org with
    seconds := (((org.seconds.add .crawlExec period duration).credit .monthly period monthly).credit
      .gifted period gifted).credit .extra period extra
    pools := ⟨Counter.minus org.pools.gifted gifted, Counter.minus org.pools.extra extra⟩ }

variable (org : Organization) (period : String) (duration : Counter)

/-- Without credits only the execution time is counted. -/
theorem charge_zero :
    org.charge period duration 0 0 0 = org.countSeconds .crawlExec period duration := by
  simp only [charge, Seconds.credit, if_true, Counter.minus_zero]
  rfl

theorem charged_charge {monthly gifted extra : Counter} {c : Credits}
    (sameMonthly : monthly.toNat = c.monthly) (sameGifted : gifted.toNat = c.gifted)
    (sameExtra : extra.toNat = c.extra)
    (fits : (org.seconds.inPeriod .monthly period).toNat + c.monthly ≤ Counter.maxNat)
    (enoughGifted : c.gifted ≤ org.pools.gifted.toNat)
    (enoughExtra : c.extra ≤ org.pools.extra.toNat) :
    org.Charged (org.charge period duration monthly gifted extra) period duration.toNat c where
  others := rfl
  pools pool := by
    cases pool with
    | gifted =>
      rw [Credits.ofPool, ← sameGifted]
      exact Counter.toNat_minus _ _
    | extra =>
      rw [Credits.ofPool, ← sameExtra]
      exact Counter.toNat_minus _ _
  poolsSuffice pool := by
    cases pool with
    | gifted => exact enoughGifted
    | extra => exact enoughExtra
  monthly := by
    simp only [charge, Seconds.inPeriod_credit, Seconds.inPeriod_add, reduceCtorEq, false_and,
      true_and, if_true, if_false, Counter.toNat_plus, sameMonthly]
    exact Nat.min_eq_left fits
  seconds counter := by
    have bound := Counter.toNat_le_maxNat (org.seconds.inPeriod counter period)
    cases counter with
    | usage =>
      simp only [charge, Seconds.inPeriod_credit, Seconds.inPeriod_add, reduceCtorEq, false_and,
        if_false]
      exact (Nat.min_eq_left bound).symm
    | crawlExec | monthly | gifted | extra =>
      simp [charge, Seconds.inPeriod_credit, Seconds.inPeriod_add, Credits.added, sameMonthly,
        sameGifted, sameExtra]
  entries counter month h := by
    -- A counter that something was added to in this month is not among those that `h` allows.
    have none_ : ∀ (amount : Counter) (credited : TimeCounter),
        amount.toNat = c.added duration.toNat credited →
        ¬(counter = credited ∧ month = period ∧ amount ≠ 0) := by
      rintro amount credited same ⟨rfl, now, some_⟩
      rcases h with later | ⟨_, zero⟩
      · exact later now
      · exact some_ (Counter.toNat_eq_zero.1 (same.trans zero))
    have notExec : ¬(counter = .crawlExec ∧ month = period) := by
      rintro ⟨exec, now⟩
      rcases h with later | ⟨notExec, _⟩
      · exact later now
      · exact notExec exec
    rw [charge, Seconds.get?_credit_of_ne _ _ _ _ _ _ (none_ extra .extra sameExtra),
      Seconds.get?_credit_of_ne _ _ _ _ _ _ (none_ gifted .gifted sameGifted),
      Seconds.get?_credit_of_ne _ _ _ _ _ _ (none_ monthly .monthly sameMonthly),
      Seconds.get?_add_of_ne _ _ _ _ _ _ notExec]

/-- What the steps of an allocation leave. -/
theorem charge_eq {quota : Counter} {credited gifted extra : Counter × Organization}
    (first : (org.countSeconds .crawlExec period duration).creditMonthly period duration quota
      = credited)
    (second : credited.2.drawPool .gifted period (Counter.minus duration credited.1) = gifted)
    (third : gifted.2.drawPool .extra period
      (Counter.minus (Counter.minus duration credited.1) gifted.1) = extra) :
    extra.2 = org.charge period duration credited.1 gifted.1 extra.1 := by
  have afterFirst := creditMonthly_eq (org.countSeconds .crawlExec period duration) period duration
    quota
  have afterSecond := drawPool_eq credited.2 period (Counter.minus duration credited.1) .gifted
  have afterThird := drawPool_eq gifted.2 period
    (Counter.minus (Counter.minus duration credited.1) gifted.1) .extra
  rw [first] at afterFirst
  rw [second, afterFirst] at afterSecond
  rw [third, afterSecond] at afterThird
  rw [afterThird]
  rfl

/-- The steps of an allocation split the duration as a waterfall. -/
theorem reports_waterfall {quota : Counter} {credited gifted extra : Counter × Organization}
    (first : (org.countSeconds .crawlExec period duration).creditMonthly period duration quota
      = credited)
    (second : credited.2.drawPool .gifted period (Counter.minus duration credited.1) = gifted)
    (third : gifted.2.drawPool .extra period
      (Counter.minus (Counter.minus duration credited.1) gifted.1) = extra) :
    Allocation.Reports
      ⟨period, duration, credited.1, gifted.1, extra.1,
        Counter.minus (Counter.minus (Counter.minus duration credited.1) gifted.1) extra.1⟩
      period duration
      (.waterfall duration.toNat (quota.toNat - (org.seconds.inPeriod .monthly period).toNat)
        org.pools.gifted.toNat org.pools.extra.toNat) := by
  -- The count before and the other pool leave alone what the next step looks at.
  have sameMonthly : (org.countSeconds .crawlExec period duration).seconds.inPeriod .monthly period
      = org.seconds.inPeriod .monthly period := by
    rw [countSeconds_eq, Seconds.inPeriod_add, if_neg fun same => nomatch same.1]
  have giftedLeft : credited.2.pools.get .gifted = org.pools.gifted := by
    rw [← first, creditMonthly_eq]
    rfl
  have extraLeft : gifted.2.pools.get .extra = org.pools.extra := by
    rw [← second, drawPool_eq, ← first, creditMonthly_eq]
    rfl
  have monthly : credited.1.toNat
      = min duration.toNat (quota.toNat - (org.seconds.inPeriod .monthly period).toNat) := by
    rw [← first, creditMonthly, toNat_monthlyCredit, sameMonthly]
  have fromGifted : gifted.1.toNat
      = min (duration.toNat - credited.1.toNat) org.pools.gifted.toNat := by
    rw [← second, drawPool, Counter.toNat_least, Counter.toNat_minus, giftedLeft]
  have fromExtra : extra.1.toNat
      = min (duration.toNat - credited.1.toNat - gifted.1.toNat) org.pools.extra.toNat := by
    rw [← third, drawPool, Counter.toNat_least, Counter.toNat_minus, Counter.toNat_minus, extraLeft]
  rw [monthly] at fromGifted
  rw [monthly, fromGifted] at fromExtra
  refine ⟨rfl, rfl, monthly, fromGifted, fromExtra, ?_⟩
  rw [Counter.toNat_minus, Counter.toNat_minus, Counter.toNat_minus, monthly, fromGifted, fromExtra,
    Credits.waterfall]

end Organization

theorem Quotas.toNat_monthlyExecSeconds (org : Organization) :
    org.quotas.monthlyExecSeconds.toNat = org.quotaSeconds := by
  rw [monthlyExecSeconds, Counter.toNat_times, Organization.quotaSeconds, Nat.mul_comm]

theorem Organization.hasNoCredit_iff (org : Organization) :
    org.HasNoCredit
      ↔ org.quotas.monthlyExecSeconds = 0 ∧ org.pools.gifted = 0 ∧ org.pools.extra = 0 := by
  rw [HasNoCredit, ← Quotas.toNat_monthlyExecSeconds, Counter.toNat_eq_zero, Counter.toNat_eq_zero,
    Counter.toNat_eq_zero]

/-- A recording of execution time counts it first, and then allocates it if there is credit. -/
theorem Action.run_recordUsage_exec {w : World MemoryStore} {org counted : Organization}
    (stored : w.store.orgs.get? org.id = some org) (dated : w.now.isInUtcCalendar = true)
    (duration : Counter) (counts : org.countSeconds .crawlExec w.now.period duration = counted) :
    (recordUsage org.id duration true).run w
      = if org.HasNoCredit then
          (.ok { period := w.now.period, duration }, w.withOrg counted)
        else (allocate org.id w.now.period duration org.quotas.monthlyExecSeconds).run
          (w.withOrg counted) := by
  have sameId : counted.id = org.id := by rw [← counts, Organization.id_countSeconds]
  have sameQuotas : counted.quotas = org.quotas := by rw [← counts, Organization.countSeconds]
  have samePools : counted.pools = org.pools := by rw [← counts, Organization.countSeconds]
  have count : (onOrgs (.countSeconds org.id
      (if true = true then TimeCounter.crawlExec else .usage) w.now.period duration)).run w
      = (.ok (), w.withOrg counted) := by
    have run := run_onOrgs_withOrg w (.countSeconds org.id .crawlExec w.now.period duration)
      (rfl : org.id = _)
    rw [World.withOrg_eq_self stored, OrgCall.apply, counts] at run
    exact run
  have found : (getOrg org.id).run (w.withOrg counted) = (.ok counted, w.withOrg counted) :=
    run_onOrgs_withOrg w (.get org.id) sameId
  simp only [recordUsage, Attempt.run_bind, run_period dated]
  rw [count]
  simp only [if_true, Attempt.run_bind, found, org.hasNoCredit_iff, sameQuotas, samePools]
  split
  · rfl
  · rfl

section Recording

variable {w : World MemoryStore} {org : Organization}

/-- A recording of execution time charges the organization with what it reports. -/
theorem run_recordUsage_charge (stored : w.store.orgs.get? org.id = some org)
    (dated : w.now.isInUtcCalendar = true) (duration : Counter) :
    let c := org.creditsFor w.now.period duration.toNat
    ∃ allocation metrics,
      (Action.recordUsage org.id duration true).run w
        = (.ok allocation,
          { w.withOrg (org.charge w.now.period duration allocation.monthly allocation.gifted
              allocation.extra) with metrics }) ∧
      allocation.Reports w.now.period duration c ∧ w.metrics.Counted metrics c := by
  intro c
  have run := Action.run_recordUsage_exec stored dated duration rfl
  by_cases nothing : org.HasNoCredit
  · have none_ : c = {} := if_pos nothing
    rw [if_pos nothing, ← org.charge_zero] at run
    rw [none_]
    exact ⟨_, w.metrics, run, ⟨rfl, rfl, rfl, rfl, rfl, rfl⟩, w.metrics.counted_zero⟩
  · have split : c = .waterfall duration.toNat
        (org.quotaSeconds - (org.seconds.inPeriod .monthly w.now.period).toNat)
        org.pools.gifted.toNat org.pools.extra.toNat := if_neg nothing
    rw [if_neg nothing] at run
    generalize first : (org.countSeconds .crawlExec w.now.period duration).creditMonthly
      w.now.period duration org.quotas.monthlyExecSeconds = credited at run
    generalize second : credited.2.drawPool .gifted w.now.period
      (Counter.minus duration credited.1) = gifted at run
    generalize third : gifted.2.drawPool .extra w.now.period
      (Counter.minus (Counter.minus duration credited.1) gifted.1) = extra at run
    have run := run.trans (Action.run_allocate w _ _ _ _ first second third)
    rw [Organization.charge_eq org _ _ first second third] at run
    have reports := org.reports_waterfall w.now.period duration first second third
    rw [Quotas.toNat_monthlyExecSeconds, ← split] at reports
    exact ⟨_, _, run, reports, w.metrics.counted_addCredit reports.monthly reports.gifted
      reports.extra reports.uncredited⟩

/-- Without a quota and pools the time is counted and nothing is credited. -/
theorem records_of_hasNoCredit (stored : w.store.orgs.get? org.id = some org)
    (dated : w.now.isInUtcCalendar = true) (duration : Counter) (nothing : org.HasNoCredit) :
    w.Records org duration {} := by
  obtain ⟨allocation, metrics, run, reports, counted⟩ :=
    run_recordUsage_charge stored dated duration
  rw [Organization.creditsFor, if_pos nothing] at reports counted
  refine ⟨_, _, metrics, run, reports, ?_, counted⟩
  exact org.charged_charge w.now.period duration reports.monthly reports.gifted reports.extra
    (Counter.toNat_le_maxNat _) (Nat.zero_le _) (Nat.zero_le _)

/-- With a quota or a pool the time is split as a waterfall. -/
theorem records_waterfall (stored : w.store.orgs.get? org.id = some org)
    (dated : w.now.isInUtcCalendar = true) (duration : Counter) (some_ : ¬org.HasNoCredit) :
    w.Records org duration (.waterfall duration.toNat
      (org.quotaSeconds - (org.seconds.inPeriod .monthly w.now.period).toNat)
      org.pools.gifted.toNat org.pools.extra.toNat) := by
  obtain ⟨allocation, metrics, run, reports, counted⟩ :=
    run_recordUsage_charge stored dated duration
  rw [Organization.creditsFor, if_neg some_] at reports counted
  refine ⟨_, _, metrics, run, reports, ?_, counted⟩
  apply org.charged_charge w.now.period duration reports.monthly reports.gifted reports.extra
  · -- The quota is a counter, so a month that is credited up to it stays one.
    have quotaFits : org.quotaSeconds ≤ Counter.maxNat := Nat.min_le_right _ _
    have usedFits := Counter.toNat_le_maxNat (org.seconds.inPeriod .monthly w.now.period)
    simp only [Credits.waterfall]
    omega
  · exact Nat.min_le_right _ _
  · exact Nat.min_le_right _ _

/-- Recording execution time splits it over the quota and the pools, charges the organization for
exactly what is credited, and counts the credits; nothing else changes. -/
theorem run_recordUsage (stored : w.store.orgs.get? org.id = some org)
    (dated : w.now.isInUtcCalendar = true) (duration : Counter) :
    let c := org.creditsFor w.now.period duration.toNat
    (¬org.HasNoCredit → c.monthly + c.gifted + c.extra + c.uncredited = duration.toNat) ∧
      w.Records org duration c := by
  intro c
  by_cases nothing : org.HasNoCredit
  · have none_ : c = {} := if_pos nothing
    rw [none_]
    exact ⟨absurd nothing, records_of_hasNoCredit stored dated duration nothing⟩
  · have split : c = .waterfall duration.toNat
        (org.quotaSeconds - (org.seconds.inPeriod .monthly w.now.period).toNat)
        org.pools.gifted.toNat org.pools.extra.toNat := if_neg nothing
    rw [split]
    exact ⟨fun _ => Credits.sum_waterfall _ _ _ _,
      records_waterfall stored dated duration nothing⟩

end Recording

/-- An organization with a minute a month, half of it used, and seconds in both pools. -/
def shortOfQuota : Organization where
  id := "o"
  quotas := { Quotas.none with monthlyExecMinutes := 1 }
  pools := ⟨90, 30⟩
  seconds := Seconds.none.put .monthly "2024-05" 30

/-- A world with that organization. -/
def worldShortOfQuota : World MemoryStore where
  store := { orgs := Register.insert ∅ shortOfQuota }
  now := .ofSeconds 1714521600

theorem run_recordUsage_shortOfQuota :
    worldShortOfQuota.Records shortOfQuota 200 ⟨30, 90, 30, 50⟩ := by
  have month : worldShortOfQuota.now.period = "2024-05" := by decide +kernel
  have split : shortOfQuota.creditsFor "2024-05" (200 : Counter).toNat = ⟨30, 90, 30, 50⟩ := by
    decide
  have stored : worldShortOfQuota.store.orgs.get? shortOfQuota.id = some shortOfQuota := by decide
  have result := (run_recordUsage stored (by decide) 200).2
  rw [month, split] at result
  exact result

end ArchiveAccounts
