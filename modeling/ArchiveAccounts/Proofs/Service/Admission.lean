import ArchiveAccounts.Proofs.Service.Splitting
import ArchiveAccounts.Proofs.Store.Agreement

/-!
# Admission and the ledger

Whether the execution time of a month is used up is asked in whole minutes, while recordings are
credited in seconds. The two agree: the quota is used up exactly if a recording would be credited
nothing, and a recording that is not credited in full leaves it used up. In tables this needs the
seconds of the month to be a signed 64-bit number, since greater ones are cut. Main statements:
`guardsAgree` and `not_guardsAgree_beyondSigned`.
-/

namespace ArchiveAccounts
set_option autoImplicit false

open Calendar

theorem Counter.zero_le (a : Counter) : 0 ≤ a := UInt64.le_iff_toNat_le.2 (Nat.zero_le _)

/-! ## Stores of organizations -/

/-- A store of organizations in which each call on one that it holds comes to what the call says, as
long as the numbers fit. -/
class LedgerStore (σ : Type) [AccountStore σ] where
  /-- Whether a store holds an organization. -/
  Stores : σ → Organization → Prop
  /-- Whether the numbers of an organization can be stored. -/
  Fits : Organization → Prop
  run_get {s : σ} {org : Organization} (stored : Stores s org) (fits : Fits org) :
    (AccountStore.onOrgs (.get org.id)).run s = (.ok org, s)
  run_call {s : σ} {org : Organization} (call : OrgCall) (storable : call.isStorable = true)
    (sameId : org.id = call.orgId) (stored : Stores s org) (fits : Fits org)
    (fitsAfter : Fits (call.apply org).2) :
    ∃ t, (AccountStore.onOrgs call).run s = (.ok (call.apply org).1, t) ∧
      Stores t (call.apply org).2
  /-- What fits after a recording has fitted with fewer of its credits. -/
  fits_charge {org : Organization} {period : String} {n monthly gifted extra : Counter}
    (fits : Fits org) (fitsAfter : Fits (org.charge period n monthly gifted extra))
    {monthly' gifted' extra' : Counter} (fewer : monthly' ≤ monthly)
    (fewerGifted : gifted' ≤ gifted) (fewerExtra : extra' ≤ extra) :
    Fits (org.charge period n monthly' gifted' extra')

instance : LedgerStore MemoryStore where
  Stores s org := s.orgs.get? org.id = some org
  Fits _ := True
  run_get stored _ := by
    show (MemoryStore.onOrgs _).run _ = _
    rw [MemoryStore.run_onOrgs stored]
    simp only [OrgCall.apply, Register.insert_eq_self stored]
  run_call {s org} call _ sameId stored _ _ := by
    rw [sameId] at stored
    refine ⟨_, MemoryStore.run_onOrgs stored, ?_⟩
    exact Register.get?_insert_self s.orgs _
  fits_charge _ _ _ _ _ _ _ _ := trivial

namespace Organization

variable {org : Organization} {period : String} {n monthly gifted extra : Counter}

theorem inPeriod_of_get? {counter : TimeCounter} {month : String} {seconds : Counter}
    (found : (org.seconds.get counter).get? month = some seconds) :
    org.seconds.inPeriod counter month = seconds := by
  rw [Seconds.inPeriod, SortedMap.getD, found]
  rfl

/-- Fewer credits leave fewer seconds in every month. -/
theorem inPeriod_charge_le {monthly' gifted' extra' : Counter} (fewer : monthly' ≤ monthly)
    (fewerGifted : gifted' ≤ gifted) (fewerExtra : extra' ≤ extra) (counter : TimeCounter)
    (month : String) :
    ((org.charge period n monthly' gifted' extra').seconds.inPeriod counter month).toNat
      ≤ ((org.charge period n monthly gifted extra).seconds.inPeriod counter month).toNat := by
  rw [UInt64.le_iff_toNat_le] at fewer fewerGifted fewerExtra
  simp only [charge, Seconds.inPeriod_credit, Seconds.inPeriod_add]
  cases counter with
  | usage => simp
  | crawlExec => simp
  | monthly | gifted | extra =>
    simp only [reduceCtorEq, false_and, true_and, if_false]
    split
    · simp only [Counter.toNat_plus]
      omega
    · exact Nat.le_refl _

theorem FitsSigned.charge_of_le (fits : org.FitsSigned)
    (fitsAfter : (org.charge period n monthly gifted extra).FitsSigned)
    {monthly' gifted' extra' : Counter} (fewer : monthly' ≤ monthly)
    (fewerGifted : gifted' ≤ gifted) (fewerExtra : extra' ≤ extra) :
    (org.charge period n monthly' gifted' extra').FitsSigned where
  total := fits.total
  part := fits.part
  pool pool := by
    have before := fits.pool pool
    cases pool with
    | gifted | extra =>
      simp only [charge, PerPool.get, Counter.FitsSigned, Counter.toNat_minus] at before ⊢
      omega
  seconds counter month seconds found := by
    have most : ((org.charge period n monthly gifted extra).seconds.inPeriod counter
        month).FitsSigned :=
      fitsAfter.inPeriod counter month
    have less : ((org.charge period n monthly' gifted' extra').seconds.inPeriod counter month).toNat
        ≤ _ := inPeriod_charge_le fewer fewerGifted fewerExtra counter month
    rw [inPeriod_of_get? found] at less
    exact Int.le_trans (Int.ofNat_le.2 less) most

end Organization

instance : LedgerStore RelationalStore where
  Stores s org := ∃ orgs, HoldOrgs s orgs ∧ orgs.get? org.id = some org
  Fits := Organization.FitsSigned
  run_get stored fits := by
    obtain ⟨orgs, hold, isThere⟩ := stored
    show (RelationalStore.onOrgs _).run _ = _
    rw [RelationalStore.onOrgs, Attempt.run_atomically, RelationalStore.perform,
      RelationalStore.run_load hold isThere fits]
  run_call {s org} call storable sameId stored fits fitsAfter := by
    obtain ⟨orgs, hold, isThere⟩ := stored
    rw [sameId] at isThere
    obtain ⟨t, run, holdAfter, _⟩ := RelationalStore.reaches hold storable isThere fits fitsAfter
    refine ⟨t, ?_, _, holdAfter, Register.get?_insert_self orgs _⟩
    show (RelationalStore.onOrgs _).run _ = _
    rw [RelationalStore.onOrgs, Attempt.run_atomically, run]
  fits_charge fits fitsAfter _ _ _ fewer fewerGifted fewerExtra :=
    fits.charge_of_le fitsAfter fewer fewerGifted fewerExtra

/-! ## A recording in such a store -/

/-- The organization after the first steps of an allocation, which fits as long as it does after all
of them. -/
theorem Organization.charge_eq_steps {org : Organization} {period : String} {n quota : Counter}
    {credited gifted : Counter × Organization}
    (first : (org.countSeconds .crawlExec period n).creditMonthly period n quota = credited)
    (second : credited.2.drawPool .gifted period (Counter.minus n credited.1) = gifted) :
    org.countSeconds .crawlExec period n = org.charge period n 0 0 0 ∧
      credited.2 = org.charge period n credited.1 0 0 ∧
      gifted.2 = org.charge period n credited.1 gifted.1 0 := by
  have afterFirst := creditMonthly_eq (org.countSeconds .crawlExec period n) period n quota
  have afterSecond := drawPool_eq credited.2 period (Counter.minus n credited.1) .gifted
  rw [first] at afterFirst
  rw [second, afterFirst] at afterSecond
  refine ⟨org.charge_zero period n |>.symm, ?_, ?_⟩
  · rw [afterFirst, charge]
    simp only [Seconds.credit, if_true, Counter.minus_zero]
    rfl
  · rw [afterSecond, charge]
    simp only [Seconds.credit, if_true, Counter.minus_zero]
    rfl

section Steps

variable {σ : Type} [AccountStore σ] [LedgerStore σ] {w : World σ} {org : Organization}

open LedgerStore

namespace Action

/-- A call on an organization that is stored. -/
theorem run_onOrgs_stored (call : OrgCall) (storable : call.isStorable = true)
    (sameId : org.id = call.orgId) (stored : Stores w.store org) (fits : Fits σ org)
    (fitsAfter : Fits σ (call.apply org).2) :
    ∃ t : World σ, (onOrgs call).run w = (.ok (call.apply org).1, t) ∧
      Stores t.store (call.apply org).2 ∧ t.now = w.now := by
  obtain ⟨s, run, storedAfter⟩ := run_call call storable sameId stored fits fitsAfter
  refine ⟨{ w with store := s }, ?_, storedAfter, rfl⟩
  rw [run_onOrgs, run]

theorem run_getOrg_stored (stored : Stores w.store org) (fits : Fits σ org) :
    (getOrg org.id).run w = (.ok org, w) := by
  rw [getOrg, run_onOrgs, run_get stored fits]

theorem run_drawPool_stored (pool : Pool) (period : String) (n : Counter)
    (stored : Stores w.store org) (fits : Fits σ org)
    (fitsAfter : Fits σ (org.drawPool pool period n).2) :
    ∃ t : World σ, (drawPool org.id pool period n).run w = (.ok (org.drawPool pool period n).1, t) ∧
      Stores t.store (org.drawPool pool period n).2 ∧ t.now = w.now := by
  rw [drawPool]
  split
  · next none_ =>
    refine ⟨w, ?_, ?_, rfl⟩
    · rw [none_, Organization.drawPool, Counter.zero_least]
      rfl
    · rw [none_, Organization.drawPool, Counter.zero_least]
      exact stored
  · exact run_onOrgs_stored (.drawPool org.id pool period n) rfl rfl stored fits fitsAfter

/-- What an allocation comes to once the time is counted. -/
theorem run_allocate_stored {period : String} {n quota : Counter}
    {credited gifted extra : Counter × Organization}
    (first : (org.countSeconds .crawlExec period n).creditMonthly period n quota = credited)
    (second : credited.2.drawPool .gifted period (Counter.minus n credited.1) = gifted)
    (third : gifted.2.drawPool .extra period
      (Counter.minus (Counter.minus n credited.1) gifted.1) = extra)
    (stored : Stores w.store (org.countSeconds .crawlExec period n))
    (fits : Fits σ org) (fitsAfter : Fits σ (org.charge period n credited.1 gifted.1 extra.1)) :
    let uncredited := Counter.minus (Counter.minus (Counter.minus n credited.1) gifted.1) extra.1
    ∃ t : World σ,
      (allocate org.id period n quota).run w
        = (.ok ⟨period, n, credited.1, gifted.1, extra.1, uncredited⟩, t) ∧
      Stores t.store (org.charge period n credited.1 gifted.1 extra.1) ∧ t.now = w.now := by
  intro uncredited
  obtain ⟨isCharge, isCharge₁, isCharge₂⟩ := Organization.charge_eq_steps first second
  have isCharge₃ := Organization.charge_eq org period n first second third
  have fits₀ : Fits σ (org.countSeconds .crawlExec period n) := by
    rw [isCharge]
    exact fits_charge fits fitsAfter (Counter.zero_le _) (Counter.zero_le _) (Counter.zero_le _)
  have fits₁ : Fits σ credited.2 := by
    rw [isCharge₁]
    exact fits_charge fits fitsAfter (UInt64.le_refl _) (Counter.zero_le _) (Counter.zero_le _)
  have fits₂ : Fits σ gifted.2 := by
    rw [isCharge₂]
    exact fits_charge fits fitsAfter (UInt64.le_refl _) (UInt64.le_refl _) (Counter.zero_le _)
  rw [← isCharge₃] at fitsAfter ⊢
  have sameId₁ : credited.2.id = org.id := by rw [isCharge₁]; rfl
  have sameId₂ : gifted.2.id = org.id := by rw [isCharge₂]; rfl
  have sameId : (org.countSeconds .crawlExec period n).id = org.id := rfl
  obtain ⟨t₁, run₁, stored₁, now₁⟩ := run_onOrgs_stored (.creditMonthly org.id period n quota) rfl
    sameId stored fits₀ (by rw [OrgCall.apply, first]; exact fits₁)
  rw [OrgCall.apply, first] at run₁ stored₁
  obtain ⟨t₂, run₂, stored₂, now₂⟩ := run_drawPool_stored .gifted period
    (Counter.minus n credited.1) stored₁ fits₁ (by rw [second]; exact fits₂)
  rw [second] at run₂ stored₂
  rw [sameId₁] at run₂
  obtain ⟨t₃, run₃, stored₃, now₃⟩ := run_drawPool_stored .extra period
    (Counter.minus (Counter.minus n credited.1) gifted.1) stored₂ fits₂
    (by rw [third]; exact fitsAfter)
  rw [third] at run₃ stored₃
  rw [sameId₂] at run₃
  refine ⟨{ t₃ with metrics := t₃.metrics.addCredit credited.1 gifted.1 extra.1 uncredited }, ?_,
    stored₃, now₃.trans (now₂.trans now₁)⟩
  simp only [allocate, Attempt.run_bind, run₁, run₂, run₃, run_count, Attempt.run_pure, uncredited]

/-- A recording of execution time counts it first, and then allocates it if there is credit. -/
theorem run_recordUsage_exec_stored {counted : Organization} (stored : Stores w.store org)
    (dated : w.now.isInUtcCalendar = true) (duration : Counter)
    (counts : org.countSeconds .crawlExec w.now.period duration = counted) (fits : Fits σ org)
    (fitsCounted : Fits σ counted) :
    ∃ t : World σ,
      (recordUsage org.id duration true).run w
        = (if org.HasNoCredit then (.ok { period := w.now.period, duration }, t)
          else (allocate org.id w.now.period duration org.quotas.monthlyExecSeconds).run t) ∧
      Stores t.store counted ∧ t.now = w.now := by
  have sameId : counted.id = org.id := by rw [← counts, Organization.id_countSeconds]
  have sameQuotas : counted.quotas = org.quotas := by rw [← counts, Organization.countSeconds]
  have samePools : counted.pools = org.pools := by rw [← counts, Organization.countSeconds]
  obtain ⟨t, count, storedCounted, sameNow⟩ := run_onOrgs_stored
    (.countSeconds org.id (if true = true then .crawlExec else .usage) w.now.period duration)
    rfl rfl stored fits (by rw [OrgCall.apply, if_pos rfl, counts]; exact fitsCounted)
  rw [OrgCall.apply, if_pos rfl, counts] at storedCounted
  have found := run_getOrg_stored storedCounted fitsCounted
  rw [sameId] at found
  refine ⟨t, ?_, storedCounted, sameNow⟩
  simp only [recordUsage, Attempt.run_bind, run_period dated]
  rw [count]
  simp only [if_true, Attempt.run_bind, found, org.hasNoCredit_iff, sameQuotas, samePools]
  split
  · rfl
  · rfl

end Action

/-- A recording of execution time reports how it is credited, and charges the organization. -/
theorem run_recordUsage_stored (stored : Stores w.store org)
    (dated : w.now.isInUtcCalendar = true) (duration : Counter) (fits : Fits σ org)
    (fitsAfter : Fits σ (org.recorded w.now.period duration)) :
    ∃ allocation t,
      (Action.recordUsage org.id duration true).run w = (.ok allocation, t) ∧
      allocation.Reports w.now.period duration (org.creditsFor w.now.period duration.toNat) ∧
      Stores t.store (org.recorded w.now.period duration) ∧ t.now = w.now := by
  have fitsCounted : Fits σ (org.countSeconds .crawlExec w.now.period duration) := by
    rw [← org.charge_zero w.now.period duration]
    exact fits_charge fits fitsAfter (Counter.zero_le _) (Counter.zero_le _) (Counter.zero_le _)
  obtain ⟨t, run, storedCounted, sameNow⟩ :=
    Action.run_recordUsage_exec_stored stored dated duration rfl fits fitsCounted
  by_cases nothing : org.HasNoCredit
  · have none_ : org.creditsFor w.now.period duration.toNat = {} := if_pos nothing
    have same : org.recorded w.now.period duration
        = org.countSeconds .crawlExec w.now.period duration := by
      rw [Organization.recorded, none_, ← org.charge_zero w.now.period duration]
      rfl
    rw [if_pos nothing] at run
    rw [none_, same]
    exact ⟨_, t, run, ⟨rfl, rfl, rfl, rfl, rfl, rfl⟩, storedCounted, sameNow⟩
  · have split : org.creditsFor w.now.period duration.toNat = .waterfall duration.toNat
        (org.quotaSeconds - (org.seconds.inPeriod .monthly w.now.period).toNat)
        org.pools.gifted.toNat org.pools.extra.toNat := if_neg nothing
    rw [if_neg nothing] at run
    generalize first : (org.countSeconds .crawlExec w.now.period duration).creditMonthly
      w.now.period duration org.quotas.monthlyExecSeconds = credited
    generalize second : credited.2.drawPool .gifted w.now.period
      (Counter.minus duration credited.1) = gifted
    generalize third : gifted.2.drawPool .extra w.now.period
      (Counter.minus (Counter.minus duration credited.1) gifted.1) = extra
    have reports := org.reports_waterfall w.now.period duration first second third
    rw [Quotas.toNat_monthlyExecSeconds, ← split] at reports
    have same : org.recorded w.now.period duration
        = org.charge w.now.period duration credited.1 gifted.1 extra.1 := by
      rw [Organization.recorded, ← reports.monthly, ← reports.gifted, ← reports.extra]
      simp only [Counter.ofNatCapped_toNat]
    rw [same] at fitsAfter ⊢
    obtain ⟨after, allocates, storedAfter, nowAfter⟩ :=
      Action.run_allocate_stored first second third storedCounted fits fitsAfter
    exact ⟨_, after, run.trans allocates, reports, storedAfter, nowAfter.trans sameNow⟩

end Steps

/-! ## The guards -/

namespace Organization

variable {org : Organization}

/-- A quota of whole minutes that can be counted in seconds. -/
structure CountsMinutes (org : Organization) : Prop where
  some_ : org.quotas.monthlyExecMinutes ≠ 0
  fits : 60 * org.quotas.monthlyExecMinutes.toNat ≤ Counter.maxNat

theorem CountsMinutes.quotaSeconds_eq (h : org.CountsMinutes) :
    org.quotaSeconds = 60 * org.quotas.monthlyExecMinutes.toNat :=
  Nat.min_eq_left h.fits

/-- The guard in minutes says whether there are seconds left. -/
theorem execQuotaReached_iff (h : org.CountsMinutes) (period : String) (includePools : Bool) :
    org.execQuotaReached period includePools = true
      ↔ org.quotaSeconds ≤ (org.seconds.inPeriod .monthly period).toNat ∧
        (includePools = true → org.pools.gifted.toNat = 0 ∧ org.pools.extra.toNat = 0) := by
  have minutes : org.quotas.monthlyExecMinutes.toNat
      ≤ (org.seconds.inPeriod .monthly period).toNat / 60
      ↔ org.quotaSeconds ≤ (org.seconds.inPeriod .monthly period).toNat := by
    rw [h.quotaSeconds_eq]
    omega
  have pooled : ∀ n : Counter, 0 < n ↔ n.toNat ≠ 0 := fun n => by
    rw [UInt64.lt_iff_toNat_lt, UInt64.toNat_zero]
    omega
  simp only [execQuotaReached, Bool.and_eq_true, Bool.not_eq_true', decide_eq_true_eq, minutes,
    h.some_, ne_eq, not_false_eq_true, and_true, pooled, Bool.and_eq_false_imp,
    Bool.or_eq_false_iff, decide_eq_false_iff_not, not_not]
  exact And.comm

/-- The quota is used up exactly if nothing of a duration would be credited under it; with the pools
exactly if nothing would be credited at all. -/
theorem execQuotaReached_iff_creditsFor (h : org.CountsMinutes) (period : String) {n : Nat}
    (some_ : 0 < n) :
    let c := org.creditsFor period n
    (org.execQuotaReached period false = true ↔ c.monthly = 0) ∧
      (org.execQuotaReached period true = true ↔ c.uncredited = n) ∧
      (c.uncredited = n ↔ c.monthly = 0 ∧ c.gifted = 0 ∧ c.extra = 0) := by
  intro c
  have split : c = org.fallFor period n := org.creditsFor_of_quota period h.some_ n
  rw [execQuotaReached_iff h, execQuotaReached_iff h, split]
  simp only [fallFor, Credits.waterfall, Bool.false_eq_true, false_implies, true_implies,
    and_true]
  omega

/-- A recording that is not credited in full leaves the quota and the pools used up. -/
theorem execQuotaReached_recorded (h : org.CountsMinutes) (period : String) (duration : Counter)
    (rest : (org.creditsFor period duration.toNat).uncredited ≠ 0) (includePools : Bool) :
    (org.recorded period duration).execQuotaReached period includePools = true := by
  have charged := org.charged_recorded period duration
  have gifted := charged.pools .gifted
  have extra := charged.pools .extra
  have monthly := charged.monthly
  have split := org.creditsFor_of_quota period h.some_ duration.toNat
  have kept : (org.recorded period duration).CountsMinutes := ⟨h.some_, h.fits⟩
  have same : (org.recorded period duration).quotaSeconds = org.quotaSeconds := rfl
  rw [execQuotaReached_iff kept, same]
  rw [split] at gifted extra monthly rest
  simp only [fallFor, Credits.waterfall, Credits.ofPool, PerPool.get] at gifted extra monthly rest
  omega

end Organization

/-- Whether the guards of an organization and a recording of its execution time agree: what they
answer before it, and what they answer when it was not credited in full. -/
def World.GuardsAgree {σ : Type} [AccountStore σ] (w : World σ) (orgId : String)
    (duration : Counter) : Prop :=
  ∃ allocation t,
    (Action.recordUsage orgId duration true).run w = (.ok allocation, t) ∧ t.now = w.now ∧
    (Action.execQuotaReached orgId false).run w = (.ok (decide (allocation.monthly = 0)), w) ∧
    (Action.execQuotaReached orgId true).run w
      = (.ok (decide (allocation.uncredited = duration)), w) ∧
    (allocation.uncredited = duration
      ↔ allocation.monthly = 0 ∧ allocation.gifted = 0 ∧ allocation.extra = 0) ∧
    (allocation.uncredited ≠ 0 →
      (∀ includePools, (Action.execQuotaReached orgId includePools).run t = (.ok true, t)) ∧
      ∃ report, (Action.usageReport orgId).run t = (.ok report, t) ∧
        report.execQuotaReached = true)

section Guards

variable {σ : Type} [AccountStore σ] [LedgerStore σ] {w : World σ} {org : Organization}

open LedgerStore

theorem Action.run_execQuotaReached_stored (stored : Stores w.store org) (fits : Fits σ org)
    (dated : w.now.isInUtcCalendar = true) (includePools : Bool) :
    (execQuotaReached org.id includePools).run w
      = (.ok (org.execQuotaReached w.now.period includePools), w) := by
  simp only [execQuotaReached, Attempt.run_bind, run_getOrg_stored stored fits, run_period dated,
    Attempt.run_pure]

theorem Action.run_usageReport_stored (stored : Stores w.store org) (fits : Fits σ org)
    (dated : w.now.isInUtcCalendar = true) :
    (usageReport org.id).run w = (.ok (org.report w.now.period), w) := by
  simp only [usageReport, Attempt.run_bind, run_getOrg_stored stored fits, run_period dated,
    Attempt.run_pure]

theorem guardsAgree_stored (stored : Stores w.store org) (dated : w.now.isInUtcCalendar = true)
    (minutes : org.CountsMinutes) {duration : Counter} (some_ : duration ≠ 0) (fits : Fits σ org)
    (fitsAfter : Fits σ (org.recorded w.now.period duration)) :
    w.GuardsAgree org.id duration := by
  obtain ⟨allocation, t, run, reports, storedAfter, sameNow⟩ :=
    run_recordUsage_stored stored dated duration fits fitsAfter
  have positive : 0 < duration.toNat := Nat.pos_of_ne_zero (mt Counter.toNat_eq_zero.1 some_)
  obtain ⟨quota, pools, none_⟩ :=
    org.execQuotaReached_iff_creditsFor minutes w.now.period positive
  have datedAfter : t.now.isInUtcCalendar = true := by rw [sameNow]; exact dated
  have sameId : (org.recorded w.now.period duration).id = org.id := rfl
  rw [← reports.monthly, Counter.toNat_eq_zero] at quota
  rw [← reports.uncredited, UInt64.toNat_inj] at pools
  rw [← reports.uncredited, UInt64.toNat_inj, ← reports.monthly, ← reports.gifted, ← reports.extra,
    Counter.toNat_eq_zero, Counter.toNat_eq_zero, Counter.toNat_eq_zero] at none_
  refine ⟨allocation, t, run, sameNow, ?_, ?_, none_, fun rest => ?_⟩
  · rw [Action.run_execQuotaReached_stored stored fits dated, Bool.eq_iff_iff.2
      (quota.trans decide_eq_true_iff.symm)]
  · rw [Action.run_execQuotaReached_stored stored fits dated, Bool.eq_iff_iff.2
      (pools.trans decide_eq_true_iff.symm)]
  · have rest : (org.creditsFor w.now.period duration.toNat).uncredited ≠ 0 := by
      rw [← reports.uncredited]
      exact mt Counter.toNat_eq_zero.1 rest
    have reached := org.execQuotaReached_recorded minutes w.now.period duration rest
    constructor
    · intro includePools
      rw [← sameId, Action.run_execQuotaReached_stored storedAfter fitsAfter datedAfter, sameNow,
        reached includePools]
    · refine ⟨(org.recorded w.now.period duration).report w.now.period, ?_, reached true⟩
      rw [← sameId, Action.run_usageReport_stored storedAfter fitsAfter datedAfter, sameNow]

end Guards

/-- The guards and the ledger agree in memory, whatever the numbers, and in tables as long as the
numbers before and after the recording are signed 64-bit numbers. -/
theorem guardsAgree {org : Organization} {now : Moment} {duration : Counter}
    (dated : now.isInUtcCalendar = true) (quota : org.quotas.monthlyExecMinutes ≠ 0)
    (bounded : 60 * org.quotas.monthlyExecMinutes.toNat ≤ 0xFFFFFFFFFFFFFFFF)
    (some_ : duration ≠ 0) :
    (∀ w : World MemoryStore, w.now = now → w.store.orgs.get? org.id = some org →
      w.GuardsAgree org.id duration) ∧
    ∀ (w : World RelationalStore) (orgs : OrgTable), w.now = now → HoldOrgs w.store orgs →
      orgs.get? org.id = some org → org.FitsSigned →
      (org.recorded now.period duration).FitsSigned → w.GuardsAgree org.id duration := by
  constructor
  · rintro w rfl stored
    exact guardsAgree_stored (σ := MemoryStore) stored dated ⟨quota, bounded⟩ some_ trivial trivial
  · rintro w orgs rfl hold stored fits fitsAfter
    have held : LedgerStore.Stores w.store org := Exists.intro orgs ⟨hold, stored⟩
    exact guardsAgree_stored held dated ⟨quota, bounded⟩ some_ fits fitsAfter

/-- A world with tables that hold one organization. -/
def tablesOf (org : Organization) (now : Moment) : World RelationalStore where
  store := afterCalls [.onOrgs (.insert org)] {}
  now

theorem guardsAgree_shortOfQuota :
    worldShortOfQuota.GuardsAgree shortOfQuota.id 200 ∧
      (tablesOf shortOfQuota worldShortOfQuota.now).GuardsAgree shortOfQuota.id 200 := by
  have agree := @guardsAgree shortOfQuota worldShortOfQuota.now 200 (by decide) (by decide)
    (by decide) (by decide)
  have hold : HoldOrgs (tablesOf shortOfQuota worldShortOfQuota.now).store
      (Register.insert ∅ shortOfQuota) :=
    (Holds.empty.run [.onOrgs (.insert shortOfQuota)] (by decide) (by decide)).2.orgs
  exact ⟨agree.1 worldShortOfQuota rfl (by decide),
    agree.2 _ _ rfl hold (by decide) (by decide) (by decide +kernel)⟩

/-- An organization whose quota is the greatest that can be counted in seconds. -/
def greatQuota : Organization where
  id := "org-1"
  quotas := { Quotas.none with monthlyExecMinutes := 307445734561825860 }

/-- In tables the seconds of a month are cut to a signed 64-bit number, though more are answered as
credited; the guards then find seconds left. -/
theorem not_guardsAgree_beyondSigned :
    ¬(tablesOf greatQuota (.ofSeconds 1714564800)).GuardsAgree greatQuota.id
      0xFFFFFFFFFFFFFFFF := by
  rintro ⟨allocation, t, run, -, -, -, -, after⟩
  let ran := (Action.recordUsage greatQuota.id 0xFFFFFFFFFFFFFFFF true).run
    (tablesOf greatQuota (.ofSeconds 1714564800))
  have answered : ran.1.map (·.uncredited) = .ok 15 := by
    decide +kernel
  have guard : ((Action.execQuotaReached greatQuota.id false).run ran.2).1 = .ok false := by
    decide +kernel
  have run : ran = (.ok allocation, t) := run
  rw [run] at answered guard
  have rest : allocation.uncredited ≠ 0 := by
    have uncredited : allocation.uncredited = 15 := Except.ok.inj answered
    rw [uncredited]
    decide
  have reached := (after rest).1 false
  rw [reached] at guard
  exact nomatch guard

end ArchiveAccounts
