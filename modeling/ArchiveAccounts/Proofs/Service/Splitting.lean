import ArchiveAccounts.Proofs.Service.Waterfall
import Mathlib.Algebra.Ring.Nat

/-!
# Recordings that are split

Execution time of one month may be recorded at once or in parts, in any order: the account comes to
the same. Each part is credited with what the parts before left of the quota and of the pools.
Main statement: `run_recordEach`.
-/

namespace ArchiveAccounts
set_option autoImplicit false

open Calendar

/-! ## Sums -/

namespace Counter

theorem plus_assoc (a b c : Counter) : plus (plus a b) c = plus a (plus b c) := by
  apply UInt64.toNat_inj.1
  simp only [toNat_plus]
  omega

theorem minus_minus (a b c : Counter) : minus (minus a b) c = minus a (plus b c) := by
  apply UInt64.toNat_inj.1
  have bound := toNat_le_maxNat a
  simp only [toNat_plus, toNat_minus]
  omega

@[simp] theorem zero_plus (a : Counter) : plus 0 a = a := by
  apply UInt64.toNat_inj.1
  have bound := toNat_le_maxNat a
  rw [toNat_plus, UInt64.toNat_zero, Nat.zero_add, Nat.min_eq_left bound]

theorem plus_eq_zero {a b : Counter} : plus a b = 0 ↔ a = 0 ∧ b = 0 := by
  rw [← toNat_eq_zero, ← toNat_eq_zero, ← toNat_eq_zero, toNat_plus]
  simp only [maxNat]
  omega

end Counter

namespace Credits

instance : Zero Credits := ⟨{}⟩

instance : Add Credits :=
  ⟨fun a b => ⟨a.monthly + b.monthly, a.gifted + b.gifted, a.extra + b.extra,
    a.uncredited + b.uncredited⟩⟩

theorem add_def (a b : Credits) :
    a + b = ⟨a.monthly + b.monthly, a.gifted + b.gifted, a.extra + b.extra,
      a.uncredited + b.uncredited⟩ :=
  rfl

/-- The seconds that are credited, with those that are not set aside. -/
def credited (c : Credits) : Credits := { c with uncredited := 0 }

theorem credited_eq_iff {a b : Credits} :
    a.credited = b.credited ↔ a.monthly = b.monthly ∧ a.gifted = b.gifted ∧ a.extra = b.extra := by
  simp only [credited, mk.injEq, and_true]

theorem credited_add (a b : Credits) : (a + b).credited = a.credited + b.credited := rfl

/-- What is taken of one tier, and what goes on to the next one, when a duration is split. -/
theorem tier_add (n m tier : Nat) :
    min (n + m) tier = min n tier + min m (tier - min n tier) ∧
      n + m - min (n + m) tier = n - min n tier + (m - min m (tier - min n tier)) := by
  omega

/-- A duration may be split: its second part finds what the first one left. -/
theorem waterfall_add (n m left gifted extra : Nat) :
    let c := waterfall n left gifted extra
    waterfall (n + m) left gifted extra
      = c + waterfall m (left - c.monthly) (gifted - c.gifted) (extra - c.extra) := by
  simp only [waterfall, add_def, mk.injEq]
  obtain ⟨monthly, overQuota⟩ := tier_add n m left
  rw [overQuota]
  obtain ⟨fromGifted, overGifted⟩ :=
    tier_add (n - min n left) (m - min m (left - min n left)) gifted
  rw [overGifted]
  obtain ⟨fromExtra, uncredited⟩ := tier_add _ _ extra
  exact ⟨monthly, fromGifted, fromExtra, uncredited⟩

end Credits

namespace Seconds

variable (s : Seconds) {counter other : TimeCounter} (period : String) (n m : Counter)

theorem get?_add (month : String) :
    ((s.add counter period n).get other).get? month
      = if other = counter ∧ month = period then
          some (Counter.plus (s.inPeriod counter period) n)
        else (s.get other).get? month :=
  get?_put s counter other period month _

theorem add_add :
    (s.add counter period n).add counter period m = s.add counter period (Counter.plus n m) := by
  apply ext_get?
  intro other month
  simp only [get?_add, inPeriod_add, and_self, if_true, Counter.plus_assoc]
  split
  · rfl
  · rfl

theorem credit_credit :
    (s.credit counter period n).credit counter period m
      = s.credit counter period (Counter.plus n m) := by
  by_cases first : n = 0
  · have none_ : s.credit counter period n = s := if_pos first
    rw [none_, first, Counter.zero_plus]
  · by_cases second : m = 0
    · rw [credit, if_pos second, second, Counter.plus_zero]
    · have sum : Counter.plus n m ≠ 0 := fun none_ => first (Counter.plus_eq_zero.1 none_).1
      simp only [credit, if_neg first, if_neg second, if_neg sum, add_add]

/-- Different counters may be added to in either order. -/
theorem add_comm (distinct : counter ≠ other) :
    (s.add counter period n).add other period m = (s.add other period m).add counter period n := by
  apply ext_get?
  intro third month
  simp only [get?_add, inPeriod_add, distinct, distinct.symm, false_and, if_false]
  by_cases here : third = counter ∧ month = period
  · have notOther : ¬(third = other ∧ month = period) := fun there =>
      distinct (here.1.symm.trans there.1)
    rw [if_neg notOther, if_pos here, if_pos here]
  · rw [if_neg here, if_neg here]

theorem add_credit_comm (distinct : counter ≠ other) :
    (s.credit counter period n).add other period m
      = (s.add other period m).credit counter period n := by
  rw [credit, credit]
  split
  · rfl
  · exact add_comm s period n m distinct

theorem credit_comm (distinct : counter ≠ other) :
    (s.credit counter period n).credit other period m
      = (s.credit other period m).credit counter period n := by
  by_cases none_ : m = 0
  · simp only [credit, none_, if_true]
  · have counted : ∀ s : Seconds, s.credit other period m = s.add other period m := fun s =>
      if_neg none_
    rw [counted, counted, add_credit_comm s period n m distinct]

end Seconds

/-! ## One organization -/

namespace Organization

variable (org : Organization) (period : String)

/-- Charges of one month come to the charge of their sums. -/
theorem charge_charge (n n' monthly monthly' gifted gifted' extra extra' : Counter) :
    (org.charge period n monthly gifted extra).charge period n' monthly' gifted' extra'
      = org.charge period (Counter.plus n n') (Counter.plus monthly monthly')
          (Counter.plus gifted gifted') (Counter.plus extra extra') := by
  have seconds :
      (org.charge period n monthly gifted extra).seconds.add .crawlExec period n'
        = (((org.seconds.add .crawlExec period (Counter.plus n n')).credit .monthly period
            monthly).credit .gifted period gifted).credit .extra period extra := by
    rw [charge, Seconds.add_credit_comm _ _ _ _ (by decide : TimeCounter.extra ≠ .crawlExec),
      Seconds.add_credit_comm _ _ _ _ (by decide : TimeCounter.gifted ≠ .crawlExec),
      Seconds.add_credit_comm _ _ _ _ (by decide : TimeCounter.monthly ≠ .crawlExec),
      Seconds.add_add]
  rw [charge, seconds, Seconds.credit_comm _ _ _ _ (by decide : TimeCounter.extra ≠ .monthly),
    Seconds.credit_comm _ _ _ _ (by decide : TimeCounter.gifted ≠ .monthly),
    Seconds.credit_credit, Seconds.credit_comm _ _ _ _ (by decide : TimeCounter.extra ≠ .gifted),
    Seconds.credit_credit, Seconds.credit_credit]
  simp only [charge, Counter.minus_minus]

/-- The split of a duration, whether or not there is a quota or a pool. -/
def fallFor (n : Nat) : Credits :=
  .waterfall n (org.quotaSeconds - (org.seconds.inPeriod .monthly period).toNat)
    org.pools.gifted.toNat org.pools.extra.toNat

/-- Without a quota and pools a waterfall credits nothing either. -/
theorem credited_creditsFor (n : Nat) :
    (org.creditsFor period n).credited = (org.fallFor period n).credited := by
  rw [creditsFor]
  split
  · next nothing =>
    obtain ⟨noQuota, noGifted, noExtra⟩ := nothing
    rw [fallFor, noQuota, noGifted, noExtra]
    simp [Credits.waterfall, Credits.credited]
  · rfl

/-- With a quota the whole of a duration is accounted for. -/
theorem creditsFor_of_quota (quota : org.quotas.monthlyExecMinutes ≠ 0) (n : Nat) :
    org.creditsFor period n = org.fallFor period n := by
  apply if_neg
  rintro ⟨noQuota, _⟩
  rw [← Quotas.toNat_monthlyExecSeconds, Quotas.monthlyExecSeconds, Counter.toNat_times] at noQuota
  have some_ : org.quotas.monthlyExecMinutes.toNat ≠ 0 := fun none_ =>
    quota (Counter.toNat_eq_zero.1 none_)
  simp only [Counter.maxNat] at noQuota
  omega

/-- The organization after a recording of execution time. -/
def recorded (duration : Counter) : Organization :=
  let c := org.creditsFor period duration.toNat
  org.charge period duration (.ofNatCapped c.monthly) (.ofNatCapped c.gifted) (.ofNatCapped c.extra)

/-- What is credited is there: it fits into the month's seconds, and the pools have it. -/
theorem creditsFor_le (n : Nat) :
    let c := org.creditsFor period n
    (org.seconds.inPeriod .monthly period).toNat + c.monthly ≤ Counter.maxNat ∧
      c.gifted ≤ org.pools.gifted.toNat ∧ c.extra ≤ org.pools.extra.toNat := by
  intro c
  obtain ⟨monthly, gifted, extra⟩ := Credits.credited_eq_iff.1 (org.credited_creditsFor period n)
  have underQuota : c.monthly ≤ org.quotaSeconds - (org.seconds.inPeriod .monthly period).toNat :=
    monthly ▸ Nat.min_le_right _ _
  have quotaFits : org.quotaSeconds ≤ Counter.maxNat := Nat.min_le_right _ _
  have usedFits := Counter.toNat_le_maxNat (org.seconds.inPeriod .monthly period)
  refine ⟨?_, gifted ▸ Nat.min_le_right _ _, extra ▸ Nat.min_le_right _ _⟩
  omega

theorem charged_recorded (n : Counter) :
    org.Charged (org.recorded period n) period n.toNat (org.creditsFor period n.toNat) := by
  obtain ⟨monthly, gifted, extra⟩ := org.creditsFor_le period n.toNat
  have giftedFits := Counter.toNat_le_maxNat org.pools.gifted
  have extraFits := Counter.toNat_le_maxNat org.pools.extra
  have same : ∀ m ≤ Counter.maxNat, (Counter.ofNatCapped m).toNat = m := by
    intro m fits
    rw [Counter.toNat_ofNatCapped, Nat.min_eq_left fits]
  exact org.charged_charge period n (same _ (by omega)) (same _ (by omega)) (same _ (by omega))
    monthly gifted extra

/-- The second part of a recording falls where the first part left something. -/
theorem fallFor_add (n : Counter) (m : Nat) :
    org.fallFor period (n.toNat + m)
      = org.fallFor period n.toNat + (org.recorded period n).fallFor period m := by
  have charged := org.charged_recorded period n
  obtain ⟨monthly, gifted, extra⟩ :=
    Credits.credited_eq_iff.1 (org.credited_creditsFor period n.toNat)
  have monthlyLeft : (org.recorded period n).quotaSeconds
      - ((org.recorded period n).seconds.inPeriod .monthly period).toNat
      = org.quotaSeconds - (org.seconds.inPeriod .monthly period).toNat
        - (org.fallFor period n.toNat).monthly := by
    rw [charged.monthly, monthly, ← Nat.sub_sub]
    rfl
  have giftedLeft : (org.recorded period n).pools.gifted.toNat
      = org.pools.gifted.toNat - (org.fallFor period n.toNat).gifted := by
    rw [← gifted]
    exact charged.pools .gifted
  have extraLeft : (org.recorded period n).pools.extra.toNat
      = org.pools.extra.toNat - (org.fallFor period n.toNat).extra := by
    rw [← extra]
    exact charged.pools .extra
  rw [fallFor, Credits.waterfall_add]
  conv => rhs; rhs; rw [fallFor, monthlyLeft, giftedLeft, extraLeft]
  rfl

theorem credited_creditsFor_add (n : Counter) (m : Nat) :
    (org.creditsFor period (n.toNat + m)).credited
      = (org.creditsFor period n.toNat + (org.recorded period n).creditsFor period m).credited := by
  rw [Credits.credited_add, credited_creditsFor, credited_creditsFor, credited_creditsFor,
    fallFor_add, Credits.credited_add]

/-- Two recordings come to one of their sum. -/
theorem recorded_recorded {n m : Counter} (fits : n.toNat + m.toNat ≤ Counter.maxNat) :
    (org.recorded period n).recorded period m = org.recorded period (Counter.plus n m) := by
  have sum : (Counter.plus n m).toNat = n.toNat + m.toNat := by
    rw [Counter.toNat_plus, Nat.min_eq_left fits]
  obtain ⟨monthly, gifted, extra⟩ :=
    Credits.credited_eq_iff.1 (org.credited_creditsFor_add period n m.toNat)
  rw [recorded, recorded, charge_charge, Counter.plus_ofNatCapped, Counter.plus_ofNatCapped,
    Counter.plus_ofNatCapped]
  conv => rhs; rw [recorded, sum, monthly, gifted, extra]
  rfl

/-- The organization after recordings of one month. -/
def recordedEach (org : Organization) (period : String) (durations : List Counter) : Organization :=
  durations.foldl (fun org n => org.recorded period n) org

theorem id_recordedEach (durations : List Counter) :
    (org.recordedEach period durations).id = org.id := by
  induction durations generalizing org with
  | nil => rfl
  | cons n durations ih => exact ih (org.recorded period n)

/-- The credits of recordings of one month, one after the other. -/
def creditsForEach (org : Organization) (period : String) : List Counter → List Credits
  | [] => []
  | n :: durations =>
    org.creditsFor period n.toNat :: (org.recorded period n).creditsForEach period durations

/-- Recordings of one month come to one of their sum. -/
theorem recordedEach_total {org : Organization} {durations : List Counter} {total : Counter}
    (some_ : durations ≠ []) (sum : (durations.map UInt64.toNat).sum = total.toNat) :
    org.recordedEach period durations = org.recorded period total ∧
      (org.creditsForEach period durations).sum.credited
        = (org.creditsFor period total.toNat).credited ∧
      (org.quotas.monthlyExecMinutes ≠ 0 →
        (org.creditsForEach period durations).sum = org.creditsFor period total.toNat) := by
  induction durations generalizing org total with
  | nil => exact absurd rfl some_
  | cons n durations ih =>
    rw [List.map_cons, List.sum_cons] at sum
    by_cases last : durations = []
    · obtain rfl : n = total := by
        rw [last, List.map_nil, List.sum_nil, Nat.add_zero] at sum
        exact UInt64.toNat_inj.1 sum
      rw [last]
      exact ⟨rfl, rfl, fun _ => rfl⟩
    · have fits := Counter.toNat_le_maxNat total
      have rest : (durations.map UInt64.toNat).sum
          = (Counter.ofNatCapped (durations.map UInt64.toNat).sum).toNat := by
        rw [Counter.toNat_ofNatCapped]
        omega
      generalize Counter.ofNatCapped (durations.map UInt64.toNat).sum = later at rest
      rw [rest] at sum
      have isSum : Counter.plus n later = total := by
        apply UInt64.toNat_inj.1
        rw [Counter.toNat_plus]
        omega
      obtain ⟨account, credited, whole⟩ := @ih (org.recorded period n) later last rest
      refine ⟨?_, ?_, fun quota => ?_⟩
      · rw [recordedEach, List.foldl_cons, ← isSum, ← recorded_recorded _ _ (sum ▸ fits)]
        exact account
      · rw [creditsForEach, List.sum_cons, Credits.credited_add, credited, ← sum,
          credited_creditsFor_add, Credits.credited_add]
      · have kept : (org.recorded period n).quotas.monthlyExecMinutes ≠ 0 := quota
        rw [creditsForEach, List.sum_cons, whole kept, ← sum, creditsFor_of_quota _ _ quota,
          creditsFor_of_quota _ _ quota, creditsFor_of_quota _ _ kept, fallFor_add]

end Organization

/-! ## Recordings one after the other -/

theorem World.store_withOrg_congr {v w : World MemoryStore} (same : v.store = w.store)
    (org : Organization) : (v.withOrg org).store = (w.withOrg org).store := by
  rw [withOrg, withOrg, same]

/-- The seconds of an allocation by where they are credited. -/
def Allocation.credits (a : Allocation) : Credits :=
  ⟨a.monthly.toNat, a.gifted.toNat, a.extra.toNat, a.uncredited.toNat⟩

/-- Records execution time at a given time. -/
def Action.recordAt (orgId : String) (now : Moment) (duration : Counter) :
    Action MemoryStore Allocation := do
  modify fun w => { w with now }
  recordUsage orgId duration true

/-- Records execution times one after the other, each at its time. -/
def Action.recordEach (orgId : String) (recordings : List (Moment × Counter)) :
    Action MemoryStore (List Allocation) :=
  recordings.mapM fun (now, duration) => recordAt orgId now duration

section Recordings

variable {w : World MemoryStore} {org : Organization}
  (stored : w.store.orgs.get? org.id = some org)

include stored

/-- A recording of execution time: its answer, and the organization that it leaves. -/
theorem run_recordAt {now : Moment} (dated : now.isInUtcCalendar = true) (duration : Counter) :
    ∃ allocation after,
      (Action.recordAt org.id now duration).run w = (.ok allocation, after) ∧
      after.store = (w.withOrg (org.recorded now.period duration)).store ∧
      allocation.credits = org.creditsFor now.period duration.toNat := by
  obtain ⟨allocation, metrics, run, reports, _⟩ :=
    run_recordUsage_charge (w := { w with now }) stored dated duration
  have credits : allocation.credits = org.creditsFor now.period duration.toNat := by
    rw [Allocation.credits, reports.monthly, reports.gifted, reports.extra, reports.uncredited]
  have charge : org.recorded now.period duration
      = org.charge now.period duration allocation.monthly allocation.gifted allocation.extra := by
    rw [Organization.recorded, ← credits]
    simp only [Allocation.credits, Counter.ofNatCapped_toNat]
  refine ⟨allocation, _, run, ?_, credits⟩
  rw [charge]
  rfl

/-- Recordings of one month: each answers what it is credited with, and they leave one organization
in the store. -/
theorem run_recordEach_recorded {recordings : List (Moment × Counter)} {month : String}
    (dated : ∀ r ∈ recordings, r.1.isInUtcCalendar = true ∧ r.1.period = month) :
    ∃ allocations after,
      (Action.recordEach org.id recordings).run w = (.ok allocations, after) ∧
      after.store = (w.withOrg (org.recordedEach month (recordings.map Prod.snd))).store ∧
      allocations.map Allocation.credits
        = org.creditsForEach month (recordings.map Prod.snd) := by
  induction recordings generalizing w org with
  | nil =>
    refine ⟨[], w, rfl, ?_, rfl⟩
    exact congrArg World.store (World.withOrg_eq_self stored).symm
  | cons first recordings ih =>
    obtain ⟨now, duration⟩ := first
    obtain ⟨⟨datedNow, rfl⟩, datedLater⟩ := List.forall_mem_cons.1 dated
    obtain ⟨allocation, next, run, nextStore, credits⟩ := run_recordAt stored datedNow duration
    generalize recorded : org.recorded now.period duration = account at nextStore
    have sameId : account.id = org.id := by rw [← recorded]; rfl
    have storedNext : next.store.orgs.get? account.id = some account := by
      rw [nextStore]
      exact Register.get?_insert_self w.store.orgs account
    obtain ⟨rest, after, runRest, store, creditsRest⟩ := ih storedNext datedLater
    rw [sameId] at runRest
    refine ⟨allocation :: rest, after, ?_, ?_, ?_⟩
    · rw [Action.recordEach, List.mapM_cons, Attempt.run_bind, run]
      show ((Action.recordEach org.id recordings >>= _).run next) = _
      rw [Attempt.run_bind, runRest]
      rfl
    · rw [store, World.store_withOrg_congr nextStore, w.withOrg_withOrg]
      · rw [← recorded]
        rfl
      · exact (Organization.id_recordedEach _ _ _).symm
    · rw [List.map_cons, List.map_cons, credits, creditsRest, ← recorded]
      rfl

/-- Execution times of one month may be recorded one by one, in any order, or all at once: the store
comes to the same, and the credits add up to those of the sum. With a monthly quota what is left
uncredited adds up too. -/
theorem run_recordEach {recordings : List (Moment × Counter)} {month : String} {now : Moment}
    {total : Counter} (some_ : recordings ≠ [])
    (dated : ∀ r ∈ recordings, r.1.isInUtcCalendar = true ∧ r.1.period = month)
    (sum : (recordings.map fun r => r.2.toNat).sum = total.toNat)
    (datedTotal : now.isInUtcCalendar = true ∧ now.period = month) :
    ∃ allocations each whole once,
      (Action.recordEach org.id recordings).run w = (.ok allocations, each) ∧
      (Action.recordAt org.id now total).run w = (.ok whole, once) ∧
      each.store = once.store ∧
      (allocations.map Allocation.credits).sum.credited = whole.credits.credited ∧
      (org.quotas.monthlyExecMinutes ≠ 0 →
        (allocations.map Allocation.credits).sum = whole.credits) ∧
      ∀ reordered : List (Moment × Counter),
        (∀ r ∈ reordered, r.1.isInUtcCalendar = true ∧ r.1.period = month) →
        (reordered.map Prod.snd).Perm (recordings.map Prod.snd) →
        ∃ others after, (Action.recordEach org.id reordered).run w = (.ok others, after) ∧
          after.store = each.store := by
  obtain ⟨datedTotal, rfl⟩ := datedTotal
  obtain ⟨allocations, each, run, store, credits⟩ := run_recordEach_recorded stored dated
  obtain ⟨whole, once, runOnce, storeOnce, creditsOnce⟩ := run_recordAt stored datedTotal total
  have someDurations : recordings.map Prod.snd ≠ [] := mt List.map_eq_nil_iff.1 some_
  have sumDurations : ((recordings.map Prod.snd).map UInt64.toNat).sum = total.toNat := by
    rw [List.map_map]
    exact sum
  obtain ⟨account, credited, uncredited⟩ :=
    Organization.recordedEach_total now.period someDurations sumDurations
  rw [← credits, ← creditsOnce] at credited uncredited
  rw [account] at store
  refine ⟨allocations, each, whole, once, run, runOnce, store.trans storeOnce.symm, credited,
    uncredited, ?_⟩
  intro reordered datedReordered same
  obtain ⟨others, after, runReordered, storeReordered, _⟩ :=
    run_recordEach_recorded stored datedReordered
  have someReordered : reordered.map Prod.snd ≠ [] := by
    intro none_
    rw [none_] at same
    exact someDurations same.nil_eq.symm
  have sumReordered : ((reordered.map Prod.snd).map UInt64.toNat).sum = total.toNat := by
    rw [(same.map UInt64.toNat).sum_nat, sumDurations]
  rw [(Organization.recordedEach_total now.period someReordered sumReordered).1] at storeReordered
  exact ⟨others, after, runReordered, storeReordered.trans store.symm⟩

end Recordings

theorem run_recordEach_shortOfQuota :
    let days : List Moment := [.ofSeconds 1714521600, .ofSeconds 1715521600, .ofSeconds 1717199999]
    let each (durations : List Counter) :=
      (Action.recordEach shortOfQuota.id (days.zip durations)).run worldShortOfQuota
    ∃ allocations parts whole once others reordered,
      each [20, 100, 80] = (.ok allocations, parts) ∧
      (Action.recordAt shortOfQuota.id (.ofSeconds 1716521600) 200).run worldShortOfQuota
        = (.ok whole, once) ∧
      each [80, 20, 100] = (.ok others, reordered) ∧
      parts.store = once.store ∧ reordered.store = parts.store ∧
      (allocations.map Allocation.credits).sum = whole.credits := by
  intro days each
  have inMay : ∀ day ∈ days, day.isInUtcCalendar = true ∧ day.period = "2024-05" := by
    decide +kernel
  have dated : ∀ durations : List Counter, ∀ r ∈ days.zip durations,
      r.1.isInUtcCalendar = true ∧ r.1.period = "2024-05" := fun durations r mem =>
    inMay r.1 (List.of_mem_zip mem).1
  have stored : worldShortOfQuota.store.orgs.get? shortOfQuota.id = some shortOfQuota := by decide
  let durations : List Counter := [20, 100, 80]
  have sum : ((days.zip durations).map fun r => r.2.toNat).sum = (200 : Counter).toNat := by decide
  have datedTotal : (Moment.ofSeconds 1716521600).isInUtcCalendar = true ∧
      (Moment.ofSeconds 1716521600).period = "2024-05" := by decide +kernel
  obtain ⟨allocations, parts, whole, once, run, runOnce, store, _, quota, reorder⟩ :=
    run_recordEach stored (by decide) (dated durations) sum datedTotal
  obtain ⟨others, reordered, runReordered, sameStore⟩ :=
    reorder (days.zip [80, 20, 100]) (dated [80, 20, 100]) (by decide)
  exact ⟨allocations, parts, whole, once, others, reordered, run, runOnce, runReordered, store,
    sameStore, quota (by decide)⟩

end ArchiveAccounts
