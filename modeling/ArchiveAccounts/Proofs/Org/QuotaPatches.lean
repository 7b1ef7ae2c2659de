import ArchiveAccounts.Proofs.Service.PoolsGranted
import ArchiveAccounts.Proofs.Store.QuotaLog

/-!
# What patches of quotas do

A patch decides the quotas that it names, moves the pools for which it grants minutes, and is
logged; everything else of the organization stays. A pool that stops nowhere keeps its distance from
the minutes granted, whatever the patches, so that of many of them only the minutes before the first
and after the last one count. Main statements: `applyQuotaPatch_reconciles` and
`ahead_afterChanges`.
-/

namespace ArchiveAccounts
set_option autoImplicit false

open Calendar

/-- What a patch makes of an organization. -/
structure Reconciled (org : Organization) (patch : QuotaPatch) (modified : Moment)
    (retention : Option Nat) (after : Organization) : Prop where
  named : ∀ name value, patch.get name = some value → after.quotas.get name = value
  unnamed : ∀ name, patch.get name = none → after.quotas.get name = org.quotas.get name
  /-- Each minute granted more or less is sixty seconds, as a signed 64-bit number; the pool stops
  at zero and at its greatest value. -/
  moved : ∀ pool minutes, patch.get pool.quota = some minutes →
    let seconds : Int := 60 * (minutes.toNat - (org.quotas.get pool.quota).toNat)
    let change : Int := max (-0x8000000000000000) (min seconds 0x7FFFFFFFFFFFFFFF)
    ((after.pools.get pool).toNat : Int)
      = max 0 (min ((org.pools.get pool).toNat + change) 0xFFFFFFFFFFFFFFFF)
  unmoved : ∀ pool, patch.get pool.quota = none → after.pools.get pool = org.pools.get pool
  /-- The log ends with the patch, and nothing is missing from it but what is too old to be kept. -/
  log : after.quotaChanges <:+ org.quotaChanges ++ [⟨patch, modified⟩]
  length : after.quotaChanges.length
    = retention.elim (org.quotaChanges.length + 1)
        fun count => min (max count 1) (org.quotaChanges.length + 1)
  rest : after = { org with
    quotas := after.quotas
    pools := after.pools
    quotaChanges := after.quotaChanges }

theorem length_keepNewest {α : Type} (retention : Option Nat) (log : List α) :
    (keepNewest retention log).length
      = retention.elim log.length fun count => min (max count 1) log.length := by
  cases retention with
  | none => rfl
  | some count =>
    rw [keepNewest, List.length_drop, Option.elim_some]
    omega

namespace Organization

variable (org : Organization) (patch : QuotaPatch) (modified : Moment) (retention : Option Nat)

theorem reconciled_applyQuotaPatch :
    Reconciled org patch modified retention (org.applyQuotaPatch patch modified retention) := by
  have quota : ∀ name, (org.applyQuotaPatch patch modified retention).quotas.get name
      = (patch.get name).getD (org.quotas.get name) := QuotaPatch.get_applyTo patch org.quotas
  constructor
  case named =>
    intro name value isNamed
    rw [quota, isNamed, Option.getD_some]
  case unnamed =>
    intro name isUnnamed
    rw [quota, isUnnamed, Option.getD_none]
  case moved =>
    intro pool minutes granted
    rw [get_pools_applyQuotaPatch, poolDelta, granted, Option.map_some, Option.elim_some,
      Counter.toNat_shift, Int.mul_comm, Counter.clampSigned]
    simp only [Counter.maxNat, Counter.minSigned, Counter.maxSigned]
    omega
  case unmoved =>
    intro pool untouched
    rw [get_pools_applyQuotaPatch, poolDelta, untouched]
    rfl
  case log => exact keepNewest_suffix retention _
  case length =>
    refine (length_keepNewest retention _).trans ?_
    rw [List.length_append, List.length_singleton]
  case rest => rfl

/-- A patch that was applied changes nothing but the log when it is applied again. -/
theorem applyQuotaPatch_again (again : Moment) (retentionAgain : Option Nat) :
    let after := org.applyQuotaPatch patch modified retention
    after.applyQuotaPatch patch again retentionAgain
      = { after with
          quotaChanges := keepNewest retentionAgain (after.quotaChanges ++ [⟨patch, again⟩]) } := by
  intro after
  have quotas : patch.applyTo after.quotas = after.quotas := by
    apply PerQuota.ext_get
    intro name
    have quota : after.quotas.get name = (patch.get name).getD (org.quotas.get name) :=
      QuotaPatch.get_applyTo patch org.quotas name
    rw [QuotaPatch.get_applyTo, quota]
    cases patch.get name <;> rfl
  have pools : [Pool.gifted, Pool.extra].foldl (after.movePool patch) after.pools
      = after.pools := by
    apply PerPool.ext_get
    intro pool
    have same := after.get_pools_applyQuotaPatch patch again retentionAgain pool
    refine same.trans ?_
    cases granted : patch.get pool.quota with
    | none =>
      rw [poolDelta, granted]
      rfl
    | some minutes =>
      have quota := (org.reconciled_applyQuotaPatch patch modified retention).named _ _ granted
      rw [poolDelta, granted, Option.map_some, quota, Int.sub_self]
      exact Counter.shift_zero _
  rw [applyQuotaPatch, quotas, pools]

/-- The seconds by which a pool is ahead of the minutes granted for it. -/
def ahead (pool : Pool) : Int :=
  (org.pools.get pool).toNat - 60 * ((org.quotas.get pool.quota).toNat : Int)

/-- Whether a patch moves a pool by exactly what the minutes granted for it change: the change is a
signed 64-bit number, and the pool stops neither at zero nor at its greatest value. -/
def HasRoom (pool : Pool) : Prop :=
  ∀ minutes ∈ patch.get pool.quota,
    let seconds : Int := 60 * (minutes.toNat - (org.quotas.get pool.quota).toNat)
    (Counter.minSigned ≤ seconds ∧ seconds ≤ Counter.maxSigned) ∧
      0 ≤ (org.pools.get pool).toNat + seconds ∧
      (org.pools.get pool).toNat + seconds ≤ Counter.maxNat

instance (pool : Pool) : Decidable (org.HasRoom patch pool) := Option.decidableForallMem _

variable {org patch} {pool : Pool}

/-- A pool that has room keeps its distance from the minutes granted. -/
theorem ahead_applyQuotaPatch (room : org.HasRoom patch pool) :
    (org.applyQuotaPatch patch modified retention).ahead pool = org.ahead pool := by
  have after := org.reconciled_applyQuotaPatch patch modified retention
  rw [ahead, ahead]
  cases granted : patch.get pool.quota with
  | none => rw [after.unmoved pool granted, after.unnamed pool.quota granted]
  | some minutes =>
    have fits := room minutes granted
    rw [after.moved pool minutes granted, after.named pool.quota minutes granted]
    simp only [Counter.maxNat, Counter.minSigned, Counter.maxSigned] at fits
    omega

variable {retention}

/-- However many patches there are, a pool that has room for each of them keeps its distance from
the minutes granted. -/
theorem ahead_afterChanges {changes : List QuotaChange}
    (room : ∀ earlier change, earlier ++ [change] <+: changes →
      (org.afterChanges retention earlier).HasRoom change.patch pool) :
    (org.afterChanges retention changes).ahead pool = org.ahead pool := by
  -- from the end: each patch has room in what the earlier ones have made
  induction changes using List.reverseRecOn with
  | nil => rfl
  | append_singleton changes last ih =>
    have before := ih fun earlier change isPrefix =>
      room earlier change (isPrefix.trans (List.prefix_append _ _))
    rw [afterChanges_concat, ahead_applyQuotaPatch _ _ (room changes last List.prefix_rfl), before]

end Organization

/-- A patch does what it says and nothing else, and once it has, it changes only the log. Of two
patches for a pool that has room for both, only the minutes before the first one and those of the
second one count. -/
theorem applyQuotaPatch_reconciles (org : Organization) (patch : QuotaPatch) (modified : Moment)
    (retention : Option Nat) :
    let after := org.applyQuotaPatch patch modified retention
    Reconciled org patch modified retention after ∧
    (∀ again retentionAgain, after.applyQuotaPatch patch again retentionAgain
      = { after with
          quotaChanges := keepNewest retentionAgain (after.quotaChanges ++ [⟨patch, again⟩]) }) ∧
    ∀ (next : QuotaPatch) later retentionLater pool minutes, next.get pool.quota = some minutes →
      org.HasRoom patch pool → after.HasRoom next pool →
      (((after.applyQuotaPatch next later retentionLater).pools.get pool).toNat : Int)
          - (org.pools.get pool).toNat
        = 60 * (minutes.toNat - (org.quotas.get pool.quota).toNat) := by
  intro after
  refine ⟨org.reconciled_applyQuotaPatch patch modified retention,
    org.applyQuotaPatch_again patch modified retention, ?_⟩
  intro next later retentionLater pool minutes last room roomNext
  have first : after.ahead pool = org.ahead pool :=
    Organization.ahead_applyQuotaPatch modified retention room
  have second := Organization.ahead_applyQuotaPatch later retentionLater roomNext
  have quota := (after.reconciled_applyQuotaPatch next later retentionLater).named
    pool.quota minutes last
  rw [first, Organization.ahead, Organization.ahead, quota] at second
  omega

theorem applyQuotaPatch_reconciles_twice :
    let org : Organization :=
      { id := "org-1"
        quotas := { Quotas.none with giftedExecMinutes := 5, extraExecMinutes := 20 }
        pools := ⟨300, 100⟩ }
    let patch : QuotaPatch :=
      { QuotaPatch.empty with giftedExecMinutes := some 10, extraExecMinutes := some 0 }
    let next : QuotaPatch := { QuotaPatch.empty with giftedExecMinutes := some 7 }
    let now := Moment.ofSeconds 1714564800
    let after := org.applyQuotaPatch patch now none
    after.pools = ⟨600, 0⟩ ∧ ¬ org.HasRoom patch .extra ∧
      Reconciled org patch now none after ∧
      (((after.applyQuotaPatch next now none).pools.gifted).toNat : Int) - 300 = 60 * (7 - 5) := by
  intro org patch next now after
  obtain ⟨reconciled, _, twice⟩ := applyQuotaPatch_reconciles org patch now none
  have net := twice next now none .gifted 7 rfl (by decide) (by decide)
  exact ⟨by decide, by decide, reconciled, net⟩

end ArchiveAccounts
