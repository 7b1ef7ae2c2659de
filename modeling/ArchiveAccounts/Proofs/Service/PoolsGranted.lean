import ArchiveAccounts.Cli.Run
import ArchiveAccounts.Proofs.Org.Usage
import ArchiveAccounts.Proofs.Service.Preserves
import ArchiveAccounts.Proofs.Service.Requests
import ArchiveAccounts.Store.Memory

/-!
# Pools and the minutes granted

A new organization has in each pool the seconds of the minutes that are granted for it. Recordings
only take out of pools, and a change of quotas moves a pool by what the minutes change, within the
signed 64-bit numbers. Main statement: `poolsGranted_afterRequests_iff`, no pool ever holds more
than the minutes granted, exactly if no change cuts the minutes of a pool by more than can be taken
out of it at once.
-/

namespace ArchiveAccounts
set_option autoImplicit false

open Calendar

theorem Pool.forall_iff {p : Pool → Prop} : (∀ pool, p pool) ↔ p .gifted ∧ p .extra := by
  constructor
  · intro h
    exact ⟨h .gifted, h .extra⟩
  · rintro ⟨gifted, extra⟩ pool
    cases pool
    · exact gifted
    · exact extra

/-! ## One organization -/

namespace Organization

/-- Whether each pool holds at most the seconds of the minutes that are granted for it. -/
def PoolsGranted (org : Organization) : Prop :=
  ∀ pool, (org.pools.get pool).toNat ≤ 60 * (org.quotas.get pool.quota).toNat

instance (org : Organization) : Decidable org.PoolsGranted :=
  decidable_of_iff _ Pool.forall_iff.symm

/-- Whether a signed 64-bit number of seconds is enough to bring each pool down to the minutes that
a patch grants for it. -/
def CutsWithin (org : Organization) (patch : QuotaPatch) : Prop :=
  ∀ pool, ∀ minutes ∈ patch.get pool.quota,
    ((org.pools.get pool).toNat : Int) + Counter.minSigned ≤ 60 * minutes.toNat

instance (org : Organization) (patch : QuotaPatch) : Decidable (org.CutsWithin patch) :=
  -- The minutes are looked up in the patch, not searched for among all 64-bit numbers.
  have (pool : Pool) : Decidable (∀ minutes ∈ patch.get pool.quota,
      ((org.pools.get pool).toNat : Int) + Counter.minSigned ≤ 60 * minutes.toNat) :=
    Option.decidableForallMem _
  decidable_of_iff _ Pool.forall_iff.symm

variable {org : Organization}

theorem get_movePool (patch : QuotaPatch) (pools : Pools) (pool other : Pool) :
    (org.movePool patch pools pool).get other
      = if other = pool then (poolDelta org.quotas patch pool).elim (pools.get other)
          (Counter.shift (pools.get other))
        else pools.get other := by
  rw [movePool]
  cases poolDelta org.quotas patch pool with
  | none => simp only [Option.elim_none, ite_self]
  | some delta =>
    rw [PerPool.get_set, Option.elim_some]
    split
    · next same => rw [same]
    · rfl

/-- Each pool is moved once, by what the minutes granted for it change. -/
theorem get_pools_applyQuotaPatch (patch : QuotaPatch) (modified : Moment)
    (retention : Option Nat) (pool : Pool) :
    (org.applyQuotaPatch patch modified retention).pools.get pool
      = (poolDelta org.quotas patch pool).elim (org.pools.get pool)
          (Counter.shift (org.pools.get pool)) := by
  rw [applyQuotaPatch, List.foldl_cons, List.foldl_cons, List.foldl_nil]
  cases pool <;> simp only [get_movePool, reduceCtorEq, if_true, if_false]

/-- A change of quotas keeps pools within the minutes granted exactly if it cuts none of them by
more than a signed number. -/
theorem poolsGranted_applyQuotaPatch_iff (granted : org.PoolsGranted) (patch : QuotaPatch)
    (modified : Moment) (retention : Option Nat) :
    (org.applyQuotaPatch patch modified retention).PoolsGranted ↔ org.CutsWithin patch := by
  refine forall_congr' fun pool => ?_
  have before := granted pool
  have fits := Counter.toNat_le_maxNat (org.pools.get pool)
  have quota : (org.applyQuotaPatch patch modified retention).quotas.get pool.quota
      = (patch.get pool.quota).getD (org.quotas.get pool.quota) :=
    QuotaPatch.get_applyTo patch org.quotas pool.quota
  rw [quota, get_pools_applyQuotaPatch, poolDelta]
  cases patch.get pool.quota with
  | none => simpa using before
  | some minutes =>
    simp only [Option.map_some, Option.elim_some, Option.getD_some, Option.mem_some_iff,
      forall_eq', Counter.toNat_shift, Counter.clampSigned, Counter.minSigned, Counter.maxSigned,
      Counter.maxNat] at fits ⊢
    omega

/-- Recordings leave the quotas alone and add nothing to a pool. -/
theorem PoolsGranted.apply {call : OrgCall} (recording : call.isRecording = true)
    (granted : org.PoolsGranted) : (call.apply org).2.PoolsGranted := by
  cases call with
  | insert new | shiftBytes id delta kind | updateQuotas id patch modified retention =>
    exact nomatch recording
  | get id | countSeconds id counter period n => exact granted
  | creditMonthly id period n quota =>
    rw [OrgCall.apply, creditMonthly_eq]
    exact granted
  | drawPool id drawn period n =>
    intro pool
    have before := granted pool
    rw [OrgCall.apply, drawPool_eq, PerPool.get_set]
    split
    · next same =>
      rw [← same, Counter.toNat_minus]
      exact Nat.le_trans (Nat.sub_le _ _) before
    · exact before

end Organization

/-- The pools of a new organization are filled with the minutes granted. -/
theorem Cli.poolsGranted_newOrganization (id name : String) (owner : Option String)
    (patch : QuotaPatch) : (newOrganization id name owner patch).PoolsGranted := by
  have filled : ∀ minutes : Counter, (Counter.times minutes 60).toNat ≤ 60 * minutes.toNat := by
    intro minutes
    rw [Counter.toNat_times]
    omega
  intro pool
  cases owner <;> cases pool <;> exact filled _

/-! ## A store -/

/-- Whether the store holds the organization, and its pools at most the minutes granted. -/
def MemoryStore.PoolsGranted (id : String) (s : MemoryStore) : Prop :=
  ∃ org, s.orgs.get? id = some org ∧ org.PoolsGranted

namespace MemoryStore

variable {s : MemoryStore} {id : String} {call : OrgCall}

theorem get?_onOrgs_of_ne (old : call.isInsert = false) (other : id ≠ call.orgId) :
    ((onOrgs call).run s).2.orgs.get? id = s.orgs.get? id := by
  cases isThere : s.orgs.get? call.orgId with
  | none => rw [run_onOrgs_of_none isThere old]
  | some org =>
    have sameId : (call.apply org).2.id = call.orgId :=
      OrgCall.id_apply (Register.id_of_get? isThere)
    rw [run_onOrgs isThere, Register.get?_insert, sameId, if_neg other]

/-- A call keeps to the minutes granted exactly if it does so with the organization. -/
theorem PoolsGranted.onOrgs_iff (granted : s.PoolsGranted id) (old : call.isInsert = false) :
    ((onOrgs call).run s).2.PoolsGranted id
      ↔ ∀ org ∈ s.orgs.get? id, call.orgId = id → (call.apply org).2.PoolsGranted := by
  obtain ⟨org, isThere, before⟩ := granted
  simp only [isThere, Option.mem_some_iff, forall_eq']
  by_cases same : call.orgId = id
  · subst same
    have sameId : (call.apply org).2.id = call.orgId :=
      OrgCall.id_apply (Register.id_of_get? isThere)
    rw [run_onOrgs isThere, PoolsGranted, Register.get?_insert, if_pos sameId.symm]
    simp only [Option.some.injEq, exists_eq_left', forall_const]
  · rw [PoolsGranted, get?_onOrgs_of_ne old (Ne.symm same), isThere]
    simp only [Option.some.injEq, exists_eq_left', same, false_implies, iff_true]
    exact before

end MemoryStore

/-! ## Requests -/

namespace Request

/-- Whether a request records time or changes quotas. -/
def isAccounting : Request → Bool
  | recordUsage .. | updateQuotas .. => true
  | _ => false

/-- Whether a request cuts the minutes of the organization's pools by no more than can be taken out
of them at once. -/
def CutsWithin (id : String) : Request → World MemoryStore → Prop
  | updateQuotas orgId patch _, w =>
    ∀ org ∈ w.store.orgs.get? id, orgId = id → org.CutsWithin patch
  | _, _ => True

instance (id : String) : (request : Request) → (w : World MemoryStore) →
    Decidable (request.CutsWithin id w)
  | updateQuotas .., _ => inferInstanceAs (Decidable (∀ _ ∈ _, _))
  | deleteCrawls .., _ | deleteAll .., _ | recordUsage .., _ | resolveCrawl .., _
  | setCollections .., _ | updateCrawl .., _ | markCanceled .., _ | addReplica .., _ =>
    inferInstanceAs (Decidable True)

variable {w : World MemoryStore} {id : String}

theorem poolsGranted_recordUsage (granted : w.store.PoolsGranted id) (orgId : String)
    (duration : Counter) (isExecTime : Bool) :
    ((Action.recordUsage orgId duration isExecTime).run w).2.store.PoolsGranted id := by
  have kept : Action.Preserves (MemoryStore.PoolsGranted id)
      (Action.recordUsage orgId duration isExecTime) := by
    refine .recordUsage (fun call recording => .onStore fun s before => ?_) _ _ _
    have old : call.isInsert = false := by
      cases call with
      | insert | shiftBytes | updateQuotas => exact nomatch recording
      | get | countSeconds | creditMonthly | drawPool => rfl
    refine (before.onOrgs_iff old).2 fun org isThere _ => ?_
    obtain ⟨stored, found, within⟩ := before
    obtain rfl : stored = org := Option.some.inj (found.symm.trans isThere)
    exact within.apply recording
  exact kept w granted

theorem poolsGranted_updateQuotas_iff (granted : w.store.PoolsGranted id) (orgId : String)
    (patch : QuotaPatch) (retention : Option Nat) :
    ((Action.updateQuotas orgId patch retention).run w).2.store.PoolsGranted id
      ↔ (updateQuotas orgId patch retention).CutsWithin id w := by
  have ⟨org, isThere, within⟩ := granted
  rw [CutsWithin, isThere]
  simp only [Option.mem_some_iff, forall_eq']
  by_cases empty : patch.isEmpty = true
  · have nothing : org.CutsWithin patch := by
      rw [eq_of_beq empty]
      intro pool minutes named
      rw [QuotaPatch.empty, PerQuota.get_ofFn] at named
      exact nomatch named
    rw [Action.updateQuotas, if_pos empty]
    exact iff_of_true granted fun _ => nothing
  · rw [Action.updateQuotas, if_neg empty]
    have old : OrgCall.isInsert (.updateQuotas orgId patch w.now retention) = false := rfl
    refine (granted.onOrgs_iff old).trans ?_
    simp only [isThere, Option.mem_some_iff, forall_eq', OrgCall.orgId, OrgCall.apply]
    exact imp_congr_right fun _ => org.poolsGranted_applyQuotaPatch_iff within patch w.now retention

/-- A recording keeps to the minutes granted, and so does a change of quotas that cuts within what
can be taken out. -/
theorem poolsGranted_after_iff (services : Services) {request : Request}
    (accounting : request.isAccounting = true) (granted : w.store.PoolsGranted id) :
    (request.after services w).store.PoolsGranted id ↔ request.CutsWithin id w := by
  cases request with
  | recordUsage orgId duration isExecTime =>
    exact iff_of_true (poolsGranted_recordUsage granted orgId duration isExecTime) trivial
  | updateQuotas orgId patch retention =>
    exact poolsGranted_updateQuotas_iff granted orgId patch retention
  | deleteCrawls | deleteAll | resolveCrawl | setCollections | updateCrawl | markCanceled
  | addReplica => exact nomatch accounting

end Request

/-- Through changes of quotas and recordings in any order, whether they fail or not, the pools of an
organization hold at most the minutes granted after each of them, exactly if no change cuts the
minutes of a pool by more than can be taken out of it at once. -/
theorem poolsGranted_afterRequests_iff (services : Services) {id : String}
    {requests : List (Moment × Request)} {w : World MemoryStore}
    (accounting : ∀ r ∈ requests, r.2.isAccounting = true) (granted : w.store.PoolsGranted id) :
    (∀ earlier, earlier <+: requests →
        (afterRequests services earlier w).store.PoolsGranted id)
      ↔ EachRequest services (Request.CutsWithin id) requests w := by
  induction requests generalizing w with
  | nil =>
    refine iff_of_true ?_ trivial
    intro earlier isPrefix
    rw [List.prefix_nil.1 isPrefix]
    exact granted
  | cons first requests ih =>
    obtain ⟨now, request⟩ := first
    obtain ⟨accountingNow, accountingLater⟩ := List.forall_mem_cons.1 accounting
    have step := Request.poolsGranted_after_iff services (w := { w with now }) accountingNow granted
    constructor
    · intro always
      have after := always [(now, request)] (List.prefix_append [(now, request)] requests)
      refine ⟨step.1 after, (ih accountingLater after).1 fun earlier isPrefix => ?_⟩
      exact always ((now, request) :: earlier) (List.cons_prefix_cons.2 ⟨rfl, isPrefix⟩)
    · rintro ⟨within, later⟩ earlier isPrefix
      cases earlier with
      | nil => exact granted
      | cons head earlier =>
        obtain ⟨rfl, rest⟩ := List.cons_prefix_cons.1 isPrefix
        exact (ih accountingLater (step.2 within)).2 later earlier rest

/-- Collaborators that cannot be reached, which accounting does not need. -/
def unreachable : Services where
  deleteObject _ _ _ _ := .error (.collaborator "unreachable")
  mintLink _ _ _ _ _ := .error (.collaborator "unreachable")
  stop _ _ _ := .error (.collaborator "unreachable")
  correctConfig _ _ _ _ := .error (.collaborator "unreachable")

/-- A world with a new organization in it. -/
def worldWithNew (patch : QuotaPatch) : World MemoryStore where
  store := { orgs := Register.insert ∅ (Cli.newOrganization "org-1" "o" none patch) }
  now := .ofSeconds 1714564800

theorem poolsGranted_worldWithNew (patch : QuotaPatch) :
    (worldWithNew patch).store.PoolsGranted "org-1" :=
  ⟨_, Register.get?_insert_self ∅ (Cli.newOrganization "org-1" "o" none patch),
    Cli.poolsGranted_newOrganization _ _ _ _⟩

/-- Minutes granted, used up, granted again and taken back, with recordings in between. -/
def grantedAndTakenBack : List (Moment × Request) :=
  let now := Moment.ofSeconds 1714564800
  [(now, .recordUsage "org-1" 700 true),
    (now, .updateQuotas "org-1" { QuotaPatch.empty with giftedExecMinutes := some 20 } none),
    (now, .recordUsage "org-1" 30 false),
    (now, .updateQuotas "org-1" QuotaPatch.empty none),
    (now, .updateQuotas "org-1" { QuotaPatch.empty with
      giftedExecMinutes := some 1, extraExecMinutes := some 0xFFFFFFFFFFFFFFFF } (some 1)),
    (now, .recordUsage "org-1" 61 true)]

/-- No change cuts more than can be taken out, and the pools keep within the minutes granted. -/
theorem poolsGranted_afterRequests_iff_grantedAndTakenBack :
    let w := worldWithNew { QuotaPatch.empty with
      giftedExecMinutes := some 10, extraExecMinutes := some 5 }
    EachRequest unreachable (Request.CutsWithin "org-1") grantedAndTakenBack w ∧
      ∀ earlier, earlier <+: grantedAndTakenBack →
        (afterRequests unreachable earlier w).store.PoolsGranted "org-1" := by
  intro w
  have within : EachRequest unreachable (Request.CutsWithin "org-1") grantedAndTakenBack w := by
    decide
  exact ⟨within, (poolsGranted_afterRequests_iff unreachable (List.all_eq_true.1 (by decide))
    (poolsGranted_worldWithNew _)).2 within⟩

/-- Of minutes that are granted beyond the signed numbers, too few are taken back: with none granted
any more, the pool still holds seconds. -/
theorem not_poolsGranted_takenBack :
    let patch (minutes : Counter) := { QuotaPatch.empty with giftedExecMinutes := some minutes }
    let w := worldWithNew (patch 307445734561825860)
    let request := Request.updateQuotas "org-1" (patch 0) none
    w.store.PoolsGranted "org-1" ∧ request.isAccounting = true ∧
      ((request.after unreachable w).store.orgs.get? "org-1").map
          (fun org => (org.quotas.giftedExecMinutes, org.pools.gifted))
        = some (0, 9223372036854775792) ∧
      ¬(request.after unreachable w).store.PoolsGranted "org-1" := by
  intro patch w request
  have granted : w.store.PoolsGranted "org-1" := poolsGranted_worldWithNew _
  have tooMuch : ¬request.CutsWithin "org-1" w := by decide
  exact ⟨granted, rfl, by decide, fun kept =>
    tooMuch ((Request.poolsGranted_after_iff unreachable rfl granted).1 kept)⟩

end ArchiveAccounts
