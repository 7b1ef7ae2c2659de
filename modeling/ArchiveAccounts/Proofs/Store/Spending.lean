import ArchiveAccounts.Proofs.Data.Sums
import ArchiveAccounts.Proofs.Org.Usage
import ArchiveAccounts.Proofs.Store.Run
import ArchiveAccounts.Store.Memory

/-!
# Seconds are spent once

Calls that record the usage of an organization, in any order, credit what its months gain and draw
what its pools lose. Each call does, and what two runs do adds up. Main statement: `run_spends`.
-/

namespace ArchiveAccounts
set_option autoImplicit false

namespace Seconds

/-- The seconds of all months. -/
def total (s : Seconds) (counter : TimeCounter) : Nat := (s.get counter).sum UInt64.toNat

variable (s : Seconds) (counter other : TimeCounter) (period : String) (n : Counter)

theorem total_add
    (room : (s.inPeriod counter period).toNat + n.toNat ≤ Counter.maxNat) :
    (s.add counter period n).total other
      = s.total other + if other = counter then n.toNat else 0 := by
  have before : ((s.get counter).get? period).elim 0 UInt64.toNat
      = (s.inPeriod counter period).toNat := by
    rw [inPeriod, SortedMap.getD]
    cases (s.get counter).get? period <;> rfl
  have sum := SortedMap.sum_insert UInt64.toNat (s.get counter) period
    (Counter.plus (s.inPeriod counter period) n)
  rw [before, Counter.toNat_plus, Nat.min_eq_left room] at sum
  rw [total, total, add, put, PerCounter.get_set]
  split
  · next same =>
    rw [same]
    omega
  · rfl

theorem total_credit
    (room : (s.inPeriod counter period).toNat + n.toNat ≤ Counter.maxNat) :
    (s.credit counter period n).total other
      = s.total other + if other = counter then n.toNat else 0 := by
  rw [credit]
  split
  · next none_ => simp [none_]
  · exact total_add s counter other period n room

end Seconds

/-! ## What calls credit and draw -/

namespace OrgCall

/-- Whether a call records time or bytes, or credits or draws time. -/
def isUsage : OrgCall → Bool
  | countSeconds _ .usage .. | countSeconds _ .crawlExec .. | creditMonthly .. | drawPool ..
  | shiftBytes .. => true
  | _ => false

/-- Whether the month that a pool is drawn for can count what is drawn. -/
def HasRoom : OrgCall → Organization → Prop
  | drawPool _ pool period n, org =>
    (org.seconds.inPeriod pool.counter period).toNat + (org.drawPool pool period n).1.toNat
      ≤ Counter.maxNat
  | _, _ => True

instance : (call : OrgCall) → (org : Organization) → Decidable (call.HasRoom org)
  | drawPool .., _ => inferInstanceAs (Decidable (_ ≤ _))
  | insert _, _ | get _, _ | countSeconds .., _ | creditMonthly .., _ | shiftBytes .., _
  | updateQuotas .., _ => inferInstanceAs (Decidable True)

end OrgCall

namespace StoreCall

/-- Whether a call is about the usage of an organization. -/
def IsUsageOf (id : String) : StoreCall → Prop
  | onOrgs call => call.orgId = id ∧ call.isUsage = true
  | onCrawls _ => False

instance (id : String) : DecidablePred (IsUsageOf id)
  | onOrgs _ => inferInstanceAs (Decidable (_ ∧ _))
  | onCrawls _ => inferInstanceAs (Decidable False)

/-- Whether a draw finds room in the month that counts it. -/
def HasRoom : StoreCall → MemoryStore → Prop
  | onOrgs call, s => ∀ org ∈ s.orgs.get? call.orgId, call.HasRoom org
  | onCrawls _, _ => True

instance : (call : StoreCall) → (s : MemoryStore) → Decidable (call.HasRoom s)
  | onOrgs _, _ => inferInstanceAs (Decidable (∀ _ ∈ _, _))
  | onCrawls _, _ => inferInstanceAs (Decidable True)

end StoreCall

namespace Exchange

/-- The seconds credited under the quota of a month. -/
def credited (period : String) : Exchange → Nat
  | ⟨.onOrgs (.creditMonthly _ month _ _), .ok n⟩ =>
    if month = period then UInt64.toNat n else 0
  | _ => 0

/-- The seconds drawn from a pool. -/
def drawn (pool : Pool) : Exchange → Nat
  | ⟨.onOrgs (.drawPool _ from_ _ _), .ok n⟩ => if from_ = pool then UInt64.toNat n else 0
  | _ => 0

/-- The quota that is given for a month. -/
def quotaFor (period : String) : Exchange → Nat
  | ⟨.onOrgs (.creditMonthly _ month _ quota), _⟩ => if month = period then quota.toNat else 0
  | _ => 0

/-- The largest quota that is given for a month. -/
def largestQuota (period : String) (run : List Exchange) : Nat :=
  (run.map (quotaFor period)).foldr max 0

theorem largestQuota_append (period : String) (first later : List Exchange) :
    largestQuota period (first ++ later)
      = max (largestQuota period first) (largestQuota period later) := by
  rw [largestQuota, List.map_append, List.foldr_append]
  have split : (first.map (quotaFor period)).foldr max (max 0 (largestQuota period later)) = _ :=
    List.foldr_assoc
  rw [Nat.zero_max] at split
  exact split

end Exchange

/-- What a run makes of an organization's seconds. -/
structure Organization.Spent (org after : Organization) (run : List Exchange) : Prop where
  succeeds : ∀ exchange ∈ run, exchange.result.isOk = true
  credited : ∀ period, (after.seconds.inPeriod .monthly period).toNat
    = (org.seconds.inPeriod .monthly period).toNat + (run.map (Exchange.credited period)).sum
  drawn : ∀ pool, (after.pools.get pool).toNat + (run.map (Exchange.drawn pool)).sum
    = (org.pools.get pool).toNat
  counted : ∀ pool : Pool, after.seconds.total pool.counter
    = org.seconds.total pool.counter + (run.map (Exchange.drawn pool)).sum
  underQuota : ∀ period, (after.seconds.inPeriod .monthly period).toNat
    ≤ max (org.seconds.inPeriod .monthly period).toNat (Exchange.largestQuota period run)

namespace Organization.Spent

variable {org mid after : Organization} {first later : List Exchange}

theorem nil (org : Organization) : org.Spent org [] where
  succeeds := List.forall_mem_nil _
  credited _ := (Nat.add_zero _).symm
  drawn _ := Nat.add_zero _
  counted _ := (Nat.add_zero _).symm
  underQuota _ := Nat.le_max_left _ _

/-- What runs one after the other credit and draw adds up. -/
theorem append (h : org.Spent mid first) (h' : mid.Spent after later) :
    org.Spent after (first ++ later) where
  succeeds := List.forall_mem_append.2 ⟨h.succeeds, h'.succeeds⟩
  credited period := by
    have now := h.credited period
    have next := h'.credited period
    rw [List.map_append, List.sum_append]
    omega
  drawn pool := by
    have now := h.drawn pool
    have next := h'.drawn pool
    rw [List.map_append, List.sum_append]
    omega
  counted pool := by
    have now := h.counted pool
    have next := h'.counted pool
    rw [List.map_append, List.sum_append]
    omega
  underQuota period := by
    have now := h.underQuota period
    have next := h'.underQuota period
    rw [Exchange.largestQuota_append]
    omega

/-- Time or bytes that are merely recorded. -/
theorem of_recorded {call : OrgCall} {reply : call.Reply}
    (credited : ∀ period, Exchange.credited period ⟨.onOrgs call, .ok reply⟩ = 0)
    (drawn : ∀ pool, Exchange.drawn pool ⟨.onOrgs call, .ok reply⟩ = 0)
    (sameMonthly : after.seconds.get .monthly = org.seconds.get .monthly)
    (sameCounters : ∀ pool : Pool, after.seconds.get pool.counter = org.seconds.get pool.counter)
    (samePools : after.pools = org.pools) :
    org.Spent after [⟨.onOrgs call, .ok reply⟩] where
  succeeds := List.forall_mem_singleton.2 rfl
  credited period := by
    simp [Seconds.inPeriod, sameMonthly, credited]
  drawn pool := by
    simp [samePools, drawn]
  counted pool := by
    simp [Seconds.total, sameCounters, drawn]
  underQuota period := by
    rw [Seconds.inPeriod, sameMonthly]
    exact Nat.le_max_left _ _

/-- A month takes at most what is left of the quota. -/
theorem creditMonthly_le (org : Organization) (period : String) (n quota : Counter) :
    (org.seconds.inPeriod .monthly period).toNat + (org.creditMonthly period n quota).1.toNat
      ≤ max (org.seconds.inPeriod .monthly period).toNat quota.toNat := by
  rw [creditMonthly, toNat_monthlyCredit]
  omega

theorem creditMonthly (org : Organization) (id period : String) (n quota : Counter) :
    org.Spent (org.creditMonthly period n quota).2
      [⟨.onOrgs (.creditMonthly id period n quota),
        .ok (org.creditMonthly period n quota).1⟩] := by
  have le := creditMonthly_le org period n quota
  have seconds := congrArg Organization.seconds (creditMonthly_eq org period n quota)
  have pools := congrArg Organization.pools (creditMonthly_eq org period n quota)
  generalize org.creditMonthly period n quota = after at *
  have fits : (org.seconds.inPeriod .monthly period).toNat + after.1.toNat ≤ Counter.maxNat :=
    Nat.le_trans le (Nat.max_le.2 ⟨Counter.toNat_le_maxNat _, Counter.toNat_le_maxNat _⟩)
  have month : ∀ other, (after.2.seconds.inPeriod .monthly other).toNat
      = (org.seconds.inPeriod .monthly other).toNat
        + if period = other then after.1.toNat else 0 := by
    intro other
    rw [seconds, Seconds.inPeriod_credit]
    by_cases same : period = other
    · rw [if_pos ⟨rfl, same.symm⟩, if_pos same, Counter.toNat_plus, Nat.min_eq_left fits, same]
    · rw [if_neg fun h => same h.2.symm, if_neg same, Nat.add_zero]
  refine ⟨List.forall_mem_singleton.2 rfl, ?_, ?_, ?_, ?_⟩
  · intro other
    rw [month, List.map_singleton, List.sum_singleton, Exchange.credited]
  · intro pool
    rw [pools]
    rfl
  · intro pool
    rw [seconds, Seconds.total_credit _ _ _ _ _ fits]
    cases pool <;> rfl
  · intro other
    rw [month, Exchange.largestQuota, List.map_singleton, List.foldr_cons, List.foldr_nil,
      Nat.max_zero, Exchange.quotaFor]
    split
    · next same =>
      rw [← same]
      exact le
    · exact Nat.le_max_left _ _

theorem drawPool (org : Organization) (id period : String) (pool : Pool) (n : Counter)
    (room : (OrgCall.drawPool id pool period n).HasRoom org) :
    org.Spent (org.drawPool pool period n).2
      [⟨.onOrgs (.drawPool id pool period n), .ok (org.drawPool pool period n).1⟩] := by
  have drawn := org.toNat_drawPool pool period n
  have seconds := congrArg Organization.seconds (drawPool_eq org period n pool)
  have pools := congrArg Organization.pools (drawPool_eq org period n pool)
  rw [OrgCall.HasRoom] at room
  generalize org.drawPool pool period n = after at *
  have monthly : ∀ other, after.2.seconds.inPeriod .monthly other
      = org.seconds.inPeriod .monthly other := by
    intro other
    rw [seconds, Seconds.inPeriod_credit, if_neg]
    cases pool <;> simp [Pool.counter]
  refine ⟨List.forall_mem_singleton.2 rfl, ?_, ?_, ?_, ?_⟩
  · intro other
    rw [monthly]
    rfl
  · intro other
    rw [List.map_singleton, List.sum_singleton, Exchange.drawn]
    by_cases same : other = pool
    · rw [if_pos same.symm, same]
      exact drawn
    · rw [pools, PerPool.get_set, if_neg same, if_neg fun h => same h.symm, Nat.add_zero]
  · intro other
    rw [seconds, Seconds.total_credit _ _ _ _ _ room, List.map_singleton, List.sum_singleton,
      Exchange.drawn]
    cases pool <;> cases other <;> rfl
  · intro other
    rw [monthly]
    exact Nat.le_max_left _ _

/-- Each call that records usage spends what it answers. -/
theorem apply {call : OrgCall} {org : Organization} (usage : call.isUsage = true)
    (room : call.HasRoom org) :
    org.Spent (call.apply org).2 [⟨.onOrgs call, .ok (call.apply org).1⟩] := by
  cases call with
  | insert new | get id | updateQuotas id patch modified retention => exact nomatch usage
  | countSeconds id counter period n =>
    cases counter with
    | usage | crawlExec =>
      apply of_recorded (fun _ => rfl) (fun _ => rfl)
      · rfl
      · intro pool
        cases pool <;> rfl
      · rfl
    | monthly | gifted | extra => exact nomatch usage
  | creditMonthly id period n quota => exact creditMonthly org id period n quota
  | drawPool id pool period n => exact drawPool org id period pool n room
  | shiftBytes id delta kind =>
    exact of_recorded (fun _ => rfl) (fun _ => rfl) rfl (fun _ => rfl) rfl

end Organization.Spent

/-- A call that records usage of an organization that is there spends what it answers, and the
organization is still there. -/
theorem StoreCall.spends {s : MemoryStore} {id : String} {org : Organization} {call : StoreCall}
    (isThere : s.orgs.get? id = some org) (usage : call.IsUsageOf id) (room : call.HasRoom s) :
    ∃ after, (call.after s).orgs.get? id = some after ∧ org.Spent after [call.exchange s] := by
  cases call with
  | onCrawls call => exact usage.elim
  | onOrgs call =>
    obtain ⟨rfl, usage⟩ := usage
    have run : (onOrgs call).perform.run s = _ := MemoryStore.run_onOrgs isThere
    have sameId : (call.apply org).2.id = call.orgId :=
      OrgCall.id_apply (Register.id_of_get? isThere)
    refine ⟨(call.apply org).2, ?_, ?_⟩
    · rw [after, run, ← sameId]
      exact Register.get?_insert_self _ _
    · rw [exchange, run]
      exact Organization.Spent.apply usage (room org isThere)

/-- Calls that record the usage of an organization, in any order, credit exactly what its months
gain and draw exactly what its pools lose and what is counted for them. -/
theorem run_spends {s : MemoryStore} {id : String} {org : Organization} (calls : List StoreCall)
    (isThere : s.orgs.get? id = some org) (usage : ∀ call ∈ calls, call.IsUsageOf id)
    (room : EachCall StoreCall.HasRoom calls s) :
    ∃ after, (afterCalls calls s).orgs.get? id = some after ∧
      org.Spent after (exchanges calls s) := by
  induction calls generalizing s org with
  | nil => exact ⟨org, isThere, .nil org⟩
  | cons call calls ih =>
    obtain ⟨roomNow, roomLater⟩ := room
    obtain ⟨usageNow, usageLater⟩ := List.forall_mem_cons.1 usage
    obtain ⟨mid, stillThere, first⟩ := call.spends isThere usageNow roomNow
    obtain ⟨after, thereAfter, later⟩ := ih stillThere usageLater roomLater
    exact ⟨after, thereAfter, first.append later⟩

/-- An organization with seconds in both pools. -/
def pooled : Organization := { id := "o", pools := ⟨90, 30⟩ }

/-- A store with that organization. -/
def pooledStore : MemoryStore := { orgs := Register.insert ∅ pooled }

/-- Usage over two months, with a quota that is lowered in between. -/
def twoMonths : List StoreCall :=
  [.onOrgs (.countSeconds "o" .crawlExec "2024-05" 200),
    .onOrgs (.creditMonthly "o" "2024-05" 200 60),
    .onOrgs (.drawPool "o" .gifted "2024-05" 70),
    .onOrgs (.shiftBytes "o" 1000 .crawl),
    .onOrgs (.creditMonthly "o" "2024-05" 100 40),
    .onOrgs (.drawPool "o" .gifted "2024-06" 70),
    .onOrgs (.drawPool "o" .extra "2024-06" 50)]

theorem run_spends_twoMonths :
    ∃ after, (afterCalls twoMonths pooledStore).orgs.get? "o" = some after ∧
      pooled.Spent after (exchanges twoMonths pooledStore) :=
  run_spends twoMonths (by decide) (by decide) (by decide)

end ArchiveAccounts
