import ArchiveAccounts.Proofs.Document.RoundTrip
import ArchiveAccounts.Proofs.Store.AccountTables
import ArchiveAccounts.Store.Memory

/-!
# Organizations as rows

The tables of a relational store hold the organizations of a store in memory when each has its row,
its cells of seconds and its rows of the log. As long as the numbers in memory are signed 64-bit
numbers, a call on the organizations answers the same on both, and the tables after it hold the
organizations after it. Main statement: `onOrgs_agrees`.
-/

namespace ArchiveAccounts
set_option autoImplicit false

open Calendar

/-- Whether the counters, the pools and the stored bytes of an organization are signed 64-bit
numbers. -/
structure Organization.FitsSigned (org : Organization) : Prop where
  total : org.bytes.total.FitsSigned
  part : ∀ kind, (org.bytes.get kind).FitsSigned
  pool : ∀ pool, (org.pools.get pool).FitsSigned
  seconds : ∀ counter period n, (org.seconds.get counter).get? period = some n → n.FitsSigned

instance (org : Organization) : Decidable org.FitsSigned :=
  decidable_of_iff
    (org.bytes.total.FitsSigned
      ∧ (∀ kind ∈ StorageKind.names.map (·.2), (org.bytes.get kind).FitsSigned)
      ∧ (∀ pool ∈ [Pool.gifted, .extra], (org.pools.get pool).FitsSigned)
      ∧ ∀ counter ∈ TimeCounter.all, ∀ e ∈ (org.seconds.get counter).toList, e.2.FitsSigned)
    ⟨fun ⟨total, part, pool, seconds⟩ =>
      ⟨total, fun kind => part kind (by cases kind <;> decide),
        fun p => pool p (by cases p <;> decide),
        fun counter period n found =>
          seconds counter counter.mem_all (period, n) (SortedMap.mem_toList_iff.2 found)⟩,
    fun h => ⟨h.total, fun kind _ => h.part kind, fun pool _ => h.pool pool,
      fun counter _ e mem => h.seconds counter e.1 e.2 (SortedMap.mem_toList_iff.1 mem)⟩⟩

theorem Organization.FitsSigned.inPeriod {org : Organization} (h : org.FitsSigned)
    (counter : TimeCounter) (period : String) :
    (org.seconds.inPeriod counter period).FitsSigned := by
  rw [Seconds.inPeriod, SortedMap.getD]
  cases found : (org.seconds.get counter).get? period with
  | none => exact Int.natCast_nonneg _
  | some n => exact h.seconds counter period n found

/-- The cell of a month to which seconds are added, if the sum can be stored. -/
theorem Organization.FitsSigned.plus_inPeriod {org : Organization} (h : org.FitsSigned)
    (counter : TimeCounter) (period : String) (n : Counter)
    (after : (org.countSeconds counter period n).FitsSigned) :
    (Cell.ofCounter (org.seconds.inPeriod counter period)).plus n.toSigned
      = .ofCounter (Counter.plus (org.seconds.inPeriod counter period) n) := by
  have used := h.inPeriod counter period
  have sum : (Counter.plus (org.seconds.inPeriod counter period) n).FitsSigned := by
    apply after.seconds counter period
    rw [get?_countSeconds, if_pos ⟨rfl, rfl⟩]
  have bound : ((Counter.plus (org.seconds.inPeriod counter period) n).toNat : Int)
      ≤ Counter.maxSigned := sum
  rw [Counter.toNat_plus] at bound
  simp only [Counter.maxSigned, Counter.maxNat] at bound
  have signed : n.FitsSigned := by
    simp only [Counter.FitsSigned, Counter.maxSigned]
    omega
  apply Cell.ofCounter_plus used sum
  rw [signed.toSigned_eq, Counter.toNat_plus]
  simp only [Counter.maxNat]
  omega

/-! ## Columns of JSON text -/

theorem usersDatum_reads (users : SortedMap String Role) :
    (Json.parse? (Json.print (usersDatum users))).bind (Datum.asMap Role.ofDatum?)
      = some users := by
  have whole : (usersDatum users).isWhole = true := by simp [usersDatum, Datum.ofMap]
  rw [Json.parse?_print whole, Option.bind_some, usersDatum]
  exact Datum.asMap_ofMap Role.ofDatum?_name users

theorem Quotas.reads (quotas : Quotas) :
    (Json.parse? (Json.print quotas.toDatum)).bind ofDatum? = some quotas := by
  rw [Json.parse?_print quotas.isWhole_toDatum, Option.bind_some, ofDatum?_toDatum]

theorem QuotaPatch.reads (patch : QuotaPatch) :
    (Json.parse? (Json.print patch.toDatum)).bind ofDatum? = some patch := by
  rw [Json.parse?_print patch.isWhole_toDatum, Option.bind_some, ofDatum?_toDatum]

namespace ChangeRow

/-- The row of a change belongs to the organization and reads as the change. -/
theorem reads {orgId : String} {change : QuotaChange} {row : ChangeRow}
    (h : ofChange? orgId change = some row) : row.orgId = orgId ∧ row.change? = some change := by
  obtain ⟨text, printed, h⟩ := Option.map_eq_some_iff.1 h
  rw [← h]
  refine ⟨rfl, ?_⟩
  simp only [change?, QuotaPatch.reads, Rfc3339.parse?_of_print? printed]
  rfl

theorem mapM_reads {orgId : String} {changes : List QuotaChange} {rows : List ChangeRow}
    (h : changes.mapM (ofChange? orgId) = some rows) :
    (∀ row ∈ rows, row.orgId = orgId) ∧ rows.mapM change? = some changes := by
  induction changes generalizing rows with
  | nil =>
    rw [Traverse.nil_iff.1 h]
    exact ⟨nofun, rfl⟩
  | cons change changes ih =>
    obtain ⟨row, rest, first, others, rfl⟩ := Traverse.cons_iff.1 h
    obtain ⟨owner, reads⟩ := ChangeRow.reads first
    obtain ⟨owners, allRead⟩ := ih others
    constructor
    · intro other mem
      rcases List.mem_cons.1 mem with rfl | mem
      · exact owner
      · exact owners other mem
    · exact Traverse.cons_iff.2 ⟨change, changes, reads, allRead, rfl⟩

theorem isSome_ofChange? (orgId : String) (change : QuotaChange) :
    (ofChange? orgId change).isSome = Rfc3339.isPrintable change.modified := by
  rw [ofChange?, Option.isSome_map, ← Moment.isSome_toDatum?, Moment.toDatum?, Option.isSome_map]

end ChangeRow

/-- An organization of signed 64-bit numbers is read from its own rows. -/
theorem RelationalStore.organization?_ofOrganization {s : RelationalStore} {org : Organization}
    (fits : org.FitsSigned)
    (cells : ∀ counter period, s.seconds.get? ⟨org.id, counter.name, period⟩
      = ((org.seconds.get counter).get? period).map Cell.ofCounter)
    (named : ∀ key cell, s.seconds.get? key = some cell → key.orgId = org.id →
      ∃ counter : TimeCounter, key.counter = counter.name)
    (rows : org.quotaChanges.mapM (ChangeRow.ofChange? org.id)
      = some ((s.log org.id).map (·.2))) :
    s.organization? org.id (.ofOrganization org) = some org := by
  have seconds : readSeconds (s.secondsOf org.id) = some org.seconds :=
    readSeconds_secondsOf cells fits.seconds named
  have log : (s.log org.id).mapM (fun e => e.2.change?) = some org.quotaChanges := by
    have reads := (ChangeRow.mapM_reads rows).2
    rw [List.mapM_map] at reads
    exact reads
  have crawls := Cell.counter?_ofCounter_of_fits (fits.part .crawl)
  have uploads := Cell.counter?_ofCounter_of_fits (fits.part .upload)
  have profiles := Cell.counter?_ofCounter_of_fits (fits.part .profile)
  have gifted := Cell.counter?_ofCounter_of_fits (fits.pool .gifted)
  have extra := Cell.counter?_ofCounter_of_fits (fits.pool .extra)
  simp only [ByteTotals.get, PerPool.get] at crawls uploads profiles gifted extra
  simp only [organization?, OrgRow.ofOrganization, usersDatum_reads, Quotas.reads,
    ByteTotals.map, PerPool.map, Cell.counter?_ofCounter_of_fits fits.total, crawls, uploads,
    profiles, gifted, extra, seconds, log]
  rfl

/-! ## Tables that hold organizations -/

/-- Whether tables hold the organizations of a store in memory. -/
structure HoldOrgs (s : RelationalStore) (orgs : OrgTable) : Prop where
  rows : ∀ id, s.orgs.get? id = (orgs.get? id).map OrgRow.ofOrganization
  seconds : ∀ id org, orgs.get? id = some org → ∀ counter period,
    s.seconds.get? ⟨id, counter.name, period⟩
      = ((org.seconds.get counter).get? period).map Cell.ofCounter
  named : ∀ key cell, s.seconds.get? key = some cell →
    ∃ counter : TimeCounter, key.counter = counter.name
  log : ∀ id org, orgs.get? id = some org →
    org.quotaChanges.mapM (ChangeRow.ofChange? id) = some ((s.log id).map (·.2))
  numbersBelow : s.NumbersBelow

namespace HoldOrgs

variable {s t : RelationalStore} {orgs : OrgTable}

/-- Tables hold one organization more when only its own rows have changed. -/
theorem insert (h : HoldOrgs s orgs) (org : Organization)
    (rows : t.orgs = s.orgs.insert org.id (.ofOrganization org))
    (own : ∀ counter period, t.seconds.get? ⟨org.id, counter.name, period⟩
      = ((org.seconds.get counter).get? period).map Cell.ofCounter)
    (others : ∀ key, key.orgId ≠ org.id → t.seconds.get? key = s.seconds.get? key)
    (named : ∀ key cell, t.seconds.get? key = some cell →
      ∃ counter : TimeCounter, key.counter = counter.name)
    (ownLog : org.quotaChanges.mapM (ChangeRow.ofChange? org.id) = some ((t.log org.id).map (·.2)))
    (otherLogs : ∀ id, id ≠ org.id → (t.log id).map (·.2) = (s.log id).map (·.2))
    (numbersBelow : t.NumbersBelow) : HoldOrgs t (orgs.insert org) where
  rows id := by
    rw [rows, SortedMap.get?_insert, Register.get?_insert, h.rows]
    split
    · rfl
    · rfl
  seconds id other found counter period := by
    rw [Register.get?_insert] at found
    split at found
    · next same =>
      injection found with found
      rw [same, own, found]
    · next different =>
      rw [others _ different]
      exact h.seconds id other found counter period
  named := named
  log id other found := by
    rw [Register.get?_insert] at found
    split at found
    · next same =>
      injection found with found
      rw [same, ← ownLog, found]
    · next different =>
      rw [otherLogs id different]
      exact h.log id other found
  numbersBelow := numbersBelow

theorem get?_of_get? (h : HoldOrgs s orgs) {id : String} {org : Organization}
    (isThere : orgs.get? id = some org) : s.orgs.get? id = some (.ofOrganization org) := by
  rw [h.rows, isThere]
  rfl

/-- An organization of signed 64-bit numbers is read from its rows. -/
theorem organization?_eq (h : HoldOrgs s orgs) {id : String} {org : Organization}
    (isThere : orgs.get? id = some org) (fits : org.FitsSigned) :
    s.organization? id (.ofOrganization org) = some org := by
  obtain rfl : org.id = id := Register.id_of_get? isThere
  exact RelationalStore.organization?_ofOrganization fits (h.seconds org.id org isThere)
    (fun key cell found _ => h.named key cell found) (h.log org.id org isThere)

/-- Tables whose row and log of one organization change, but not its seconds. -/
theorem insert_of_seconds (h : HoldOrgs s orgs) {old org : Organization}
    (isThere : orgs.get? org.id = some old) (seconds : org.seconds = old.seconds)
    (rows : t.orgs = s.orgs.insert org.id (.ofOrganization org)) (cells : t.seconds = s.seconds)
    (ownLog : org.quotaChanges.mapM (ChangeRow.ofChange? org.id) = some ((t.log org.id).map (·.2)))
    (otherLogs : ∀ id, id ≠ org.id → t.log id = s.log id) (numbersBelow : t.NumbersBelow) :
    HoldOrgs t (orgs.insert org) := by
  apply h.insert org rows _ _ _ ownLog _ numbersBelow
  · intro counter period
    rw [cells, seconds]
    exact h.seconds org.id old isThere counter period
  · intro key _
    rw [cells]
  · rw [cells]
    exact h.named
  · intro id different
    rw [otherLogs id different]

/-- Tables whose row of an organization changes, but not its seconds and its log. -/
theorem put (h : HoldOrgs s orgs) {old : Organization} (org : Organization)
    (isThere : orgs.get? org.id = some old)
    (seconds : org.seconds = old.seconds) (changes : org.quotaChanges = old.quotaChanges) :
    HoldOrgs { s with orgs := s.orgs.insert org.id (.ofOrganization org) } (orgs.insert org) := by
  apply h.insert_of_seconds isThere seconds
  · rfl
  · rfl
  · rw [changes]
    exact h.log org.id old isThere
  · intro id _
    rfl
  · exact h.numbersBelow

theorem getD_seconds (h : HoldOrgs s orgs) {id : String} {org : Organization}
    (isThere : orgs.get? id = some org) (counter : TimeCounter) (period : String) :
    s.seconds.getD ⟨id, counter.name, period⟩ (.integer 0)
      = .ofCounter (org.seconds.inPeriod counter period) := by
  rw [SortedMap.getD, h.seconds id org isThere, Seconds.inPeriod, SortedMap.getD]
  cases (org.seconds.get counter).get? period <;> rfl

theorem addSeconds (h : HoldOrgs s orgs) {id : String} {org : Organization}
    (isThere : orgs.get? id = some org) (fits : org.FitsSigned) (counter : TimeCounter)
    (period : String) (n : Counter) (fitsAfter : (org.countSeconds counter period n).FitsSigned) :
    HoldOrgs (s.addSeconds id counter period n)
      (orgs.insert (org.countSeconds counter period n)) := by
  obtain rfl : org.id = id := Register.id_of_get? isThere
  have cell := fits.plus_inPeriod counter period n fitsAfter
  apply h.insert (org.countSeconds counter period n)
  · exact (SortedMap.insert_eq_self (h.get?_of_get? isThere)).symm
  · intro other month
    rw [RelationalStore.get?_addSeconds, h.getD_seconds isThere, cell,
      Organization.get?_countSeconds, Organization.id_countSeconds]
    by_cases same : other = counter ∧ month = period
    · rw [if_pos ((RelationalStore.key_eq_iff org.id).2 same), if_pos same]
      rfl
    · rw [if_neg (mt (RelationalStore.key_eq_iff org.id).1 same), if_neg same]
      exact h.seconds org.id org isThere other month
  · intro key other
    rw [RelationalStore.get?_addSeconds, if_neg]
    intro same
    rw [same] at other
    exact other rfl
  · intro key value found
    rw [RelationalStore.get?_addSeconds] at found
    split at found
    · next same =>
      rw [same]
      exact ⟨counter, rfl⟩
    · exact h.named key value found
  · exact h.log org.id org isThere
  · intro id _
    rfl
  · exact h.numbersBelow

/-- The logs when a change of one organization is appended. -/
theorem log_append_change (h : HoldOrgs s orgs) {org : Organization}
    (isThere : orgs.get? org.id = some org) {change : QuotaChange} {row : ChangeRow}
    (written : ChangeRow.ofChange? org.id change = some row) {rows : SortedMap String OrgRow}
    (appended : t = ({ s with orgs := rows } : RelationalStore).append row) :
    (org.quotaChanges ++ [change]).mapM (ChangeRow.ofChange? org.id)
        = some ((t.log org.id).map (·.2)) ∧
      (∀ id, id ≠ org.id → t.log id = s.log id) ∧ t.NumbersBelow := by
  subst appended
  have owned : row.orgId = org.id := (ChangeRow.reads written).1
  have below : ({ s with orgs := rows } : RelationalStore).NumbersBelow := h.numbersBelow
  refine ⟨?_, ?_, RelationalStore.numbersBelow_append _ below row⟩
  · rw [RelationalStore.log_append _ org.id below, if_pos owned, List.map_append]
    exact Traverse.append (h.log org.id org isThere)
      (Traverse.cons_iff.2 ⟨row, [], written, rfl, rfl⟩)
  · intro id different
    rw [RelationalStore.log_append _ id below, if_neg (owned ▸ Ne.symm different), List.append_nil]
    rfl

end HoldOrgs

/-! ## Calls -/

/-- Whether the numbers and moments given with a call can be stored: an amount of bytes has 64 bits
with its sign, and moments have texts. -/
def OrgCall.isStorable : OrgCall → Bool
  | .insert org => org.quotaChanges.all fun change => Rfc3339.isPrintable change.modified
  | .shiftBytes _ delta _ => Cell.fits delta
  | .updateQuotas _ _ modified _ => Rfc3339.isPrintable modified
  | .get _ | .countSeconds .. | .creditMonthly .. | .drawPool .. => true

namespace RelationalStore

/-- Whether a call came to an answer and left tables that hold the organizations given. -/
def Reaches (call : OrgCall) (s : RelationalStore) (reply : call.Reply) (orgs : OrgTable) : Prop :=
  ∃ t, (perform call).run s = (.ok reply, t) ∧ HoldOrgs t orgs ∧ t.crawls = s.crawls

section Calls

variable {s : RelationalStore} {orgs : OrgTable} {id : String} {org : Organization}

theorem run_load (h : HoldOrgs s orgs) (isThere : orgs.get? id = some org)
    (fits : org.FitsSigned) : (load id).run s = (.ok org, s) := by
  simp only [load, Attempt.run_bind, run_find, h.get?_of_get? isThere, Attempt.run_get,
    h.organization?_eq isThere fits, run_need]

theorem reaches_countSeconds (h : HoldOrgs s orgs) (isThere : orgs.get? id = some org)
    (fits : org.FitsSigned) (counter : TimeCounter) (period : String) (n : Counter)
    (fitsAfter : (org.countSeconds counter period n).FitsSigned) :
    Reaches (.countSeconds id counter period n) s ()
      (orgs.insert (org.countSeconds counter period n)) := by
  refine ⟨s.addSeconds id counter period n, ?_,
    h.addSeconds isThere fits counter period n fitsAfter,
    rfl⟩
  simp only [perform, Attempt.run_bind, run_find, h.get?_of_get? isThere, Attempt.run_modify]

theorem reaches_creditMonthly (h : HoldOrgs s orgs) (isThere : orgs.get? id = some org)
    (fits : org.FitsSigned) (period : String) (n quota : Counter)
    (fitsAfter : (org.creditMonthly period n quota).2.FitsSigned) :
    Reaches (.creditMonthly id period n quota) s (org.creditMonthly period n quota).1
      (orgs.insert (org.creditMonthly period n quota).2) := by
  have row := h.get?_of_get? isThere
  have cell := h.getD_seconds isThere .monthly period
  have used := Cell.counter?_ofCounter_of_fits (fits.inPeriod .monthly period)
  simp only [Organization.creditMonthly] at fitsAfter ⊢
  by_cases nothing : monthlyCredit (org.seconds.inPeriod .monthly period) n quota = 0
  · rw [if_pos nothing, Register.insert_eq_self isThere]
    refine ⟨s, ?_, h, rfl⟩
    simp only [perform, Attempt.run_bind, run_find, row, Attempt.run_get, cell, used, run_need,
      nothing, ne_eq, not_true_eq_false, if_false, Attempt.run_pure]
  · rw [if_neg nothing] at fitsAfter ⊢
    refine ⟨_, ?_, h.addSeconds isThere fits .monthly period _ fitsAfter, rfl⟩
    simp only [perform, Attempt.run_bind, run_find, row, Attempt.run_get, cell, used, run_need,
      nothing, ne_eq, not_false_eq_true, if_true, Attempt.run_modify, Attempt.run_pure]

/-- Seconds taken out of a pool are taken out of its cell. -/
theorem takeSeconds_ofOrganization (fits : org.FitsSigned) (pool : Pool) {n : Counter}
    (few : n.toNat ≤ (org.pools.get pool).toNat) :
    (OrgRow.ofOrganization org).takeSeconds pool n = .ofOrganization (org.takeSeconds pool n) := by
  have available : ((org.pools.get pool).toNat : Int) ≤ Counter.maxSigned := fits.pool pool
  have signed : n.FitsSigned := by
    rw [Counter.FitsSigned]
    omega
  have cell : (Cell.ofCounter (org.pools.get pool)).plus (-n.toSigned)
      = .ofCounter (Counter.minus (org.pools.get pool) n) := by
    apply Cell.ofCounter_plus (fits.pool pool)
    · rw [Counter.FitsSigned, Counter.toNat_minus]
      omega
    · rw [signed.toSigned_eq, Counter.toNat_minus]
      omega
  simp only [OrgRow.takeSeconds, OrgRow.ofOrganization, PerPool.get_map, cell,
    Organization.takeSeconds, PerPool.map_set]

theorem reaches_drawPool (h : HoldOrgs s orgs) (isThere : orgs.get? id = some org)
    (fits : org.FitsSigned) (pool : Pool) (period : String) (n : Counter)
    (fitsAfter : (org.drawPool pool period n).2.FitsSigned) :
    Reaches (.drawPool id pool period n) s (org.drawPool pool period n).1
      (orgs.insert (org.drawPool pool period n).2) := by
  have row := h.get?_of_get? isThere
  have available : (((OrgRow.ofOrganization org).pools.get pool).counter?)
      = some (org.pools.get pool) := by
    rw [OrgRow.ofOrganization, PerPool.get_map]
    exact Cell.counter?_ofCounter_of_fits (fits.pool pool)
  simp only [Organization.drawPool] at fitsAfter ⊢
  by_cases nothing : Counter.least n (org.pools.get pool) = 0
  · rw [if_pos nothing, Register.insert_eq_self isThere]
    refine ⟨s, ?_, h, rfl⟩
    simp only [perform, Attempt.run_bind, run_find, row, available, run_need, nothing, ne_eq,
      not_true_eq_false, if_false, Attempt.run_pure]
  · rw [if_neg nothing] at fitsAfter ⊢
    obtain rfl : org.id = id := Register.id_of_get? isThere
    have fitsTaken : (org.takeSeconds pool (Counter.least n (org.pools.get pool))).FitsSigned :=
      ⟨fitsAfter.total, fitsAfter.part, fitsAfter.pool, fits.seconds⟩
    have rowTaken := takeSeconds_ofOrganization fits pool
      (Nat.le_trans (Nat.le_of_eq (Counter.toNat_least n (org.pools.get pool)))
        (Nat.min_le_right _ _))
    have h := h.put (org.takeSeconds pool (Counter.least n (org.pools.get pool))) isThere rfl rfl
    have h := h.addSeconds (Register.get?_insert_self orgs _) fitsTaken pool.counter period
      (Counter.least n (org.pools.get pool)) fitsAfter
    rw [Register.insert_insert orgs (Organization.id_countSeconds _ _ _ _).symm] at h
    refine ⟨_, ?_, h, rfl⟩
    simp only [perform, Attempt.run_bind, run_find, row, available, run_need, nothing, ne_eq,
      not_false_eq_true, if_true, run_put, rowTaken, Attempt.run_modify, Attempt.run_pure]
    rfl

theorem reaches_shiftBytes (h : HoldOrgs s orgs) (isThere : orgs.get? id = some org)
    (fits : org.FitsSigned) {delta : Int} (fitsDelta : Cell.fits delta = true) (kind : StorageKind)
    (fitsAfter : (org.shiftBytes delta kind).FitsSigned) :
    Reaches (.shiftBytes id delta kind) s () (orgs.insert (org.shiftBytes delta kind)) := by
  obtain rfl : org.id = id := Register.id_of_get? isThere
  have row : (OrgRow.ofOrganization org).shiftBytes delta kind
      = .ofOrganization (org.shiftBytes delta kind) := by
    have part := fitsAfter.part kind
    rw [Organization.shiftBytes, StoredBytes.shift, ByteTotals.get_change, if_pos rfl] at part
    have bytes := org.bytes.map_change Cell.ofCounter (fun n => Counter.shift n delta)
      (fun cell => (cell.plus delta).floored) kind
      (Cell.floored_ofCounter_plus fits.total fitsDelta fitsAfter.total)
      (Cell.floored_ofCounter_plus (fits.part kind) fitsDelta part)
    simp only [OrgRow.shiftBytes, OrgRow.ofOrganization, Organization.shiftBytes,
      StoredBytes.shift, bytes]
  refine ⟨_, ?_, h.put (org.shiftBytes delta kind) isThere rfl rfl, rfl⟩
  simp only [perform, Attempt.run_bind, run_find, h.get?_of_get? isThere, run_put, row]
  rfl

theorem reaches_updateQuotas (h : HoldOrgs s orgs) (isThere : orgs.get? id = some org)
    (fits : org.FitsSigned) (patch : QuotaPatch) {modified : Moment}
    (printable : Rfc3339.isPrintable modified = true) (retention : Option Nat) :
    Reaches (.updateQuotas id patch modified retention) s
      (org.applyQuotaPatch patch modified retention)
      (orgs.insert (org.applyQuotaPatch patch modified retention)) := by
  obtain rfl : org.id = id := Register.id_of_get? isThere
  have row := h.get?_of_get? isThere
  have isSome := (ChangeRow.isSome_ofChange? org.id ⟨patch, modified⟩).trans printable
  obtain ⟨change, written⟩ := Option.isSome_iff_exists.1 isSome
  generalize paid : org.applyQuotaPatch patch modified retention = after
  have sameId : after.id = org.id := by rw [← paid]; rfl
  have sameSeconds : after.seconds = org.seconds := by rw [← paid]; rfl
  have rowAfter : (OrgRow.ofOrganization org).withQuotasOf after = .ofOrganization after := by
    rw [← paid]
    rfl
  let changed := { s with orgs := s.orgs.insert org.id (.ofOrganization after) }
  obtain ⟨longer, otherLogs, below⟩ :=
    h.log_append_change (t := changed.append change) isThere written rfl
  cases retention with
  | none =>
    refine ⟨changed.append change, ?_, ?_, rfl⟩
    · simp only [perform, Attempt.run_bind, written, run_need, run_load h isThere fits, paid,
        run_find, row, rowAfter, run_put, Attempt.run_modify, Attempt.run_pure]
      rfl
    · have changes : after.quotaChanges = org.quotaChanges ++ [⟨patch, modified⟩] := by
        rw [← paid]
        rfl
      rw [← sameId] at isThere otherLogs longer
      apply h.insert_of_seconds isThere sameSeconds
      · rw [sameId]
        rfl
      · rfl
      · rw [changes]
        exact longer
      · exact otherLogs
      · exact below
  | some count =>
    refine ⟨(changed.append change).trim org.id (max count 1), ?_, ?_, rfl⟩
    · simp only [perform, Attempt.run_bind, written, run_need, run_load h isThere fits, paid,
        run_find, row, rowAfter, run_put, Attempt.run_modify, Attempt.run_pure]
      rfl
    · have changes : after.quotaChanges
          = (org.quotaChanges ++ [(⟨patch, modified⟩ : QuotaChange)]).drop
              ((org.quotaChanges ++ [(⟨patch, modified⟩ : QuotaChange)]).length - max count 1) := by
        rw [← paid]
        rfl
      rw [← sameId] at isThere otherLogs longer
      apply h.insert_of_seconds isThere sameSeconds
      · rw [sameId]
        rfl
      · rfl
      · rw [changes, sameId, log_trim, if_pos rfl, List.map_drop, ← sameId]
        have length := Traverse.length_eq longer
        rw [List.length_map] at length
        rw [length]
        exact Traverse.drop longer _
      · intro id different
        rw [log_trim, if_neg (sameId ▸ different)]
        exact otherLogs id different
      · exact numbersBelow_trim _ org.id below _

/-- What an insertion leaves in tables: of its id the rows of the organization only, the log with new
numbers, and all else as it was. -/
structure Inserts (org : Organization) (s t : RelationalStore) : Prop where
  rows : t.orgs = s.orgs.insert org.id (.ofOrganization org)
  own : ∀ counter period, t.seconds.get? ⟨org.id, counter.name, period⟩
    = ((org.seconds.get counter).get? period).map Cell.ofCounter
  written : ∀ key cell, t.seconds.get? key = some cell → key.orgId = org.id →
    ∃ counter n, (org.seconds.get counter).get? key.period = some n ∧
      key.counter = counter.name ∧ cell = .ofCounter n
  others : ∀ key, key.orgId ≠ org.id → t.seconds.get? key = s.seconds.get? key
  ownLog : org.quotaChanges.mapM (ChangeRow.ofChange? org.id) = some ((t.log org.id).map (·.2))
  numbers : ∀ e ∈ t.log org.id, s.nextNumber ≤ e.1
  otherLogs : ∀ id, id ≠ org.id → (t.log id).map (·.2) = (s.log id).map (·.2)
  numbersBelow : t.NumbersBelow
  crawls : t.crawls = s.crawls

/-- An organization whose quota changes have texts is inserted, whatever tables hold of its id. -/
theorem exists_inserts (below : s.NumbersBelow)
    (printable : org.quotaChanges.all
      (fun change => Rfc3339.isPrintable change.modified) = true) :
    ∃ t, (perform (.insert org)).run s = (.ok (), t) ∧ Inserts org s t := by
  have isSome : (org.quotaChanges.mapM (ChangeRow.ofChange? org.id)).isSome = true := by
    rw [Traverse.isSome_eq_all (ChangeRow.isSome_ofChange? org.id)]
    exact printable
  obtain ⟨rows, written⟩ := Option.isSome_iff_exists.1 isSome
  have owned := (ChangeRow.mapM_reads written).1
  let cleared := { s with orgs := s.orgs.insert org.id (.ofOrganization org) }.clear org.id
  have belowCleared : (cleared.insertSeconds org.id org.seconds).NumbersBelow :=
    numbersBelow_clear _ org.id (below : NumbersBelow { s with orgs := _ })
  obtain ⟨changes, nextNumber, same, stillBelow, logs⟩ := foldl_append org.id owned belowCleared
  have cells : ∀ key, cleared.seconds.get? key
      = if key.orgId = org.id then none else s.seconds.get? key := fun key =>
    get?_seconds_clear _ org.id key
  have older : ∀ id, (cleared.insertSeconds org.id org.seconds).log id
      = if id = org.id then [] else s.log id := fun id => log_clear _ org.id id
  refine ⟨rows.foldl append (cleared.insertSeconds org.id org.seconds), ?_, ?_⟩
  · simp only [perform, Attempt.run_bind, written, run_need, run_put, Attempt.run_modify]
    rfl
  · refine ⟨?_, ?_, ?_, ?_, ?_, ?_, ?_, stillBelow, ?_⟩
    · rw [same]
      rfl
    · intro counter period
      rw [same]
      simp only [get?_insertSeconds, cells, if_true, Option.or_none]
    · rw [same]
      refine forall_insertSeconds org.id org.seconds ?_ ?_
      · intro key cell found own
        rw [cells, if_pos own] at found
        cases found
      · exact fun counter period n isThere _ => ⟨counter, n, isThere, rfl, rfl⟩
    · intro key other
      rw [same]
      simp only [get?_insertSeconds_of_ne cleared org.id org.seconds other, cells, other, if_false]
    · rw [written, logs, older, if_pos rfl, if_pos rfl]
      rfl
    · intro e mem
      rcases mem_log_foldl_append belowCleared mem with old | new
      · rw [older, if_pos rfl] at old
        exact absurd old List.not_mem_nil
      · exact new
    · intro id different
      rw [logs, older, if_neg different, if_neg different, List.append_nil]
    · rw [same]
      rfl

theorem reaches_insert (h : HoldOrgs s orgs)
    (printable : org.quotaChanges.all
      (fun change => Rfc3339.isPrintable change.modified) = true) :
    Reaches (.insert org) s () (orgs.insert org) := by
  obtain ⟨t, run, inserts⟩ := exists_inserts h.numbersBelow printable
  refine ⟨t, run, ?_, inserts.crawls⟩
  apply h.insert org inserts.rows inserts.own inserts.others _ inserts.ownLog inserts.otherLogs
    inserts.numbersBelow
  intro key cell found
  by_cases own : key.orgId = org.id
  · obtain ⟨counter, _, _, named, _⟩ := inserts.written key cell found own
    exact ⟨counter, named⟩
  · rw [inserts.others key own] at found
    exact h.named key cell found

/-- A call on an organization that is there, or that it brings, reaches the same answer. -/
theorem reaches (h : HoldOrgs s orgs) {call : OrgCall} (storable : call.isStorable = true)
    (isThere : orgs.get? call.orgId = some org) (fits : org.FitsSigned)
    (fitsAfter : (call.apply org).2.FitsSigned) :
    Reaches call s (call.apply org).1 (orgs.insert (call.apply org).2) := by
  cases call with
  | insert new => exact reaches_insert h storable
  | get id =>
    have isThere : orgs.get? id = some org := isThere
    refine ⟨s, run_load h isThere fits, ?_, rfl⟩
    rw [OrgCall.apply, Register.insert_eq_self isThere]
    exact h
  | countSeconds id counter period n =>
    exact reaches_countSeconds h isThere fits counter period n fitsAfter
  | creditMonthly id period n quota =>
    exact reaches_creditMonthly h isThere fits period n quota fitsAfter
  | drawPool id pool period n => exact reaches_drawPool h isThere fits pool period n fitsAfter
  | shiftBytes id delta kind => exact reaches_shiftBytes h isThere fits storable kind fitsAfter
  | updateQuotas id patch modified retention =>
    exact reaches_updateQuotas h isThere fits patch storable retention

/-- A call on an organization that is not there fails. -/
theorem run_perform_of_none (h : HoldOrgs s orgs) {call : OrgCall}
    (storable : call.isStorable = true) (absent : orgs.get? call.orgId = none)
    (old : call.isInsert = false) :
    (perform call).run s = (.error .orgNotFound, s) := by
  have noRow : s.orgs.get? call.orgId = none := by
    rw [h.rows, absent]
    rfl
  cases call with
  | insert new => exact nomatch old
  | get id =>
    simp only [OrgCall.orgId] at noRow
    simp only [perform, load, Attempt.run_bind, run_find, noRow]
  | countSeconds id counter period n | creditMonthly id period n quota | drawPool id pool period n
  | shiftBytes id delta kind =>
    simp only [OrgCall.orgId] at noRow
    simp only [perform, Attempt.run_bind, run_find, noRow]
  | updateQuotas id patch modified retention =>
    simp only [OrgCall.orgId] at noRow
    have isSome := (ChangeRow.isSome_ofChange? id ⟨patch, modified⟩).trans storable
    obtain ⟨change, written⟩ := Option.isSome_iff_exists.1 isSome
    simp only [perform, load, Attempt.run_bind, written, run_need, run_find, noRow]

end Calls

/-- Whether a call on tables came to the same as one in memory, and changed no crawl. -/
structure AgreesOnOrgs (call : OrgCall) (m : MemoryStore) (s : RelationalStore)
    (inMemory : Except Failure call.Reply × MemoryStore)
    (inRows : Except Failure call.Reply × RelationalStore) : Prop where
  result : inMemory.1 = inRows.1
  orgs : HoldOrgs inRows.2 inMemory.2.orgs
  crawlsInMemory : inMemory.2.crawls = m.crawls
  crawlsInRows : inRows.2.crawls = s.crawls

end RelationalStore

/-- Whether the numbers of all organizations are signed 64-bit numbers. -/
def MemoryStore.FitsSigned (m : MemoryStore) : Prop :=
  ∀ id org, m.orgs.get? id = some org → org.FitsSigned

instance (m : MemoryStore) : Decidable m.FitsSigned :=
  decidable_of_iff (∀ e ∈ m.orgs.entries.toList, e.2.FitsSigned)
    ⟨fun h id org found => h (id, org) (SortedMap.mem_toList_iff.2 found),
    fun h e mem => h e.1 e.2 (SortedMap.mem_toList_iff.1 mem)⟩

namespace RelationalStore

/-- A call on the organizations comes to the same on tables as on the store in memory that they
hold. -/
theorem onOrgs_agrees {m : MemoryStore} {s : RelationalStore} (h : HoldOrgs s m.orgs)
    (call : OrgCall) (storable : call.isStorable = true) (fits : m.FitsSigned)
    (fitsAfter : ((MemoryStore.onOrgs call).run m).2.FitsSigned) :
    AgreesOnOrgs call m s ((MemoryStore.onOrgs call).run m) ((onOrgs call).run s) := by
  cases isThere : m.orgs.get? call.orgId with
  | some org =>
    rw [MemoryStore.run_onOrgs isThere] at fitsAfter ⊢
    obtain ⟨t, run, hold, crawls⟩ := reaches h storable isThere (fits _ org isThere)
      (fitsAfter _ _ (Register.get?_insert_self m.orgs _))
    rw [onOrgs, Attempt.run_atomically, run]
    exact ⟨rfl, hold, rfl, crawls⟩
  | none =>
    cases brings : call.isInsert with
    | true =>
      cases call with
      | insert new =>
        obtain ⟨t, run, hold, crawls⟩ := reaches_insert h storable
        rw [onOrgs, Attempt.run_atomically, run]
        exact ⟨rfl, hold, rfl, crawls⟩
      | _ => cases brings
    | false =>
      rw [MemoryStore.run_onOrgs_of_none isThere brings, onOrgs, Attempt.run_atomically,
        run_perform_of_none h storable isThere brings]
      exact ⟨rfl, h, rfl, rfl⟩

end RelationalStore

end ArchiveAccounts
