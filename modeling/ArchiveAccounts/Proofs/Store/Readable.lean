import ArchiveAccounts.Proofs.Store.OrgRows
import ArchiveAccounts.Proofs.Store.Run
import ArchiveAccounts.Proofs.Store.Steps

/-!
# Organizations stay readable

The rows of an organization are read as long as their texts hold documents and no cell holds a
double. What is inserted is readable, whatever its numbers, and stays so under every call whose sums
are signed 64-bit numbers. A sum beyond them makes the organization unreadable, though each call
succeeds. Main statements: `get_afterCalls` and `get_fullMonth`.
-/

namespace ArchiveAccounts
set_option autoImplicit false

namespace Cell

/-- Whether a cell holds a counter that is a signed 64-bit number. -/
def IsSigned (cell : Cell) : Prop := ∃ n : Counter, n.FitsSigned ∧ cell = ofCounter n

/-- What is written of a counter is signed: beyond the signed numbers it is the greatest of them. -/
theorem isSigned_ofCounter (n : Counter) : (ofCounter n).IsSigned := by
  have value : (Counter.ofSigned n.toSigned).toNat = n.toSigned := by
    simp only [Counter.ofSigned, Counter.toNat_ofNatCapped, Counter.toSigned, Counter.maxSigned,
      Counter.maxNat]
    omega
  have signed : (Counter.ofSigned n.toSigned).FitsSigned := by
    rw [Counter.FitsSigned, value]
    exact Int.min_le_right _ _
  refine ⟨_, signed, ?_⟩
  rw [ofCounter, ofCounter, signed.toSigned_eq, value]

/-- A cell moved to a sum that is a signed number, not below zero. -/
theorem isSigned_floored_plus {n : Counter} {delta : Int} (h : n.FitsSigned)
    (sum : fits (n.toNat + delta) = true) : ((ofCounter n).plus delta).floored.IsSigned := by
  have bounds := fits_iff.1 sum
  simp only [Counter.minSigned, Counter.maxSigned] at bounds
  have value : (Counter.ofSigned (n.toNat + delta)).toNat = max 0 ((n.toNat : Int) + delta) := by
    simp only [Counter.ofSigned, Counter.toNat_ofNatCapped, Counter.maxNat]
    omega
  have signed : (Counter.ofSigned (n.toNat + delta)).FitsSigned := by
    rw [Counter.FitsSigned, value, Counter.maxSigned]
    omega
  refine ⟨_, signed, ?_⟩
  rw [ofCounter, h.toSigned_eq, plus, if_pos sum, floored, ofCounter, signed.toSigned_eq, value]

/-- A cell to which a counter is added, if the sum is a signed number. -/
theorem isSigned_plus {n added : Counter} (h : n.FitsSigned)
    (sum : fits (n.toNat + added.toSigned) = true) :
    ((ofCounter n).plus added.toSigned).IsSigned := by
  have positive : 0 ≤ added.toSigned := by
    simp only [Counter.toSigned, Counter.maxSigned]
    omega
  have same : ((ofCounter n).plus added.toSigned).floored = (ofCounter n).plus added.toSigned := by
    rw [ofCounter, h.toSigned_eq, plus, if_pos sum, floored, Int.max_eq_right]
    omega
  rw [← same]
  exact isSigned_floored_plus h sum

theorem IsSigned.counter? {cell : Cell} (h : cell.IsSigned) :
    ∃ n : Counter, n.FitsSigned ∧ cell = ofCounter n ∧ cell.counter? = some n := by
  obtain ⟨n, signed, rfl⟩ := h
  exact ⟨n, signed, rfl, counter?_ofCounter_of_fits signed⟩

end Cell

/-- Whether a row of the table of organizations holds documents and signed counters. -/
structure OrgRow.IsReadable (row : OrgRow) : Prop where
  users : ∃ users, row.users = Json.print (usersDatum users)
  quotas : ∃ quotas : Quotas, row.quotas = Json.print quotas.toDatum
  total : row.bytes.total.IsSigned
  part : ∀ kind, (row.bytes.get kind).IsSigned
  pool : ∀ pool, (row.pools.get pool).IsSigned

namespace OrgRow.IsReadable

theorem ofOrganization (org : Organization) : (OrgRow.ofOrganization org).IsReadable where
  users := ⟨org.users, rfl⟩
  quotas := ⟨org.quotas, rfl⟩
  total := Cell.isSigned_ofCounter org.bytes.total
  part kind := by
    cases kind <;> exact Cell.isSigned_ofCounter _
  pool pool := by
    rw [OrgRow.ofOrganization, PerPool.get_map]
    exact Cell.isSigned_ofCounter _

theorem withQuotasOf {row : OrgRow} (h : row.IsReadable) (org : Organization) :
    (row.withQuotasOf org).IsReadable := by
  rw [OrgRow.withQuotasOf]
  refine ⟨h.users, ⟨org.quotas, rfl⟩, h.total, h.part, ?_⟩
  intro pool
  rw [PerPool.get_map]
  exact Cell.isSigned_ofCounter _

/-- Seconds taken out of a pool that holds as many. -/
theorem takeSeconds {row : OrgRow} (h : row.IsReadable) {pool : Pool} {available n : Counter}
    (signed : available.FitsSigned) (cell : row.pools.get pool = .ofCounter available)
    (few : n.toNat ≤ available.toNat) : (row.takeSeconds pool n).IsReadable where
  users := h.users
  quotas := h.quotas
  total := h.total
  part := h.part
  pool other := by
    have bound : (available.toNat : Int) ≤ Counter.maxSigned := signed
    have nSigned : n.FitsSigned := by
      rw [Counter.FitsSigned]
      omega
    have left : (Counter.minus available n).FitsSigned := by
      rw [Counter.FitsSigned, Counter.toNat_minus]
      omega
    rw [OrgRow.takeSeconds, PerPool.get_set]
    split
    · refine ⟨Counter.minus available n, left, ?_⟩
      rw [cell]
      apply Cell.ofCounter_plus signed left
      rw [nSigned.toSigned_eq, Counter.toNat_minus]
      omega
    · exact h.pool other

/-- Bytes moved to sums that are signed numbers. -/
theorem shiftBytes {row : OrgRow} (h : row.IsReadable) {bytes : StoredBytes} {delta : Int}
    {kind : StorageKind} (total : row.bytes.total = .ofCounter bytes.total)
    (part : row.bytes.get kind = .ofCounter (bytes.get kind)) (totalSigned : bytes.total.FitsSigned)
    (partSigned : (bytes.get kind).FitsSigned)
    (totalFits : Cell.fits (bytes.total.toNat + delta) = true)
    (partFits : Cell.fits ((bytes.get kind).toNat + delta) = true) :
    (row.shiftBytes delta kind).IsReadable where
  users := h.users
  quotas := h.quotas
  total := by
    rw [OrgRow.shiftBytes, ByteTotals.total_change, total]
    exact Cell.isSigned_floored_plus totalSigned totalFits
  part other := by
    rw [OrgRow.shiftBytes, ByteTotals.get_change]
    split
    · next same =>
      rw [same, part]
      exact Cell.isSigned_floored_plus partSigned partFits
    · exact h.part other
  pool := h.pool

end OrgRow.IsReadable

/-- Whether the rows of an organization are there and hold documents and signed counters. -/
structure Readable (s : RelationalStore) (id : String) : Prop where
  row : ∃ row, s.orgs.get? id = some row ∧ row.IsReadable
  seconds : ∀ key cell, s.seconds.get? key = some cell → key.orgId = id →
    (∃ counter : TimeCounter, key.counter = counter.name) ∧ cell.IsSigned
  log : ∀ number row, s.changes.get? number = some row → row.orgId = id →
    ∃ change, row.change? = some change

namespace Readable

variable {s : RelationalStore} {id : String}

/-! ## Reading -/

/-- Whether an organization has the numbers that are in its cells. -/
structure Reads (s : RelationalStore) (id : String) (row : OrgRow) (org : Organization) : Prop where
  total : row.bytes.total = .ofCounter org.bytes.total
  part : ∀ kind, row.bytes.get kind = .ofCounter (org.bytes.get kind)
  pool : ∀ pool, row.pools.get pool = .ofCounter (org.pools.get pool)
  inPeriod : ∀ counter period, s.seconds.getD ⟨id, counter.name, period⟩ (.integer 0)
    = .ofCounter (org.seconds.inPeriod counter period)
  fits : org.FitsSigned

/-- The seconds are read, and are what the cells say. -/
theorem exists_seconds (h : Readable s id) :
    ∃ seconds, RelationalStore.readSeconds (s.secondsOf id) = some seconds ∧
      ∀ counter period, (∀ n, (seconds.get counter).get? period = some n → n.FitsSigned) ∧
        s.seconds.getD ⟨id, counter.name, period⟩ (.integer 0)
          = .ofCounter (seconds.inPeriod counter period) := by
  have mem : ∀ e ∈ s.secondsOf id, s.seconds.get? e.1 = some e.2 ∧ e.1.orgId = id := by
    intro e mem
    obtain ⟨mem, owner⟩ := List.mem_filter.1 mem
    exact ⟨SortedMap.mem_toList_iff.1 mem, eq_of_beq owner⟩
  have known : ∀ e ∈ s.secondsOf id, e.1.orgId = id
      ∧ (∃ counter : TimeCounter, e.1.counter = counter.name) ∧ ∃ n, e.2.counter? = some n := by
    intro e isRow
    obtain ⟨found, owner⟩ := mem e isRow
    obtain ⟨named, signed⟩ := h.seconds e.1 e.2 found owner
    obtain ⟨n, _, _, value⟩ := signed.counter?
    exact ⟨owner, named, n, value⟩
  have ordered : (s.secondsOf id).Pairwise fun a b => compare a.1 b.1 = .lt :=
    s.seconds.ordered.filter _
  obtain ⟨seconds, run, spec⟩ := RelationalStore.foldlM_readCell ordered known Seconds.none
  refine ⟨seconds, run, ?_⟩
  intro counter period
  have found : SortedMap.lookup ⟨id, counter.name, period⟩ (s.secondsOf id)
      = s.seconds.get? ⟨id, counter.name, period⟩ := by
    refine (SortedMap.get?_filter s.seconds (fun key _ => key.orgId == id) _).trans ?_
    cases s.seconds.get? ⟨id, counter.name, period⟩ <;> simp [Option.filter]
  have entry := spec counter period
  rw [found, Seconds.get?_none, Option.or_none] at entry
  rw [Seconds.inPeriod, SortedMap.getD, SortedMap.getD, entry]
  cases isThere : s.seconds.get? ⟨id, counter.name, period⟩ with
  | none =>
    refine ⟨?_, rfl⟩
    intro n none_
    cases none_
  | some cell =>
    obtain ⟨n, signed, rfl, value⟩ := (h.seconds _ cell isThere rfl).2.counter?
    rw [Option.bind_some, value]
    refine ⟨?_, rfl⟩
    rintro n ⟨⟩
    exact signed

theorem exists_log (h : Readable s id) :
    ∃ changes, (s.log id).mapM (fun e => e.2.change?) = some changes := by
  have read : ∀ e ∈ s.log id, ∃ change, e.2.change? = some change := by
    intro e mem
    obtain ⟨mem, owner⟩ := List.mem_filter.1 mem
    exact h.log e.1 e.2 (SortedMap.mem_toList_iff.1 mem) (eq_of_beq owner)
  exact Traverse.exists_iff.2 read

/-- A readable organization is read. -/
theorem exists_organization (h : Readable s id) {row : OrgRow} (found : s.orgs.get? id = some row) :
    ∃ org, s.organization? id row = some org ∧ Reads s id row org := by
  obtain ⟨same, there, readable⟩ := h.row
  obtain rfl : same = row := Option.some.inj (there.symm.trans found)
  obtain ⟨users, usersText⟩ := readable.users
  obtain ⟨quotas, quotasText⟩ := readable.quotas
  obtain ⟨total, totalFits, totalCell, totalValue⟩ := readable.total.counter?
  obtain ⟨crawls, crawlsFits, crawlsCell, crawlsValue⟩ := (readable.part .crawl).counter?
  obtain ⟨uploads, uploadsFits, uploadsCell, uploadsValue⟩ := (readable.part .upload).counter?
  obtain ⟨profiles, profilesFits, profilesCell, profilesValue⟩ := (readable.part .profile).counter?
  obtain ⟨gifted, giftedFits, giftedCell, giftedValue⟩ := (readable.pool .gifted).counter?
  obtain ⟨extra, extraFits, extraCell, extraValue⟩ := (readable.pool .extra).counter?
  obtain ⟨seconds, secondsRead, spec⟩ := h.exists_seconds
  obtain ⟨changes, changesRead⟩ := h.exists_log
  simp only [ByteTotals.get] at crawlsValue uploadsValue profilesValue
  simp only [PerPool.get] at giftedValue extraValue
  let org : Organization := {
    id, name := same.name, users, quotas, seconds
    bytes := ⟨total, crawls, uploads, profiles⟩
    pools := ⟨gifted, extra⟩
    quotaChanges := changes }
  refine ⟨org, ?_, ?_⟩
  · simp only [RelationalStore.organization?, usersText, quotasText, usersDatum_reads,
      Quotas.reads, totalValue, crawlsValue, uploadsValue, profilesValue, giftedValue, extraValue,
      secondsRead, changesRead]
    rfl
  · refine ⟨totalCell, ?_, ?_, fun counter period => (spec counter period).2, totalFits, ?_, ?_,
      fun counter period => (spec counter period).1⟩
    · intro kind
      cases kind with
      | crawl => exact crawlsCell
      | upload => exact uploadsCell
      | profile => exact profilesCell
    · intro pool
      cases pool with
      | gifted => exact giftedCell
      | extra => exact extraCell
    · intro kind
      cases kind with
      | crawl => exact crawlsFits
      | upload => exact uploadsFits
      | profile => exact profilesFits
    · intro pool
      cases pool with
      | gifted => exact giftedFits
      | extra => exact extraFits

theorem run_load (h : Readable s id) :
    ∃ row org, s.orgs.get? id = some row ∧ row.IsReadable ∧ Reads s id row org ∧
      (RelationalStore.load id).run s = (.ok org, s) := by
  obtain ⟨row, found, readable⟩ := h.row
  obtain ⟨org, read, reads⟩ := h.exists_organization found
  refine ⟨row, org, found, readable, reads, ?_⟩
  simp only [RelationalStore.load, Attempt.run_bind, RelationalStore.run_find, found,
    Attempt.run_get, read, RelationalStore.run_need]

/-! ## Steps -/

section Steps

variable {orgId : String}

/-- The row of an organization may be written, its own only with what can be read. -/
theorem put (h : Readable s id) {row : OrgRow} (own : orgId = id → row.IsReadable) :
    Readable { s with orgs := s.orgs.insert orgId row } id where
  row := by
    simp only [SortedMap.get?_insert]
    split
    · next same => exact ⟨row, rfl, own same.symm⟩
    · exact h.row
  seconds := h.seconds
  log := h.log

/-- Seconds may be added, to its own cells only so that the sum can be read. -/
theorem addSeconds (h : Readable s id) {counter : TimeCounter} {period : String} {n : Counter}
    (own : orgId = id → ((s.seconds.getD ⟨orgId, counter.name, period⟩ (.integer 0)).plus
      n.toSigned).IsSigned) :
    Readable (s.addSeconds orgId counter period n) id where
  row := h.row
  seconds key cell found owner := by
    rw [RelationalStore.get?_addSeconds] at found
    split at found
    · next same =>
      injection found with found
      subst same found
      exact ⟨⟨counter, rfl⟩, own owner⟩
    · exact h.seconds key cell found owner
  log := h.log

theorem append (h : Readable s id) {row : ChangeRow}
    (read : ∃ change, row.change? = some change) : Readable (s.append row) id where
  row := h.row
  seconds := h.seconds
  log number other found owner := by
    rw [RelationalStore.append, SortedMap.get?_insert] at found
    split at found
    · injection found with found
      subst found
      exact read
    · exact h.log number other found owner

theorem trim (h : Readable s id) (count : Nat) : Readable (s.trim orgId count) id where
  row := h.row
  seconds := h.seconds
  log number row found := by
    rw [RelationalStore.trim, SortedMap.get?_filter, Option.filter_eq_some_iff] at found
    exact h.log number row found.1

theorem clear (h : Readable s id) : Readable (s.clear orgId) id where
  row := h.row
  seconds key cell found := by
    rw [RelationalStore.get?_seconds_clear] at found
    split at found
    · exact nomatch found
    · exact h.seconds key cell found
  log number row found := by
    rw [RelationalStore.clear, SortedMap.get?_filter, Option.filter_eq_some_iff] at found
    exact h.log number row found.1

/-- Nothing but the row of an organization is left when its seconds and its log are deleted. -/
theorem clear_self {row : OrgRow} (found : s.orgs.get? id = some row) (readable : row.IsReadable) :
    Readable (s.clear id) id where
  row := ⟨row, found, readable⟩
  seconds key cell found owner := by
    rw [RelationalStore.get?_seconds_clear, if_pos owner] at found
    exact nomatch found
  log number row found owner := by
    rw [RelationalStore.clear, SortedMap.get?_filter, Option.filter_eq_some_iff, owner] at found
    simp at found

/-- Seconds are written as far as they can be read. -/
theorem insertSeconds (h : Readable s id) (seconds : Seconds) :
    Readable (s.insertSeconds orgId seconds) id where
  row := h.row
  seconds := RelationalStore.forall_insertSeconds orgId seconds h.seconds
    fun counter _ n _ _ => ⟨⟨counter, rfl⟩, Cell.isSigned_ofCounter n⟩
  log := h.log

end Steps

end Readable

/-! ## Calls -/

/-- The sums that a call brings into the cells of an organization. -/
def OrgCall.sums : OrgCall → Organization → List Int
  | countSeconds _ counter period n, org =>
    [(org.seconds.inPeriod counter period).toNat + n.toSigned]
  | creditMonthly _ period n quota, org =>
    [(org.seconds.inPeriod .monthly period).toNat
      + Counter.toSigned (org.creditMonthly period n quota).1]
  | drawPool _ pool period n, org =>
    [(org.seconds.inPeriod pool.counter period).toNat
      + Counter.toSigned (org.drawPool pool period n).1]
  | shiftBytes _ delta kind, org =>
    [org.bytes.total.toNat + delta, (org.bytes.get kind).toNat + delta]
  | insert _, _ | get _, _ | updateQuotas .., _ => []

/-- Whether each sum that a call brings into the cells of an organization is a signed 64-bit
number. -/
def StoreCall.StaysSigned (id : String) : StoreCall → RelationalStore → Prop
  | onOrgs call, s =>
    call.orgId = id → ∀ org ∈ ((RelationalStore.onOrgs (.get id)).run s).1.toOption,
      ∀ sum ∈ call.sums org, Cell.fits sum = true
  | onCrawls _, _ => True

instance (id : String) : (call : StoreCall) → (s : RelationalStore) →
    Decidable (call.StaysSigned id s)
  | .onOrgs _, _ => inferInstanceAs (Decidable (_ → ∀ _ ∈ _, ∀ _ ∈ _, _))
  | .onCrawls _, _ => inferInstanceAs (Decidable True)

namespace RelationalStore

/-- What is inserted can be read, whatever its numbers. -/
theorem preserves_insert (id : String) (org : Organization) :
    Attempt.Preserves (Readable · id) (perform (.insert org)) := by
  refine preserves_need fun rows written => .bind ?_ fun _ => .change fun s h => ?_
  · intro s h
    exact h.put fun _ => .ofOrganization org
  · refine keeps_foldl_append (P := (Readable · id)) (fun _ _ read h => h.append read) ?_ ?_
    · exact Traverse.exists_iff.1 ⟨_, (ChangeRow.mapM_reads written).2⟩
    · exact h.clear.insertSeconds _

/-- A call about another organization. -/
theorem keptByRows_readable {id orgId : String} (other : orgId ≠ id) :
    KeptByRows (Readable · id) orgId where
  put _ _ h := h.put fun same => (other same).elim
  addSeconds _ _ _ _ h := h.addSeconds fun same => (other same).elim
  append _ _ known h := h.append known.2
  trim _ count h := h.trim count
  clear _ h := h.clear
  insertSeconds _ seconds h := h.insertSeconds seconds

/-! ## Calls about the organization -/

section Own

variable {s : RelationalStore} {id : String}

/-- Seconds added to a month, if the sum is a signed number. -/
theorem readable_addSeconds (h : Readable s id) {row : OrgRow} {org : Organization}
    (reads : Readable.Reads s id row org) {counter : TimeCounter} {period : String} {n : Counter}
    (sum : Cell.fits ((org.seconds.inPeriod counter period).toNat + n.toSigned) = true) :
    Readable (s.addSeconds id counter period n) id := by
  apply h.addSeconds
  intro _
  rw [reads.inPeriod]
  exact Cell.isSigned_plus (reads.fits.inPeriod counter period) sum

theorem readable_creditMonthly (h : Readable s id) {period : String} {n quota : Counter}
    (signed : ∀ org, (load id).run s = (.ok org, s) →
      ∀ sum ∈ (OrgCall.creditMonthly id period n quota).sums org, Cell.fits sum = true) :
    Readable ((perform (.creditMonthly id period n quota)).run s).2 id := by
  obtain ⟨row, org, found, _, reads, run⟩ := h.run_load
  have sum := signed org run _ (List.mem_singleton_self _)
  have used := Cell.counter?_ofCounter_of_fits (reads.fits.inPeriod .monthly period)
  simp only [perform, Attempt.run_bind, run_find, found, Attempt.run_get, reads.inPeriod, used,
    run_need]
  rw [Organization.creditMonthly] at sum
  by_cases nothing : monthlyCredit (org.seconds.inPeriod .monthly period) n quota = 0
  · rw [if_neg (not_not.2 nothing)]
    exact h
  · rw [if_pos nothing]
    exact readable_addSeconds h reads sum

theorem readable_drawPool (h : Readable s id) {pool : Pool} {period : String} {n : Counter}
    (signed : ∀ org, (load id).run s = (.ok org, s) →
      ∀ sum ∈ (OrgCall.drawPool id pool period n).sums org, Cell.fits sum = true) :
    Readable ((perform (.drawPool id pool period n)).run s).2 id := by
  obtain ⟨row, org, found, readable, reads, run⟩ := h.run_load
  have sum := signed org run _ (List.mem_singleton_self _)
  have available := Cell.counter?_ofCounter_of_fits (reads.fits.pool pool)
  simp only [perform, Attempt.run_bind, run_find, found, reads.pool, available, run_need]
  rw [Organization.drawPool] at sum
  by_cases nothing : Counter.least n (org.pools.get pool) = 0
  · rw [if_neg (not_not.2 nothing)]
    exact h
  · rw [if_pos nothing]
    have few : (Counter.least n (org.pools.get pool)).toNat ≤ (org.pools.get pool).toNat := by
      rw [Counter.toNat_least]
      exact Nat.min_le_right _ _
    have taken := readable.takeSeconds (reads.fits.pool pool) (reads.pool pool) few
    apply (h.put fun _ => taken).addSeconds
    intro _
    show ((s.seconds.getD ⟨id, pool.counter.name, period⟩ (.integer 0)).plus _).IsSigned
    rw [reads.inPeriod]
    exact Cell.isSigned_plus (reads.fits.inPeriod pool.counter period) sum

theorem readable_shiftBytes (h : Readable s id) {delta : Int} {kind : StorageKind}
    (signed : ∀ org, (load id).run s = (.ok org, s) →
      ∀ sum ∈ (OrgCall.shiftBytes id delta kind).sums org, Cell.fits sum = true) :
    Readable ((perform (.shiftBytes id delta kind)).run s).2 id := by
  obtain ⟨row, org, found, readable, reads, run⟩ := h.run_load
  have total := signed org run _ List.mem_cons_self
  have part := signed org run _ (List.mem_cons_of_mem _ List.mem_cons_self)
  simp only [perform, Attempt.run_bind, run_find, found, run_put]
  apply h.put
  intro _
  exact readable.shiftBytes reads.total (reads.part kind) reads.fits.total (reads.fits.part kind)
    total part

theorem readable_updateQuotas (h : Readable s id) (patch : QuotaPatch) (modified : Calendar.Moment)
    (retention : Option Nat) :
    Readable ((perform (.updateQuotas id patch modified retention)).run s).2 id := by
  obtain ⟨row, org, found, readable, _, run⟩ := h.run_load
  cases written : ChangeRow.ofChange? id ⟨patch, modified⟩ with
  | none =>
    simp only [perform, Attempt.run_bind, written]
    exact h
  | some change =>
    simp only [perform, Attempt.run_bind, written, run_need, run, run_find, found, run_put,
      Attempt.run_modify]
    have rowWritten := h.put fun _ : id = id =>
      readable.withQuotasOf (org.applyQuotaPatch patch modified retention)
    have appended := rowWritten.append ⟨_, (ChangeRow.reads written).2⟩
    cases retention with
    | none => exact appended
    | some count => exact appended.trim _

/-- A call about an organization keeps it readable if its sums are signed numbers. -/
theorem readable_perform {call : OrgCall} (h : Readable s call.orgId)
    (signed : ∀ org, (load call.orgId).run s = (.ok org, s) →
      ∀ sum ∈ call.sums org, Cell.fits sum = true) :
    Readable ((perform call).run s).2 call.orgId := by
  cases call with
  | insert org => exact preserves_insert org.id org s h
  | get id =>
    have kept : Attempt.Preserves (Readable · id) (load id) := preserves_load id
    exact kept s h
  | countSeconds id counter period n =>
    obtain ⟨row, org, found, _, reads, run⟩ := h.run_load
    have sum := signed org run _ (List.mem_singleton_self _)
    have found : s.orgs.get? id = some row := found
    simp only [perform, Attempt.run_bind, run_find, found, Attempt.run_modify]
    exact readable_addSeconds h reads sum
  | creditMonthly id period n quota => exact readable_creditMonthly h signed
  | drawPool id pool period n => exact readable_drawPool h signed
  | shiftBytes id delta kind => exact readable_shiftBytes h signed
  | updateQuotas id patch modified retention =>
    exact readable_updateQuotas h patch modified retention

end Own

/-- An organization that was inserted can be read. -/
theorem readable_of_insert {s : RelationalStore} {org : Organization}
    (inserted : ((StoreCall.onOrgs (.insert org)).exchange s).result.isOk = true) :
    Readable ((StoreCall.onOrgs (.insert org)).after s) org.id := by
  have inserted : ((onOrgs (.insert org)).run s).1.isOk = true := inserted
  show Readable ((onOrgs (.insert org)).run s).2 org.id
  cases written : org.quotaChanges.mapM (ChangeRow.ofChange? org.id) with
  | none =>
    have refused : (perform (.insert org)).run s = (.error .store, s) := by
      simp only [perform, Attempt.run_bind, written]
      rfl
    rw [onOrgs, Attempt.run_atomically, refused] at inserted
    cases inserted
  | some rows =>
    let t := ({ s with orgs := s.orgs.insert org.id (.ofOrganization org) } : RelationalStore)
    have run : (perform (.insert org)).run s
        = (.ok (), rows.foldl append ((t.clear org.id).insertSeconds org.id org.seconds)) := by
      simp only [perform, Attempt.run_bind, written, run_need, run_put, Attempt.run_modify]
      rfl
    rw [onOrgs, Attempt.run_atomically, run]
    have found : t.orgs.get? org.id = some (.ofOrganization org) := by
      rw [SortedMap.get?_insert, if_pos rfl]
    have cleared := Readable.clear_self found (.ofOrganization org)
    have read := Traverse.exists_iff.1 ⟨_, (ChangeRow.mapM_reads written).2⟩
    exact keeps_foldl_append (P := (Readable · org.id)) (fun _ _ read h => h.append read) read
      (cleared.insertSeconds org.seconds)

end RelationalStore

/-- A readable organization is read, and its numbers are signed 64-bit numbers. -/
theorem Readable.run_get {s : RelationalStore} {id : String} (h : Readable s id) :
    ∃ org, (RelationalStore.onOrgs (.get id)).run s = (.ok org, s) ∧ org.FitsSigned := by
  obtain ⟨_, org, _, _, reads, run⟩ := h.run_load
  refine ⟨org, ?_, reads.fits⟩
  exact Attempt.run_atomically_eq_ok_iff.2 run

/-- A call whose sums are signed numbers keeps an organization readable, and so does any call that
is not about it. -/
theorem Readable.after {s : RelationalStore} {id : String} (h : Readable s id) (call : StoreCall)
    (signed : call.StaysSigned id s) : Readable (call.after s) id := by
  cases call with
  | onCrawls call =>
    have kept : Attempt.Preserves (Readable · id) (RelationalStore.onCrawls call) :=
      RelationalStore.preserves_onCrawls (fun s row crawl _ h => ⟨h.row, h.seconds, h.log⟩)
        (fun s keep h => ⟨h.row, h.seconds, h.log⟩) call
    exact kept s h
  | onOrgs call =>
    by_cases own : call.orgId = id
    · subst own
      have kept : Readable ((RelationalStore.perform call).run s).2 call.orgId := by
        apply RelationalStore.readable_perform h
        intro org run
        have get : (RelationalStore.onOrgs (.get call.orgId)).run s = (.ok org, s) :=
          Attempt.run_atomically_eq_ok_iff.2 run
        apply signed rfl org
        rw [get]
        rfl
      exact Attempt.of_atomically (P := (Readable · call.orgId)) h kept
    · exact (RelationalStore.keptByRows_readable own).perform.atomically s h

/-- Calls one after the other keep an organization readable as long as their sums are signed
numbers. -/
theorem Readable.afterCalls {s : RelationalStore} {id : String} (h : Readable s id)
    (calls : List StoreCall) (signed : EachCall (StoreCall.StaysSigned id) calls s) :
    Readable (afterCalls calls s) id := by
  induction calls generalizing s with
  | nil => exact h
  | cons call calls ih =>
    obtain ⟨now, later⟩ := signed
    exact ih (h.after call now) later

/-- An organization that was inserted is read after any calls, whether they succeed or fail, on this
and other organizations and on crawls, as long as each sum in its cells is a signed 64-bit
number. -/
theorem get_afterCalls {s : RelationalStore} {org : Organization} (calls : List StoreCall)
    (inserted : ((StoreCall.onOrgs (.insert org)).exchange s).result.isOk = true)
    (signed : EachCall (StoreCall.StaysSigned org.id) calls
      ((StoreCall.onOrgs (.insert org)).after s)) :
    let t := afterCalls (.onOrgs (.insert org) :: calls) s
    ∃ after, (RelationalStore.onOrgs (.get org.id)).run t = (.ok after, t) ∧ after.FitsSigned := by
  have readable := RelationalStore.readable_of_insert inserted
  exact (readable.afterCalls calls signed).run_get

/-- An organization with more bytes and seconds than a cell can hold. -/
def overfull : Organization :=
  { id := "o"
    bytes := { StoredBytes.none with total := 0xFFFFFFFFFFFFFFFF }
    pools := ⟨0xFFFFFFFFFFFFFFFF, 0⟩ }

/-- Calls with the largest amounts, none of which meets a cell that it would overfill. -/
def largeAmounts : List StoreCall :=
  [.onOrgs (.countSeconds "o" .usage "2024-05" 0xFFFFFFFFFFFFFFFF),
    .onOrgs (.drawPool "o" .gifted "2024-05" 0xFFFFFFFFFFFFFFFF),
    .onOrgs (.shiftBytes "o" (-0x8000000000000000) .upload)]

theorem get_afterCalls_largeAmounts :
    let t := afterCalls (.onOrgs (.insert overfull) :: largeAmounts) ({} : RelationalStore)
    ∃ after, (RelationalStore.onOrgs (.get overfull.id)).run t = (.ok after, t) ∧
      after.FitsSigned :=
  get_afterCalls largeAmounts (by decide +kernel) (by decide +kernel)

/-- A month that is counted twice at the greatest signed number, which the first time fits. -/
def fullMonth : List StoreCall :=
  [.onOrgs (.insert { id := "org-1" }),
    .onOrgs (.countSeconds "org-1" .usage "2024-05" 0x7FFFFFFFFFFFFFFF),
    .onOrgs (.countSeconds "org-1" .usage "2024-05" 0x7FFFFFFFFFFFFFFF)]

/-- Without the bound on sums an organization becomes unreadable, though every call succeeds. -/
theorem get_fullMonth :
    (∀ exchange ∈ exchanges fullMonth ({} : RelationalStore), exchange.result.isOk = true) ∧
      ((RelationalStore.onOrgs (.get "org-1")).run
        (afterCalls fullMonth ({} : RelationalStore))).1 = .error .store := by
  decide +kernel

end ArchiveAccounts
