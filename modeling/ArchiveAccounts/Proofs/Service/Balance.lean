import ArchiveAccounts.Proofs.Data.Sums
import ArchiveAccounts.Proofs.Service.Books
import ArchiveAccounts.Proofs.Service.Calls
import ArchiveAccounts.Proofs.Service.Requests

/-!
# Byte totals match the crawls

A store is balanced when the byte totals of each organization are those of its crawls. A deletion
takes off the totals exactly what it removes, and everything else leaves the books alone. Main
statement: `run_balanced`, balanced stores stay balanced through requests of all kinds, whether they
fail or not.
-/

namespace ArchiveAccounts
set_option autoImplicit false

open Calendar

/-- The bytes that a crawl takes of an organization and a type. -/
def Crawl.Account.bytesFor (a : Crawl.Account) (orgId : String) (type : CrawlType) : Nat :=
  if a.orgId = orgId ∧ a.type = type then a.totalSize.toNat else 0

/-- The bytes of all crawls of an organization and a type. -/
def MemoryStore.crawlBytes (s : MemoryStore) (orgId : String) (type : CrawlType) : Nat :=
  s.crawls.sum fun crawl => crawl.account.bytesFor orgId type

/-- Whether byte totals match the crawls of a type. -/
structure StoredBytes.Match (bytes : StoredBytes) (crawlBytes : CrawlType → Nat) : Prop where
  ofType : ∀ type : CrawlType, (bytes.get type.storageKind).toNat = crawlBytes type
  total : bytes.total.toNat
    = bytes.crawls.toNat + bytes.uploads.toNat + bytes.profiles.toNat
  /-- The parts are no greater than the total. -/
  fits : bytes.total.FitsSigned

/-- Whether every crawl belongs to an organization that is there, and the byte totals of every
organization match its crawls. -/
structure MemoryStore.Balanced (s : MemoryStore) : Prop where
  owned : ∀ id crawl, s.crawls.get? id = some crawl → (s.orgs.get? crawl.orgId).isSome = true
  booked : ∀ id org, s.orgs.get? id = some org → org.bytes.Match (s.crawlBytes id)

instance (bytes : StoredBytes) (crawlBytes : CrawlType → Nat) :
    Decidable (bytes.Match crawlBytes) :=
  decidable_of_iff
    ((∀ type ∈ [CrawlType.crawl, .upload], (bytes.get type.storageKind).toNat = crawlBytes type)
      ∧ bytes.total.toNat = bytes.crawls.toNat + bytes.uploads.toNat + bytes.profiles.toNat
      ∧ bytes.total.FitsSigned)
    ⟨fun ⟨ofType, total, fits⟩ => ⟨fun type => ofType type (by cases type <;> simp), total, fits⟩,
      fun h => ⟨fun type _ => h.ofType type, h.total, h.fits⟩⟩

instance (s : MemoryStore) : Decidable s.Balanced :=
  decidable_of_iff
    ((∀ e ∈ s.crawls.entries.toList, (s.orgs.get? e.2.orgId).isSome = true)
      ∧ ∀ e ∈ s.orgs.entries.toList, e.2.bytes.Match (s.crawlBytes e.1))
    ⟨fun ⟨owned, booked⟩ =>
        ⟨fun id crawl isThere => owned (id, crawl) (SortedMap.mem_toList_iff.2 isThere),
          fun id org isThere => booked (id, org) (SortedMap.mem_toList_iff.2 isThere)⟩,
      fun h => ⟨fun e mem => h.owned e.1 e.2 (SortedMap.mem_toList_iff.1 mem),
        fun e mem => h.booked e.1 e.2 (SortedMap.mem_toList_iff.1 mem)⟩⟩

namespace MemoryStore

/-- Whether a store is balanced can be seen in its books. -/
theorem balanced_ofBooks : OfBooks Balanced := by
  intro s t same h
  have accounts : ∀ id,
      (s.crawls.get? id).map Crawl.account = (t.crawls.get? id).map Crawl.account :=
    congrFun (congrArg Books.accounts same)
  have bytes : ∀ id, (s.orgs.get? id).map (·.bytes) = (t.orgs.get? id).map (·.bytes) :=
    congrFun (congrArg Books.bytes same)
  have crawlBytes : s.crawlBytes = t.crawlBytes := by
    funext orgId type
    apply Register.sum_congr
    intro id
    have numbers := congrArg (Option.map fun a => Crawl.Account.bytesFor a orgId type) (accounts id)
    rw [Option.map_map, Option.map_map] at numbers
    exact numbers
  constructor
  · intro id crawl isThere
    have before := accounts id
    rw [isThere, Option.map_some, Option.map_eq_some_iff] at before
    obtain ⟨old, found, account⟩ := before
    have keptOwner : old.orgId = crawl.orgId := congrArg Crawl.Account.orgId account
    have owner := h.owned id old found
    rw [keptOwner, ← Option.isSome_map, bytes, Option.isSome_map] at owner
    exact owner
  · intro id org isThere
    have before := bytes id
    rw [isThere, Option.map_some, Option.map_eq_some_iff] at before
    obtain ⟨old, found, same⟩ := before
    rw [← crawlBytes, ← same]
    exact h.booked id old found

end MemoryStore

/-! ## Taking bytes off -/

theorem CrawlType.eq_of_storageKind {a b : CrawlType} (h : a.storageKind = b.storageKind) :
    a = b := by
  cases a <;> cases b <;> first | rfl | exact nomatch h

/-- Byte totals keep matching when what is removed of a type is taken off. -/
theorem StoredBytes.Match.shift {bytes : StoredBytes} {before after : CrawlType → Nat}
    (h : bytes.Match before) {type : CrawlType} {size : Nat}
    (removed : ∀ other, after other + (if other = type then size else 0) = before other) :
    (bytes.shift (-size) type.storageKind).Match after where
  ofType other := by
    have part := h.ofType other
    have rest := removed other
    rw [StoredBytes.shift, ByteTotals.get_change]
    by_cases same : other = type
    · rw [if_pos same] at rest
      rw [if_pos (congrArg CrawlType.storageKind same), Counter.toNat_shift_neg]
      omega
    · rw [if_neg same] at rest
      rw [if_neg fun kinds => same (CrawlType.eq_of_storageKind kinds)]
      omega
  total := by
    have sum := h.total
    have part := h.ofType type
    have rest := removed type
    rw [if_pos rfl] at rest
    rw [StoredBytes.shift, ByteTotals.total_change, Counter.toNat_shift_neg]
    cases type with
    | crawl | upload =>
      simp only [ByteTotals.change, ByteTotals.set, ByteTotals.get, CrawlType.storageKind,
        Counter.toNat_shift_neg] at part ⊢
      omega
  fits := by
    have fits := h.fits
    rw [Counter.FitsSigned] at fits ⊢
    rw [StoredBytes.shift, ByteTotals.total_change, Counter.toNat_shift_neg]
    omega

/-- The bytes of the crawls of some ids. -/
def CrawlTable.bytesOf (table : CrawlTable) (ids : List String) : Nat :=
  (ids.map fun id => (table.get? id).elim 0 fun crawl => crawl.totalSize.toNat).sum

/-- What a deletion removes is all of one organization and one type. -/
theorem CrawlTable.Deletes.bytesOf_removed {table rest : CrawlTable} {orgId : String}
    {type : CrawlType} {ids removed : List String}
    (deletes : CrawlTable.Deletes orgId type ids table removed rest) (other : String)
    (otherType : CrawlType) :
    (removed.map fun id => (table.get? id).elim 0
        fun crawl => crawl.account.bytesFor other otherType).sum
      = if other = orgId ∧ otherType = type then table.bytesOf removed else 0 := by
  have each : ∀ id ∈ removed, ∃ crawl, table.get? id = some crawl ∧ crawl.orgId = orgId ∧
      crawl.type = type := by
    intro id mem
    obtain ⟨crawl, isThere, same⟩ := (Option.any_eq_true _ _).1 ((deletes.mem_removed id).1 mem).2
    rw [Bool.and_eq_true, beq_iff_eq, beq_iff_eq] at same
    exact ⟨crawl, isThere, same⟩
  split
  · next same =>
    rw [CrawlTable.bytesOf]
    apply congrArg
    apply List.map_congr_left
    intro id mem
    obtain ⟨crawl, isThere, owner, kind⟩ := each id mem
    rw [isThere, Option.elim_some, Option.elim_some, Crawl.Account.bytesFor, same.1, same.2]
    exact if_pos ⟨owner, kind⟩
  · next different =>
    apply List.sum_eq_zero_iff_forall_eq_nat.2
    intro bytes isBytes
    obtain ⟨id, mem, rfl⟩ := List.mem_map.1 isBytes
    obtain ⟨crawl, isThere, owner, kind⟩ := each id mem
    rw [isThere, Option.elim_some, Crawl.Account.bytesFor]
    exact if_neg fun same => different ⟨same.1.symm.trans owner, same.2.symm.trans kind⟩

namespace MemoryStore

variable {s t : MemoryStore} {orgId : String} {type : CrawlType} {ids removed : List String}

/-- The bytes of an organization and a type are those that are left and those that are removed. -/
theorem crawlBytes_delete (deletes : CrawlTable.Deletes orgId type ids s.crawls removed t.crawls)
    (other : String) (otherType : CrawlType) :
    t.crawlBytes other otherType
        + (if other = orgId ∧ otherType = type then s.crawls.bytesOf removed else 0)
      = s.crawlBytes other otherType := by
  rw [← deletes.bytesOf_removed other otherType]
  exact Register.sum_without _ deletes.nodup deletes.get?_rest

/-- A balanced store stays balanced when crawls are removed and taken off the totals. -/
theorem Balanced.delete (h : s.Balanced)
    (deletes : CrawlTable.Deletes orgId type ids s.crawls removed t.crawls)
    (orgs : ∀ id, t.orgs.get? id = (s.orgs.get? id).map fun org =>
      if id = orgId then org.shiftBytes (-s.crawls.bytesOf removed) type.storageKind else org) :
    t.Balanced where
  owned id crawl isThere := by
    rw [deletes.get?_rest] at isThere
    split at isThere
    · exact nomatch isThere
    · rw [orgs, Option.isSome_map]
      exact h.owned id crawl isThere
  booked id org isThere := by
    rw [orgs, Option.map_eq_some_iff] at isThere
    obtain ⟨old, found, rfl⟩ := isThere
    have before := h.booked id old found
    have taken := crawlBytes_delete deletes id
    by_cases here : id = orgId
    · rw [if_pos here]
      apply before.shift
      intro other
      have part := taken other
      simp only [here, true_and] at part ⊢
      exact part
    · have same : t.crawlBytes id = s.crawlBytes id := by
        funext other
        have part := taken other
        rw [if_neg fun both => here both.1] at part
        exact part
      rw [if_neg here, same]
      exact before

/-- What is removed is a signed 64-bit number of bytes of an organization that is there. -/
theorem Balanced.bytesOf_le (h : s.Balanced) {rest : CrawlTable}
    (deletes : CrawlTable.Deletes orgId type ids s.crawls removed rest)
    (some_ : s.crawls.bytesOf removed ≠ 0) :
    (s.orgs.get? orgId).isSome = true ∧ (s.crawls.bytesOf removed : Int) ≤ Counter.maxSigned := by
  have nonempty : removed ≠ [] := by
    rintro rfl
    exact some_ rfl
  obtain ⟨id, mem⟩ := List.exists_mem_of_ne_nil removed nonempty
  obtain ⟨crawl, isThere, same⟩ := (Option.any_eq_true _ _).1 ((deletes.mem_removed id).1 mem).2
  rw [Bool.and_eq_true, beq_iff_eq] at same
  have owner := h.owned id crawl isThere
  rw [same.1] at owner
  obtain ⟨org, found⟩ := Option.isSome_iff_exists.1 owner
  refine ⟨owner, ?_⟩
  have booked := h.booked orgId org found
  have part := booked.ofType type
  have total := booked.total
  have fits := booked.fits
  have taken := crawlBytes_delete (t := { s with crawls := rest }) deletes orgId type
  rw [if_pos ⟨rfl, rfl⟩] at taken
  rw [Counter.FitsSigned] at fits
  cases type with
  | crawl | upload =>
    simp only [ByteTotals.get, CrawlType.storageKind] at part
    omega

end MemoryStore

/-! ## Deletions -/

theorem nodup_eraseDups (ids : List String) : ids.eraseDups.Nodup := by
  generalize length : ids.length = n
  induction n using Nat.strongRecOn generalizing ids with
  | ind n ih =>
    cases ids with
    | nil => exact .nil
    | cons id rest =>
      rw [List.length_cons] at length
      have shorter : (rest.filter fun other => !other == id).length < n :=
        Nat.lt_of_le_of_lt (List.length_filter_le _ rest) (by omega)
      rw [List.eraseDups_cons, List.nodup_cons]
      exact ⟨by simp, ih _ shorter _ rfl⟩

theorem Reclaimed.toNat_size_ofCrawls (crawls : List Crawl) :
    (ofCrawls crawls).size.toNat
      = min (crawls.map fun crawl => crawl.totalSize.toNat).sum Counter.maxNat := by
  have from_ : ∀ r : Reclaimed, (crawls.foldl add r).size.toNat
      = min (r.size.toNat + (crawls.map fun crawl => crawl.totalSize.toNat).sum)
          Counter.maxNat := by
    induction crawls with
    | nil =>
      intro r
      exact (Nat.min_eq_left (Counter.toNat_le_maxNat _)).symm
    | cons crawl crawls ih =>
      intro r
      rw [List.foldl_cons, ih, add, Counter.toNat_plus, List.map_cons, List.sum_cons]
      omega
  rw [ofCrawls, from_]
  simp

/-- Whether a batch holds crawls that are on the books, each once. -/
structure Books.HasBatch (b : Books) (batch : List Crawl) : Prop where
  nodup : (batch.map (·.id)).Nodup
  accounts : ∀ crawl ∈ batch, b.accounts crawl.id = some crawl.account

/-- The crawls of a batch that were removed take up what the removed ids do. -/
theorem MemoryStore.sum_removed {s : MemoryStore} {batch : List Crawl}
    (h : s.books.HasBatch batch) {removed : List String} (nodup : removed.Nodup)
    (subset : ∀ id ∈ removed, id ∈ batch.map (·.id)) :
    ((batch.filter fun crawl => removed.contains crawl.id).map
        fun crawl => crawl.totalSize.toNat).sum
      = s.crawls.bytesOf removed := by
  generalize inBatch : (batch.filter fun crawl => removed.contains crawl.id) = gone
  have mem_gone : ∀ crawl, crawl ∈ gone ↔ crawl ∈ batch ∧ crawl.id ∈ removed := by
    intro crawl
    rw [← inBatch, List.mem_filter, List.contains_iff_mem]
  have goneNodup : (gone.map (·.id)).Nodup := by
    rw [← inBatch]
    exact (List.filter_sublist.map _).nodup h.nodup
  have perm : removed.Perm (gone.map (·.id)) := by
    rw [List.perm_ext_iff_of_nodup nodup goneNodup]
    intro id
    rw [List.mem_map]
    constructor
    · intro mem
      obtain ⟨crawl, isThere, rfl⟩ := List.mem_map.1 (subset id mem)
      exact ⟨crawl, (mem_gone crawl).2 ⟨isThere, mem⟩, rfl⟩
    · rintro ⟨crawl, isGone, rfl⟩
      exact ((mem_gone crawl).1 isGone).2
  rw [CrawlTable.bytesOf, (perm.map _).sum_nat, List.map_map]
  apply congrArg
  apply List.map_congr_left
  intro crawl isGone
  have account := h.accounts crawl ((mem_gone crawl).1 isGone).1
  obtain ⟨stored, isThere, same⟩ := Option.map_eq_some_iff.1 account
  have size : stored.totalSize = crawl.totalSize := congrArg Crawl.Account.totalSize same
  rw [Function.comp_apply, isThere, Option.elim_some, size]

/-- What a deletion reclaims is exactly what it removes, as no number of bytes is capped. -/
theorem MemoryStore.Balanced.toNat_reclaimed {s : MemoryStore} (h : s.Balanced)
    {batch : List Crawl} (hasBatch : s.books.HasBatch batch) {orgId : String} {type : CrawlType}
    {removed : List String} {rest : CrawlTable}
    (deletes : CrawlTable.Deletes orgId type (batch.map (·.id)) s.crawls removed rest) :
    (Reclaimed.ofCrawls (batch.filter fun crawl => removed.contains crawl.id)).size.toNat
      = s.crawls.bytesOf removed := by
  have subset : ∀ id ∈ removed, id ∈ batch.map (·.id) := fun id mem =>
    ((deletes.mem_removed id).1 mem).1
  rw [Reclaimed.toNat_size_ofCrawls, MemoryStore.sum_removed hasBatch deletes.nodup subset]
  by_cases none_ : s.crawls.bytesOf removed = 0
  · rw [none_]
    rfl
  · have fits := (h.bytesOf_le deletes none_).2
    rw [Counter.maxSigned] at fits
    rw [Counter.maxNat]
    omega

namespace Action

/-- The bytes of removed crawls are taken off their organization, which is there. -/
theorem balanced_shiftBytes {w : World MemoryStore} (h : w.store.Balanced) {orgId : String}
    {type : CrawlType} {ids removed : List String} {rest : CrawlTable}
    (deletes : CrawlTable.Deletes orgId type ids w.store.crawls removed rest) {size : Counter}
    (exact_ : size.toNat = w.store.crawls.bytesOf removed) (some_ : size ≠ 0) :
    ∃ after : World MemoryStore,
      (onOrgs (.shiftBytes orgId (-size.toSigned) type.storageKind)).run (w.withCrawls rest)
        = (.ok (), after) ∧ after.store.Balanced := by
  have someBytes : w.store.crawls.bytesOf removed ≠ 0 := by
    rw [← exact_]
    exact mt Counter.toNat_eq_zero.1 some_
  obtain ⟨owner, fits⟩ := h.bytesOf_le deletes someBytes
  obtain ⟨org, found⟩ := Option.isSome_iff_exists.1 owner
  rw [← exact_] at fits
  refine ⟨_, run_onOrgs_of_get? found, ?_⟩
  apply h.delete deletes
  intro id
  have signed : size.toSigned = w.store.crawls.bytesOf removed := by
    rw [Counter.FitsSigned.toSigned_eq fits, exact_]
  have sameId : org.id = orgId := Register.id_of_get? found
  simp only [World.orgs_withOrg, World.orgs_withCrawls, Register.get?_insert, OrgCall.apply,
    Organization.id_shiftBytes, signed, sameId]
  by_cases here : id = orgId
  · simp only [here, if_true, found, Option.map_some]
  · simp only [here, if_false, Option.map_id']

/-- The last step of a deletion takes off the totals what it removes. -/
theorem balanced_commit (services : Services) (org : Organization) {batch : List Crawl}
    (type : CrawlType) {w : World MemoryStore} (h : w.store.Balanced)
    (hasBatch : w.store.books.HasBatch batch) :
    ((commit services org batch type).run w).2.store.Balanced := by
  obtain ⟨removed, rest, removes, deletes⟩ :=
    run_onCrawls_delete w org.id (batch.map (·.id)) type
  have size := h.toNat_reclaimed hasBatch deletes
  have settles := Preserves.settle services (preserves_onOrgs MemoryStore.balanced_ofBooks rfl :
    Action.Preserves MemoryStore.Balanced (getOrg org.id)) (Counter.ofNatCapped removed.length)
  rw [commit, Attempt.run_bind, removes]
  dsimp only
  generalize Reclaimed.ofCrawls (batch.filter fun crawl => removed.contains crawl.id) = reclaimed
    at size ⊢
  by_cases zero : reclaimed.size = 0
  · have none_ : w.store.crawls.bytesOf removed = 0 := by
      rw [← size, zero]
      rfl
    rw [if_neg fun some_ => some_ zero]
    apply settles reclaimed
    apply h.delete deletes
    intro id
    rw [none_]
    simp
  · obtain ⟨after, shifts, balanced⟩ := balanced_shiftBytes h deletes size zero
    rw [if_pos zero, Attempt.run_bind, shifts]
    exact settles reclaimed after balanced

/-- A validation changes nothing and gives crawls of the store, in the order of the ids. -/
theorem run_validate (org : Organization) (type : CrawlType) (user : Option String)
    (ids : List String) (w : World MemoryStore) :
    ∃ result, (validate org type user ids).run w = (result, w) ∧
      ∀ batch, result = .ok batch → (batch.map (·.id)).Sublist ids ∧
        ∀ crawl ∈ batch, w.store.crawls.get? crawl.id = some crawl := by
  induction ids with
  | nil =>
    refine ⟨.ok [], rfl, ?_⟩
    rintro batch ⟨⟩
    exact ⟨.slnil, List.forall_mem_nil _⟩
  | cons id rest ih =>
    obtain ⟨result, run, spec⟩ := ih
    obtain ⟨found, lookUp, isThere⟩ := run_getCrawl w org.id id
    rw [validate, Attempt.run_bind, lookUp]
    cases found with
    | error e =>
      refine ⟨.error e, rfl, ?_⟩
      rintro _ ⟨⟩
    | ok crawl =>
      have isThere := isThere crawl rfl
      dsimp only
      split
      · refine ⟨result, run, fun batch valid => ?_⟩
        exact ⟨(spec batch valid).1.cons id, (spec batch valid).2⟩
      · split
        · rw [Attempt.run_bind, run]
          cases result with
          | error e =>
            refine ⟨.error e, rfl, ?_⟩
            rintro _ ⟨⟩
          | ok batch =>
            refine ⟨.ok (crawl :: batch), rfl, ?_⟩
            rintro _ ⟨⟩
            obtain ⟨sublist, stored⟩ := spec batch rfl
            have sameId : crawl.id = id := Register.id_of_get? isThere
            refine ⟨?_, List.forall_mem_cons.2 ⟨?_, stored⟩⟩
            · rw [List.map_cons, sameId]
              exact sublist.cons_cons id
            · rw [sameId]
              exact isThere
        · refine ⟨_, rfl, ?_⟩
          rintro _ ⟨⟩

/-- A batch that is on the books is removed with its bytes, or given up. -/
theorem balanced_reclaim_commit {services : Services}
    (alone : ∀ file, services.overlapping file = []) (org : Organization) {batch : List Crawl}
    (type : CrawlType) {w : World MemoryStore} (h : w.store.Balanced)
    (hasBatch : w.store.books.HasBatch batch) :
    ((do reclaim services org batch; commit services org batch type).run w).2.store.Balanced := by
  have balanced := preserves_reclaim MemoryStore.balanced_ofBooks alone org batch w h
  have books := preserves_reclaim (ofBooks_eq w.store.books) alone org batch w rfl
  rw [Attempt.run_bind]
  split
  · next reclaimed run =>
    rw [run] at balanced books
    rw [← books] at hasBatch
    exact balanced_commit services org type balanced hasBatch
  · next failed run =>
    rw [run] at balanced
    exact balanced

theorem balanced_deleteCrawls {services : Services}
    (alone : ∀ file, services.overlapping file = []) (org : Organization) (ids : List String)
    (type : CrawlType) (user : Option String) :
    Action.Preserves MemoryStore.Balanced (deleteCrawls services org ids type user) := by
  refine .check ?_
  intro w h
  obtain ⟨result, run, spec⟩ := run_validate org type user ids.eraseDups w
  dsimp only
  rw [Attempt.run_bind, run]
  cases result with
  | error e => exact h
  | ok batch =>
    obtain ⟨sublist, stored⟩ := spec batch rfl
    have hasBatch : w.store.books.HasBatch batch := by
      refine ⟨sublist.nodup (nodup_eraseDups ids), ?_⟩
      intro crawl mem
      exact congrArg (Option.map Crawl.account) (stored crawl mem)
    dsimp only
    split
    · have looksUp : Action.Preserves MemoryStore.Balanced (getOrg org.id) :=
        preserves_onOrgs MemoryStore.balanced_ofBooks rfl
      exact (Attempt.Preserves.bind looksUp fun current => .pure _) w h
    · exact balanced_reclaim_commit alone org type h hasBatch

theorem balanced_deleteAll {services : Services}
    (alone : ∀ file, services.overlapping file = []) (org : Organization) (ids : List String)
    (user : Option String) :
    Action.Preserves MemoryStore.Balanced (deleteAll services org ids user) :=
  .deleteAll (fun _ => preserves_onCrawls MemoryStore.balanced_ofBooks rfl)
    (fun ids type => balanced_deleteCrawls alone org ids type user) ids

end Action

/-! ## Requests -/

/-- Each request leaves a balanced store balanced. -/
theorem Request.balanced_after {services : Services}
    (alone : ∀ file, services.overlapping file = []) (request : Request) {w : World MemoryStore}
    (h : w.store.Balanced) : (request.after services w).store.Balanced := by
  have ofBooks := MemoryStore.balanced_ofBooks
  have updates : ∀ call : CrawlCall, call.isUpdate = true →
      Action.Preserves MemoryStore.Balanced (Action.onCrawls call) :=
    fun _ => Action.preserves_update ofBooks
  cases request with
  | deleteCrawls org ids type user => exact Action.balanced_deleteCrawls alone org ids type user w h
  | deleteAll org ids user => exact Action.balanced_deleteAll alone org ids user w h
  | recordUsage orgId duration isExecTime =>
    exact Action.Preserves.recordUsage (fun _ => Action.preserves_recording ofBooks) orgId duration
      isExecTime w h
  | updateQuotas orgId patch retention =>
    exact Action.Preserves.updateQuotas (fun _ => Action.preserves_onOrgs ofBooks rfl) w h
  | resolveCrawl seconds org crawlId =>
    exact Action.Preserves.resolveCrawl updates
      (Action.preserves_mintLink ofBooks services.toObjectService seconds org crawlId) w h
  | setCollections crawlId org requested =>
    exact Action.Preserves.setCollections updates crawlId org requested w h
  | updateCrawl crawlId org update type =>
    exact Action.Preserves.updateCrawl updates crawlId org update type w h
  | markCanceled id finished => exact updates (.markCanceled id finished) rfl w h
  | addReplica id filename replica => exact updates (.addReplica id filename replica) rfl w h

/-- Balanced stores stay balanced through requests of all kinds, whether they fail or not and
whatever collaborators answer, as long as these do not delete crawls themselves. -/
theorem run_balanced {services : Services} (alone : ∀ file, services.overlapping file = [])
    (requests : List (Moment × Request)) {w : World MemoryStore} (h : w.store.Balanced) :
    (afterRequests services requests w).store.Balanced := by
  induction requests generalizing w with
  | nil => exact h
  | cons request requests ih =>
    obtain ⟨now, request⟩ := request
    have first := request.balanced_after alone (w := { w with now }) h
    exact ih first

/-- A store with a crawl and an upload. -/
def twoCrawls : MemoryStore where
  orgs := Register.insert ∅ { id := "o", bytes := ⟨1500, 1000, 300, 200⟩ }
  crawls := Register.insert (Register.insert ∅
    { id := "c", orgId := "o", configId := some "config", type := .crawl, state := .running,
      files := [{ filename := "f", size := 1000 }] })
    { id := "u", orgId := "o", type := .upload, state := .complete,
      files := [{ filename := "g", size := 300 }] }

/-- Collaborators that know no crawl job and no crawl config. -/
def forgetful : Services where
  deleteObject _ _ _ _ := .ok true
  mintLink _ _ _ _ _ := .ok "https://link"
  stop _ _ _ := .ok ⟨false, some "Not Found"⟩
  correctConfig _ _ _ _ := .ok false

theorem run_balanced_twoCrawls :
    (afterRequests forgetful
      [(.ofSeconds 1714521600, .resolveCrawl 60 { id := "o" } "u"),
        (.ofSeconds 1714521601, .deleteAll { id := "o" } ["c", "u", "c"] none),
        (.ofSeconds 1714521602, .deleteCrawls { id := "o" } ["u"] .upload none)]
      { store := twoCrawls, now := .ofSeconds 1714521600 }).store.Balanced :=
  run_balanced (fun _ => rfl) _ (by decide)

end ArchiveAccounts
