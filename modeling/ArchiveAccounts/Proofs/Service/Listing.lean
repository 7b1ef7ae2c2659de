import ArchiveAccounts.Proofs.Service.CarriedOut
import Mathlib.Algebra.BigOperators.Group.List.Basic
import Mathlib.Algebra.Ring.Int.Defs
import Mathlib.Data.List.Nodup

/-!
# Deletions and how their ids are listed

A deletion that is carried out comes to the same however its ids are listed, in whatever order and
how often, and it can be split into two deletions of ids that have none in common. Main statement:
`deleteCrawls_ignoresListing`.
-/

namespace ArchiveAccounts
set_option autoImplicit false

/-! ## Crawls in another order -/

namespace Crawl

theorem bytes_perm {crawls others : List Crawl} (perm : crawls.Perm others) :
    bytes crawls = bytes others :=
  (perm.map _).sum_nat

theorem bytes_append (crawls others : List Crawl) :
    bytes (crawls ++ others) = bytes crawls + bytes others := by
  rw [bytes, List.map_append, List.sum_append]
  rfl

theorem ofConfig_append (config : String) (crawls others : List Crawl) :
    ofConfig config (crawls ++ others) = ofConfig config crawls ++ ofConfig config others :=
  List.filter_append ..

end Crawl

/-- What crawls take up does not depend on their order. -/
theorem Reclaimed.ofCrawls_perm {crawls others : List Crawl} (perm : crawls.Perm others) :
    ofCrawls crawls = ofCrawls others := by
  have size : (ofCrawls crawls).size = (ofCrawls others).size := by
    apply UInt64.toNat_inj.1
    rw [toNat_size_ofCrawls, toNat_size_ofCrawls]
    exact congrArg (min · _) (Crawl.bytes_perm perm)
  have keys : Crawl.configs crawls = Crawl.configs others := by
    apply SortedSet.ext_mem
    intro config
    simp only [Crawl.mem_configs, perm.mem_iff]
  have configs : (ofCrawls crawls).configs = (ofCrawls others).configs := by
    apply SortedMap.ext_toList
    rw [toList_ofCrawls, toList_ofCrawls, keys]
    apply List.map_congr_left
    intro config _
    have own : (Crawl.ofConfig config crawls).Perm (Crawl.ofConfig config others) := perm.filter _
    rw [correction, correction, own.length_eq, Crawl.bytes_perm own]
  exact congrArg₂ Reclaimed.mk size configs

theorem told_perm {crawls others : List Crawl} (perm : crawls.Perm others) :
    told crawls = told others := by
  rw [told, told, Reclaimed.ofCrawls_perm perm]

theorem Organization.withoutCrawls_perm (org : Organization) (type : CrawlType)
    {crawls others : List Crawl} (perm : crawls.Perm others) :
    org.withoutCrawls type crawls = org.withoutCrawls type others := by
  rw [withoutCrawls, withoutCrawls, Reclaimed.ofCrawls_perm perm]

theorem MemoryStore.withoutCrawls_perm (s : MemoryStore) (org : Organization) (type : CrawlType)
    {crawls others : List Crawl} (perm : crawls.Perm others) :
    s.withoutCrawls org type crawls = s.withoutCrawls org type others := by
  have sameCrawls : (s.withoutCrawls org type crawls).crawls
      = (s.withoutCrawls org type others).crawls := by
    apply Register.ext_get?
    intro id
    simp only [get?_withoutCrawls, (perm.map _).mem_iff]
  have sameOrgs : (s.withoutCrawls org type crawls).orgs
      = (s.withoutCrawls org type others).orgs := by
    rw [withoutCrawls, withoutCrawls, org.withoutCrawls_perm type perm]
  exact congrArg₂ MemoryStore.mk sameOrgs sameCrawls

namespace CrawlTable

variable {table : CrawlTable} {orgId : String} {type : CrawlType} {ids others : List String}

theorem listed_perm (same : ∀ id, id ∈ ids ↔ id ∈ others) :
    (table.listed orgId type ids).Perm (table.listed orgId type others) := by
  have once : ids.eraseDups.Perm others.eraseDups := by
    rw [List.perm_ext_iff_of_nodup (nodup_eraseDups ids) (nodup_eraseDups others)]
    intro id
    rw [List.mem_eraseDups, List.mem_eraseDups, same]
  exact once.filterMap _

theorem listed_append (disjoint : ∀ id ∈ ids, id ∉ others) :
    table.listed orgId type (ids ++ others)
      = table.listed orgId type ids ++ table.listed orgId type others := by
  have untouched : others.removeAll ids = others := by
    rw [List.removeAll, List.filter_eq_self]
    intro id mem
    rw [Bool.not_eq_true', ← Bool.not_eq_true, List.elem_iff]
    exact fun earlier => disjoint id earlier mem
  rw [listed, List.eraseDups_append, untouched, List.filterMap_append]
  rfl

section Congr

variable {other : CrawlTable} (same : ∀ id ∈ ids, table.get? id = other.get? id)

include same

theorem listed_congr : table.listed orgId type ids = other.listed orgId type ids := by
  apply List.filterMap_congr
  intro id mem
  rw [same id (List.mem_eraseDups.1 mem)]

theorem Validates.congr {org : Organization} {user : Option String}
    (h : other.Validates org type user ids) : table.Validates org type user ids := by
  intro id mem
  rw [same id mem]
  exact h id mem

end Congr

end CrawlTable

/-! ## Crawls removed one after the other -/

theorem Counter.shift_neg_neg (a : Counter) (n m : Nat) :
    shift (shift a (-(n : Int))) (-(m : Int)) = shift a (-((n + m : Nat) : Int)) := by
  apply UInt64.toNat_inj.1
  rw [toNat_shift_neg, toNat_shift_neg, toNat_shift_neg, Nat.sub_sub]

theorem Organization.shiftBytes_neg_neg (org : Organization) (kind : StorageKind) (n m : Nat) :
    (org.shiftBytes (-(n : Int)) kind).shiftBytes (-(m : Int)) kind
      = org.shiftBytes (-((n + m : Nat) : Int)) kind := by
  have bytes : (org.bytes.shift (-(n : Int)) kind).shift (-(m : Int)) kind
      = org.bytes.shift (-((n + m : Nat) : Int)) kind := by
    cases kind <;>
      simp only [StoredBytes.shift, ByteTotals.change, ByteTotals.set, ByteTotals.get,
        Counter.shift_neg_neg]
  rw [shiftBytes, shiftBytes, shiftBytes, bytes]

theorem Organization.withoutCrawls_eq (org : Organization) (type : CrawlType) {removed : List Crawl}
    (fits : (Crawl.bytes removed : Int) ≤ Counter.maxSigned) :
    org.withoutCrawls type removed
      = org.shiftBytes (-(Crawl.bytes removed : Int)) type.storageKind := by
  have signed : (Reclaimed.ofCrawls removed).size.toSigned = Crawl.bytes removed :=
    Counter.toSigned_eq_of_toNat (Reclaimed.toNat_size_ofCrawls removed) fits
  rw [withoutCrawls, signed]

section Append

variable {crawls others : List Crawl}
  (fits : (Crawl.bytes (crawls ++ others) : Int) ≤ Counter.maxSigned)

include fits

theorem Organization.withoutCrawls_append (org : Organization) (type : CrawlType) :
    (org.withoutCrawls type crawls).withoutCrawls type others
      = org.withoutCrawls type (crawls ++ others) := by
  have total := Crawl.bytes_append crawls others
  rw [org.withoutCrawls_eq type fits, org.withoutCrawls_eq type (by omega),
    withoutCrawls_eq _ type (by omega), shiftBytes_neg_neg, total]

theorem MemoryStore.withoutCrawls_append (s : MemoryStore) (org : Organization)
    (type : CrawlType) :
    (s.withoutCrawls org type crawls).withoutCrawls (org.withoutCrawls type crawls) type others
      = s.withoutCrawls org type (crawls ++ others) := by
  let first := s.withoutCrawls org type crawls
  let second := first.withoutCrawls (org.withoutCrawls type crawls) type others
  have sameCrawls : second.crawls = (s.withoutCrawls org type (crawls ++ others)).crawls := by
    apply Register.ext_get?
    intro id
    rw [get?_withoutCrawls, get?_withoutCrawls, get?_withoutCrawls, List.map_append]
    simp only [List.mem_append]
    by_cases first : id ∈ crawls.map (·.id) <;> by_cases later : id ∈ others.map (·.id) <;>
      simp only [first, later, if_true, if_false, or_self, or_true, true_or]
  have sameOrgs : second.orgs = (s.withoutCrawls org type (crawls ++ others)).orgs := by
    show (s.orgs.insert (org.withoutCrawls type crawls)).insert
        ((org.withoutCrawls type crawls).withoutCrawls type others)
      = s.orgs.insert (org.withoutCrawls type (crawls ++ others))
    rw [org.withoutCrawls_append fits, Register.insert_insert]
    rfl
  exact congrArg₂ MemoryStore.mk sameOrgs sameCrawls

end Append

/-! ## What configs are told in all -/

/-- The bytes that an event takes off the totals of a crawl config, below zero. -/
def Event.sizeFor (config : String) : Event → Int
  | correctConfig other size _ => if other = config then size else 0
  | _ => 0

/-- The crawls that an event takes off the totals of a crawl config, below zero. -/
def Event.countFor (config : String) : Event → Int
  | correctConfig other _ count => if other = config then count else 0
  | _ => 0

/-- The bytes that events take off the totals of a crawl config. -/
def sizeTold (config : String) (events : List Event) : Int :=
  (events.map (Event.sizeFor config)).sum

/-- The crawls that events take off the totals of a crawl config. -/
def countTold (config : String) (events : List Event) : Int :=
  (events.map (Event.countFor config)).sum

/-- Of a sum over the configs of crawls nothing is left but the part of one config, if that is zero
for a config of none of the crawls. -/
theorem sum_configs (config : String) (crawls : List Crawl) (f : String → Int)
    (none_ : Crawl.ofConfig config crawls = [] → f config = 0) :
    ((Crawl.configs crawls).toList.map fun other => if other = config then f other else 0).sum
      = f config := by
  have single := List.sum_map_eq_nsmul_single config
    (fun other => if other = config then f other else 0) (l := (Crawl.configs crawls).toList)
    fun other different _ => if_neg different
  rw [single, if_pos rfl]
  by_cases own : config ∈ (Crawl.configs crawls).toList
  · have once := List.nodup_iff_count_eq_one.1 (Crawl.configs crawls).nodup_toList config own
    rw [once, one_nsmul]
  · have nobody : Crawl.ofConfig config crawls = [] := by
      rw [Crawl.ofConfig, List.filter_eq_nil_iff]
      intro crawl mem isOwn
      exact own (Crawl.mem_configs.2 ⟨crawl, mem, beq_iff_eq.1 isOwn⟩)
    rw [none_ nobody, nsmul_zero]

theorem sizeTold_corrections (config : String) (crawls : List Crawl) :
    sizeTold config (corrections crawls)
      = -(Crawl.bytes (Crawl.ofConfig config crawls) : Int) := by
  rw [sizeTold, corrections, List.map_map]
  apply sum_configs config crawls fun other => -(Crawl.bytes (Crawl.ofConfig other crawls) : Int)
  intro none_
  rw [none_]
  rfl

theorem countTold_corrections (config : String) (crawls : List Crawl) :
    countTold config (corrections crawls)
      = -min ((Crawl.ofConfig config crawls).length : Int) Counter.maxSigned := by
  rw [countTold, corrections, List.map_map]
  apply sum_configs config crawls fun other =>
    -min ((Crawl.ofConfig other crawls).length : Int) Counter.maxSigned
  intro none_
  rw [none_]
  rfl

/-- What configs are told of crawls is what they are told of the one part and of the other. The
number of crawls is told as far as it is a signed 64-bit number. -/
theorem told_append {crawls others : List Crawl}
    (fits : (Crawl.bytes (crawls ++ others) : Int) ≤ Counter.maxSigned) (config : String) :
    sizeTold config (told (crawls ++ others))
        = sizeTold config (told crawls) + sizeTold config (told others) ∧
      countTold config (told (crawls ++ others))
        = max (countTold config (told crawls) + countTold config (told others))
            (-Counter.maxSigned) := by
  have total := Crawl.bytes_append crawls others
  have whole : told (crawls ++ others) = corrections (crawls ++ others) :=
    Action.map_correctionEvent fits
  have one : told crawls = corrections crawls := Action.map_correctionEvent (by omega)
  have other : told others = corrections others := Action.map_correctionEvent (by omega)
  rw [whole, one, other]
  simp only [sizeTold_corrections, countTold_corrections, Crawl.ofConfig_append,
    Crawl.bytes_append, List.length_append]
  constructor
  · omega
  · omega

/-! ## Two deletions -/

/-- Whether two deletions come to the same: the same answer, if they succeed, the same store, and
the same corrections. -/
structure SameDeletion (one other : Except Failure DeletionOutcome × World MemoryStore) : Prop where
  outcome : one.1.toOption = other.1.toOption
  store : one.2.store = other.2.store
  corrections : one.2.trace.filter Event.isCorrection = other.2.trace.filter Event.isCorrection

/-- Whether two deletions, one after the other, add up to a single one. From `w` the first of them
leads to `mid` and the other one to `u`; the single one leads to `t`. -/
structure AddsUp (w mid u t : World MemoryStore) (one two whole : DeletionOutcome) : Prop where
  deleted : whole.deleted = Counter.plus one.deleted two.deleted
  storageQuotaReached : whole.storageQuotaReached = two.storageQuotaReached
  store : u.store = t.store
  corrections : ∃ first second single,
    mid.trace.filter Event.isCorrection = w.trace.filter Event.isCorrection ++ first ∧
    u.trace.filter Event.isCorrection = mid.trace.filter Event.isCorrection ++ second ∧
    t.trace.filter Event.isCorrection = w.trace.filter Event.isCorrection ++ single ∧
    ∀ config, sizeTold config single = sizeTold config first + sizeTold config second ∧
      countTold config single
        = max (countTold config first + countTold config second) (-Counter.maxSigned)

/-- What can be said of deletions of the same ids. -/
structure IgnoresListing (services : Services) (org : Organization) (type : CrawlType)
    (user : Option String) (w : World MemoryStore) : Prop where
  sameIds : ∀ ids others : List String, ids ≠ [] → others ≠ [] → (∀ id, id ∈ ids ↔ id ∈ others) →
    SameDeletion ((Action.deleteCrawls services org ids type user).run w)
      ((Action.deleteCrawls services org others type user).run w)
  split : ∀ (ids others : List String) whole t, ids ≠ [] → others ≠ [] →
    (∀ id ∈ ids, id ∉ others) →
    (Action.deleteCrawls services org (ids ++ others) type user).run w = (.ok whole, t) →
    (Crawl.bytes (w.store.crawls.listed org.id type (ids ++ others)) : Int) ≤ Counter.maxSigned →
    ∃ one mid two u,
      (Action.deleteCrawls services org ids type user).run w = (.ok one, mid) ∧
      (Action.deleteCrawls services org others type user).run mid = (.ok two, u) ∧
      AddsUp w mid u t one two whole

section Deletions

variable {services : Services} {org current : Organization} {type : CrawlType}
  {user : Option String} {ids others : List String} {w t : World MemoryStore}

theorem sameDeletion_of_sameIds (comply : services.Comply)
    (found : w.store.orgs.get? org.id = some current) (some_ : ids ≠ []) (others_ : others ≠ [])
    (same : ∀ id, id ∈ ids ↔ id ∈ others) :
    SameDeletion ((Action.deleteCrawls services org ids type user).run w)
      ((Action.deleteCrawls services org others type user).run w) := by
  by_cases valid : w.store.crawls.Validates org type user ids
  · have validOthers : w.store.crawls.Validates org type user others :=
      fun id mem => valid id ((same id).2 mem)
    have perm : (w.store.crawls.listed org.id type ids).Perm
        (w.store.crawls.listed org.id type others) := CrawlTable.listed_perm same
    obtain ⟨t, run, done⟩ := Action.run_deleteCrawls_of_valid comply some_ found valid
    obtain ⟨u, runOthers, doneOthers⟩ :=
      Action.run_deleteCrawls_of_valid comply others_ found validOthers
    rw [run, runOthers]
    constructor
    · rw [perm.length_eq, current.withoutCrawls_perm type perm]
    · show t.store = u.store
      rw [done.store, doneOthers.store, w.store.withoutCrawls_perm current type perm]
    · show t.trace.filter _ = u.trace.filter _
      rw [done.corrections, doneOthers.corrections, told_perm perm]
  · have invalid : ¬w.store.crawls.Validates org type user others :=
      fun validOthers => valid fun id mem => validOthers id ((same id).1 mem)
    obtain ⟨e, run⟩ := Action.run_deleteCrawls_of_invalid services valid
    obtain ⟨e', runOthers⟩ := Action.run_deleteCrawls_of_invalid services invalid
    rw [run, runOthers]
    exact ⟨rfl, rfl, rfl⟩

/-- A deletion leaves the crawls of ids that it is not asked for. -/
theorem get?_of_carriesOut (done : CarriesOut current type
      (w.store.crawls.listed org.id type ids) w t) {id : String} (other : id ∉ ids) :
    t.store.crawls.get? id = w.store.crawls.get? id := by
  have stays : id ∉ (w.store.crawls.listed org.id type ids).map (·.id) := by
    rw [CrawlTable.mem_map_id_listed]
    exact fun listed => other listed.1
  rw [done.store, MemoryStore.get?_withoutCrawls, if_neg stays]

theorem addsUp_of_disjoint (comply : services.Comply)
    (found : w.store.orgs.get? org.id = some current) (some_ : ids ≠ []) (others_ : others ≠ [])
    (disjoint : ∀ id ∈ ids, id ∉ others) {whole : DeletionOutcome}
    (run : (Action.deleteCrawls services org (ids ++ others) type user).run w = (.ok whole, t))
    (fits : (Crawl.bytes (w.store.crawls.listed org.id type (ids ++ others)) : Int)
      ≤ Counter.maxSigned) :
    ∃ one mid two u,
      (Action.deleteCrawls services org ids type user).run w = (.ok one, mid) ∧
      (Action.deleteCrawls services org others type user).run mid = (.ok two, u) ∧
      AddsUp w mid u t one two whole := by
  have valid : w.store.crawls.Validates org type user (ids ++ others) := by
    by_contra invalid
    obtain ⟨e, fails⟩ := Action.run_deleteCrawls_of_invalid services invalid
    rw [fails] at run
    exact nomatch run
  have split : w.store.crawls.listed org.id type (ids ++ others)
      = w.store.crawls.listed org.id type ids ++ w.store.crawls.listed org.id type others :=
    CrawlTable.listed_append disjoint
  obtain ⟨validIds, validOthers⟩ := List.forall_mem_append.1 valid
  have anyIds : ids ++ others ≠ [] := List.append_ne_nil_of_left_ne_nil some_ others
  obtain ⟨t', runWhole, done⟩ := Action.run_deleteCrawls_of_valid comply anyIds found valid
  rw [run] at runWhole
  injection runWhole with isWhole same
  subst same
  obtain ⟨mid, runIds, doneIds⟩ := Action.run_deleteCrawls_of_valid comply some_ found validIds
  have left : ∀ id ∈ others, mid.store.crawls.get? id = w.store.crawls.get? id :=
    fun id mem => get?_of_carriesOut doneIds fun listed => disjoint id listed mem
  have foundMid : mid.store.orgs.get? org.id
      = some (current.withoutCrawls type (w.store.crawls.listed org.id type ids)) := by
    have named : current.id = org.id := Register.id_of_get? found
    rw [doneIds.store, MemoryStore.withoutCrawls, Register.get?_insert]
    exact if_pos named.symm
  have validMid := CrawlTable.Validates.congr left validOthers
  obtain ⟨u, runOthers, doneOthers⟩ :=
    Action.run_deleteCrawls_of_valid comply others_ foundMid validMid
  rw [CrawlTable.listed_congr left] at runOthers doneOthers
  rw [split] at fits done isWhole
  obtain rfl := Except.ok.inj isWhole
  refine ⟨_, mid, _, u, runIds, runOthers, ?_, ?_, ?_, ?_⟩
  · show Counter.ofNatCapped _ = _
    rw [List.length_append, Counter.plus_ofNatCapped]
  · rw [Organization.withoutCrawls_append fits]
  · rw [doneOthers.store, doneIds.store, MemoryStore.withoutCrawls_append fits, done.store]
  · exact ⟨_, _, _, doneIds.corrections, doneOthers.corrections, done.corrections,
      told_append fits⟩

end Deletions

/-- A deletion from an organization that is there comes to the same however its ids are listed, and
two deletions of ids that have none in common add up to a single one that succeeds, if the bytes
that it removes are a signed 64-bit number. This is so when collaborators comply. -/
theorem deleteCrawls_ignoresListing {services : Services} (comply : services.Comply)
    {org current : Organization} (type : CrawlType) (user : Option String)
    {w : World MemoryStore} (found : w.store.orgs.get? org.id = some current) :
    IgnoresListing services org type user w where
  sameIds _ _ some_ others_ same := sameDeletion_of_sameIds comply found some_ others_ same
  split _ _ _ _ some_ others_ disjoint run fits :=
    addsUp_of_disjoint comply found some_ others_ disjoint run fits

/-- Collaborators that comply and know no crawl job. -/
def unaware : Services where
  deleteObject _ _ _ _ := .ok true
  mintLink _ _ _ _ _ := .ok "https://link"
  stop _ _ _ := .ok ⟨false, some "Not Found"⟩
  correctConfig _ _ _ _ := .ok true

/-- Three crawls, of which one is canceled first, and an upload among the ids. -/
theorem deleteCrawls_ignoresListing_threeCrawls :
    let w : World MemoryStore := { store := configured, now := .ofSeconds 1714521600 }
    let delete := fun ids => Action.deleteCrawls unaware { id := "o" } ids .crawl none
    SameDeletion ((delete ["c", "u", "b", "a", "c"]).run w) ((delete ["a", "b", "c", "u"]).run w) ∧
      ∃ t one mid two u, (delete ["c", "u", "b", "a"]).run w = (.ok ⟨3, false⟩, t) ∧
        (delete ["c", "u"]).run w = (.ok one, mid) ∧ (delete ["b", "a"]).run mid = (.ok two, u) ∧
        AddsUp w mid u t one two ⟨3, false⟩ := by
  intro w delete
  have comply : unaware.Comply := by
    constructor
    · exact fun _ _ _ => ⟨_, rfl, .inr rfl⟩
    · exact fun _ _ _ _ => rfl
    · exact fun _ _ _ _ => rfl
    · exact fun _ => rfl
  have found : w.store.orgs.get? "o" = some { id := "o", bytes := ⟨900, 600, 300, 0⟩ } := by
    decide +kernel
  obtain ⟨sameIds, split⟩ : IgnoresListing unaware { id := "o" } .crawl none w :=
    deleteCrawls_ignoresListing comply .crawl none found
  refine ⟨sameIds _ _ nofun nofun ?_, ?_⟩
  · intro id
    simp only [List.mem_cons, List.not_mem_nil, or_false]
    tauto
  · rcases run : (delete (["c", "u"] ++ ["b", "a"])).run w with ⟨result, t⟩
    have answer : ((delete (["c", "u"] ++ ["b", "a"])).run w).1 = .ok ⟨3, false⟩ := by
      decide +kernel
    rw [run] at answer
    obtain rfl : result = .ok ⟨3, false⟩ := answer
    obtain ⟨one, mid, two, u, first, second, adds⟩ :=
      split ["c", "u"] ["b", "a"] _ t nofun nofun (by decide) run (by decide +kernel)
    exact ⟨t, one, mid, two, u, run, first, second, adds⟩

end ArchiveAccounts
