import ArchiveAccounts.Proofs.Crawl.Updates
import ArchiveAccounts.Proofs.Service.TwoRuns
import ArchiveAccounts.Proofs.Store.LookUps

/-!
# Tenants of a store

A store holds the documents of many organizations. A call for one of them comes to the same beside
the documents of the others as without them, and leaves those as they are. Calls that name a crawl
by its id alone do so as long as no other organization has a crawl under that id. Main statement:
the instance of `TenantStore` for the store in memory.
-/

namespace ArchiveAccounts
set_option autoImplicit false

open Attempt (Agrees Any)

/-- A store that can be parted by the organizations to which its documents belong. -/
class PartedStore (σ : Type) where
  /-- Whether a store is in a state that calls come to. -/
  IsSound : σ → Prop
  /-- The store with the documents of one organization only. -/
  only (tenant : String) : σ → σ
  /-- The documents of all organizations but one. -/
  without (tenant : String) : σ → σ
  /-- Whether no crawl has the id. -/
  IsFree : σ → String → Prop

open AccountStore PartedStore

/-- Whether the second store is the first one without the documents of other organizations, which
are `others`. -/
structure Beside {σ : Type} [PartedStore σ] (tenant : String) (others s t : σ) : Prop where
  sound : IsSound s
  own : t = only tenant s
  others : without tenant s = others

/-- Whether a call on a crawl that is there is one for an organization. If it names no organization,
it names a crawl that no other organization has. -/
def CrawlCall.IsFor (tenant : String) (isFree : String → Prop) : CrawlCall → Prop
  | insert _ => False
  | get orgId _ | updateMetadata orgId .. | addCollection orgId .. | removeCollection orgId ..
  | delete orgId .. => orgId = tenant
  | setSignedUrl id .. | addReplica id .. | markCanceled id _ => isFree id

/-- A store in which a call for one organization neither sees nor changes the documents of
others. -/
class TenantStore (σ : Type) [AccountStore σ] extends PartedStore σ where
  onOrgs : ∀ {tenant : String} {others : σ} (call : OrgCall), call.isInsert = false →
    call.orgId = tenant → Agrees (Beside tenant others) Any (AccountStore.onOrgs call)
  onCrawls : ∀ {tenant : String} {others : σ} (call : CrawlCall),
    call.IsFor tenant (IsFree others) →
    Agrees (Beside tenant others) Any (AccountStore.onCrawls call)
  /-- A crawl that is found for an organization has the id of no crawl of another one. -/
  getCrawl : ∀ {tenant : String} {others : σ} (id : String),
    Agrees (Beside tenant others) (fun crawl : Crawl => crawl.id = id ∧ IsFree others id)
      (AccountStore.onCrawls (.get tenant id))
  lookUpOrg_without : ∀ {tenant id : String} (s : σ), id ≠ tenant →
    lookUpOrg (without tenant s) id = lookUpOrg s id
  lookUpCrawl_without : ∀ {tenant orgId : String} (s : σ) (id : String), orgId ≠ tenant →
    lookUpCrawl (without tenant s) orgId id = lookUpCrawl s orgId id

/-! ## Crawls in memory -/

namespace CrawlTable

/-- The crawls of the organizations that `keep` accepts. -/
def part (keep : String → Bool) (table : CrawlTable) : CrawlTable :=
  table.filter fun crawl => keep crawl.orgId

section Part

variable {keep : String → Bool} {table : CrawlTable} {crawl : Crawl}

theorem get?_part (id : String) :
    (table.part keep).get? id = (table.get? id).filter fun crawl => keep crawl.orgId :=
  Register.get?_filter table _ id

theorem part_insert (kept : keep crawl.orgId = true) :
    part keep (table.insert crawl) = (table.part keep).insert crawl :=
  Register.filter_insert kept

theorem part_insert_of_not (refused : keep crawl.orgId = false)
    (none_ : ∀ old, table.get? crawl.id = some old → keep old.orgId = false) :
    part keep (table.insert crawl) = table.part keep :=
  Register.filter_insert_of_not refused none_

theorem part_erase (id : String) : part keep (table.erase id) = (table.part keep).erase id :=
  Register.filter_erase table _ id

end Part

/-- Whether the second table holds the crawls of one organization in the first one, which holds
`others` besides. -/
structure Beside (tenant : String) (others s t : CrawlTable) : Prop where
  own : t = s.part (· == tenant)
  others : s.part (· != tenant) = others

variable {tenant : String} {others s t : CrawlTable}

namespace Beside

theorem get?_eq (h : Beside tenant others s t) (id : String) :
    t.get? id = (s.get? id).filter fun crawl => crawl.orgId == tenant := by
  rw [h.own, get?_part]

/-- Under an id that is free there is a crawl of the organization, or none. -/
theorem of_free (h : Beside tenant others s t) {id : String} (free : others.get? id = none) :
    t.get? id = s.get? id ∧ ∀ crawl, s.get? id = some crawl → crawl.orgId = tenant := by
  rw [← h.others] at free
  obtain ⟨same, mine⟩ := Register.get?_filter_of_free free
  refine ⟨?_, fun crawl found => eq_of_beq (mine crawl found)⟩
  rw [h.own]
  exact same

/-- The id of a crawl of the organization is free. -/
theorem free (h : Beside tenant others s t) {id : String} {crawl : Crawl}
    (found : s.get? id = some crawl) (mine : crawl.orgId = tenant) : others.get? id = none := by
  rw [← h.others, get?_part, found, Option.filter_some, mine, bne_self_eq_false,
    if_neg Bool.false_ne_true]

theorem insert (h : Beside tenant others s t) {crawl : Crawl} (mine : crawl.orgId = tenant)
    (free : others.get? crawl.id = none) :
    Beside tenant others (s.insert crawl) (t.insert crawl) where
  own := by
    rw [h.own, part_insert]
    exact beq_iff_eq.2 mine
  others := by
    obtain ⟨_, owner⟩ := h.of_free free
    rw [← h.others, part_insert_of_not]
    · rw [mine, bne_self_eq_false]
    · intro old found
      rw [owner old found, bne_self_eq_false]

theorem erase (h : Beside tenant others s t) {id : String} (free : others.get? id = none) :
    Beside tenant others (s.erase id) (t.erase id) where
  own := by rw [h.own, part_erase]
  others := by rw [part_erase, h.others, Register.erase_eq_self free]

/-- Both tables hold the same crawls of the organization. -/
theorem holds_eq (h : Beside tenant others s t) (type : CrawlType) (id : String) :
    t.holds tenant type id = s.holds tenant type id := by
  rw [holds, holds, h.get?_eq]
  cases s.get? id with
  | none => rfl
  | some crawl =>
    by_cases mine : crawl.orgId = tenant
    · rw [Option.filter_some, if_pos (beq_iff_eq.2 mine)]
    · rw [Option.filter_some, if_neg (mt beq_iff_eq.1 mine), Option.any_none, Option.any_some,
        beq_eq_false_iff_ne.2 mine, Bool.false_and]

theorem free_of_holds (h : Beside tenant others s t) {type : CrawlType} {id : String}
    (isThere : s.holds tenant type id = true) : others.get? id = none := by
  rw [holds, Option.any_eq_true] at isThere
  obtain ⟨crawl, found, isOf⟩ := isThere
  rw [Bool.and_eq_true, beq_iff_eq] at isOf
  exact h.free found isOf.1

end Beside

theorem agrees_find {id : String} (free : others.get? id = none) :
    Agrees (Beside tenant others) (fun crawl => crawl.id = id ∧ crawl.orgId = tenant)
      (find id) := by
  refine .getBind fun s t related => ?_
  obtain ⟨same, mine⟩ := related.of_free free
  rw [same]
  cases found : s.get? id with
  | none => exact Agrees.throw _ s t related
  | some crawl => exact Agrees.pure ⟨Register.id_of_get? found, mine crawl found⟩ s t related

/-- A crawl that is found for the organization is one of its own. -/
theorem agrees_findOf (id : String) :
    Agrees (Beside tenant others)
      (fun crawl => crawl.id = id ∧ crawl.orgId = tenant ∧ others.get? id = none)
      (findOf tenant id) := by
  intro s t related
  rw [run_findOf, run_findOf, related.get?_eq]
  cases found : s.get? id with
  | none => exact Agrees.throw _ s t related
  | some crawl =>
    by_cases mine : crawl.orgId = tenant
    · simp only [Option.filter_some, mine, beq_self_eq_true, if_true]
      have free := related.free found mine
      exact Agrees.pure ⟨Register.id_of_get? found, mine, free⟩ s t related
    · simp only [Option.filter_some, mine, beq_eq_false_iff_ne.2 mine, if_false,
        Bool.false_eq_true]
      exact Agrees.throw _ s t related

/-- A crawl of the organization may be replaced by one of the same account. -/
theorem agrees_put {crawl after : Crawl} (same : after.account = crawl.account)
    (mine : crawl.orgId = tenant) (free : others.get? crawl.id = none) :
    Agrees (Beside tenant others) Any (put after) := by
  have owner : after.orgId = tenant := (congrArg Crawl.Account.orgId same).trans mine
  have id : after.id = crawl.id := congrArg Crawl.Account.id same
  rw [← id] at free
  exact .change fun _ _ related => related.insert owner free

theorem agrees_delete (type : CrawlType) (ids : List String) :
    Agrees (Beside tenant others) Any (delete tenant type ids) := by
  induction ids with
  | nil => exact .pure trivial
  | cons id ids ih =>
    refine .getBind fun s t related => ?_
    rw [related.holds_eq]
    cases isThere : s.holds tenant type id with
    | false => exact ih s t related
    | true =>
      have free := related.free_of_holds isThere
      have erases : Agrees (Beside tenant others) Any
          (modify fun table => table.erase id : Attempt CrawlTable PUnit) :=
        .change fun _ _ related => related.erase free
      have rest := erases.bind fun _ _ => ih.bind fun later _ =>
        Agrees.pure (Q := Any) (x := id :: later) trivial
      exact rest s t related

/-- A call for the organization comes to the same beside the crawls of others. -/
theorem agrees_perform (call : CrawlCall)
    (isFor : call.IsFor tenant fun id => others.get? id = none) :
    Agrees (Beside tenant others) Any (perform call) := by
  cases call with
  | insert crawl => exact isFor.elim
  | get orgId id =>
    obtain rfl : orgId = tenant := isFor
    exact (agrees_findOf id).imp fun _ _ => trivial
  | setSignedUrl id filename url expiresAt =>
    refine .getBind fun s t related => ?_
    obtain ⟨same, mine⟩ := related.of_free isFor
    rw [same]
    cases found : s.get? id with
    | none => exact Agrees.pure trivial s t related
    | some crawl =>
      obtain rfl : crawl.id = id := Register.id_of_get? found
      rw [Option.bind_some]
      cases accepted : crawl.withSignedUrl? filename url expiresAt with
      | none => exact Agrees.pure trivial s t related
      | some signed =>
        have puts := agrees_put (Crawl.account_withSignedUrl? accepted) (mine crawl found) isFor
        have answers := puts.bind fun _ _ => Agrees.pure (Q := Any) (x := true) trivial
        exact answers s t related
  | addReplica id filename replica =>
    refine (agrees_find isFor).bind fun crawl known => ?_
    obtain ⟨rfl, mine⟩ := known
    exact agrees_put (crawl.account_withReplica filename replica) mine isFor
  | updateMetadata orgId id type update =>
    obtain rfl : orgId = tenant := isFor
    refine (agrees_findOf id).bind fun crawl known => ?_
    obtain ⟨rfl, mine, free⟩ := known
    refine .ite (fun _ => ?_) fun _ => .throw _
    exact agrees_put (crawl.account_withMetadata update) mine free
  | markCanceled id finished =>
    refine (agrees_find isFor).bind fun crawl known => ?_
    obtain ⟨rfl, mine⟩ := known
    exact agrees_put (crawl.account_canceledAt finished) mine isFor
  | addCollection orgId id collection =>
    obtain rfl : orgId = tenant := isFor
    refine (agrees_findOf id).bind fun crawl known => ?_
    obtain ⟨rfl, mine, free⟩ := known
    refine (Agrees.lift fun _ joins => Crawl.account_joined joins).bind fun joined same => ?_
    exact agrees_put same mine free
  | removeCollection orgId id collection =>
    obtain rfl : orgId = tenant := isFor
    refine (agrees_findOf id).bind fun crawl known => ?_
    obtain ⟨rfl, mine, free⟩ := known
    exact agrees_put (crawl.account_left collection) mine free
  | delete orgId ids type =>
    obtain rfl : orgId = tenant := isFor
    exact agrees_delete type ids

end CrawlTable

/-! ## The store in memory -/

namespace MemoryStore

/-- The documents of the organizations that `keep` accepts. -/
def part (keep : String → Bool) (s : MemoryStore) : MemoryStore where
  orgs := s.orgs.filter fun org => keep org.id
  crawls := s.crawls.part keep

instance : PartedStore MemoryStore where
  IsSound _ := True
  only tenant := part (· == tenant)
  without tenant := part (· != tenant)
  IsFree s id := s.crawls.get? id = none

section Part

variable {keep : String → Bool} {s : MemoryStore} {org : Organization}

theorem get?_orgs_part {id : String} (kept : keep id = true) :
    (part keep s).orgs.get? id = s.orgs.get? id := by
  refine (Register.get?_filter s.orgs _ id).trans ?_
  cases found : s.orgs.get? id with
  | none => rfl
  | some org =>
    have named : org.id = id := Register.id_of_get? found
    rw [Option.filter_some, if_pos (named ▸ kept)]

theorem part_insert (kept : keep org.id = true) :
    part keep { s with orgs := s.orgs.insert org }
      = { part keep s with orgs := (part keep s).orgs.insert org } :=
  congrArg (MemoryStore.mk · _) (Register.filter_insert kept)

theorem part_insert_of_not (refused : keep org.id = false) :
    part keep { s with orgs := s.orgs.insert org } = part keep s := by
  refine congrArg (MemoryStore.mk · _) (Register.filter_insert_of_not refused ?_)
  intro old found
  have same : old.id = org.id := Register.id_of_get? found
  rw [same, refused]

end Part

variable {tenant : String} {others s t : MemoryStore}

theorem beside_insert (h : Beside tenant others s t) {org : Organization} (mine : org.id = tenant) :
    Beside tenant others { s with orgs := s.orgs.insert org }
      { t with orgs := t.orgs.insert org } where
  sound := trivial
  own := by
    have kept : (org.id == tenant) = true := beq_iff_eq.2 mine
    rw [h.own]
    exact (part_insert kept).symm
  others := by
    rw [← h.others]
    refine part_insert_of_not ?_
    rw [mine, bne_self_eq_false]

/-- A call on the organization itself. -/
theorem agrees_onOrgs {call : OrgCall} (old : call.isInsert = false) (mine : call.orgId = tenant) :
    Agrees (Beside tenant others) Any (onOrgs call) := by
  intro s t related
  have same : t.orgs.get? call.orgId = s.orgs.get? call.orgId := by
    rw [related.own]
    refine get?_orgs_part ?_
    exact beq_iff_eq.2 mine
  cases found : s.orgs.get? call.orgId with
  | none =>
    rw [run_onOrgs_of_none found old, run_onOrgs_of_none (same.trans found) old]
    exact Agrees.throw _ s t related
  | some org =>
    rw [run_onOrgs found, run_onOrgs (same.trans found)]
    have named : (call.apply org).2.id = tenant :=
      (OrgCall.id_apply (Register.id_of_get? found)).trans mine
    exact ⟨rfl, fun _ _ => trivial, beside_insert related named⟩

/-- What agrees on tables of crawls agrees on the stores that hold them. -/
theorem agrees_onCrawls (call : CrawlCall) {Q : call.Reply → Prop}
    (agrees : Agrees (CrawlTable.Beside tenant others.crawls) Q (CrawlTable.perform call)) :
    Agrees (Beside tenant others) Q (onCrawls call) := by
  rintro s t ⟨_, rfl, rfl⟩
  obtain ⟨same, answers, after⟩ := agrees s.crawls (s.crawls.part (· == tenant)) ⟨rfl, rfl⟩
  refine ⟨same, answers, trivial, ?_, ?_⟩
  · exact congrArg (MemoryStore.mk _ ·) after.own
  · exact congrArg (MemoryStore.mk _ ·) after.others

instance : TenantStore MemoryStore where
  onOrgs _ old mine := agrees_onOrgs old mine
  onCrawls call isFor := agrees_onCrawls call (CrawlTable.agrees_perform call isFor)
  getCrawl {tenant _} id := by
    refine agrees_onCrawls (.get tenant id) ?_
    exact (CrawlTable.agrees_findOf id).imp fun _ known => ⟨known.1, known.2.2⟩
  lookUpOrg_without {tenant id} s other := by
    have same : (without tenant s).orgs.get? id = s.orgs.get? id := by
      refine get?_orgs_part ?_
      exact bne_iff_ne.2 other
    rw [lookUpOrg_eq, lookUpOrg_eq, same]
  lookUpCrawl_without {tenant orgId} s id other := by
    have filtered : (without tenant s).crawls.get? id
        = (s.crawls.get? id).filter fun crawl => crawl.orgId != tenant := CrawlTable.get?_part id
    rw [lookUpCrawl_eq, lookUpCrawl_eq, filtered]
    cases s.crawls.get? id with
    | none => rfl
    | some crawl =>
      by_cases mine : crawl.orgId = tenant
      · simp only [Option.filter_some, mine, bne_self_eq_false, Bool.false_eq_true, if_false,
          Ne.symm other]
      · rw [Option.filter_some, if_pos (bne_iff_ne.2 mine)]

end MemoryStore

end ArchiveAccounts
