import ArchiveAccounts.Proofs.Store.LookUps
import ArchiveAccounts.Proofs.Store.Tenants

/-!
# Tenants of a relational store

Every row names the organization to which it belongs. A call for one organization comes to the same
beside the rows of others as without them, and leaves those as they are; only the numbering of the
log is common to all. Main statements: the instance of `TenantStore` and `sound_afterCalls`.
-/

namespace ArchiveAccounts
set_option autoImplicit false

open Attempt (Agrees Any)
open PartedStore

namespace RelationalStore

/-! ## Rows of some organizations -/

/-- The rows of the organizations that `keep` accepts. -/
def part (keep : String → Bool) (s : RelationalStore) : RelationalStore where
  orgs := s.orgs.filter fun id _ => keep id
  seconds := s.seconds.filter fun key _ => keep key.orgId
  changes := s.changes.filter fun _ row => keep row.orgId
  nextNumber := s.nextNumber
  crawls := s.crawls.filter fun _ row => keep row.orgId

section Part

variable {keep : String → Bool} {s : RelationalStore} {id : String}

theorem secondsOf_part (kept : keep id = true) : (s.part keep).secondsOf id = s.secondsOf id := by
  have narrower : ∀ (key : SecondsKey) (cell : Cell), (key.orgId == id) = true →
      keep key.orgId = true := by
    intro key _ own
    rw [eq_of_beq own, kept]
  exact congrArg SortedMap.toList (s.seconds.filter_filter_of_imp narrower)

theorem log_part (kept : keep id = true) : (s.part keep).log id = s.log id := by
  have narrower : ∀ (number : Nat) (row : ChangeRow), (row.orgId == id) = true →
      keep row.orgId = true := by
    intro _ row own
    rw [eq_of_beq own, kept]
  exact congrArg SortedMap.toList (s.changes.filter_filter_of_imp narrower)

/-- An organization is read from its own rows. -/
theorem organization?_part (kept : keep id = true) (row : OrgRow) :
    (s.part keep).organization? id row = s.organization? id row := by
  rw [organization?, organization?, secondsOf_part kept, log_part kept]

theorem get?_orgs_part (kept : keep id = true) : (s.part keep).orgs.get? id = s.orgs.get? id := by
  refine (s.orgs.get?_filter _ id).trans ?_
  cases s.orgs.get? id with
  | none => rfl
  | some row => rw [Option.filter_some, if_pos kept]

theorem getD_seconds_part (kept : keep id = true) (counter period : String) (cell : Cell) :
    (s.part keep).seconds.getD ⟨id, counter, period⟩ cell
      = s.seconds.getD ⟨id, counter, period⟩ cell := by
  have same : (s.part keep).seconds.get? ⟨id, counter, period⟩
      = s.seconds.get? ⟨id, counter, period⟩ := by
    refine (s.seconds.get?_filter _ _).trans ?_
    cases s.seconds.get? ⟨id, counter, period⟩ with
    | none => rfl
    | some cell => rw [Option.filter_some, if_pos kept]
  rw [SortedMap.getD, SortedMap.getD, same]

/-! ### Writing rows of one of them -/

theorem part_put (kept : keep id = true) (row : OrgRow) :
    part keep { s with orgs := s.orgs.insert id row }
      = { s.part keep with orgs := (s.part keep).orgs.insert id row } := by
  simp only [part, SortedMap.filter_insert, kept]

theorem part_addSeconds (kept : keep id = true) (counter : TimeCounter) (period : String)
    (n : Counter) :
    (s.addSeconds id counter period n).part keep
      = (s.part keep).addSeconds id counter period n := by
  rw [addSeconds, addSeconds, getD_seconds_part kept]
  simp only [part, SortedMap.filter_insert, kept]

theorem part_append {row : ChangeRow} (kept : keep row.orgId = true) :
    (s.append row).part keep = (s.part keep).append row := by
  simp only [part, append, SortedMap.filter_insert, kept]

theorem part_trim (kept : keep id = true) (count : Nat) :
    (s.trim id count).part keep = (s.part keep).trim id count := by
  rw [trim, trim, log_part kept]
  simp only [part, s.changes.filter_comm fun _ row => keep row.orgId]

theorem part_putCrawl {row : CrawlRow} (kept : keep row.orgId = true) :
    part keep { s with crawls := s.crawls.insert id row }
      = { s.part keep with crawls := (s.part keep).crawls.insert id row } := by
  simp only [part, SortedMap.filter_insert, kept]

theorem part_deleteCrawls (stays : String → CrawlRow → Bool) :
    part keep { s with crawls := s.crawls.filter stays }
      = { s.part keep with crawls := (s.part keep).crawls.filter stays } := by
  simp only [part, s.crawls.filter_comm fun _ row => keep row.orgId]

/-! ### Writing rows of another one -/

theorem part_put_of_not (refused : keep id = false) (row : OrgRow) :
    part keep { s with orgs := s.orgs.insert id row } = s.part keep := by
  simp only [part]
  rw [SortedMap.filter_insert_of_not refused]
  exact fun _ _ => refused

theorem part_addSeconds_of_not (refused : keep id = false) (counter : TimeCounter)
    (period : String) (n : Counter) :
    (s.addSeconds id counter period n).part keep = s.part keep := by
  simp only [part, addSeconds]
  rw [SortedMap.filter_insert_of_not refused]
  exact fun _ _ => refused

theorem part_append_of_not {row : ChangeRow} (below : s.NumbersBelow)
    (refused : keep row.orgId = false) :
    (s.append row).part keep = { s.part keep with nextNumber := s.nextNumber + 1 } := by
  simp only [part, append]
  rw [SortedMap.filter_insert_of_not refused]
  intro old found
  exact absurd (below s.nextNumber old found) (Nat.lt_irrefl _)

theorem part_trim_of_not (refused : keep id = false) (count : Nat) :
    (s.trim id count).part keep = s.part keep := by
  simp only [part, trim]
  rw [SortedMap.filter_filter_of_imp]
  intro number row kept
  have other : row.orgId ≠ id := by
    rintro rfl
    rw [kept] at refused
    cases refused
  rw [bne_iff_ne.2 other, Bool.true_or]

theorem part_putCrawl_of_not {row : CrawlRow} (refused : keep row.orgId = false)
    (none_ : ∀ old, s.crawls.get? id = some old → keep old.orgId = false) :
    part keep { s with crawls := s.crawls.insert id row } = s.part keep := by
  simp only [part]
  rw [SortedMap.filter_insert_of_not refused none_]

theorem part_deleteCrawls_of_imp {stays : String → CrawlRow → Bool}
    (others : ∀ id row, keep row.orgId = true → stays id row = true) :
    part keep { s with crawls := s.crawls.filter stays } = s.part keep := by
  simp only [part]
  rw [SortedMap.filter_filter_of_imp _ others]

end Part

/-! ## Beside the rows of others -/

/-- Whether rows of crawls name their crawls and numbers in the log are below the next one. -/
structure Sound (s : RelationalStore) : Prop where
  names : NamesRows s
  below : s.NumbersBelow

instance : PartedStore RelationalStore where
  IsSound := Sound
  only tenant := part (· == tenant)
  -- the numbering of the log goes on whoever changes quotas, so it is nobody's document
  without tenant s := { s.part (· != tenant) with nextNumber := 1 }
  IsFree s id := s.crawls.get? id = none

variable {tenant : String} {others s t : RelationalStore}

section Beside

variable (h : Beside tenant others s t)

include h

theorem get?_orgs_beside : t.orgs.get? tenant = s.orgs.get? tenant := by
  rw [h.own]
  refine get?_orgs_part ?_
  exact beq_self_eq_true tenant

theorem getD_seconds_beside (counter period : String) (cell : Cell) :
    t.seconds.getD ⟨tenant, counter, period⟩ cell
      = s.seconds.getD ⟨tenant, counter, period⟩ cell := by
  rw [h.own]
  refine getD_seconds_part ?_ counter period cell
  exact beq_self_eq_true tenant

theorem organization?_beside (row : OrgRow) :
    t.organization? tenant row = s.organization? tenant row := by
  rw [h.own]
  refine organization?_part ?_ row
  exact beq_self_eq_true tenant

/-- The row of a crawl is in both stores if it is one of the organization. -/
theorem get?_crawls_beside (id : String) :
    t.crawls.get? id = (s.crawls.get? id).filter fun row => row.orgId == tenant := by
  rw [h.own]
  exact SortedMap.get?_filter _ _ _

/-- Under an id that is free there is a row of the organization, or none. -/
theorem row_of_free {id : String} (free : others.crawls.get? id = none) :
    t.crawls.get? id = s.crawls.get? id ∧
      ∀ row, s.crawls.get? id = some row → row.orgId = tenant := by
  rw [← h.others] at free
  obtain ⟨same, mine⟩ := SortedMap.get?_filter_of_free free
  refine ⟨?_, fun row found => eq_of_beq (mine row found)⟩
  rw [h.own]
  exact same

/-- The id of a row of the organization is free. -/
theorem free_of_row {id : String} {row : CrawlRow} (found : s.crawls.get? id = some row)
    (mine : row.orgId = tenant) : others.crawls.get? id = none := by
  rw [← h.others]
  refine (SortedMap.get?_filter _ _ _).trans ?_
  rw [found, Option.filter_some, mine]
  exact if_neg (Bool.eq_false_iff.1 (bne_self_eq_false tenant))

/-- What is done in the same way to the rows of the organization in both stores. -/
theorem beside_change (f : RelationalStore → RelationalStore) (sound : Sound (f s))
    (kept : ∀ keep s, keep tenant = true → (f s).part keep = f (s.part keep))
    (refused : ∀ keep, keep tenant = false →
      (f s).part keep = { s.part keep with nextNumber := (f s).nextNumber }) :
    Beside tenant others (f s) (f t) where
  sound := sound
  own := by
    rw [h.own]
    exact (kept (· == tenant) s (beq_self_eq_true tenant)).symm
  others := by
    rw [← h.others]
    exact congrArg ({ · with nextNumber := 1 }) (refused (· != tenant) (bne_self_eq_false tenant))

theorem beside_put (row : OrgRow) :
    Beside tenant others { s with orgs := s.orgs.insert tenant row }
      { t with orgs := t.orgs.insert tenant row } :=
  beside_change h (fun s => { s with orgs := s.orgs.insert tenant row })
    ⟨h.sound.names, h.sound.below⟩ (fun _ _ kept => part_put kept row)
    fun _ refused => part_put_of_not refused row

theorem beside_addSeconds (counter : TimeCounter) (period : String) (n : Counter) :
    Beside tenant others (s.addSeconds tenant counter period n)
      (t.addSeconds tenant counter period n) :=
  beside_change h (·.addSeconds tenant counter period n) ⟨h.sound.names, h.sound.below⟩
    (fun _ _ kept => part_addSeconds kept counter period n)
    fun _ refused => part_addSeconds_of_not refused counter period n

theorem beside_append {row : ChangeRow} (mine : row.orgId = tenant) :
    Beside tenant others (s.append row) (t.append row) := by
  subst mine
  exact beside_change h (·.append row)
    ⟨h.sound.names, numbersBelow_append s h.sound.below row⟩ (fun _ _ kept => part_append kept)
    fun _ refused => part_append_of_not h.sound.below refused

theorem beside_trim (count : Nat) :
    Beside tenant others (s.trim tenant count) (t.trim tenant count) :=
  beside_change h (·.trim tenant count)
    ⟨h.sound.names, numbersBelow_trim s tenant h.sound.below count⟩
    (fun _ _ kept => part_trim kept count) fun _ refused => part_trim_of_not refused count

theorem beside_putCrawl {row : CrawlRow} {crawl : Crawl} (reads : row.crawl? = some crawl)
    (mine : row.orgId = tenant) (free : others.crawls.get? crawl.id = none) :
    Beside tenant others { s with crawls := s.crawls.insert crawl.id row }
      { t with crawls := t.crawls.insert crawl.id row } := by
  obtain ⟨_, owner⟩ := row_of_free h free
  subst mine
  refine beside_change h (fun s => { s with crawls := s.crawls.insert crawl.id row })
    ⟨h.sound.names.insert rfl reads, h.sound.below⟩ (fun _ _ kept => part_putCrawl kept)
    fun _ refused => part_putCrawl_of_not refused ?_
  intro old found
  rw [owner old found, refused]

theorem beside_deleteCrawls {stays : String → CrawlRow → Bool}
    (foreign : ∀ id row, row.orgId ≠ tenant → stays id row = true) :
    Beside tenant others { s with crawls := s.crawls.filter stays }
      { t with crawls := t.crawls.filter stays } := by
  refine beside_change h (fun s => { s with crawls := s.crawls.filter stays })
    ⟨h.sound.names.filter stays, h.sound.below⟩ (fun _ _ _ => part_deleteCrawls stays)
    fun _ refused => part_deleteCrawls_of_imp ?_
  intro id row kept
  apply foreign id row
  rintro rfl
  rw [kept] at refused
  exact nomatch refused

end Beside

/-! ## Calls -/

section Calls

variable {α : Type} {Q : α → Prop} {R : RelationalStore → RelationalStore → Prop}

theorem agrees_need {value : Option α} (h : ∀ a, value = some a → Q a) :
    Agrees R Q (need value) := by
  cases value with
  | none => exact .throw _
  | some a => exact .pure (h a rfl)

theorem agrees_find : Agrees (Beside tenant others) Any (find tenant) := by
  refine .view ?_ fun s => ?_
  · intro s t related
    simp only [get?_orgs_beside related]
  · cases s.orgs.get? tenant with
    | none => exact .throw _
    | some row => exact .pure trivial

theorem agrees_load : Agrees (Beside tenant others) Any (load tenant) := by
  refine agrees_find.bind fun row _ => .view ?_ fun s => agrees_need fun _ _ => trivial
  intro s t related
  simp only [organization?_beside related]

theorem agrees_put (row : OrgRow) : Agrees (Beside tenant others) Any (put tenant row) :=
  .change fun _ _ related => beside_put related row

theorem agrees_addSeconds (counter : TimeCounter) (period : String) (n : Counter) :
    Agrees (Beside tenant others) Any
      (modify fun s => s.addSeconds tenant counter period n : Attempt RelationalStore PUnit) :=
  .change fun _ _ related => beside_addSeconds related counter period n

/-- A call on the organization itself. -/
theorem agrees_perform {call : OrgCall} (old : call.isInsert = false)
    (mine : call.orgId = tenant) : Agrees (Beside tenant others) Any (perform call) := by
  subst mine
  cases call with
  | insert org => exact nomatch old
  | get id => exact agrees_load
  | countSeconds id counter period n =>
    exact agrees_find.bind fun _ _ => agrees_addSeconds counter period n
  | creditMonthly id period n quota =>
    refine agrees_find.bind fun _ _ => .view ?_ fun s => ?_
    · intro s t related
      have related : Beside id others s t := related
      simp only [getD_seconds_beside related]
    · refine (agrees_need fun _ _ => trivial).bind (Q := Any) fun used _ => .ite (fun _ => ?_) ?_
      · exact (agrees_addSeconds .monthly period _).bind fun _ _ => .pure trivial
      · exact fun _ => .pure trivial
  | drawPool id pool period n =>
    refine agrees_find.bind fun row _ => ?_
    refine (agrees_need fun _ _ => trivial).bind (Q := Any) fun left _ => .ite (fun _ => ?_) ?_
    · refine (agrees_put _).bind fun _ _ => ?_
      exact (agrees_addSeconds pool.counter period _).bind fun _ _ => .pure trivial
    · exact fun _ => .pure trivial
  | shiftBytes id delta kind => exact agrees_find.bind fun row _ => agrees_put _
  | updateQuotas id patch modified retention =>
    refine (agrees_need fun _ written => ChangeRow.reads written).bind fun change known => ?_
    refine agrees_load.bind fun org _ => agrees_find.bind fun row _ => ?_
    refine (agrees_put _).bind fun _ _ => ?_
    have append : Agrees (Beside id others) Any
        (modify fun s => s.append change : Attempt RelationalStore PUnit) :=
      .change fun _ _ related => beside_append related known.1
    refine append.bind fun _ _ => ?_
    split
    · next count =>
      have trim : Agrees (Beside id others) Any
          (modify fun s => s.trim id (max count 1) : Attempt RelationalStore PUnit) :=
        .change fun _ _ related => beside_trim related _
      exact trim.bind fun _ _ => .pure trivial
    · exact .pure trivial

/-- What is known of a crawl that is found for the organization. -/
abbrev FoundAs (others : RelationalStore) (id : String) (crawl : Crawl) : Prop :=
  crawl.id = id ∧ IsFree others id

/-- A look-up for the organization, or one under an id that is free. -/
theorem agrees_loadCrawl? {orgId : Option String} {id : String}
    (asks : orgId = some tenant ∨ orgId = none ∧ IsFree others id) :
    Agrees (Beside tenant others) (fun found => ∀ crawl ∈ found, FoundAs others id crawl)
      (loadCrawl? orgId id) := by
  refine .getBind fun s t related => ?_
  have same := get?_crawls_beside related id
  cases found : s.crawls.get? id with
  | none =>
    rw [same, found]
    exact Agrees.pure (fun _ => nofun) s t related
  | some row =>
    by_cases mine : row.orgId = tenant
    · have both : t.crawls.get? id = some row := by
        rw [same, found, Option.filter_some, if_pos (beq_iff_eq.2 mine)]
      have named : ∀ crawl, row.crawl? = some crawl → FoundAs others id crawl := by
        intro crawl reads
        exact ⟨related.sound.names id row crawl found reads, free_of_row related found mine⟩
      have asked : (orgId.all fun wanted => wanted == row.orgId) = true := by
        rcases asks with rfl | ⟨rfl, _⟩
        · exact beq_iff_eq.2 mine.symm
        · rfl
      have reads : Agrees (Beside tenant others)
          (fun found => ∀ crawl ∈ found, FoundAs others id crawl)
          (do return some (← need row.crawl?)) := by
        refine (agrees_need named).bind fun crawl known => .pure ?_
        rintro _ ⟨⟩
        exact known
      simp only [both, asked, if_true]
      exact reads s t related
    · -- the row of another organization is passed over here and missing there
      have asked : (orgId.all fun wanted => wanted == row.orgId) = false := by
        rcases asks with rfl | ⟨_, free⟩
        · exact beq_eq_false_iff_ne.2 (Ne.symm mine)
        · exact absurd ((row_of_free related free).2 row found) mine
      have none_ : t.crawls.get? id = none := by
        rw [same, found, Option.filter_some, beq_eq_false_iff_ne.2 mine]
        rfl
      simp only [none_, asked, Bool.false_eq_true, if_false]
      exact Agrees.pure (fun _ => nofun) s t related

theorem agrees_loadCrawl {orgId : Option String} {id : String}
    (asks : orgId = some tenant ∨ orgId = none ∧ IsFree others id) :
    Agrees (Beside tenant others) (FoundAs others id) (loadCrawl orgId id) := by
  refine (agrees_loadCrawl? asks).bind fun found known => ?_
  cases found with
  | none => exact .throw _
  | some crawl => exact .pure (known crawl rfl)

/-- A crawl is written over with one of the same id. -/
theorem agrees_storeCrawl {id : String} {crawl after : Crawl} (known : FoundAs others id crawl)
    (same : after.account = crawl.account) :
    Agrees (Beside tenant others) Any (storeCrawl after) := by
  obtain ⟨rfl, free⟩ := known
  have named : after.id = crawl.id := congrArg Crawl.Account.id same
  rw [← named] at free
  refine (agrees_need fun _ written => written).bind fun written writes => .getBind ?_
  intro s t related
  obtain ⟨same, mine⟩ := row_of_free related free
  rw [same]
  cases found : s.crawls.get? after.id with
  | none => exact Agrees.pure trivial s t related
  | some row =>
    have reads : ({ row with document := written.document } : CrawlRow).crawl? = some after :=
      crawl?_of_document writes rfl
    exact ⟨rfl, fun _ _ => trivial, beside_putCrawl related reads (mine row found) free⟩

theorem agrees_deleteCrawls (ids : List String) (type : CrawlType) :
    Agrees (Beside tenant others) Any (deleteCrawls tenant ids type) := by
  refine .ite (fun _ => .pure trivial) fun _ => .check (.getBind fun s t related => ?_)
  let goes := fun (id : String) (row : CrawlRow) =>
    row.orgId == tenant && row.type == type.name && ids.contains id
  have own : ∀ id row, goes id row = true → (row.orgId == tenant) = true := by
    intro id row gone
    exact (Bool.and_eq_true_iff.1 (Bool.and_eq_true_iff.1 gone).1).1
  have same : t.crawls.filter goes = s.crawls.filter goes := by
    rw [related.own]
    exact s.crawls.filter_filter_of_imp own
  have answer : (s.crawls.filter goes).keys = (t.crawls.filter goes).keys := by rw [same]
  have after : Beside tenant others { s with crawls := s.crawls.filter fun id row => !goes id row }
      { t with crawls := t.crawls.filter fun id row => !goes id row } := by
    refine beside_deleteCrawls related fun id row other => ?_
    rw [Bool.not_eq_true', Bool.eq_false_iff]
    exact fun gone => other (eq_of_beq (own id row gone))
  exact ⟨congrArg Except.ok answer, fun _ _ => trivial, after⟩

/-- A call on a crawl of the organization. -/
theorem agrees_performOnCrawls (call : CrawlCall) (isFor : call.IsFor tenant (IsFree others)) :
    Agrees (Beside tenant others) Any (performOnCrawls call) := by
  cases call with
  | insert crawl => exact isFor.elim
  | get orgId id =>
    obtain rfl : orgId = tenant := isFor
    exact (agrees_loadCrawl (.inl rfl)).imp fun _ _ => trivial
  | setSignedUrl id filename url expiresAt =>
    refine (agrees_loadCrawl? (.inr ⟨rfl, isFor⟩)).bind fun found known => ?_
    cases found with
    | none => exact .pure trivial
    | some crawl =>
      rw [Option.bind_some]
      cases accepted : crawl.withSignedUrl? filename url expiresAt with
      | none => exact .pure trivial
      | some signed =>
        have same := Crawl.account_withSignedUrl? accepted
        exact (agrees_storeCrawl (known crawl rfl) same).bind fun _ _ => .pure trivial
  | addReplica id filename replica =>
    refine (agrees_loadCrawl (.inr ⟨rfl, isFor⟩)).bind fun crawl known => ?_
    refine .ite (fun _ => ?_) fun _ => .pure trivial
    exact agrees_storeCrawl known (crawl.account_withReplica filename replica)
  | updateMetadata orgId id type update =>
    obtain rfl : orgId = tenant := isFor
    refine (agrees_loadCrawl (.inl rfl)).bind fun crawl known => ?_
    refine .ite (fun _ => ?_) fun _ => .throw _
    exact agrees_storeCrawl known (crawl.account_withMetadata update)
  | markCanceled id finished =>
    refine (agrees_loadCrawl (.inr ⟨rfl, isFor⟩)).bind fun crawl known => ?_
    exact agrees_storeCrawl known (crawl.account_canceledAt finished)
  | addCollection orgId id collection =>
    obtain rfl : orgId = tenant := isFor
    refine (agrees_loadCrawl (.inl rfl)).bind fun crawl known => ?_
    refine (Agrees.lift fun _ joins => Crawl.account_joined joins).bind fun joined same => ?_
    exact agrees_storeCrawl known same
  | removeCollection orgId id collection =>
    obtain rfl : orgId = tenant := isFor
    refine (agrees_loadCrawl (.inl rfl)).bind fun crawl known => ?_
    refine .ite (fun _ => ?_) fun _ => .pure trivial
    exact agrees_storeCrawl known (crawl.account_left collection)
  | delete orgId ids type =>
    obtain rfl : orgId = tenant := isFor
    exact agrees_deleteCrawls ids type

end Calls

instance : TenantStore RelationalStore where
  onOrgs _ old mine := (agrees_perform old mine).atomically
  onCrawls call isFor := (agrees_performOnCrawls call isFor).atomically
  getCrawl _ := (agrees_loadCrawl (.inl rfl)).atomically
  lookUpOrg_without {tenant id} s other := by
    have kept : (id != tenant) = true := bne_iff_ne.2 other
    have row : (s.part (· != tenant)).orgs.get? id = s.orgs.get? id := get?_orgs_part kept
    have seconds : (s.part (· != tenant)).secondsOf id = s.secondsOf id := secondsOf_part kept
    have log : (s.part (· != tenant)).log id = s.log id := log_part kept
    exact lookUpOrg_congr row seconds log
  lookUpCrawl_without {tenant orgId} s id other := by
    have filtered : (without tenant s).crawls.get? id
        = (s.crawls.get? id).filter fun row => row.orgId != tenant := SortedMap.get?_filter _ _ _
    rw [lookUpCrawl_eq, lookUpCrawl_eq, filtered]
    cases s.crawls.get? id with
    | none => rfl
    | some row =>
      by_cases mine : row.orgId = tenant
      · simp only [Option.filter_some, mine, bne_self_eq_false, Bool.false_eq_true, if_false,
          answer, other]
      · rw [Option.filter_some, if_pos (bne_iff_ne.2 mine)]

/-! ## Relational stores that calls come to -/

/-- Numbers in the log stay below the next one. -/
theorem keptByRows_numbersBelow (orgId : String) : KeptByRows NumbersBelow orgId where
  put _ _ h := h
  addSeconds _ _ _ _ h := h
  append s row _ h := s.numbersBelow_append h row
  trim s count h := s.numbersBelow_trim orgId h count
  clear s h := s.numbersBelow_clear orgId h
  insertSeconds _ _ h := h

theorem numbersBelow_after {s : RelationalStore} (below : s.NumbersBelow) (call : StoreCall) :
    (call.after s).NumbersBelow := by
  cases call with
  | onOrgs call => exact (keptByRows_numbersBelow call.orgId).perform.atomically s below
  | onCrawls call =>
    have kept : Attempt.Preserves NumbersBelow (onCrawls call) :=
      preserves_onCrawls (fun _ _ _ _ h => h) (fun _ _ h => h) call
    exact kept s below

theorem Sound.after {s : RelationalStore} (h : Sound s) (call : StoreCall) :
    Sound (call.after s) where
  names := h.names.after call
  below := numbersBelow_after h.below call

/-- Every store that calls come to names its crawls and numbers its log. -/
theorem sound_afterCalls (calls : List StoreCall) : Sound (afterCalls calls {}) := by
  have each : ∀ {s : RelationalStore}, Sound s → Sound (afterCalls calls s) := by
    induction calls with
    | nil => exact id
    | cons call calls ih => exact fun h => ih (h.after call)
  exact each ⟨namesRows_empty, nofun⟩

end RelationalStore

end ArchiveAccounts
