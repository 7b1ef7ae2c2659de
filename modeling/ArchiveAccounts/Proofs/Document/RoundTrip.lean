import ArchiveAccounts.Crawl.Document
import ArchiveAccounts.Data.Traverse
import ArchiveAccounts.Proofs.Calendar.RoundTrip
import ArchiveAccounts.Proofs.Json.RoundTrip

/-!
# Written documents read back

Values that are written as documents read back as they were, and what is written is whole data, so
its JSON text reads back as well. Main statements: `Quotas.ofDatum?_toDatum`,
`QuotaPatch.ofDatum?_toDatum` and `Crawl.roundTrips`.
-/

namespace ArchiveAccounts
set_option autoImplicit false

open Calendar

/-! ## Readers and writers of data -/

namespace Datum

/-- Whether data that is written for a value is whole and reads as that value. -/
def RoundTrips {α : Type} (write : α → Option Datum) (read : Datum → Option α) : Prop :=
  ∀ a d, write a = some d → d.isWhole = true ∧ read d = some a

theorem RoundTrips.mapM {α : Type} {write : α → Option Datum} {read : Datum → Option α}
    (h : RoundTrips write read) {items : List α} {data : List Datum}
    (written : items.mapM write = some data) :
    data.all isWhole = true ∧ data.mapM read = some items := by
  induction items generalizing data with
  | nil =>
    rw [Traverse.nil_iff.1 written]
    exact ⟨rfl, rfl⟩
  | cons a items ih =>
    obtain ⟨d, rest, first, others, rfl⟩ := Traverse.cons_iff.1 written
    obtain ⟨whole, reads⟩ := h a d first
    obtain ⟨allWhole, allRead⟩ := ih others
    rw [List.all_cons, whole, allWhole]
    exact ⟨rfl, Traverse.cons_iff.2 ⟨a, items, reads, allRead, rfl⟩⟩

@[simp] theorem asText_ofText (s : String) : (ofText s).asText = some s := rfl

@[simp] theorem asCounter_ofCounter (n : Counter) : (ofCounter n).asCounter = some n := by
  have small : n.toNat < UInt64.size := n.toNat_lt
  simp [ofCounter, asCounter, small]

@[simp] theorem asWord_int (n : UInt32) : (int n.toNat).asWord = some n := by
  have small : n.toNat < UInt32.size := n.toNat_lt
  simp [asWord, small]

theorem asOption_of_read {α : Type} {read : Datum → Option α} {d : Datum} {a : α}
    (notNull : d ≠ .null) (reads : read d = some a) : d.asOption read = some (some a) := by
  rw [asOption, reads]
  · rfl
  · exact notNull

@[simp] theorem asOption_ofOption_ofText (s : Option String) :
    (ofOption ofText s).asOption asText = some s := by
  cases s <;> rfl

@[simp] theorem isWhole_ofOption_ofText (s : Option String) :
    (ofOption ofText s).isWhole = true := by
  cases s <;> rfl

theorem mapM_map {α : Type} {write : α → Datum} {read : Datum → Option α}
    (reads : ∀ a, read (write a) = some a) (items : List α) :
    (items.map write).mapM read = some items := by
  induction items with
  | nil => rfl
  | cons a items ih =>
    rw [List.map_cons, List.mapM_cons, reads, ih]
    rfl

/-- A map is read back. -/
theorem asMap_ofMap {α : Type} {write : α → Datum} {read : Datum → Option α}
    (reads : ∀ a, read (write a) = some a) (m : SortedMap String α) :
    (ofMap write m).asMap read = some m := by
  have entries : ∀ l : List (String × α),
      (l.map fun e => (some e.1, write e.2)).mapM (fun (e : Option String × Datum) => do
        some (← e.1, ← read e.2)) = some l := by
    intro l
    induction l with
    | nil => rfl
    | cons e l ih =>
      rw [List.map_cons, List.mapM_cons, ih]
      simp [reads]
  rw [ofMap, record, List.map_map, asMap]
  simp only [Function.comp_def]
  rw [entries, Option.map_some, SortedMap.ofList_toList]

end Datum

namespace Record

theorem namesOnce_of_nodup {entries : List (String × Datum)} (names : List String)
    (h : (entries.map Prod.fst).Nodup) : namesOnce names entries = true := by
  rw [namesOnce, List.all_eq_true]
  intro name _
  rw [decide_eq_true_eq]
  have once := List.nodup_iff_count.1 h name
  rw [List.count_eq_length_filter, List.filter_map, List.length_map] at once
  exact once

/-- A record whose fields have different names is read as it is. -/
theorem read?_record {entries : List (String × Datum)} (names : List String)
    (h : (entries.map Prod.fst).Nodup) : read? names (.record entries) = some ⟨entries⟩ := by
  have named : ∀ l : List (String × Datum), (l.map fun e => (some e.1, e.2)).mapM
      (fun (e : Option String × Datum) => e.1.map fun name => (name, e.2)) = some l := by
    intro l
    induction l with
    | nil => rfl
    | cons e l ih =>
      rw [List.map_cons, List.mapM_cons, ih]
      rfl
  rw [Datum.record, read?, named]
  simp [namesOnce_of_nodup names h]

end Record

/-! ## Quotas -/

theorem QuotaName.eq_of_key_eq {a b : QuotaName} (h : a.key = b.key) : a = b := by
  revert h
  cases a <;> cases b <;> decide

theorem QuotaName.mem_all (name : QuotaName) : name ∈ QuotaName.all := by
  cases name <;> decide

/-- The quotas for which there is something to write, each under its key. -/
def PerQuota.fields (f : QuotaName → Option Datum) (names : List QuotaName) :
    List (String × Datum) :=
  names.filterMap fun name => (f name).map fun value => (name.key, value)

theorem PerQuota.lookup_fields (f : QuotaName → Option Datum) (names : List QuotaName)
    (name : QuotaName) :
    List.lookup name.key (fields f names) = if name ∈ names then f name else none := by
  induction names with
  | nil => rfl
  | cons m names ih =>
    rw [fields, List.filterMap_cons, ← fields]
    by_cases same : name = m
    · subst same
      cases h : f name with
      | none => simp [h, ih]
      | some d => simp
    · have other : (name.key == m.key) = false := by
        rw [beq_eq_false_iff_ne]
        exact fun h => same (QuotaName.eq_of_key_eq h)
      cases h : f m with
      | none => simp [ih, same]
      | some d => simp [ih, same, List.lookup_cons, other]

theorem PerQuota.nodup_fields (f : QuotaName → Option Datum) :
    ((fields f QuotaName.all).map Prod.fst).Nodup := by
  have keys : QuotaName.all.Pairwise fun a b => a.key ≠ b.key := by decide
  rw [List.Nodup, List.pairwise_map]
  refine keys.filterMap _ ?_
  intro a b different e ha e' hb
  obtain ⟨_, _, rfl⟩ := Option.map_eq_some_iff.1 ha
  obtain ⟨_, _, rfl⟩ := Option.map_eq_some_iff.1 hb
  exact different

theorem PerQuota.ofDatum?_fields {α : Type} {f : QuotaName → Option Datum} {missing : α}
    {read : Datum → Option α} (q : PerQuota α)
    (reads : ∀ name, (match f name with
      | none => some missing
      | some d => read d) = some (q.get name)) :
    ofDatum? missing read (.record (fields f QuotaName.all)) = some q := by
  have field : ∀ name : QuotaName,
      Record.optional ⟨fields f QuotaName.all⟩ name.key missing read = some (q.get name) := by
    intro name
    rw [Record.optional, lookup_fields, if_pos name.mem_all]
    exact reads name
  rw [ofDatum?, Record.read?_record _ (nodup_fields f)]
  simp only [Option.bind_eq_bind, Option.bind_some, field]
  rfl

@[simp] theorem Quotas.isWhole_toDatum (q : Quotas) : q.toDatum.isWhole = true := by
  simp [toDatum]

theorem Quotas.ofDatum?_toDatum (q : Quotas) : ofDatum? q.toDatum = some q := by
  have written : q.toDatum
      = .record (PerQuota.fields (fun name => some (.ofCounter (q.get name))) QuotaName.all) := rfl
  rw [written]
  exact PerQuota.ofDatum?_fields q fun name => Datum.asCounter_ofCounter _

@[simp] theorem QuotaPatch.isWhole_toDatum (p : QuotaPatch) : p.toDatum.isWhole = true := by
  simp only [toDatum, Datum.isWhole_record, List.all_eq_true, List.mem_filterMap]
  rintro e ⟨name, _, h⟩
  obtain ⟨n, _, rfl⟩ := Option.map_eq_some_iff.1 h
  rfl

theorem QuotaPatch.ofDatum?_toDatum (p : QuotaPatch) : ofDatum? p.toDatum = some p := by
  have written : p.toDatum
      = .record (PerQuota.fields (fun name => (p.get name).map .ofCounter) QuotaName.all) := by
    simp only [toDatum, PerQuota.fields, Option.map_map, Function.comp_def]
  rw [written]
  apply PerQuota.ofDatum?_fields
  intro name
  cases p.get name with
  | none => rfl
  | some n => exact Datum.asOption_of_read nofun (Datum.asCounter_ofCounter n)

/-! ## Crawls -/

theorem Calendar.Moment.roundTrips : Datum.RoundTrips Moment.toDatum? Datum.asMoment := by
  intro m d written
  obtain ⟨text, printed, same⟩ := Option.map_eq_some_iff.1 written
  rw [← same]
  exact ⟨rfl, Rfc3339.parse?_of_print? printed⟩

theorem Datum.roundTrips_ofMoment? :
    RoundTrips Datum.ofMoment? (Datum.asOption Datum.asMoment) := by
  intro m d written
  cases m with
  | none =>
    injection written with written
    rw [← written]
    exact ⟨rfl, rfl⟩
  | some m =>
    obtain ⟨whole, reads⟩ := Moment.roundTrips m d written
    refine ⟨whole, asOption_of_read ?_ reads⟩
    intro null
    rw [null] at reads
    exact nomatch reads

theorem Replica.ofDatum?_toDatum (r : Replica) : ofDatum? r.toDatum = some r := by
  rw [toDatum, ofDatum?, Record.read?_record _ (by simp)]
  simp [Record.required, Record.optional, List.lookup_cons, Datum.asBool]

theorem CrawlFile.roundTrips : Datum.RoundTrips CrawlFile.toDatum? CrawlFile.ofDatum? := by
  intro f d written
  obtain ⟨expiry, expires, written⟩ := Option.bind_eq_some_iff.1 written
  injection written with written
  obtain ⟨whole, reads⟩ := Datum.roundTrips_ofMoment? _ _ expires
  rw [← written]
  constructor
  · simp [keys, whole, Replica.toDatum]
  · rw [ofDatum?, Record.read?_record _ (by simp [keys])]
    simp [keys, Record.required, Record.optional, List.lookup_cons, reads, Datum.asList,
      Datum.mapM_map Replica.ofDatum?_toDatum]

theorem CrawlType.ofDatum?_name (type : CrawlType) : ofDatum? (.ofText type.name) = some type := by
  cases type <;> rfl

theorem CrawlState.ofDatum?_name (state : CrawlState) :
    ofDatum? (.ofText state.name) = some state := by
  cases state <;> rfl

theorem Role.ofDatum?_name (role : Role) : ofDatum? (.ofText role.name) = some role := by
  cases role <;> rfl

theorem Crawl.roundTrips : Datum.RoundTrips Crawl.toDatum? Crawl.ofDatum? := by
  intro c d written
  obtain ⟨files, filesWritten, written⟩ := Option.bind_eq_some_iff.1 written
  obtain ⟨started, startWritten, written⟩ := Option.bind_eq_some_iff.1 written
  obtain ⟨finished, finishWritten, written⟩ := Option.bind_eq_some_iff.1 written
  injection written with written
  obtain ⟨filesWhole, filesRead⟩ := CrawlFile.roundTrips.mapM filesWritten
  obtain ⟨startWhole, startReads⟩ := Datum.roundTrips_ofMoment? _ _ startWritten
  obtain ⟨finishWhole, finishReads⟩ := Datum.roundTrips_ofMoment? _ _ finishWritten
  rw [← written]
  constructor
  · simp [keys, filesWhole, startWhole, finishWhole]
  · -- The fields are read one after the other, each under its key.
    have text := Datum.asOption_ofOption_ofText
    have tags := Datum.mapM_map Datum.asText_ofText c.tags
    have collections : (Datum.list (c.collections.toList.map .ofText)).asTextSet
        = some c.collections := by
      rw [Datum.asTextSet, Datum.asList, Datum.mapM_map Datum.asText_ofText, Option.map_some,
        SortedSet.ofList_toList]
    rw [ofDatum?, Record.read?_record _ (by simp [keys]), Option.bind_eq_bind, Option.bind_some]
    refine Option.bind_eq_some_iff.2 ⟨c.id, rfl, ?_⟩
    refine Option.bind_eq_some_iff.2 ⟨c.orgId, rfl, ?_⟩
    refine Option.bind_eq_some_iff.2 ⟨c.configId, text c.configId, ?_⟩
    refine Option.bind_eq_some_iff.2 ⟨c.userId, text c.userId, ?_⟩
    refine Option.bind_eq_some_iff.2 ⟨c.type, CrawlType.ofDatum?_name c.type, ?_⟩
    refine Option.bind_eq_some_iff.2 ⟨c.state, CrawlState.ofDatum?_name c.state, ?_⟩
    refine Option.bind_eq_some_iff.2 ⟨c.name, text c.name, ?_⟩
    refine Option.bind_eq_some_iff.2 ⟨c.description, text c.description, ?_⟩
    refine Option.bind_eq_some_iff.2 ⟨c.tags, tags, ?_⟩
    refine Option.bind_eq_some_iff.2 ⟨c.files, filesRead, ?_⟩
    refine Option.bind_eq_some_iff.2 ⟨c.collections, collections, ?_⟩
    refine Option.bind_eq_some_iff.2 ⟨c.started, startReads, ?_⟩
    exact Option.bind_eq_some_iff.2 ⟨c.finished, finishReads, rfl⟩

theorem Calendar.Moment.isSome_toDatum? (m : Moment) :
    m.toDatum?.isSome = Rfc3339.isPrintable m := by
  rw [toDatum?, Option.isSome_map, Rfc3339.print?]
  split
  · next printable => rw [printable]; rfl
  · next unprintable => rw [Bool.not_eq_true] at unprintable; rw [unprintable]; rfl

theorem Datum.isSome_ofMoment? (m : Option Moment) :
    (ofMoment? m).isSome = m.all Rfc3339.isPrintable := by
  cases m with
  | none => rfl
  | some m => exact m.isSome_toDatum?

theorem CrawlFile.isSome_toDatum? (f : CrawlFile) : f.toDatum?.isSome = f.isPrintable := by
  rw [isPrintable, ← Datum.isSome_ofMoment?, toDatum?]
  cases Datum.ofMoment? f.expiresAt <;> rfl

/-- A crawl has a document if all its moments have a text. -/
theorem Crawl.isSome_toDatum? (c : Crawl) : c.toDatum?.isSome = c.isPrintable := by
  rw [isPrintable, ← Datum.isSome_ofMoment?, ← Datum.isSome_ofMoment?,
    ← Traverse.isSome_eq_all CrawlFile.isSome_toDatum?, toDatum?]
  cases c.files.mapM CrawlFile.toDatum? <;> cases Datum.ofMoment? c.started
    <;> cases Datum.ofMoment? c.finished <;> rfl

end ArchiveAccounts
