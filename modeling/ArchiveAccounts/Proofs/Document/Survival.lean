import ArchiveAccounts.Proofs.Calendar.Printable
import ArchiveAccounts.Proofs.Document.RoundTrip

/-!
# Documents survive their JSON text

A document that can be written reads back as it was, and whatever was read from a text can be
written, because every moment that a text writes has a text. Main statement: `documents_surviveText`.
-/

namespace ArchiveAccounts
set_option autoImplicit false

open Calendar

/-! ## What readers accept -/

namespace Datum

variable {α : Type} {p : α → Bool} {read : Datum → Option α}

/-- Whether everything that a reader accepts satisfies `p`. -/
def Yields (p : α → Bool) (read : Datum → Option α) : Prop := ∀ d a, read d = some a → p a = true

theorem Yields.asOption (h : Yields p read) : Yields (Option.all p) (asOption read) := by
  intro d o accepted
  rw [Datum.asOption.eq_def] at accepted
  split at accepted
  · obtain rfl := Option.some.inj accepted
    rfl
  · obtain ⟨a, reads, rfl⟩ := Option.map_eq_some_iff.1 accepted
    exact h _ a reads

theorem Yields.asList (h : Yields p read) : Yields (List.all · p) (asList read) := by
  intro d items accepted
  rw [Datum.asList.eq_def] at accepted
  split at accepted
  · refine List.all_eq_true.2 fun a mem => ?_
    obtain ⟨item, _, reads⟩ := Traverse.exists_of_mem accepted mem
    exact h item a reads
  · cases accepted

theorem Yields.optional (h : Yields p read) {missing : α} (ofMissing : p missing = true)
    {r : Record} {name : String} {a : α} (accepted : r.optional name missing read = some a) :
    p a = true := by
  rw [Record.optional] at accepted
  split at accepted
  · obtain rfl := Option.some.inj accepted
    exact ofMissing
  · exact h _ a accepted

theorem Yields.required (h : Yields p read) {r : Record} {name : String} {a : α}
    (accepted : r.required name read = some a) : p a = true := by
  obtain ⟨d, _, reads⟩ := Option.bind_eq_some_iff.1 accepted
  exact h d a reads

/-- What is made of what was read before has a property if it has it whatever was read. -/
theorem of_bind {β : Type} {P : α → Prop} {x : Option β} {f : β → Option α}
    (later : ∀ b, x = some b → ∀ a, f b = some a → P a) : ∀ a, (x >>= f) = some a → P a := by
  intro a made
  obtain ⟨b, before, made⟩ := Option.bind_eq_some_iff.1 made
  exact later b before a made

theorem yields_asMoment : Yields Rfc3339.isPrintable asMoment := by
  intro d m accepted
  obtain ⟨text, _, reads⟩ := Option.bind_eq_some_iff.1 accepted
  exact Rfc3339.isPrintable_of_parse? reads

end Datum

open Datum (of_bind)

/-! ## Organizations -/

namespace QuotaChange

/-- Whether the time of a change can be written. -/
def isPrintable (c : QuotaChange) : Bool := Rfc3339.isPrintable c.modified

theorem roundTrips : Datum.RoundTrips toDatum? ofDatum? := by
  intro c d written
  obtain ⟨modified, timeWritten, written⟩ := Option.bind_eq_some_iff.1 written
  obtain rfl := Option.some.inj written
  obtain ⟨whole, reads⟩ := Moment.roundTrips _ _ timeWritten
  constructor
  · simp [whole, QuotaPatch.isWhole_toDatum]
  · rw [ofDatum?, Record.read?_record _ (by simp)]
    simp [Record.required, List.lookup_cons, QuotaPatch.ofDatum?_toDatum, reads]

theorem isSome_toDatum? (c : QuotaChange) : c.toDatum?.isSome = c.isPrintable := by
  rw [isPrintable, ← Moment.isSome_toDatum?, toDatum?]
  cases c.modified.toDatum? <;> rfl

theorem yields_ofDatum? : Datum.Yields isPrintable ofDatum? := by
  intro d c accepted
  obtain ⟨r, _, accepted⟩ := Option.bind_eq_some_iff.1 accepted
  obtain ⟨patch, _, accepted⟩ := Option.bind_eq_some_iff.1 accepted
  obtain ⟨modified, timeRead, accepted⟩ := Option.bind_eq_some_iff.1 accepted
  obtain rfl := Option.some.inj accepted
  exact Datum.yields_asMoment.required timeRead

end QuotaChange

namespace Organization

/-- Whether the times of all changes of quotas can be written. -/
def isPrintable (org : Organization) : Bool := org.quotaChanges.all QuotaChange.isPrintable

theorem roundTrips : Datum.RoundTrips toDatum? ofDatum? := by
  intro org d written
  obtain ⟨changes, changesWritten, written⟩ := Option.bind_eq_some_iff.1 written
  obtain rfl := Option.some.inj written
  obtain ⟨changesWhole, changesRead⟩ := QuotaChange.roundTrips.mapM changesWritten
  constructor
  · simp [keys, Datum.ofMap, Quotas.isWhole_toDatum, changesWhole]
  · -- The fields are read one after the other, each under its key.
    have counter := Datum.asCounter_ofCounter
    have periods := Datum.asMap_ofMap Datum.asCounter_ofCounter
    have users := Datum.asMap_ofMap Role.ofDatum?_name org.users
    have quotas := Quotas.ofDatum?_toDatum org.quotas
    rw [ofDatum?, Record.read?_record _ (by simp [keys]), Option.bind_eq_bind, Option.bind_some]
    refine Option.bind_eq_some_iff.2 ⟨org.id, rfl, ?_⟩
    refine Option.bind_eq_some_iff.2 ⟨org.name, rfl, ?_⟩
    refine Option.bind_eq_some_iff.2 ⟨org.users, users, ?_⟩
    refine Option.bind_eq_some_iff.2 ⟨org.quotas, quotas, ?_⟩
    refine Option.bind_eq_some_iff.2 ⟨org.bytes.total, counter org.bytes.total, ?_⟩
    refine Option.bind_eq_some_iff.2 ⟨org.bytes.crawls, counter org.bytes.crawls, ?_⟩
    refine Option.bind_eq_some_iff.2 ⟨org.bytes.uploads, counter org.bytes.uploads, ?_⟩
    refine Option.bind_eq_some_iff.2 ⟨org.bytes.profiles, counter org.bytes.profiles, ?_⟩
    refine Option.bind_eq_some_iff.2 ⟨org.seconds.usage, periods org.seconds.usage, ?_⟩
    refine Option.bind_eq_some_iff.2 ⟨org.seconds.crawlExec, periods org.seconds.crawlExec, ?_⟩
    refine Option.bind_eq_some_iff.2 ⟨org.seconds.monthly, periods org.seconds.monthly, ?_⟩
    refine Option.bind_eq_some_iff.2 ⟨org.seconds.gifted, periods org.seconds.gifted, ?_⟩
    refine Option.bind_eq_some_iff.2 ⟨org.seconds.extra, periods org.seconds.extra, ?_⟩
    refine Option.bind_eq_some_iff.2 ⟨org.pools.extra, counter org.pools.extra, ?_⟩
    refine Option.bind_eq_some_iff.2 ⟨org.pools.gifted, counter org.pools.gifted, ?_⟩
    exact Option.bind_eq_some_iff.2 ⟨org.quotaChanges, changesRead, rfl⟩

theorem isSome_toDatum? (org : Organization) : org.toDatum?.isSome = org.isPrintable := by
  rw [isPrintable, ← Traverse.isSome_eq_all QuotaChange.isSome_toDatum?, toDatum?]
  cases org.quotaChanges.mapM QuotaChange.toDatum? <;> rfl

theorem yields_ofDatum? : Datum.Yields isPrintable ofDatum? := by
  intro d
  unfold ofDatum?
  refine of_bind fun r _ => of_bind fun id _ => of_bind fun name _ => of_bind fun users _ => ?_
  refine of_bind fun quotas _ => of_bind fun total _ => of_bind fun crawls _ => ?_
  refine of_bind fun uploads _ => of_bind fun profiles _ => of_bind fun usage _ => ?_
  refine of_bind fun crawlExec _ => of_bind fun monthly _ => of_bind fun gifted _ => ?_
  refine of_bind fun extra _ => of_bind fun extraPool _ => of_bind fun giftedPool _ => ?_
  refine of_bind fun changes changesRead => ?_
  rintro _ ⟨⟩
  exact QuotaChange.yields_ofDatum?.asList.optional rfl changesRead

end Organization

/-! ## Crawls and updates -/

theorem CrawlFile.yields_ofDatum? : Datum.Yields isPrintable ofDatum? := by
  intro d
  unfold ofDatum?
  refine of_bind fun r _ => of_bind fun filename _ => of_bind fun hash _ => of_bind fun crc32 _ => ?_
  refine of_bind fun size _ => of_bind fun replicas _ => of_bind fun signedUrl _ => ?_
  refine of_bind fun expiresAt endRead => ?_
  rintro _ ⟨⟩
  exact Datum.yields_asMoment.asOption.optional rfl endRead

theorem Crawl.yields_ofDatum? : Datum.Yields isPrintable ofDatum? := by
  intro d
  unfold ofDatum?
  refine of_bind fun r _ => of_bind fun id _ => of_bind fun orgId _ => of_bind fun configId _ => ?_
  refine of_bind fun userId _ => of_bind fun type _ => of_bind fun state _ => ?_
  refine of_bind fun name _ => of_bind fun description _ => of_bind fun tags _ => ?_
  refine of_bind fun files filesRead => of_bind fun collections _ => ?_
  refine of_bind fun started startRead => of_bind fun finished finishRead => ?_
  rintro _ ⟨⟩
  rw [isPrintable, Bool.and_eq_true, Bool.and_eq_true]
  refine ⟨⟨?_, ?_⟩, ?_⟩
  · exact CrawlFile.yields_ofDatum?.asList.optional rfl filesRead
  · exact Datum.yields_asMoment.asOption.optional rfl startRead
  · exact Datum.yields_asMoment.asOption.optional rfl finishRead

namespace CrawlUpdate

theorem asOption_ofOption_texts (items : Option (List String)) :
    (Datum.ofOption (fun items : List String => .list (items.map .ofText)) items).asOption
      (Datum.asList Datum.asText) = some items := by
  cases items with
  | none => rfl
  | some items =>
    exact Datum.asOption_of_read nofun (Datum.mapM_map Datum.asText_ofText items)

theorem isWhole_toDatum (u : CrawlUpdate) : u.toDatum.isWhole = true := by
  have texts : ∀ items : Option (List String), (Datum.ofOption
      (fun items : List String => .list (items.map .ofText)) items).isWhole = true := by
    intro items
    cases items <;> simp [Datum.ofOption, Datum.isWhole]
  simp [toDatum, texts]

theorem ofDatum?_toDatum (u : CrawlUpdate) : ofDatum? u.toDatum = some u := by
  rw [toDatum, ofDatum?, Record.read?_record _ (by simp)]
  simp [Record.optional, List.lookup_cons, asOption_ofOption_texts]

end CrawlUpdate

/-! ## Texts -/

/-- Whether values that can be written read back from their JSON texts, and so do all values that
any texts are read as. -/
structure SurvivesText {α : Type} (canWrite : α → Bool) (write : α → Option Datum)
    (read : Datum → Option α) : Prop where
  written : ∀ a, canWrite a = true →
    ∃ d, write a = some d ∧ (Json.parse? (Json.print d)).bind read = some a
  rewritten : ∀ text a, (Json.parse? text).bind read = some a →
    ∃ d, write a = some d ∧ (Json.parse? (Json.print d)).bind read = some a

theorem Datum.RoundTrips.survivesText {α : Type} {canWrite : α → Bool} {write : α → Option Datum}
    {read : Datum → Option α} (roundTrips : RoundTrips write read)
    (isSome : ∀ a, (write a).isSome = canWrite a) (yields : Yields canWrite read) :
    SurvivesText canWrite write read := by
  have written : ∀ a, canWrite a = true →
      ∃ d, write a = some d ∧ (Json.parse? (Json.print d)).bind read = some a := by
    intro a can
    obtain ⟨d, writes⟩ := Option.isSome_iff_exists.1 ((isSome a).trans can)
    obtain ⟨whole, reads⟩ := roundTrips a d writes
    refine ⟨d, writes, ?_⟩
    rw [Json.parse?_print whole]
    exact reads
  refine ⟨written, fun text a accepted => ?_⟩
  obtain ⟨d, _, reads⟩ := Option.bind_eq_some_iff.1 accepted
  exact written a (yields d a reads)

/-- What can always be written. -/
theorem survivesText_of_total {α : Type} {write : α → Datum} {read : Datum → Option α}
    (whole : ∀ a, (write a).isWhole = true) (reads : ∀ a, read (write a) = some a) :
    SurvivesText (fun _ => true) (fun a => some (write a)) read := by
  apply Datum.RoundTrips.survivesText
  · rintro a _ ⟨⟩
    exact ⟨whole a, reads a⟩
  · exact fun _ => rfl
  · exact fun _ _ _ => rfl

/-- Organizations, crawls, updates of crawls and patches of quotas survive their JSON texts, if all
times in them can be written. What is read from any text survives, since its times can. -/
theorem documents_surviveText :
    SurvivesText Organization.isPrintable Organization.toDatum? Organization.ofDatum?
      ∧ SurvivesText Crawl.isPrintable Crawl.toDatum? Crawl.ofDatum?
      ∧ SurvivesText (fun _ => true) (fun u => some (CrawlUpdate.toDatum u)) CrawlUpdate.ofDatum?
      ∧ SurvivesText (fun _ => true) (fun p => some (QuotaPatch.toDatum p))
          QuotaPatch.ofDatum? := by
  refine ⟨?_, ?_, ?_, ?_⟩
  · exact Organization.roundTrips.survivesText Organization.isSome_toDatum?
      Organization.yields_ofDatum?
  · exact Crawl.roundTrips.survivesText Crawl.isSome_toDatum? Crawl.yields_ofDatum?
  · exact survivesText_of_total CrawlUpdate.isWhole_toDatum CrawlUpdate.ofDatum?_toDatum
  · exact survivesText_of_total QuotaPatch.isWhole_toDatum QuotaPatch.ofDatum?_toDatum

/-- An organization whose quotas changed in the last second that can be written, on a clock almost a
day behind UTC. -/
def changedLate : Organization :=
  { id := "o\n\"1\""
    users := SortedMap.insert ∅ "é" .owner
    quotaChanges := [⟨{ QuotaPatch.empty with storageBytes := some 0xFFFFFFFFFFFFFFFF },
      { seconds := 253402387139, nanos := 1, offset := -86340 }⟩] }

/-- A crawl as a list of its first fields, which started in a leap second. -/
def leapSecondCrawl : String :=
  "[\"c\",\"o\",null,null,\"crawl\",\"complete\",null,null,[],[],[],\"2016-12-31T23:59:60Z\"]"

/-- The last second is written and read back with its offset, and so is a leap second, which is read
as the end of the second before it. -/
theorem documents_surviveText_lateAndLeap :
    (changedLate.isPrintable = true ∧ ∃ d, changedLate.toDatum? = some d ∧
        (Json.parse? (Json.print d)).bind Organization.ofDatum? = some changedLate)
      ∧ ∃ c d, (Json.parse? leapSecondCrawl).bind Crawl.ofDatum? = some c ∧
        c.started = some { seconds := 1483228799, nanos := 999999999 } ∧
        c.toDatum? = some d ∧ (Json.parse? (Json.print d)).bind Crawl.ofDatum? = some c := by
  obtain ⟨orgs, crawls, _⟩ := documents_surviveText
  have printable : changedLate.isPrintable = true := by decide +kernel
  refine ⟨⟨printable, orgs.written changedLate printable⟩, ?_⟩
  have started : ((Json.parse? leapSecondCrawl).bind Crawl.ofDatum?).map Crawl.started
      = some (some { seconds := 1483228799, nanos := 999999999 }) := by
    decide +kernel
  obtain ⟨c, reads, started⟩ := Option.map_eq_some_iff.1 started
  obtain ⟨d, writes, again⟩ := crawls.rewritten leapSecondCrawl c reads
  exact ⟨c, d, reads, started, writes, again⟩

end ArchiveAccounts
