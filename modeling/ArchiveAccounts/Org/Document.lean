import ArchiveAccounts.Calendar.Rfc3339
import ArchiveAccounts.Datum
import ArchiveAccounts.Org.Limits

/-!
# Organizations as documents

How organizations, quotas and their changes are written as records and read back. A document with a
moment that has no text cannot be written.
-/

namespace ArchiveAccounts
set_option autoImplicit false

open Calendar

/-- A moment as its text. -/
def Calendar.Moment.toDatum? (m : Moment) : Option Datum := (Rfc3339.print? m).map .ofText

/-- A moment from its text. -/
def Datum.asMoment (d : Datum) : Option Moment := d.asText.bind Rfc3339.parse?

namespace QuotaName

/-- The name of a quota in documents. -/
def key : QuotaName → String
  | storageBytes => "storageQuota"
  | monthlyExecMinutes => "maxExecMinutesPerMonth"
  | concurrentCrawls => "maxConcurrentCrawls"
  | pagesPerCrawl => "maxPagesPerCrawl"
  | extraExecMinutes => "extraExecMinutes"
  | giftedExecMinutes => "giftedExecMinutes"

/-- All quotas, in the order of documents. -/
def all : List QuotaName :=
  [storageBytes, monthlyExecMinutes, concurrentCrawls, pagesPerCrawl, extraExecMinutes,
    giftedExecMinutes]

end QuotaName

/-- Reads one value for each quota; `missing` stands for one that is not there. -/
def PerQuota.ofDatum? {α : Type} (missing : α) (read : Datum → Option α) (d : Datum) :
    Option (PerQuota α) := do
  let r ← Record.read? (QuotaName.all.map QuotaName.key) d
  let field := fun name : QuotaName => r.optional name.key missing read
  some {
    storageBytes := ← field .storageBytes
    monthlyExecMinutes := ← field .monthlyExecMinutes
    concurrentCrawls := ← field .concurrentCrawls
    pagesPerCrawl := ← field .pagesPerCrawl
    extraExecMinutes := ← field .extraExecMinutes
    giftedExecMinutes := ← field .giftedExecMinutes }

namespace Quotas

/-- All quotas. -/
def toDatum (q : Quotas) : Datum :=
  .record (QuotaName.all.map fun name => (name.key, .ofCounter (q.get name)))

/-- Quotas; one that is missing is no limit. -/
def ofDatum? : Datum → Option Quotas := PerQuota.ofDatum? 0 Datum.asCounter

end Quotas

namespace QuotaPatch

/-- The quotas that the patch names. -/
def toDatum (p : QuotaPatch) : Datum :=
  .record (QuotaName.all.filterMap fun name =>
    (p.get name).map fun value => (name.key, .ofCounter value))

/-- A patch; null is the same as a missing field. -/
def ofDatum? : Datum → Option QuotaPatch := PerQuota.ofDatum? none (Datum.asOption Datum.asCounter)

end QuotaPatch

namespace QuotaChange

/-- The patch and its time. -/
def toDatum? (c : QuotaChange) : Option Datum := do
  some (.record [("update", c.patch.toDatum), ("modified", ← c.modified.toDatum?)])

/-- A patch and its time. -/
def ofDatum? (d : Datum) : Option QuotaChange := do
  let r ← Record.read? ["update", "modified"] d
  some {
    patch := ← r.required "update" QuotaPatch.ofDatum?
    modified := ← r.required "modified" Datum.asMoment }

end QuotaChange

namespace Organization

/-- The fields of an organization, in order. -/
def keys : List String :=
  ["id", "name", "users", "quotas", "bytesStored", "bytesStoredCrawls", "bytesStoredUploads",
    "bytesStoredProfiles", "usage", "crawlExecSeconds", "monthlyExecSeconds", "giftedExecSeconds",
    "extraExecSeconds", "extraExecSecondsAvailable", "giftedExecSecondsAvailable", "quotaUpdates"]

/-- The whole organization. -/
def toDatum? (org : Organization) : Option Datum := do
  let changes ← org.quotaChanges.mapM QuotaChange.toDatum?
  let periods := Datum.ofMap Datum.ofCounter
  some <| .record <| keys.zip [
    .ofText org.id,
    .ofText org.name,
    .ofMap (fun role => .ofText role.name) org.users,
    org.quotas.toDatum,
    .ofCounter org.bytes.total,
    .ofCounter org.bytes.crawls,
    .ofCounter org.bytes.uploads,
    .ofCounter org.bytes.profiles,
    periods org.seconds.usage,
    periods org.seconds.crawlExec,
    periods org.seconds.monthly,
    periods org.seconds.gifted,
    periods org.seconds.extra,
    .ofCounter org.pools.extra,
    .ofCounter org.pools.gifted,
    .list changes]

/-- An organization; every field that is missing is empty or zero. -/
def ofDatum? (d : Datum) : Option Organization := do
  let r ← Record.read? keys d
  let counter := fun name => r.optional name 0 Datum.asCounter
  let periods := fun name => r.optional name ∅ (Datum.asMap Datum.asCounter)
  some {
    id := ← r.optional "id" "" Datum.asText
    name := ← r.optional "name" "" Datum.asText
    users := ← r.optional "users" ∅ (Datum.asMap (Datum.asName Role.names))
    quotas := ← r.optional "quotas" .none Quotas.ofDatum?
    bytes := {
      total := ← counter "bytesStored"
      crawls := ← counter "bytesStoredCrawls"
      uploads := ← counter "bytesStoredUploads"
      profiles := ← counter "bytesStoredProfiles" }
    seconds := {
      usage := ← periods "usage"
      crawlExec := ← periods "crawlExecSeconds"
      monthly := ← periods "monthlyExecSeconds"
      gifted := ← periods "giftedExecSeconds"
      extra := ← periods "extraExecSeconds" }
    pools := {
      extra := ← counter "extraExecSecondsAvailable"
      gifted := ← counter "giftedExecSecondsAvailable" }
    quotaChanges := ← r.optional "quotaUpdates" [] (Datum.asList QuotaChange.ofDatum?) }

end Organization

namespace UsageReport

/-- The fields of a report, in order. -/
def keys : List String :=
  ["orgId", "period", "bytesStored", "bytesStoredCrawls", "bytesStoredUploads",
    "bytesStoredProfiles", "storageQuota", "monthlyExecSeconds", "giftedExecSeconds",
    "extraExecSeconds", "maxExecMinutesPerMonth", "giftedExecSecondsAvailable",
    "extraExecSecondsAvailable", "storageQuotaReached", "execMinutesQuotaReached"]

/-- The whole report. -/
def toDatum (u : UsageReport) : Datum :=
  .record <| keys.zip [
    .ofText u.orgId,
    .ofText u.period,
    .ofCounter u.bytes.total,
    .ofCounter u.bytes.crawls,
    .ofCounter u.bytes.uploads,
    .ofCounter u.bytes.profiles,
    .ofCounter u.storageQuota,
    .ofCounter u.monthlyExecSeconds,
    .ofCounter u.giftedExecSeconds,
    .ofCounter u.extraExecSeconds,
    .ofCounter u.monthlyExecMinutes,
    .ofCounter u.pools.gifted,
    .ofCounter u.pools.extra,
    .bool u.storageQuotaReached,
    .bool u.execQuotaReached]

/-- A report; no field may be missing. -/
def ofDatum? (d : Datum) : Option UsageReport := do
  let r ← Record.read? keys d
  let counter := fun name => r.required name Datum.asCounter
  some {
    orgId := ← r.required "orgId" Datum.asText
    period := ← r.required "period" Datum.asText
    bytes := {
      total := ← counter "bytesStored"
      crawls := ← counter "bytesStoredCrawls"
      uploads := ← counter "bytesStoredUploads"
      profiles := ← counter "bytesStoredProfiles" }
    storageQuota := ← counter "storageQuota"
    monthlyExecSeconds := ← counter "monthlyExecSeconds"
    giftedExecSeconds := ← counter "giftedExecSeconds"
    extraExecSeconds := ← counter "extraExecSeconds"
    monthlyExecMinutes := ← counter "maxExecMinutesPerMonth"
    pools := {
      gifted := ← counter "giftedExecSecondsAvailable"
      extra := ← counter "extraExecSecondsAvailable" }
    storageQuotaReached := ← r.required "storageQuotaReached" Datum.asBool
    execQuotaReached := ← r.required "execMinutesQuotaReached" Datum.asBool }

end UsageReport

end ArchiveAccounts
