import ArchiveAccounts.Org.Document
import ArchiveAccounts.Service.Answers

/-!
# Crawls, answers and messages as documents

How crawls, their files and what services answer and send are written as records and read back.
-/

namespace ArchiveAccounts
set_option autoImplicit false

open Calendar

/-- A moment, or null. -/
def Datum.ofMoment? : Option Moment → Option Datum
  | none => some .null
  | some m => m.toDatum?

/-- A set as a list in order. -/
def Datum.asTextSet (d : Datum) : Option (SortedSet String) :=
  (d.asList Datum.asText).map SortedSet.ofList

/-- The type of a crawl by its name. -/
def CrawlType.ofDatum? : Datum → Option CrawlType := Datum.asName CrawlType.names

/-- The kind of stored bytes by its name. -/
def StorageKind.ofDatum? : Datum → Option StorageKind := Datum.asName StorageKind.names

/-- The state of a crawl by its name. -/
def CrawlState.ofDatum? : Datum → Option CrawlState := Datum.asName CrawlState.names

/-- The role of a user by its name. -/
def Role.ofDatum? : Datum → Option Role := Datum.asName Role.names

namespace Replica

/-- The storage and whether it is a custom one. -/
def toDatum (r : Replica) : Datum := .record [("name", .ofText r.name), ("custom", .bool r.custom)]

/-- A replica; it is no custom one unless it says so. -/
def ofDatum? (d : Datum) : Option Replica := do
  let r ← Record.read? ["name", "custom"] d
  some {
    name := ← r.required "name" Datum.asText
    custom := ← r.optional "custom" false Datum.asBool }

end Replica

namespace CrawlFile

/-- The fields of a file, in order. -/
def keys : List String :=
  ["filename", "hash", "crc32", "size", "replicas", "presignedUrl", "expireAt"]

/-- The whole file. -/
def toDatum? (f : CrawlFile) : Option Datum := do
  some <| .record <| keys.zip [
    .ofText f.filename,
    .ofText f.hash,
    .int f.crc32.toNat,
    .ofCounter f.size,
    .list (f.replicas.toList.map Replica.toDatum),
    .ofOption .ofText f.signedUrl,
    ← Datum.ofMoment? f.expiresAt]

/-- A file; only its name may not be missing. -/
def ofDatum? (d : Datum) : Option CrawlFile := do
  let r ← Record.read? keys d
  some {
    filename := ← r.required "filename" Datum.asText
    hash := ← r.optional "hash" "" Datum.asText
    crc32 := ← r.optional "crc32" 0 Datum.asWord
    size := ← r.optional "size" 0 Datum.asCounter
    replicas := SortedSet.ofList (← r.optional "replicas" [] (Datum.asList Replica.ofDatum?))
    signedUrl := ← r.optional "presignedUrl" none (Datum.asOption Datum.asText)
    expiresAt := ← r.optional "expireAt" none (Datum.asOption Datum.asMoment) }

end CrawlFile

namespace Crawl

/-- The fields of a crawl, in order. -/
def keys : List String :=
  ["id", "oid", "cid", "userid", "type", "state", "name", "description", "tags", "files",
    "collectionIds", "started", "finished"]

/-- The whole crawl. -/
def toDatum? (c : Crawl) : Option Datum := do
  let text := Datum.ofOption Datum.ofText
  let files ← c.files.mapM CrawlFile.toDatum?
  some <| .record <| keys.zip [
    .ofText c.id,
    .ofText c.orgId,
    text c.configId,
    text c.userId,
    .ofText c.type.name,
    .ofText c.state.name,
    text c.name,
    text c.description,
    .list (c.tags.map .ofText),
    .list files,
    .list (c.collections.toList.map .ofText),
    ← Datum.ofMoment? c.started,
    ← Datum.ofMoment? c.finished]

/-- A crawl; its ids, its type and its state may not be missing. -/
def ofDatum? (d : Datum) : Option Crawl := do
  let r ← Record.read? keys d
  let text := fun name => r.optional name none (Datum.asOption Datum.asText)
  let moment := fun name => r.optional name none (Datum.asOption Datum.asMoment)
  some {
    id := ← r.required "id" Datum.asText
    orgId := ← r.required "oid" Datum.asText
    configId := ← text "cid"
    userId := ← text "userid"
    type := ← r.required "type" CrawlType.ofDatum?
    state := ← r.required "state" CrawlState.ofDatum?
    name := ← text "name"
    description := ← text "description"
    tags := ← r.optional "tags" [] (Datum.asList Datum.asText)
    files := ← r.optional "files" [] (Datum.asList CrawlFile.ofDatum?)
    collections := ← r.optional "collectionIds" ∅ Datum.asTextSet
    started := ← moment "started"
    finished := ← moment "finished" }

end Crawl

namespace CrawlUpdate

/-- All fields; null where the update gives no value. -/
def toDatum (u : CrawlUpdate) : Datum :=
  let texts := Datum.ofOption fun items : List String => .list (items.map .ofText)
  .record [("name", .ofOption .ofText u.name), ("description", .ofOption .ofText u.description),
    ("tags", texts u.tags), ("collectionIds", texts u.collections)]

/-- An update; every field may be missing. -/
def ofDatum? (d : Datum) : Option CrawlUpdate := do
  let r ← Record.read? ["name", "description", "tags", "collectionIds"] d
  let text := fun name => r.optional name none (Datum.asOption Datum.asText)
  let texts := fun name => r.optional name none (Datum.asOption (Datum.asList Datum.asText))
  some {
    name := ← text "name"
    description := ← text "description"
    tags := ← texts "tags"
    collections := ← texts "collectionIds" }

end CrawlUpdate

namespace FileDescriptor

/-- The whole descriptor. -/
def toDatum (f : FileDescriptor) : Datum :=
  .record [("name", .ofText f.name), ("path", .ofText f.path), ("hash", .ofText f.hash),
    ("crc32", .int f.crc32.toNat), ("size", .ofCounter f.size), ("crawlId", .ofText f.crawlId),
    ("numReplicas", .ofCounter f.replicaCount), ("expireAt", .ofText f.expiresAt)]

/-- A descriptor; no field may be missing. -/
def ofDatum? (d : Datum) : Option FileDescriptor := do
  let r ← Record.read?
    ["name", "path", "hash", "crc32", "size", "crawlId", "numReplicas", "expireAt"] d
  some {
    name := ← r.required "name" Datum.asText
    path := ← r.required "path" Datum.asText
    hash := ← r.required "hash" Datum.asText
    crc32 := ← r.required "crc32" Datum.asWord
    size := ← r.required "size" Datum.asCounter
    crawlId := ← r.required "crawlId" Datum.asText
    replicaCount := ← r.required "numReplicas" Datum.asCounter
    expiresAt := ← r.required "expireAt" Datum.asText }

end FileDescriptor

namespace Allocation

/-- The whole allocation. -/
def toDatum (a : Allocation) : Datum :=
  .record [("period", .ofText a.period), ("duration", .ofCounter a.duration),
    ("monthly", .ofCounter a.monthly), ("gifted", .ofCounter a.gifted),
    ("extra", .ofCounter a.extra), ("uncredited", .ofCounter a.uncredited)]

/-- An allocation; no field may be missing. -/
def ofDatum? (d : Datum) : Option Allocation := do
  let r ← Record.read? ["period", "duration", "monthly", "gifted", "extra", "uncredited"] d
  let counter := fun name => r.required name Datum.asCounter
  some {
    period := ← r.required "period" Datum.asText
    duration := ← counter "duration"
    monthly := ← counter "monthly"
    gifted := ← counter "gifted"
    extra := ← counter "extra"
    uncredited := ← counter "uncredited" }

end Allocation

namespace MembershipChange

/-- Both lists. -/
def toDatum (m : MembershipChange) : Datum :=
  .record [("added", .list (m.added.map .ofText)), ("removed", .list (m.removed.map .ofText))]

/-- A change; neither list may be missing. -/
def ofDatum? (d : Datum) : Option MembershipChange := do
  let r ← Record.read? ["added", "removed"] d
  some {
    added := ← r.required "added" (Datum.asList Datum.asText)
    removed := ← r.required "removed" (Datum.asList Datum.asText) }

end MembershipChange

namespace DeletionOutcome

/-- The whole outcome. -/
def toDatum (o : DeletionOutcome) : Datum :=
  .record [("deleted", .ofCounter o.deleted), ("storageQuotaReached", .bool o.storageQuotaReached)]

/-- An outcome; no field may be missing. -/
def ofDatum? (d : Datum) : Option DeletionOutcome := do
  let r ← Record.read? ["deleted", "storageQuotaReached"] d
  some {
    deleted := ← r.required "deleted" Datum.asCounter
    storageQuotaReached := ← r.required "storageQuotaReached" Datum.asBool }

end DeletionOutcome

namespace StopAnswer

/-- The answer; without an error, that field is left out. -/
def toDatum (s : StopAnswer) : Datum :=
  .record (("success", .bool s.success) :: (s.error.map fun e => ("error", .ofText e)).toList)

/-- An answer; the error may be missing. -/
def ofDatum? (d : Datum) : Option StopAnswer := do
  let r ← Record.read? ["success", "error"] d
  some {
    success := ← r.required "success" Datum.asBool
    error := ← r.optional "error" none (Datum.asOption Datum.asText) }

end StopAnswer

namespace ReplicaJob

/-- The whole job. -/
def toDatum? (j : ReplicaJob) : Option Datum := do
  some (.record [("orgId", .ofText j.orgId), ("crawlId", .ofText j.crawlId),
    ("crawlType", .ofText j.crawlType.name), ("file", ← j.file.toDatum?)])

/-- A job; no field may be missing. -/
def ofDatum? (d : Datum) : Option ReplicaJob := do
  let r ← Record.read? ["orgId", "crawlId", "crawlType", "file"] d
  some {
    orgId := ← r.required "orgId" Datum.asText
    crawlId := ← r.required "crawlId" Datum.asText
    crawlType := ← r.required "crawlType" CrawlType.ofDatum?
    file := ← r.required "file" CrawlFile.ofDatum? }

end ReplicaJob

namespace DeletionNotice

/-- The whole notice. -/
def toDatum (n : DeletionNotice) : Datum :=
  .record [("orgId", .ofText n.orgId), ("crawlId", .ofText n.crawlId),
    ("crawlType", .ofText n.crawlType.name)]

/-- A notice; no field may be missing. -/
def ofDatum? (d : Datum) : Option DeletionNotice := do
  let r ← Record.read? ["orgId", "crawlId", "crawlType"] d
  some {
    orgId := ← r.required "orgId" Datum.asText
    crawlId := ← r.required "crawlId" Datum.asText
    crawlType := ← r.required "crawlType" CrawlType.ofDatum? }

end DeletionNotice

end ArchiveAccounts
