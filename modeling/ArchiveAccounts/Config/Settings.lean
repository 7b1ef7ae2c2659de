import ArchiveAccounts.Config.Environment
import ArchiveAccounts.Service.Answers
import ArchiveAccounts.Toml.Parser

/-!
# Settings

The settings file: how long links last, how much of the quota log is kept, where the database and
the objects are, and what is logged. Every setting may be left out, except the place and the bucket
of a storage that is given.
-/

namespace ArchiveAccounts
set_option autoImplicit false

/-- Where the objects are stored. -/
structure StorageSettings where
  endpoint : String
  bucket : String
  region : String := "us-east-1"
  keyPrefix : String := ""
  /-- The address that signed links show in place of the endpoint. -/
  accessEndpoint : Option String := none
  deriving DecidableEq, Repr

/-- What is logged, how, and where it goes. -/
structure LoggingSettings where
  json : Bool := false
  filter : Option String := none
  collector : Option String := none
  deriving DecidableEq, Repr

/-- The settings. -/
structure Settings where
  linkMinutes : Option Counter := none
  quotaRetention : Option Counter := none
  databasePath : Option String := none
  storage : Option StorageSettings := none
  logging : LoggingSettings := {}
  deriving DecidableEq, Repr

/-- The fields of a table with the given names, or the first items of a list. -/
def Record.readFront? (names : List String) : Datum → Option Record
  | .list items => some ⟨names.zip items⟩
  | d => Record.read? names d

namespace StorageSettings

/-- Reads the settings of a storage. -/
def ofDatum? (d : Datum) : Option StorageSettings := do
  let r ← Record.readFront?
    ["endpoint_url", "bucket", "region", "key_prefix", "access_endpoint_url"] d
  some {
    endpoint := ← r.required "endpoint_url" Datum.asText
    bucket := ← r.required "bucket" Datum.asText
    region := ← r.optional "region" "us-east-1" Datum.asText
    keyPrefix := ← r.optional "key_prefix" "" Datum.asText
    accessEndpoint := ← r.optional "access_endpoint_url" none (Datum.asOption Datum.asText) }

/-- The settings of a storage as named fields. -/
def toDatum (s : StorageSettings) : Datum :=
  .record [("endpoint_url", .ofText s.endpoint), ("bucket", .ofText s.bucket),
    ("region", .ofText s.region), ("key_prefix", .ofText s.keyPrefix),
    ("access_endpoint_url", .ofOption .ofText s.accessEndpoint)]

end StorageSettings

namespace LoggingSettings

/-- Reads the settings of logging. -/
def ofDatum? (d : Datum) : Option LoggingSettings := do
  let r ← Record.readFront? ["json", "filter", "otel_endpoint"] d
  some {
    json := ← r.optional "json" false Datum.asBool
    filter := ← r.optional "filter" none (Datum.asOption Datum.asText)
    collector := ← r.optional "otel_endpoint" none (Datum.asOption Datum.asText) }

/-- The settings of logging as named fields. -/
def toDatum (l : LoggingSettings) : Datum :=
  .record [("json", .bool l.json), ("filter", .ofOption .ofText l.filter),
    ("otel_endpoint", .ofOption .ofText l.collector)]

end LoggingSettings

namespace Settings

/-- Reads a table with one optional field. -/
def single {α : Type} (name : String) (read : Datum → Option α) (d : Datum) :
    Option (Option α) := do
  let r ← Record.readFront? [name] d
  r.optional name none (Datum.asOption read)

/-- Reads the settings from their tables. -/
def ofDatum? (d : Datum) : Option Settings := do
  let r ← Record.readFront? ["presign", "quota_updates", "sqlite", "storage", "logging"] d
  some {
    linkMinutes := ← r.optional "presign" none (single "duration_minutes" Datum.asCounter)
    quotaRetention := ← r.optional "quota_updates" none (single "retention" Datum.asCounter)
    databasePath := ← r.optional "sqlite" none (single "path" Datum.asText)
    storage := ← r.optional "storage" none (Datum.asOption StorageSettings.ofDatum?)
    logging := ← r.optional "logging" {} LoggingSettings.ofDatum? }

/-- The settings as tables; a storage that is not given is left out. -/
def toDatum (s : Settings) : Datum :=
  .record ([("presign", .record [("duration_minutes", .ofOption .ofCounter s.linkMinutes)]),
    ("quota_updates", .record [("retention", .ofOption .ofCounter s.quotaRetention)]),
    ("sqlite", .record [("path", .ofOption .ofText s.databasePath)])]
    ++ (s.storage.map fun storage => ("storage", storage.toDatum)).toList
    ++ [("logging", s.logging.toDatum)])

/-- The settings that a document writes. -/
def parse (document : String) : Except ConfigError Settings :=
  match (Toml.parse? document).bind ofDatum? with
  | some settings => .ok settings
  | none => .error .parse

/-- The variable that says how long links last, in minutes. -/
def linkVariable : String := "PRESIGN_DURATION_MINUTES"

/-- How many seconds links last: the environment goes before the settings. -/
def linkSeconds (s : Settings) (env : Environment) : Except ConfigError Counter := do
  let minutes ← env.counter? linkVariable
  return ArchiveAccounts.linkSeconds (minutes.or s.linkMinutes)

end Settings

end ArchiveAccounts
