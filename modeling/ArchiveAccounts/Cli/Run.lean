import ArchiveAccounts.Cli.Invocation
import ArchiveAccounts.Cli.LogFilter
import ArchiveAccounts.Config.Settings
import ArchiveAccounts.Crawl.Document
import ArchiveAccounts.Json.Printer
import ArchiveAccounts.Service.Accounting
import ArchiveAccounts.Store.Relational

/-!
# Running a command

A command line is carried out on a store in a file, with settings and variables from other files.
The exit status is 0, 1 where something failed, and 2 for a command line that asks for nothing. What
is printed is a document, or nothing.
-/

namespace ArchiveAccounts.Cli
set_option autoImplicit false

open Calendar

/-- What is found where a text is looked for. -/
inductive FileText where
  | text (contents : String)
  | missing
  /-- Something that is no text. -/
  | unreadable
  deriving DecidableEq, Repr

/-- How files are read and written. -/
structure FileAccess (m : Type → Type) where
  readText : String → m FileText
  /-- Opens the store in a file, or makes an empty one there; `none` if that cannot be done. -/
  openStore : String → m (Option RelationalStore)
  saveStore : String → RelationalStore → m Unit

/-- What a run ends with. -/
structure Outcome where
  status : Nat
  output : String
  deriving DecidableEq, Repr

/-- The settings file that is read where none is named. -/
def defaultConfig : String := "warc-ledger.toml"

/-- The database that is used where none is named. -/
def defaultDatabase : String := "warc-ledger.sqlite"

/-- How to call the program. -/
def usage : String :=
  "Usage: warc-ledger [OPTIONS] <COMMAND>\n\nCommands: "
    ++ Text.joinWith ", " (commands.map (·.1)) ++ "\n"

/-- The settings in a file. Without a name the default file is read, which may be missing. -/
def settingsOf (name : Option String) (found : FileText) : Option Settings :=
  match found with
  | .text contents => (Settings.parse contents).toOption
  | .missing => if name.isNone then some {} else none
  | .unreadable => none

/-- The variables in a dotenv file, which may be missing. -/
def dotenvOf : FileText → Option (SortedMap String String)
  | .text contents => some (Dotenv.parse contents)
  | .missing => some ∅
  | .unreadable => none

/-- A new organization; its pools hold the minutes granted. -/
def newOrganization (id name : String) (owner : Option String) (patch : QuotaPatch) :
    Organization :=
  let quotas := patch.applyTo .none
  let org := {
    id, name, quotas
    pools := ⟨Counter.times quotas.giftedExecMinutes 60, Counter.times quotas.extraExecMinutes 60⟩
    : Organization }
  match owner with
  | none => org
  | some owner => org.withOwner owner

/-- The settings in effect. -/
def effective (settings : Settings) (database : String) (linkSeconds : Counter) : Datum :=
  .record [("sqlitePath", .ofText database), ("presignDurationSeconds", .ofCounter linkSeconds),
    ("quotaUpdateRetention", .ofOption .ofCounter settings.quotaRetention),
    ("storage", .ofOption StorageSettings.toDatum settings.storage)]

/-- Carries out a command; answers the document to print, if there is one. -/
def perform {σ : Type} [AccountStore σ] (settings : Settings) (env : Environment)
    (database : String) : Command → Action σ (Option Datum)
  | .init => return none
  | .createOrg id name owner quotas => do
    let org := newOrganization id name owner quotas
    Action.onOrgs (.insert org)
    return org.toDatum?
  | .showOrg id => do return (← Action.getOrg id).toDatum?
  | .recordUsage id seconds isExecTime => do
    return some (← Action.recordUsage id seconds isExecTime).toDatum
  | .setQuotas id quotas => do
    let org ← Action.updateQuotas id quotas (settings.quotaRetention.map UInt64.toNat)
    return some org.quotas.toDatum
  | .showQuotas id => do return some (← Action.usageReport id).toDatum
  | .showConfig =>
    match settings.linkSeconds env with
    | .ok seconds => return some (effective settings database seconds)
    | .error _ => throw (.badRequest "invalid_settings")

section Run

variable {m : Type → Type} [Monad m]

/-- Carries out what a command line asks for; `none` if it fails. -/
def attempt (files : FileAccess m) (environment : SortedMap String String) (now : Moment)
    (invocation : Invocation) : OptionT m String := do
  let config ← files.readText (invocation.config.getD defaultConfig)
  let settings ← OptionT.mk (pure (settingsOf invocation.config config))
  let dotenv ← OptionT.mk (pure (dotenvOf (← files.readText invocation.envFile)))
  guard (settings.logging.filter.all LogFilter.isValid)
  let database := (invocation.database.or settings.databasePath).getD defaultDatabase
  let store ← OptionT.mk (files.openStore database)
  let world : World RelationalStore := { store, now }
  let env : Environment := { dotenv, process := environment }
  let (result, world) := (perform settings env database invocation.command).run world
  files.saveStore database world.store
  match result with
  | .ok none => return ""
  | .ok (some document) => return Json.printIndented document ++ "\n"
  | .error _ => failure

/-- Carries out a command line. -/
def run (files : FileAccess m) (environment : SortedMap String String) (now : Moment)
    (args : List String) : m Outcome := do
  match Invocation.parse args with
  | .error .usage => return ⟨2, ""⟩
  | .error .help => return ⟨0, usage⟩
  | .ok invocation =>
    match ← (attempt files environment now invocation).run with
    | some output => return ⟨0, output⟩
    | none => return ⟨1, ""⟩

end Run

end ArchiveAccounts.Cli
