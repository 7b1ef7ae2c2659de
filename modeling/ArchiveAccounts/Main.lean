import ArchiveAccounts.Cli.Run
import ArchiveAccounts.Store.Snapshot
import Std.Time.DateTime.Timestamp

/-!
# The program

Carries out a command line on the files of the system. A store is kept in its file as JSON.
-/

namespace ArchiveAccounts.Cli
set_option autoImplicit false

/-- Reads a text file. -/
def readText (path : String) : IO FileText := do
  try return .text (← IO.FS.readFile path)
  catch
    | .noFileOrDirectory .. => return .missing
    | _ => return .unreadable

/-- Reads a store, or makes an empty one. -/
def openStore (path : String) : IO (Option RelationalStore) := do
  if path = "" ∨ path = ":memory:" then return some {}
  match ← readText path with
  | .text "" => return some {}
  | .text contents => return (Json.parse? contents).bind RelationalStore.ofDatum?
  | .missing =>
    try
      IO.FS.writeFile path ""
      return some {}
    catch _ => return none
  | .unreadable => return none

/-- Writes a store. -/
def saveStore (path : String) (store : RelationalStore) : IO Unit := do
  if path ≠ "" ∧ path ≠ ":memory:" then IO.FS.writeFile path (Json.print store.toDatum)

/-- The files of the system. -/
def systemFiles : FileAccess IO := ⟨readText, openStore, saveStore⟩

/-- The variables that the program asks for. -/
def systemVariables : IO (SortedMap String String) := do
  match ← IO.getEnv Settings.linkVariable with
  | some value => return SortedMap.ofList [(Settings.linkVariable, value)]
  | none => return ∅

/-- The time of the system's clock. -/
def systemTime : IO Calendar.Moment := do
  return .ofSeconds (← Std.Time.Timestamp.now).toSecondsSinceUnixEpoch.val

end ArchiveAccounts.Cli

open ArchiveAccounts.Cli in
/-- Carries out a command line. -/
def main (args : List String) : IO UInt32 := do
  let outcome ← run systemFiles (← systemVariables) (← systemTime) args
  IO.print outcome.output
  return outcome.status.toUInt32
