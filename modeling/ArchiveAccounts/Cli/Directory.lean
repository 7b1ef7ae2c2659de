import ArchiveAccounts.Cli.Run

/-!
# Directories in memory

A directory of texts and stores that command lines can be carried out in, one after another.
-/

namespace ArchiveAccounts.Cli
set_option autoImplicit false

open Text Calendar

/-- Texts and stores by path, as the names that lead to each. -/
structure Directory where
  texts : List (List String × String) := []
  stores : List (List String × RelationalStore) := []

namespace Directory

/-- The names of a relative path. -/
def names (path : String) : List String :=
  ((splitAt '/' path.toList).map String.ofList).filter fun name => name != "" && name != "."

/-- All files. -/
def paths (d : Directory) : List (List String) := d.texts.map (·.1) ++ d.stores.map (·.1)

/-- Whether a path is one of a directory: of this one, or of one that holds a file. -/
def isDirectory (d : Directory) (path : List String) : Bool :=
  path.isEmpty || d.paths.any fun file => path.isPrefixOf file && path != file

/-- Whether a path leads through a file. -/
def leadsThroughFile (d : Directory) (path : List String) : Bool :=
  d.paths.any fun file => file.isPrefixOf path && path != file

/-- Reads a text. -/
def readText (d : Directory) (path : String) : FileText :=
  let file := names path
  match List.lookup file d.texts with
  | some contents => .text contents
  | none =>
    if (List.lookup file d.stores).isSome || d.isDirectory file || d.leadsThroughFile file then
      .unreadable
    else .missing

/-- Whether a store at a path lasts no longer than the run. -/
def isVolatile (path : String) : Bool := path == "" || path == ":memory:"

/-- The store at a path, or an empty one where a file can be made. An empty text is an empty
store. -/
def openStore (d : Directory) (path : String) : Option RelationalStore :=
  let file := names path
  if isVolatile path then some {}
  else if path.startsWith "/" || path.endsWith "/" || file.isEmpty then none
  else
    match List.lookup file d.stores, List.lookup file d.texts with
    | some store, _ => some store
    | none, some contents => if contents.isEmpty then some {} else none
    | none, none =>
      if d.isDirectory file.dropLast && !d.isDirectory file then some {} else none

/-- Keeps a store at a path. -/
def saveStore (d : Directory) (path : String) (store : RelationalStore) : Directory :=
  let file := names path
  if isVolatile path then d
  else
    { texts := d.texts.filter fun e => e.1 != file
      stores := (file, store) :: d.stores.filter fun e => e.1 != file }

/-- Access to the files of a directory. -/
def access : FileAccess (StateM Directory) where
  readText path := do return (← get).readText path
  openStore path := do return (← get).openStore path
  saveStore path store := modify fun d => d.saveStore path store

/-- Carries out command lines one after another. -/
def runAll (d : Directory) (environment : SortedMap String String) (now : Moment)
    (lines : List (List String)) : List Outcome :=
  ((lines.mapM (run access environment now)).run d).1

end Directory

end ArchiveAccounts.Cli
