import ArchiveAccounts.Datum

/-!
# Tables of a TOML document

A table comes from a header of its own, from the header of a table inside it, or from a dotted key.
No table is defined twice, and a dotted key adds only to tables that have no header.
-/

namespace ArchiveAccounts.Toml
set_option autoImplicit false

/-- A key: the names that lead to a table, and the name in that table. -/
structure Key where
  lead : List String
  last : String
  deriving DecidableEq, Repr

/-- All names of a key. -/
def Key.path (key : Key) : List String := key.lead ++ [key.last]

/-- What a table comes from. -/
inductive TableForm where
  /-- A header of its own. -/
  | header
  /-- The header of a table inside it. -/
  | implied
  /-- A dotted key. -/
  | dotted
  deriving DecidableEq, Repr

/-- What a name in a table stands for: a value, a table, or a list of tables of which the latest one
is open. -/
inductive Node where
  | value (data : Datum)
  | table (form : TableForm) (entries : List (String × Node))
  | tables (earlier : List Node) (latest : List (String × Node))

/-- The names of a table and what they stand for. -/
abbrev Entries := List (String × Node)

mutual

/-- The data of a node. -/
def Node.toDatum : Node → Datum
  | .value data => data
  | .table _ entries => .fields (entryData entries)
  | .tables earlier latest => .list (nodeData earlier ++ [.fields (entryData latest)])

/-- The data of entries. -/
def entryData : List (String × Node) → List (Option String × Datum)
  | [] => []
  | (name, node) :: rest => (some name, node.toDatum) :: entryData rest

/-- The data of nodes. -/
def nodeData : List Node → List Datum
  | [] => []
  | node :: rest => node.toDatum :: nodeData rest

end

namespace Entries

/-- Puts a node in the place of the one that a name stands for. -/
def replace (name : String) (node : Node) (entries : Entries) : Entries :=
  entries.map fun e => if e.1 = name then (name, node) else e

/-- Edits the table that a path leads to. Tables that are not there are made; a path of a dotted key
leads through no table with a header. -/
def within (dotted : Bool) (edit : TableForm → Entries → Option Entries) (form : TableForm)
    (entries : Entries) : List String → Option Entries
  | [] => edit form entries
  | name :: path =>
    match List.lookup name entries with
    | none =>
      let made := if dotted then .dotted else .implied
      (within dotted edit made [] path).map fun inner => entries ++ [(name, .table made inner)]
    | some (.value _) => none
    | some (.table form inner) =>
      if dotted && form == .header then none
      else (within dotted edit form inner path).map fun inner =>
        entries.replace name (.table form inner)
    | some (.tables earlier latest) =>
      (within dotted edit .header latest path).map fun latest =>
        entries.replace name (.tables earlier latest)

/-- Assigns a value to a key that has none yet. -/
def assign (key : Key) (data : Datum) (entries : Entries) : Option Entries :=
  let edit := fun form (inner : Entries) =>
    if (!key.lead.isEmpty && form != .dotted) || (List.lookup key.last inner).isSome then none
    else some (inner ++ [(key.last, .value data)])
  within true edit .header entries key.lead

/-- Opens a table by its header. -/
def openTable (key : Key) (root : Entries) : Option Entries :=
  let edit := fun _ (inner : Entries) =>
    match List.lookup key.last inner with
    | none => some (inner ++ [(key.last, .table .header [])])
    | some (.table .implied entries) => some (inner.replace key.last (.table .header entries))
    | some _ => none
  within false edit .header root key.lead

/-- Opens another table of a list of tables. -/
def openItem (key : Key) (root : Entries) : Option Entries :=
  let edit := fun _ (inner : Entries) =>
    match List.lookup key.last inner with
    | none => some (inner ++ [(key.last, .tables [] [])])
    | some (.tables earlier latest) =>
      some (inner.replace key.last (.tables (earlier ++ [.table .header latest]) []))
    | some _ => none
  within false edit .header root key.lead

/-- The data of an inline table. -/
def inline? (pairs : List (Key × Datum)) : Option Datum :=
  (pairs.foldlM (fun entries (pair : Key × Datum) => assign pair.1 pair.2 entries) []).map
    fun entries => .fields (entryData entries)

end Entries

/-- What a line of a document says. -/
inductive Line where
  | table (key : Key)
  | item (key : Key)
  | assign (key : Key) (data : Datum)

/-- The tables read so far, and the path of the open one. -/
structure Outline where
  root : Entries := []
  place : List String := []

namespace Outline

/-- Takes in another line. -/
def add (o : Outline) : Line → Option Outline
  | .table key => (Entries.openTable key o.root).map fun root => ⟨root, key.path⟩
  | .item key => (Entries.openItem key o.root).map fun root => ⟨root, key.path⟩
  | .assign key data =>
    (Entries.within false (fun _ inner => Entries.assign key data inner) .header o.root o.place).map
      fun root => ⟨root, o.place⟩

/-- The data of the lines of a document. -/
def data? (lines : List Line) : Option Datum :=
  (lines.foldlM add {}).map fun o => .fields (entryData o.root)

end Outline

end ArchiveAccounts.Toml
