import ArchiveAccounts.Data.Counter
import ArchiveAccounts.Data.SortedMap
import ArchiveAccounts.Data.SortedSet

/-!
# Data of documents

What a document holds before it is read as a value of the domain: numbers, texts, lists and named
fields. Readers answer `none` where the data is not of the form that they want. A record is written
as named fields, and read from named fields or from a list of the fields in their order.
-/

namespace ArchiveAccounts
set_option autoImplicit false

/-- The data of a document. A text is `none` if its escapes write half of a surrogate pair. -/
inductive Datum where
  | null
  | bool (value : Bool)
  | int (value : Int)
  /-- A number that is not written as an integer. -/
  | number (lexeme : String)
  | text (value : Option String)
  | list (items : List Datum)
  | fields (entries : List (Option String × Datum))
  deriving Inhabited

namespace Datum

/-- A text. -/
def ofText (s : String) : Datum := .text (some s)

/-- A counter as an integer. -/
def ofCounter (n : Counter) : Datum := .int n.toNat

/-- Named fields in the order given. -/
def record (entries : List (String × Datum)) : Datum :=
  .fields (entries.map fun e => (some e.1, e.2))

/-- The value, or null if there is none. -/
def ofOption {α : Type} (write : α → Datum) : Option α → Datum
  | none => .null
  | some a => write a

/-- A map as fields named by its keys. -/
def ofMap {α : Type} (write : α → Datum) (m : SortedMap String α) : Datum :=
  record (m.toList.map fun e => (e.1, write e.2))

/-- A text that is whole. -/
def asText : Datum → Option String
  | .text s => s
  | _ => none

/-- A truth value. -/
def asBool : Datum → Option Bool
  | .bool b => some b
  | _ => none

/-- An integer. -/
def asInt : Datum → Option Int
  | .int i => some i
  | _ => none

/-- An integer from 0 to 2^64-1. -/
def asCounter : Datum → Option Counter
  | .int i => if 0 ≤ i ∧ i.toNat < UInt64.size then some (UInt64.ofNat i.toNat) else none
  | _ => none

/-- An integer from 0 to 2^32-1. -/
def asWord : Datum → Option UInt32
  | .int i => if 0 ≤ i ∧ i.toNat < UInt32.size then some (UInt32.ofNat i.toNat) else none
  | _ => none

/-- Null, or a value that `read` accepts. -/
def asOption {α : Type} (read : Datum → Option α) : Datum → Option (Option α)
  | .null => some none
  | d => (read d).map some

/-- A list whose items `read` accepts. -/
def asList {α : Type} (read : Datum → Option α) : Datum → Option (List α)
  | .list items => items.mapM read
  | _ => none

/-- Fields as a map; of equal names the last one counts. -/
def asMap {α : Type} (read : Datum → Option α) : Datum → Option (SortedMap String α)
  | .fields entries =>
    (entries.mapM fun (e : Option String × Datum) => do some (← e.1, ← read e.2)).map
      SortedMap.ofList
  | _ => none

/-- One of a list of names: as a text, or as the only field, holding null. -/
def asName {α : Type} (names : List (String × α)) : Datum → Option α
  | .text s => s.bind fun s => List.lookup s names
  | .fields [(name, .null)] => name.bind fun s => List.lookup s names
  | _ => none

/-- The value of a field by its name. -/
def field? (d : Datum) (name : String) : Option Datum :=
  match d with
  | .fields entries => (entries.find? fun e => e.1 == some name).map (·.2)
  | _ => none

end Datum

/-- The fields found for a record, by name. -/
structure Record where
  entries : List (String × Datum)

namespace Record

/-- Whether no name of the list stands twice among the entries. -/
def namesOnce (names : List String) (entries : List (String × Datum)) : Bool :=
  names.all fun name => decide ((entries.filter fun e => e.1 == name).length ≤ 1)

/-- The fields with the given names: from named fields, of which unknown ones do not count and known
ones may not come twice, or from a list of the first fields in order. -/
def read? (names : List String) : Datum → Option Record
  | .fields entries => do
    let named ← entries.mapM fun (e : Option String × Datum) => e.1.map fun name => (name, e.2)
    if namesOnce names named then some ⟨named⟩ else none
  | .list items => if items.length ≤ names.length then some ⟨names.zip items⟩ else none
  | _ => none

/-- A field that must be there. -/
def required {α : Type} (r : Record) (name : String) (read : Datum → Option α) : Option α :=
  (List.lookup name r.entries).bind read

/-- A field with a value that stands for a missing one. -/
def optional {α : Type} (r : Record) (name : String) (missing : α) (read : Datum → Option α) :
    Option α :=
  match List.lookup name r.entries with
  | none => some missing
  | some d => read d

end Record

end ArchiveAccounts
