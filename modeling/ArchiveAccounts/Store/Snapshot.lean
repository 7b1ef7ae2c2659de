import ArchiveAccounts.Store.Relational

/-!
# Relational stores as documents

A store as a record of its tables, to be kept in a file.
-/

namespace ArchiveAccounts
set_option autoImplicit false

namespace Cell

/-- A number, or a double as a list of one number. -/
def toDatum : Cell → Datum
  | integer value => .int value
  | real value => .list [.int value]

/-- Reads a cell. -/
def ofDatum? : Datum → Option Cell
  | .int value => some (integer value)
  | .list [.int value] => some (real value)
  | _ => none

end Cell

namespace OrgRow

/-- The columns of a row. -/
def toDatum (row : OrgRow) : Datum :=
  .list ([row.name, row.users, row.quotas].map .ofText ++ ([row.bytes.total, row.bytes.crawls,
    row.bytes.uploads, row.bytes.profiles, row.pools.gifted, row.pools.extra].map Cell.toDatum))

/-- Reads a row. -/
def ofDatum? : Datum → Option OrgRow
  | .list (name :: users :: quotas :: cells) => do
    let [total, crawls, uploads, profiles, gifted, extra] ← cells.mapM Cell.ofDatum? | none
    some {
      name := ← name.asText
      users := ← users.asText
      quotas := ← quotas.asText
      bytes := ⟨total, crawls, uploads, profiles⟩
      pools := ⟨gifted, extra⟩ }
  | _ => none

end OrgRow

/-- Reads the key and the cell of a row of seconds. -/
def SecondsKey.ofRow? : Datum → Option (SecondsKey × Cell)
  | .list [orgId, counter, period, cell] => do
    some (⟨← orgId.asText, ← counter.asText, ← period.asText⟩, ← Cell.ofDatum? cell)
  | _ => none

/-- Reads the number and the columns of a row of the log. -/
def ChangeRow.ofRow? : Datum → Option (Nat × ChangeRow)
  | .list [.int number, orgId, modified, patch] => do
    some (number.toNat, ⟨← orgId.asText, ← modified.asText, ← patch.asText⟩)
  | _ => none

/-- Reads the columns of a row of crawls. -/
def CrawlRow.ofDatum? : Datum → Option CrawlRow
  | .list [orgId, type, document] => do
    some ⟨← orgId.asText, ← type.asText, ← document.asText⟩
  | _ => none

namespace RelationalStore

/-- The store as a record. -/
def toDatum (s : RelationalStore) : Datum :=
  .record [
    ("orgs", .ofMap OrgRow.toDatum s.orgs),
    ("seconds", .list (s.seconds.toList.map fun (key, cell) =>
      .list ([key.orgId, key.counter, key.period].map .ofText ++ [cell.toDatum]))),
    ("changes", .list (s.changes.toList.map fun (number, row) =>
      .list (.int number :: [row.orgId, row.modified, row.patch].map .ofText))),
    ("nextNumber", .int s.nextNumber),
    ("crawls", .ofMap (fun row => .list ([row.orgId, row.type, row.document].map .ofText))
      s.crawls)]

/-- Reads a store. -/
def ofDatum? (d : Datum) : Option RelationalStore := do
  let r ← Record.read? ["orgs", "seconds", "changes", "nextNumber", "crawls"] d
  some {
    orgs := ← r.required "orgs" (Datum.asMap OrgRow.ofDatum?)
    seconds := .ofList (← r.required "seconds" (Datum.asList SecondsKey.ofRow?))
    changes := .ofList (← r.required "changes" (Datum.asList ChangeRow.ofRow?))
    nextNumber := (← r.required "nextNumber" Datum.asInt).toNat
    crawls := ← r.required "crawls" (Datum.asMap CrawlRow.ofDatum?) }

end RelationalStore

end ArchiveAccounts
