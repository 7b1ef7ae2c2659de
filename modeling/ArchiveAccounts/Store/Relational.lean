import ArchiveAccounts.Crawl.Document
import ArchiveAccounts.Json.Parser
import ArchiveAccounts.Json.Printer
import ArchiveAccounts.Store.Cell
import ArchiveAccounts.Store.CrawlTable

/-!
# A relational store

Four tables: organizations with their numeric cells, seconds by month, the log of quota changes, and
crawls. Users, quotas, patches and crawls are columns of JSON text. A cell that holds a double and a
text that holds no document cannot be read, and a document with a moment that has no text cannot be
written. A call that fails changes nothing.
-/

namespace ArchiveAccounts
set_option autoImplicit false

open Calendar

/-- A row of the table of organizations, which has the id as its key. -/
structure OrgRow where
  name : String
  users : String
  quotas : String
  bytes : ByteTotals Cell
  pools : PerPool Cell
  deriving DecidableEq

/-- The key of a row of the table of seconds. -/
structure SecondsKey where
  orgId : String
  counter : String
  period : String
  deriving DecidableEq, Repr

/-- A row of the log of quota changes, which has a running number as its key. -/
structure ChangeRow where
  orgId : String
  modified : String
  patch : String
  deriving DecidableEq

/-- A row of the table of crawls, which has the id as its key. -/
structure CrawlRow where
  orgId : String
  type : String
  document : String
  deriving DecidableEq

namespace SecondsKey

instance : Ord SecondsKey :=
  ⟨compareLex (compareOn orgId) (compareLex (compareOn counter) (compareOn period))⟩

instance : Std.TransOrd SecondsKey :=
  inferInstanceAs (Std.TransCmp
    (compareLex (compareOn orgId) (compareLex (compareOn counter) (compareOn period))))

instance : Std.LawfulEqOrd SecondsKey where
  eq_of_compare {a b} h := by
    have h : (compare a.orgId b.orgId).then
        ((compare a.counter b.counter).then (compare a.period b.period)) = .eq := h
    simp only [Ordering.then_eq_eq, Std.compare_eq_iff_eq] at h
    obtain ⟨⟩ := a
    obtain ⟨⟩ := b
    simp_all

end SecondsKey

/-- The users of an organization as a document. -/
def usersDatum (users : SortedMap String Role) : Datum :=
  .ofMap (fun role => .ofText role.name) users

namespace OrgRow

/-- The row of an organization. -/
def ofOrganization (org : Organization) : OrgRow where
  name := org.name
  users := Json.print (usersDatum org.users)
  quotas := Json.print org.quotas.toDatum
  bytes := org.bytes.map Cell.ofCounter
  pools := org.pools.map Cell.ofCounter

/-- Takes seconds out of the cell of a pool. -/
def takeSeconds (row : OrgRow) (pool : Pool) (seconds : Counter) : OrgRow :=
  { row with pools := row.pools.set pool ((row.pools.get pool).plus (-seconds.toSigned)) }

/-- Moves the cells of the total and of one kind, neither below zero. -/
def shiftBytes (row : OrgRow) (delta : Int) (kind : StorageKind) : OrgRow :=
  { row with bytes := row.bytes.change kind fun cell => (cell.plus delta).floored }

/-- Takes over the quotas and the pools of an organization. -/
def withQuotasOf (row : OrgRow) (org : Organization) : OrgRow :=
  { row with
    quotas := Json.print org.quotas.toDatum
    pools := org.pools.map Cell.ofCounter }

end OrgRow

namespace ChangeRow

/-- The row of a quota change, if its moment has a text. -/
def ofChange? (orgId : String) (change : QuotaChange) : Option ChangeRow :=
  (Rfc3339.print? change.modified).map fun modified =>
    { orgId, modified, patch := Json.print change.patch.toDatum }

/-- The quota change that a row holds. -/
def change? (row : ChangeRow) : Option QuotaChange := do
  some {
    patch := ← (Json.parse? row.patch).bind QuotaPatch.ofDatum?
    modified := ← Rfc3339.parse? row.modified }

end ChangeRow

namespace CrawlRow

/-- The row of a crawl, if its moments have texts. -/
def ofCrawl? (crawl : Crawl) : Option CrawlRow :=
  crawl.toDatum?.map fun d =>
    { orgId := crawl.orgId, type := crawl.type.name, document := Json.print d }

/-- The crawl that a row holds. -/
def crawl? (row : CrawlRow) : Option Crawl := (Json.parse? row.document).bind Crawl.ofDatum?

end CrawlRow

/-- The tables by key, and the number of the next row of the log. -/
structure RelationalStore where
  orgs : SortedMap String OrgRow := ∅
  seconds : SortedMap SecondsKey Cell := ∅
  changes : SortedMap Nat ChangeRow := ∅
  nextNumber : Nat := 1
  crawls : SortedMap String CrawlRow := ∅
  deriving DecidableEq

namespace RelationalStore

/-- The most ids that one deletion may name. -/
def maxDeletedIds : Nat := 32764

/-- Writes the cells of all months of a counter. -/
def insertPeriods (orgId : String) (counter : TimeCounter) (periods : Periods)
    (rows : SortedMap SecondsKey Cell) : SortedMap SecondsKey Cell :=
  periods.toList.foldl (fun rows (period, n) =>
    rows.insert ⟨orgId, counter.name, period⟩ (.ofCounter n)) rows

/-- Takes over what a row of the table of seconds says; a counter of another name does not count. -/
def readCell (seconds : Seconds) (row : SecondsKey × Cell) : Option Seconds := do
  let n ← row.2.counter?
  some (match TimeCounter.ofName? row.1.counter with
    | some counter => seconds.put counter row.1.period n
    | none => seconds)

section Rows

variable (s : RelationalStore) (orgId : String)

/-- The seconds of an organization, row by row. -/
def secondsOf : List (SecondsKey × Cell) := s.seconds.toList.filter fun e => e.1.orgId == orgId

/-- The log of an organization, the earliest change first. -/
def log : List (Nat × ChangeRow) := s.changes.toList.filter fun e => e.2.orgId == orgId

/-- Deletes the seconds and the log of an organization. -/
def clear : RelationalStore :=
  { s with
    seconds := s.seconds.filter fun key _ => key.orgId != orgId
    changes := s.changes.filter fun _ row => row.orgId != orgId }

/-- Adds to the cell of one month, which is made if there is none. -/
def addSeconds (counter : TimeCounter) (period : String) (seconds : Counter) : RelationalStore :=
  let key := ⟨orgId, counter.name, period⟩
  { s with
    seconds := s.seconds.insert key ((s.seconds.getD key (.integer 0)).plus seconds.toSigned) }

/-- Writes the cells of all months of an organization. -/
def insertSeconds (seconds : Seconds) : RelationalStore :=
  { s with seconds := TimeCounter.all.foldl (fun rows counter =>
      insertPeriods orgId counter (seconds.get counter) rows) s.seconds }

/-- Adds a row to the log. -/
def append (row : ChangeRow) : RelationalStore :=
  { s with changes := s.changes.insert s.nextNumber row, nextNumber := s.nextNumber + 1 }

/-- Deletes all but the newest rows in the log of an organization. -/
def trim (count : Nat) : RelationalStore :=
  let newest := ((s.log orgId).reverse.take count).map (·.1)
  { s with changes := s.changes.filter fun number row =>
      row.orgId != orgId || newest.contains number }

/-- The seconds in rows. -/
def readSeconds (rows : List (SecondsKey × Cell)) : Option Seconds :=
  rows.foldlM readCell Seconds.none

/-- The organization that a row and the rows of other tables hold. -/
def organization? (row : OrgRow) : Option Organization := do
  some {
    id := orgId
    name := row.name
    users := ← (Json.parse? row.users).bind (Datum.asMap Role.ofDatum?)
    quotas := ← (Json.parse? row.quotas).bind Quotas.ofDatum?
    bytes := {
      total := ← row.bytes.total.counter?
      crawls := ← row.bytes.crawls.counter?
      uploads := ← row.bytes.uploads.counter?
      profiles := ← row.bytes.profiles.counter? }
    pools := {
      gifted := ← row.pools.gifted.counter?
      extra := ← row.pools.extra.counter? }
    seconds := ← readSeconds (s.secondsOf orgId)
    quotaChanges := ← (s.log orgId).mapM fun e => e.2.change? }

end Rows

/-- A value that can be read or written; without it the call fails. -/
def need {α : Type} : Option α → Attempt RelationalStore α
  | some a => return a
  | none => throw .store

/-- The row of an organization. -/
def find (id : String) : Attempt RelationalStore OrgRow := do
  match (← get).orgs.get? id with
  | some row => return row
  | none => throw .orgNotFound

/-- Puts the row of an organization under its id. -/
def put (id : String) (row : OrgRow) : Attempt RelationalStore Unit :=
  modify fun s => { s with orgs := s.orgs.insert id row }

theorem run_find (s : RelationalStore) (id : String) :
    (find id).run s = (match s.orgs.get? id with
      | some row => .ok row
      | none => .error .orgNotFound, s) := by
  simp only [find, Attempt.run_bind, Attempt.run_get]
  cases s.orgs.get? id <;> rfl

theorem run_put (s : RelationalStore) (id : String) (row : OrgRow) :
    (put id row).run s = (.ok (), { s with orgs := s.orgs.insert id row }) :=
  rfl

theorem run_need {α : Type} (s : RelationalStore) (a : α) : (need (some a)).run s = (.ok a, s) :=
  rfl

/-- The organization of an id. -/
def load (id : String) : Attempt RelationalStore Organization := do
  let row ← find id
  need ((← get).organization? id row)

/-- The steps of a call on the organizations. -/
def perform : (call : OrgCall) → Attempt RelationalStore call.Reply
  | .insert org => do
    let rows ← need (org.quotaChanges.mapM (ChangeRow.ofChange? org.id))
    put org.id (.ofOrganization org)
    modify fun s => rows.foldl append ((s.clear org.id).insertSeconds org.id org.seconds)
  | .get id => load id
  | .countSeconds id counter period seconds => do
    let _ ← find id
    modify fun s => s.addSeconds id counter period seconds
  | .creditMonthly id period seconds quota => do
    let _ ← find id
    let cell := (← get).seconds.getD ⟨id, TimeCounter.monthly.name, period⟩ (.integer 0)
    let credit := monthlyCredit (← need cell.counter?) seconds quota
    if credit ≠ 0 then modify fun s => s.addSeconds id .monthly period credit
    return credit
  | .drawPool id pool period seconds => do
    let row ← find id
    let taken := Counter.least seconds (← need (row.pools.get pool).counter?)
    if taken ≠ 0 then
      put id (row.takeSeconds pool taken)
      modify fun s => s.addSeconds id pool.counter period taken
    return taken
  | .shiftBytes id delta kind => do
    put id ((← find id).shiftBytes delta kind)
  | .updateQuotas id patch modified retention => do
    let change ← need (ChangeRow.ofChange? id ⟨patch, modified⟩)
    let org := (← load id).applyQuotaPatch patch modified retention
    put id ((← find id).withQuotasOf org)
    modify fun s => s.append change
    if let some count := retention then modify fun s => s.trim id (max count 1)
    return org

/-- Performs a call on the organizations, or changes nothing. -/
def onOrgs (call : OrgCall) : Attempt RelationalStore call.Reply :=
  Attempt.atomically (perform call)

/-- The crawl of an id, if there is one and it belongs to the organization asked for. -/
def loadCrawl? (orgId : Option String) (id : String) : Attempt RelationalStore (Option Crawl) := do
  match (← get).crawls.get? id with
  | none => return none
  | some row =>
    if orgId.all fun wanted => wanted == row.orgId then return some (← need row.crawl?)
    else return none

/-- The crawl of an id, which belongs to the organization asked for. -/
def loadCrawl (orgId : Option String) (id : String) : Attempt RelationalStore Crawl := do
  match ← loadCrawl? orgId id with
  | some crawl => return crawl
  | none => throw .crawlNotFound

/-- Writes the document of a crawl into the row that there is for it. -/
def storeCrawl (crawl : Crawl) : Attempt RelationalStore Unit := do
  let written ← need (CrawlRow.ofCrawl? crawl)
  match (← get).crawls.get? crawl.id with
  | none => return ()
  | some row =>
    let row := { row with document := written.document }
    modify fun s => { s with crawls := s.crawls.insert crawl.id row }

/-- Deletes the rows of an organization and a type with one of the ids; answers the ids of those
that were there in ascending order. -/
def deleteCrawls (orgId : String) (ids : List String) (type : CrawlType) :
    Attempt RelationalStore (List String) := do
  if ids.isEmpty then return []
  if maxDeletedIds < ids.length then throw .store
  let goes := fun (id : String) (row : CrawlRow) =>
    row.orgId == orgId && row.type == type.name && ids.contains id
  let crawls := (← get).crawls
  modify fun s => { s with crawls := crawls.filter fun id row => !goes id row }
  return (crawls.filter goes).keys

/-- The steps of a call on the crawls. -/
def performOnCrawls : (call : CrawlCall) → Attempt RelationalStore call.Reply
  | .insert crawl => do
    let row ← need (CrawlRow.ofCrawl? crawl)
    modify fun s => { s with crawls := s.crawls.insert crawl.id row }
  | .get orgId id => loadCrawl (some orgId) id
  | .setSignedUrl id filename url expiresAt => do
    match (← loadCrawl? none id).bind fun crawl => crawl.withSignedUrl? filename url expiresAt with
    | some crawl =>
      storeCrawl crawl
      return true
    | none => return false
  | .addReplica id filename replica => do
    let crawl ← loadCrawl none id
    if (crawl.file? filename).any fun file => !file.replicas.contains replica then
      storeCrawl (crawl.withReplica filename replica)
  | .updateMetadata orgId id type update => do
    let crawl ← loadCrawl (some orgId) id
    if type.all fun wanted => wanted == crawl.type then storeCrawl (crawl.withMetadata update)
    else throw .crawlNotFound
  | .markCanceled id finished => do
    storeCrawl ((← loadCrawl none id).canceledAt finished)
  | .addCollection orgId id collection => do
    storeCrawl (← (← loadCrawl (some orgId) id).joined collection)
  | .removeCollection orgId id collection => do
    let crawl ← loadCrawl (some orgId) id
    if crawl.collections.contains collection then storeCrawl (crawl.left collection)
  | .delete orgId ids type => deleteCrawls orgId ids type

/-- Performs a call on the crawls, or changes nothing. -/
def onCrawls (call : CrawlCall) : Attempt RelationalStore call.Reply :=
  Attempt.atomically (performOnCrawls call)

instance : AccountStore RelationalStore := ⟨{}, onOrgs, onCrawls⟩

end RelationalStore

end ArchiveAccounts
