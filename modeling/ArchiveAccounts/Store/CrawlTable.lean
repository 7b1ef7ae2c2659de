import ArchiveAccounts.Data.Register
import ArchiveAccounts.Store.Call

/-!
# Crawls in memory

The crawls of a store under their ids, and the calls on them.
-/

namespace ArchiveAccounts
set_option autoImplicit false

/-- Crawls by id. -/
abbrev CrawlTable := Register Crawl Crawl.id

/-- Adds a crawl to a collection that it is not in. -/
def Crawl.joined (crawl : Crawl) (collection : String) : Except Failure Crawl :=
  if crawl.collections.contains collection then .error (.conflict "crawl_already_in_collection")
  else .ok { crawl with collections := crawl.collections.insert collection }

/-- Takes a crawl out of a collection. -/
def Crawl.left (crawl : Crawl) (collection : String) : Crawl :=
  { crawl with collections := crawl.collections.erase collection }

namespace CrawlTable

/-- The crawl of an id. -/
def find (id : String) : Attempt CrawlTable Crawl := do
  match (← get).get? id with
  | some crawl => return crawl
  | none => throw .crawlNotFound

/-- The crawl of an id, if it belongs to the organization. -/
def findOf (orgId id : String) : Attempt CrawlTable Crawl := do
  let crawl ← find id
  if crawl.orgId = orgId then return crawl else throw .crawlNotFound

/-- Puts a crawl under its id. -/
def put (crawl : Crawl) : Attempt CrawlTable Unit := modify fun table => table.insert crawl

/-- Whether the table holds the id for a crawl of the organization and the type. -/
def holds (table : CrawlTable) (orgId : String) (type : CrawlType) (id : String) : Bool :=
  (table.get? id).any fun crawl => crawl.orgId == orgId && crawl.type == type

/-- Deletes crawls of an organization and a type; answers the ids of those that were there, in the
order in which they were asked for. -/
def delete (orgId : String) (type : CrawlType) : List String → Attempt CrawlTable (List String)
  | [] => return []
  | id :: rest => do
    if (← get).holds orgId type id then
      modify fun table => table.erase id
      return id :: (← delete orgId type rest)
    else delete orgId type rest

/-- Performs a call. -/
def perform : (call : CrawlCall) → Attempt CrawlTable call.Reply
  | .insert crawl => put crawl
  | .get orgId id => findOf orgId id
  | .setSignedUrl id filename url expiresAt => do
    match ((← get).get? id).bind fun crawl => crawl.withSignedUrl? filename url expiresAt with
    | some crawl =>
      put crawl
      return true
    | none => return false
  | .addReplica id filename replica => do
    put ((← find id).withReplica filename replica)
  | .updateMetadata orgId id type update => do
    let crawl ← findOf orgId id
    if type.all fun wanted => wanted == crawl.type then put (crawl.withMetadata update)
    else throw .crawlNotFound
  | .markCanceled id finished => do
    put ((← find id).canceledAt finished)
  | .addCollection orgId id collection => do
    put (← (← findOf orgId id).joined collection)
  | .removeCollection orgId id collection => do
    put ((← findOf orgId id).left collection)
  | .delete orgId ids type => delete orgId type ids

section Run

variable (table : CrawlTable) (orgId id : String)

theorem run_put (crawl : Crawl) : (put crawl).run table = (.ok (), table.insert crawl) := rfl

theorem run_find :
    (find id).run table = (match table.get? id with
      | some crawl => .ok crawl
      | none => .error .crawlNotFound, table) := by
  simp only [find, Attempt.run_bind, Attempt.run_get]
  cases table.get? id <;> rfl

theorem run_findOf :
    (findOf orgId id).run table = (match table.get? id with
      | some crawl => if crawl.orgId = orgId then .ok crawl else .error .crawlNotFound
      | none => .error .crawlNotFound, table) := by
  simp only [findOf, Attempt.run_bind, run_find]
  cases table.get? id with
  | none => rfl
  | some crawl =>
    simp only
    split <;> rfl

end Run

/-- What a deletion answers and leaves: it takes away the crawls that it answers, which are those
among the ids that were there. -/
structure Deletes (orgId : String) (type : CrawlType) (ids : List String) (table : CrawlTable)
    (removed : List String) (rest : CrawlTable) : Prop where
  mem_removed : ∀ id, id ∈ removed ↔ id ∈ ids ∧ table.holds orgId type id = true
  nodup : removed.Nodup
  get?_rest : ∀ id, rest.get? id = if id ∈ removed then none else table.get? id

theorem holds_erase (table : CrawlTable) (orgId : String) (type : CrawlType) (id other : String) :
    holds (table.erase id) orgId type other
      = if other = id then false else table.holds orgId type other := by
  rw [holds, Register.get?_erase]
  split <;> rfl

/-- A deletion never fails. -/
theorem run_delete (table : CrawlTable) (orgId : String) (type : CrawlType) (ids : List String) :
    ∃ removed rest, (delete orgId type ids).run table = (.ok removed, rest) ∧
      Deletes orgId type ids table removed rest := by
  induction ids generalizing table with
  | nil => exact ⟨[], table, rfl, by simp, .nil, by simp⟩
  | cons id ids ih =>
    simp only [delete, Attempt.run_bind, Attempt.run_get]
    split
    · next isThere =>
      obtain ⟨removed, rest, run, spec⟩ := ih (table.erase id)
      refine ⟨id :: removed, rest, ?_, ?_, ?_, ?_⟩
      · simp only [Attempt.run_bind, Attempt.run_modify, run, Attempt.run_pure]
      · intro other
        rw [List.mem_cons, spec.mem_removed, holds_erase]
        by_cases same : other = id <;> simp [same, isThere]
      · rw [List.nodup_cons, spec.mem_removed, holds_erase, if_pos rfl]
        exact ⟨nofun, spec.nodup⟩
      · intro other
        rw [spec.get?_rest, Register.get?_erase]
        by_cases same : other = id <;> simp [same]
    · next absent =>
      obtain ⟨removed, rest, run, spec⟩ := ih table
      refine ⟨removed, rest, run, ?_, spec.nodup, spec.get?_rest⟩
      intro other
      rw [spec.mem_removed, List.mem_cons]
      by_cases same : other = id <;> simp [same, absent]

end CrawlTable

end ArchiveAccounts
