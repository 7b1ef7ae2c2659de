import ArchiveAccounts.Service.World

/-!
# Collections

Which collections a crawl is in. A change of its collections asks only for what differs, first for
the collections to join and then for those to leave, each in order.
-/

namespace ArchiveAccounts.Action
set_option autoImplicit false

variable {σ : Type} [AccountStore σ]

/-- Adds crawls to a collection, one by one. -/
def addToCollection (collection : String) (crawlIds : List String) (org : Organization) :
    Action σ Unit := do
  record (.addToCollection collection crawlIds org.id)
  crawlIds.forM fun id => onCrawls (.addCollection org.id id collection)

/-- Removes crawls from a collection, one by one. -/
def removeFromCollection (collection : String) (crawlIds : List String) (org : Organization) :
    Action σ Unit := do
  record (.removeFromCollection collection crawlIds org.id)
  crawlIds.forM fun id => onCrawls (.removeCollection org.id id collection)

/-- Puts a crawl into exactly the collections asked for. -/
def setCollections (crawlId : String) (org : Organization) (requested : List String) :
    Action σ MembershipChange := do
  let crawl ← getCrawl org.id crawlId
  let change := MembershipChange.between crawl.collections (.ofList requested)
  change.added.forM fun collection => addToCollection collection [crawlId] org
  change.removed.forM fun collection => removeFromCollection collection [crawlId] org
  return change

/-- Takes over what an update says of a crawl, which may have to be of a given type. -/
def updateCrawl (crawlId : String) (org : Organization) (update : CrawlUpdate)
    (type : Option CrawlType) : Action σ Unit := do
  if update.isEmpty then throw (.badRequest "no_update_data")
  let crawl ← getCrawl org.id crawlId
  if type.any fun wanted => wanted != crawl.type then throw .crawlNotFound
  if let some requested := update.collections then
    let _ ← setCollections crawlId org requested
  if update.hasMetadata then
    onCrawls (.updateMetadata org.id crawlId type update)

end ArchiveAccounts.Action
