import ArchiveAccounts.Service.World

/-!
# Signed links

Files are shown to clients with signed links. A link is stored with its file and used again until it
ends; then a new one is minted.
-/

namespace ArchiveAccounts
set_option autoImplicit false

open Calendar

/-- When a new link ends: at the end of the calendar at the latest. -/
def linkEnd (now : Moment) (seconds : Counter) : Moment :=
  now.addSecondsCapped seconds.toSigned.toNat

namespace Action

variable {σ : Type} [AccountStore σ]

/-- Mints a link for a file and stores it. -/
def mintLink (services : ObjectService) (seconds : Counter) (org : Organization) (crawlId : String)
    (file : CrawlFile) : Action σ FileDescriptor := do
  let now := (← get).now
  let url ← ask (.mintLink org.id file.filename seconds) fun before =>
    services.mintLink before now org file seconds
  let expiresAt := linkEnd now seconds
  let _ : Bool ← onCrawls (.setSignedUrl crawlId file.filename url expiresAt)
  count Metrics.addMinted
  let signed := { file with signedUrl := some url, expiresAt := some expiresAt }
  return signed.describe crawlId (some url)

/-- Describes a file with a link that can be used. -/
def resolveFile (services : ObjectService) (seconds : Counter) (org : Organization)
    (crawlId : String) (file : CrawlFile) : Action σ FileDescriptor := do
  match file.usableUrl (← get).now with
  | some url =>
    count Metrics.addReused
    return file.describe crawlId (some url)
  | none => mintLink services seconds org crawlId file

/-- Describes files with links that can be used. -/
def resolveFiles (services : ObjectService) (seconds : Counter) (org : Organization)
    (crawlId : String) (files : List CrawlFile) : Action σ (List FileDescriptor) :=
  files.mapM (resolveFile services seconds org crawlId)

/-- Describes the files of a crawl with links that can be used. -/
def resolveCrawl (services : ObjectService) (seconds : Counter) (org : Organization)
    (crawlId : String) : Action σ (List FileDescriptor) := do
  let crawl ← getCrawl org.id crawlId
  resolveFiles services seconds org crawlId crawl.files

end Action

/-- Describes files with the links that can be used now, and the others without. -/
def describeFiles (now : Moment) (crawlId : String) (files : List CrawlFile) :
    List FileDescriptor :=
  files.map fun file => file.describe crawlId (file.usableUrl now)

end ArchiveAccounts
