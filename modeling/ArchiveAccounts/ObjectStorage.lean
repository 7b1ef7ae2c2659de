import ArchiveAccounts.Config.Settings
import ArchiveAccounts.Crawl.Basic
import ArchiveAccounts.Failure
import ArchiveAccounts.Signing.Signer

/-!
# Object storage

Where the files of crawls are stored: a key for each file below the bucket, the prefix and the
organization, signed links to it, and signed requests that delete it.
-/

namespace ArchiveAccounts
set_option autoImplicit false

open Text Calendar

/-- A storage and who signs for it. -/
structure ObjectStorage where
  settings : StorageSettings
  signer : Signing.Signer
  deriving DecidableEq, Repr

/-- A signed request: the method, the address and the headers that the signature needs. -/
structure StorageRequest where
  method : String
  target : String
  headers : List (String × String)
  deriving DecidableEq, Repr

namespace ObjectStorage

/-- An address without the slashes at its end. -/
def withoutEnd (address : String) : String := String.ofList (dropCharEnd '/' address.toList)

/-- The key of a file of an organization. -/
def key (storage : ObjectStorage) (orgId filename : String) : String :=
  let lead := dropCharEnd '/' (dropChar '/' storage.settings.keyPrefix.toList)
  let name := String.ofList (dropChar '/' filename.toList)
  if lead.isEmpty then orgId ++ "/" ++ name
  else String.ofList lead ++ "/" ++ orgId ++ "/" ++ name

/-- The address of a file of an organization. -/
def url (storage : ObjectStorage) (orgId filename : String) : String :=
  withoutEnd storage.settings.endpoint ++ "/" ++ storage.settings.bucket ++ "/"
    ++ Percent.encode .kept (storage.key orgId filename)

/-- A signed link as clients see it: with the public address in place of the endpoint where it
starts with that. -/
def publicUrl (settings : StorageSettings) (signed : String) : String :=
  match settings.accessEndpoint with
  | none => signed
  | some access =>
    match dropLead? (withoutEnd settings.endpoint).toList signed.toList with
    | some rest => withoutEnd access ++ String.ofList rest
    | none => signed

/-- The time at which something is signed. -/
def signingTime (now : Moment) : Except Failure Signing.Timestamp :=
  if now.isInUtcCalendar then .ok (.ofMoment now) else .error .outsideCalendar

/-- What was signed, or the failure of a collaborator. -/
def signed {α : Type} : Except Signing.SigningError α → Except Failure α
  | .ok a => .ok a
  | .error _ => .error (.collaborator "storage_signing_failed")

/-- The seconds that a link may last, nearest to those asked for. -/
def linkExpiry (seconds : Counter) : Counter :=
  .ofNat (max 1 (min seconds.toNat Signing.maxLinkSeconds))

/-- Signs a link to a file. -/
def link (storage : ObjectStorage) (now : Moment) (orgId filename : String) (seconds : Counter) :
    Except Failure String := do
  let time ← signingTime now
  let link ← signed
    (storage.signer.signLink "GET" (storage.url orgId filename) (linkExpiry seconds) time)
  return publicUrl storage.settings link.url

/-- The request that deletes a file. -/
def deletion (storage : ObjectStorage) (now : Moment) (orgId filename : String) :
    Except Failure StorageRequest := do
  let time ← signingTime now
  let address := storage.url orgId filename
  let request ← signed (storage.signer.sign "DELETE" address ∅ [] time)
  let (target, _) ← signed (Signing.parseTarget address)
  return {
    method := "DELETE"
    target := target.print
    headers := [("authorization", request.authorization), ("host", request.host),
        ("x-amz-content-sha256", request.payloadHash), ("x-amz-date", request.stamp)]
      ++ (request.securityToken.map fun token => ("x-amz-security-token", token)).toList }

/-- Whether a status says that a request was carried out; no status comes from a request that
failed. -/
def isSuccess : Option Nat → Bool
  | some status => decide (200 ≤ status) && decide (status < 300)
  | none => false

end ObjectStorage

end ArchiveAccounts
