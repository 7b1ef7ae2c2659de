import ArchiveAccounts.Calendar.Moment
import ArchiveAccounts.Config.Environment
import ArchiveAccounts.Digest.Hmac
import ArchiveAccounts.Signing.Canonical
import ArchiveAccounts.Url.Parser

/-!
# Signing requests and links

A signer puts a keyed digest of the canonical form of a request into its headers, or into the query
of a link that anyone may follow until it ends.
-/

namespace ArchiveAccounts.Signing
set_option autoImplicit false

open Text Calendar

/-- The name of the way of signing. -/
def algorithm : String := "AWS4-HMAC-SHA256"

/-- The longest time that a link may last, in seconds. -/
def maxLinkSeconds : Nat := 604800

/-- Why something could not be signed. -/
inductive SigningError where
  | missingField (name : String)
  | missingCredential (label : String) (tried : List String)
  | invalidUrl (url reason : String)
  | timestamp
  | expires (got : Counter)
  deriving DecidableEq, Repr

/-- The error in words. -/
def SigningError.message : SigningError → String
  | missingField name => "sigv4 " ++ name ++ " is required"
  | missingCredential label tried =>
    "missing sigv4 " ++ label ++ " (tried: " ++ joinWith ", " tried ++ ")"
  | invalidUrl url reason => "sigv4 invalid url " ++ Quoted.quote url ++ ": " ++ reason
  | timestamp => "sigv4 invalid timestamp: amz date must be at least 8 chars"
  | expires got =>
    "sigv4 presign expiry must be within 1..=" ++ toString maxLinkSeconds ++ " seconds, got "
      ++ toString got.toNat

/-- When a request is signed: the date and time, and the date alone. -/
structure Timestamp where
  stamp : String
  date : String
  deriving DecidableEq, Repr

namespace Timestamp

/-- A year of at least four digits, and a sign in front of a negative one. -/
def year (y : Int) : List Char :=
  (if y < 0 then ['-'] else []) ++ Decimal.padded 4 y.natAbs

/-- The timestamp of a moment, in UTC. -/
def ofMoment (m : Moment) : Timestamp :=
  let date := m.inUtc.date
  let time := m.inUtc.secondOfDay
  let day := year date.year ++ Decimal.padded 2 date.month ++ Decimal.padded 2 date.day
  let clock := Decimal.padded 2 (time / 3600) ++ Decimal.padded 2 (time / 60 % 60)
    ++ Decimal.padded 2 (time % 60)
  { stamp := String.ofList (day ++ 'T' :: clock ++ ['Z']), date := String.ofList day }

/-- The characters whose UTF-8 form takes up exactly the first `count` bytes. -/
def takeBytes? : Nat → List Char → Option (List Char)
  | 0, _ => some []
  | _ + 1, [] => none
  | count + 1, c :: rest =>
    if c.utf8Size ≤ count + 1 then (takeBytes? (count + 1 - c.utf8Size) rest).map (c :: ·) else none

/-- The timestamp of a written date and time, of which the first eight bytes are the date. -/
def ofStamp (raw : String) : Except SigningError Timestamp :=
  let stamp := trimChars raw.toList
  match takeBytes? 8 stamp with
  | some date => .ok { stamp := String.ofList stamp, date := String.ofList date }
  | none => .error .timestamp

end Timestamp

/-- Who signs, for which region and service. -/
structure Signer where
  accessKey : String
  secretKey : String
  sessionToken : Option String := none
  region : String
  service : String
  deriving DecidableEq, Repr

/-- A signed request: what goes into its headers, and what was signed. -/
structure SignedRequest where
  authorization : String
  stamp : String
  payloadHash : String
  host : String
  securityToken : Option String
  headerNames : String
  signature : String
  canonicalRequest : String
  stringToSign : String
  deriving DecidableEq, Repr

/-- A signed link, and what was signed. -/
structure SignedLink where
  url : String
  signature : String
  canonicalRequest : String
  stringToSign : String
  deriving DecidableEq, Repr

/-- The digest of bytes in hexadecimal. -/
def sha256Text (bytes : List UInt8) : String := Hex.lowerBytes (Digest.sha256 bytes)

/-- Reads a URL that names a host; also gives the `host` header. -/
def parseTarget (raw : String) : Except SigningError (Url × String) :=
  match Url.parse raw with
  | .error reason => .error (.invalidUrl raw reason.message)
  | .ok url =>
    match url.host? with
    | none => .error (.invalidUrl url.print "missing host")
    | some host =>
      .ok (url, host.print ++ Url.marked ":" (url.port?.map fun port =>
        String.ofList (Decimal.digits port)))

/-- What is signed: the way, the time, the scope and the digest of the canonical request. -/
def stringToSign (time : Timestamp) (scope canonicalRequest : String) : String :=
  joinWith "\n" [algorithm, time.stamp, scope, sha256Text (Utf8.bytes canonicalRequest)]

namespace Signer

/-- A signer whose keys, region and service are not blank. -/
def make (accessKey secretKey : String) (sessionToken : Option String) (region service : String) :
    Except SigningError Signer :=
  let fields := [("access_key", accessKey), ("secret_key", secretKey), ("region", region),
    ("service", service)]
  match fields.find? fun field => allBlank field.2 with
  | some field => .error (.missingField field.1)
  | none => .ok { accessKey, secretKey, sessionToken, region, service }

/-- The first variable of a list that has a value. -/
def credential (env : Environment) (keys : List String) (label : String) :
    Except SigningError String :=
  match keys.findSome? env.get? with
  | some value => .ok value
  | none => .error (.missingCredential label keys)

/-- A signer with the credentials of the environment. -/
def ofEnvironment (env : Environment) (region service : String) : Except SigningError Signer := do
  let accessKey ← credential env ["AWS_ACCESS_KEY_ID", "AWS_ACCESS_KEY"] "access_key"
  let secretKey ← credential env ["AWS_SECRET_ACCESS_KEY", "AWS_SECRET_KEY"] "secret_key"
  make accessKey secretKey (env.get? "AWS_SESSION_TOKEN") region service

/-- The day, region and service that a signature holds for. -/
def scope (signer : Signer) (time : Timestamp) : String :=
  joinWith "/" [time.date, signer.region, signer.service, "aws4_request"]

/-- The key of a day, region and service. -/
def key (signer : Signer) (date : String) : List UInt8 :=
  [date, signer.region, signer.service, "aws4_request"].foldl
    (fun key part => Digest.hmacSha256 key (Utf8.bytes part))
    (Utf8.bytes ("AWS4" ++ signer.secretKey))

/-- The signature of a text. -/
def signature (signer : Signer) (date text : String) : String :=
  Hex.lowerBytes (Digest.hmacSha256 (signer.key date) (Utf8.bytes text))

/-- The method without blanks around it, which may not be all of it. -/
def method (raw : String) : Except SigningError String :=
  if allBlank raw then .error (.missingField "method") else .ok (trim raw)

/-- Signs a request in its headers. -/
def sign (signer : Signer) (rawMethod url : String) (headers : SortedMap String String)
    (payload : List UInt8) (time : Timestamp) : Except SigningError SignedRequest := do
  let method ← method rawMethod
  let (url, host) ← parseTarget url
  let payloadHash := sha256Text payload
  let headers := signedHeaders headers host time.stamp payloadHash signer.sessionToken
  let canonicalRequest := joinWith "\n"
    [method, canonicalPath signer.service url.path, canonicalQuery (queryPairs url),
      headerLines headers, headerNames headers, payloadHash]
  let text := stringToSign time (signer.scope time) canonicalRequest
  let signature := signer.signature time.date text
  return {
    authorization := algorithm ++ " Credential=" ++ signer.accessKey ++ "/" ++ signer.scope time
      ++ ", SignedHeaders=" ++ headerNames headers ++ ", Signature=" ++ signature
    stamp := time.stamp
    payloadHash
    host
    securityToken := signer.sessionToken
    headerNames := headerNames headers
    signature
    canonicalRequest
    stringToSign := text }

/-- The pairs that a link carries besides its own. -/
def linkPairs (signer : Signer) (expires : Counter) (time : Timestamp) : List (String × String) :=
  [("X-Amz-Algorithm", algorithm),
    ("X-Amz-Credential", signer.accessKey ++ "/" ++ signer.scope time),
    ("X-Amz-Date", time.stamp),
    ("X-Amz-Expires", String.ofList (Decimal.digits expires.toNat))]
    ++ (signer.sessionToken.map fun token => ("X-Amz-Security-Token", token)).toList
    ++ [("X-Amz-SignedHeaders", "host")]

/-- The canonical request of a link, which signs the `host` header and no payload. -/
def linkRequest (signer : Signer) (method path query host : String) : String :=
  joinWith "\n" [method, canonicalPath signer.service path, query, "host:" ++ host, "", "host",
    "UNSIGNED-PAYLOAD"]

/-- Signs a link that lasts for some seconds. -/
def signLink (signer : Signer) (rawMethod url : String) (expires : Counter) (time : Timestamp) :
    Except SigningError SignedLink := do
  let method ← method rawMethod
  if expires = 0 || decide (maxLinkSeconds < expires.toNat) then .error (.expires expires)
  let (url, host) ← parseTarget url
  let query := canonicalQuery (queryPairs url ++ signer.linkPairs expires time)
  let canonicalRequest := signer.linkRequest method url.path query host
  let text := stringToSign time (signer.scope time) canonicalRequest
  let signature := signer.signature time.date text
  return {
    url := url.base ++ "?" ++ query ++ "&X-Amz-Signature=" ++ signature
    signature
    canonicalRequest
    stringToSign := text }

end Signer

end ArchiveAccounts.Signing
