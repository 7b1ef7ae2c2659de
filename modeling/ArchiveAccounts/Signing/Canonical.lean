import ArchiveAccounts.Data.SortedMap
import ArchiveAccounts.Text.Blank
import ArchiveAccounts.Text.FormEncoded
import ArchiveAccounts.Url.Basic

/-!
# The canonical form of a request

What is signed of a request: its path, its query and its headers, each in one form whatever way the
request was written.
-/

namespace ArchiveAccounts.Signing
set_option autoImplicit false

open Text

/-- A header value with each run of blanks as one space, and none at the ends. -/
def collapseBlanks : List Char → List Char
  | [] => []
  | c :: rest =>
    let collapsed := collapseBlanks rest
    if isBlank c then
      match rest with
      | next :: _ => if isBlank next then collapsed else ' ' :: collapsed
      | [] => [' ']
    else c :: collapsed

/-- A header value in its canonical form. -/
def headerValue (value : String) : String :=
  String.ofList (trimChars (collapseBlanks value.toList))

/-- A header name in its canonical form. -/
def headerName (name : String) : String := String.ofList ((trimChars name.toList).map Char.toLower)

/-- Adds a header; values of one name are joined with commas. -/
def addHeader (headers : SortedMap String String) (name value : String) :
    SortedMap String String :=
  let key := headerName name
  if key = "" then headers
  else
    match headers.get? key with
    | none => headers.insert key (headerValue value)
    | some "" => headers.insert key (headerValue value)
    | some earlier => headers.insert key (earlier ++ "," ++ headerValue value)

/-- Puts a header where there is none of its name. -/
def defaultHeader (headers : SortedMap String String) (name value : String) :
    SortedMap String String :=
  if (headers.get? name).isSome then headers else headers.insert name value

/-- The headers that are signed: those of the caller, and the ones that every request has. -/
def signedHeaders (headers : SortedMap String String) (host stamp payloadHash : String)
    (token : Option String) : SortedMap String String :=
  let given := headers.toList.foldl (fun m (name, value) => addHeader m name value) ∅
  let hosted := defaultHeader given "host" host
  let dated := hosted.insert "x-amz-date" stamp
  let hashed := defaultHeader dated "x-amz-content-sha256" payloadHash
  match token with
  | none => hashed
  | some token => hashed.insert "x-amz-security-token" (headerValue token)

/-- One line for each header. -/
def headerLines (headers : SortedMap String String) : String :=
  headers.toList.foldl (fun lines (name, value) => lines ++ name ++ ":" ++ value ++ "\n") ""

/-- The names of headers, with semicolons between them. -/
def headerNames (headers : SortedMap String String) : String := joinWith ";" headers.keys

/-- The order of pairs: by name, then by value. -/
def pairLe (a b : String × String) : Bool :=
  ((compare a.1 b.1).then (compare a.2 b.2)).isLE

/-- Names and values escaped, sorted and joined. -/
def canonicalQuery (pairs : List (String × String)) : String :=
  let escape := Percent.encode .encoded
  let escaped := (pairs.map fun (name, value) => (escape name, escape value)).mergeSort pairLe
  joinWith "&" (escaped.map fun (name, value) => name ++ "=" ++ value)

/-- The decoded pairs of a URL's query. -/
def queryPairs (url : Url) : List (String × String) :=
  match url.query with
  | none => []
  | some query => FormEncoded.decode query.toList

/-- The path that is signed: object storage signs the path as it is meant, all other services the
path as it is written, escaped once more. -/
def canonicalPath (service : String) (path : String) : String :=
  if path = "" then "/"
  else if service = "s3" then Percent.encode .kept (Percent.decode path)
  else Percent.encode .kept path

end ArchiveAccounts.Signing
