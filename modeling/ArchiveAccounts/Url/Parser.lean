import ArchiveAccounts.Url.Basic
import ArchiveAccounts.Url.Domain
import ArchiveAccounts.Url.Ipv4
import ArchiveAccounts.Url.Ipv6
import ArchiveAccounts.Url.Path

/-!
# Reading URLs

The parts that an absolute URL names, in the form in which they are written: special schemes have a
host and a path with slashes, file URLs may leave the host out, and other schemes may have neither.
-/

namespace ArchiveAccounts.Url
set_option autoImplicit false

open Text

/-- Blanks that do not count at the ends of a URL. -/
def isTrimmed (c : Char) : Bool := c.toNat ≤ 0x20

/-- Blanks that do not count inside a URL. -/
def isSkipped (c : Char) : Bool := c == '\t' || c == '\n' || c == '\r'

/-- The characters of a URL that count. -/
def cleanInput (s : String) : List Char :=
  let fromStart := s.toList.dropWhile isTrimmed
  ((fromStart.reverse.dropWhile isTrimmed).reverse).filter fun c => !isSkipped c

/-- What a scheme may hold after its first letter. -/
def isSchemeChar (c : Char) : Bool := c.isAlphanum || c == '+' || c == '-' || c == '.'

/-- The scheme in lower case and what follows its colon. -/
def scheme? : List Char → Option (List Char × List Char)
  | [] => none
  | first :: rest =>
    match cutAt ':' (first :: rest) with
    | some (scheme, after) =>
      if first.isAlpha && scheme.all isSchemeChar then some (scheme.map Char.toLower, after)
      else none
    | none => none

/-- The usual port of a special scheme other than `file`. -/
def usualPort? (scheme : List Char) : Option Nat :=
  List.lookup (String.ofList scheme)
    [("http", 80), ("https", 443), ("ws", 80), ("wss", 443), ("ftp", 21)]

/-- The host that a text in a special URL names. -/
def parseHost (s : List Char) : Except UrlError Host :=
  match s with
  | '[' :: inside =>
    match dropTail? [']'] inside with
    | none => .error .invalidIpv6
    | some address => (Ipv6.parse? address).elim (.error .invalidIpv6) fun p => .ok (.ipv6 p)
  | s =>
    match Domain.toAscii? (Utf8.decode (Percent.decodeBytes (Utf8.encode s))) with
    | none => .error .invalidDomainName
    | some domain =>
      if domain.isEmpty then .error .emptyHost
      else if Ipv4.endsInNumber domain then
        (Ipv4.parse? domain).elim (.error .invalidIpv4) fun a => .ok (.ipv4 a)
      else .ok (.name (String.ofList domain))

/-- What no host of a URL that is not special may hold. -/
def isForbiddenInHost (c : Char) : Bool :=
  ['\x00', '\t', '\n', '\r', ' ', '#', '/', ':', '<', '>', '?', '@', '[', '\\', ']', '^',
    '|'].contains c

/-- The host that a text in another URL names. -/
def parseOpaqueHost (s : List Char) : Except UrlError Host :=
  match s with
  | '[' :: _ => parseHost s
  | [] => .ok .empty
  | s =>
    if s.any isForbiddenInHost then .error .invalidDomainCharacter
    else .ok (.name (String.ofList (Percent.escape isControl s)))

/-- Whether a character ends the part with the host. -/
def endsAuthority (special : Bool) (c : Char) : Bool :=
  c == '/' || c == '?' || c == '#' || (special && c == '\\')

/-- The host's text: up to a colon outside brackets. -/
def spanHost : Bool → List Char → List Char × List Char
  | _, [] => ([], [])
  | inBrackets, c :: rest =>
    if c = ':' ∧ !inBrackets then ([], c :: rest)
    else
      let (host, rest) := spanHost (c == '[' || (inBrackets && c != ']')) rest
      (c :: host, rest)

/-- Reads the digits of a port up to where the path starts. -/
def spanPort : Nat → List Char → Except UrlError (Nat × List Char)
  | n, [] => .ok (n, [])
  | n, c :: rest =>
    match Decimal.digit? c with
    | some d => if n * 10 + d > 65535 then .error .invalidPort else spanPort (n * 10 + d) rest
    | none =>
      if c == '/' || c == '\\' || c == '?' || c == '#' then .ok (n, c :: rest)
      else .error .invalidPort

/-- The port after a colon: none if it is empty or the usual one. -/
def parsePort (scheme s : List Char) : Except UrlError (Option Nat × List Char) := do
  let (port, rest) ← spanPort 0 s
  let hasDigit := (s.head?.bind Decimal.digit?).isSome
  return (if hasDigit && usualPort? scheme != some port then some port else none, rest)

/-- The part before the last `@` and the part after it. -/
def cutAtLastAt (s : List Char) : Option (List Char × List Char) :=
  (cutAt '@' s.reverse).map fun (after, before) => (before.reverse, after.reverse)

/-- Reads credentials, host and port; `special` is false for schemes that do not need a host. -/
def parseAuthority (scheme : List Char) (special : Bool) (s : List Char) :
    Except UrlError (Authority × List Char) := do
  let written := s.takeWhile fun c => !endsAuthority special c
  let after := s.dropWhile fun c => !endsAuthority special c
  let (user, hostAndPort) := (cutAtLastAt written).getD ([], written)
  let mentionsNobody := (cutAtLastAt written).any fun (user, _) => user.isEmpty
  if mentionsNobody && hostAndPort.isEmpty && !after.isEmpty then .error .emptyHost
  let (username, password) := (cutAt ':' user).getD (user, [])
  let escaped := fun part => String.ofList (Percent.escape isUserReserved part)
  let (hostText, rest) := spanHost false hostAndPort
  if special && hostText.isEmpty then .error .emptyHost
  let host ← if special then parseHost hostText else parseOpaqueHost hostText
  if host = .empty && !rest.isEmpty then .error .emptyHost
  let (port, rest) ← match rest with
    | ':' :: port => parsePort scheme (port ++ after)
    | rest => .ok (none, rest ++ after)
  if host = .empty && !(username.isEmpty && password.isEmpty) then .error .emptyHost
  return ({ username := escaped username, password := escaped password, host, port }, rest)

/-- Whether a text starts the query or the fragment. -/
def startsTail (c : Char) : Bool := c == '?' || c == '#'

/-- The query after its question mark, and what is left. -/
def spanQuery (special : Bool) : List Char → Option String × List Char
  | '?' :: rest =>
    let reserved := if special then isSpecialQueryReserved else isQueryReserved
    (some (String.ofList (Percent.escape reserved (rest.takeWhile (· != '#')))),
      rest.dropWhile (· != '#'))
  | s => (none, s)

/-- The fragment after its mark. -/
def parseFragment : List Char → Option String
  | '#' :: rest => some (String.ofList (Percent.escape isFragmentReserved rest))
  | _ => none

/-- The URL with the query and the fragment of what follows its path. -/
def withTail (special : Bool) (url : Url) (s : List Char) : Url :=
  let (query, rest) := spanQuery special s
  { url with query, fragment := parseFragment rest }

/-- The text of the path and what follows it. -/
def spanPath (s : List Char) : List Char × List Char :=
  (s.takeWhile fun c => !startsTail c, s.dropWhile fun c => !startsTail c)

/-- Reads the path, the query and the fragment of a URL with an authority. -/
def parseAfterAuthority (special : Bool) (scheme : List Char) (authority : Option Authority)
    (s : List Char) : Url :=
  let (pathText, tail) := spanPath s
  let path :=
    if pathText.isEmpty && !special then [] else joinSegments (segmentsOf special pathText)
  withTail special
    { scheme := String.ofList scheme, authority, path := String.ofList path } tail

/-- Reads a URL of a scheme that needs no host. -/
def parseOther (scheme s : List Char) : Except UrlError Url :=
  match s with
  | '/' :: '/' :: rest => do
    let (authority, rest) ← parseAuthority scheme false rest
    return parseAfterAuthority false scheme (some authority) rest
  | '/' :: _ => .ok (parseAfterAuthority false scheme none s)
  | s =>
    let (pathText, tail) := spanPath s
    let path := String.ofList (Percent.escape isControl pathText)
    .ok (withTail false { scheme := String.ofList scheme, path } tail)

/-- Whether a character is a slash of a special URL. -/
def isSlash (c : Char) : Bool := c == '/' || c == '\\'

/-- The host in a file URL, which is none for `localhost` and before the name of a drive. -/
def parseFileHost (s : List Char) : Except UrlError (Host × List Char) := do
  let written := s.takeWhile fun c => !endsAuthority true c
  let rest := s.dropWhile fun c => !endsAuthority true c
  if isDriveLetter written then return (.empty, s)
  else if written.isEmpty then return (.empty, rest)
  else
    let host ← parseHost written
    return (if host = .name "localhost" then .empty else host, rest)

/-- The segments of a file path: empty ones at the front left out, and the name of a drive at the
front with a colon. -/
def filePath (segments : List (List Char)) : List (List Char) × Bool :=
  let (segments, drive) := match segments with
    | [letter, mark] :: rest =>
      if isDriveLetter [letter, mark] then ([letter, ':'] :: rest, true)
      else ([letter, mark] :: rest, false)
    | segments => (segments, false)
  let kept := segments.dropWhile List.isEmpty
  (if kept.isEmpty then [[]] else kept, drive)

/-- Reads a file URL. -/
def parseFile (s : List Char) : Except UrlError Url := do
  let (host, rest) ← match s with
    | a :: b :: rest => if isSlash a && isSlash b then parseFileHost rest else .ok (.empty, s)
    | s => .ok (.empty, s)
  let (pathText, tail) := spanPath rest
  let (segments, drive) := filePath (segmentsOf true pathText)
  let authority := { host := if drive then .empty else host }
  return withTail true
    { scheme := "file", authority := some authority
      path := String.ofList (joinSegments segments) } tail

/-- The URL that a text writes. -/
def parse (s : String) : Except UrlError Url :=
  match scheme? (cleanInput s) with
  | none => .error .relativeWithoutBase
  | some (scheme, rest) =>
    if scheme = ['f', 'i', 'l', 'e'] then parseFile rest
    else if (usualPort? scheme).isSome then do
      let (authority, rest) ← parseAuthority scheme true (rest.dropWhile isSlash)
      return parseAfterAuthority true scheme (some authority) rest
    else parseOther scheme rest

end ArchiveAccounts.Url
