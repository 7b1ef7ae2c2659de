import ArchiveAccounts.Text.Decimal
import ArchiveAccounts.Text.Percent

/-!
# URLs

The parts of an absolute URL in the form in which they are written, and the text that they make.
-/

namespace ArchiveAccounts
set_option autoImplicit false

open Text

/-- A host; an empty one stands between `//` and the path of a URL that names none. -/
inductive Host where
  | empty
  | name (domain : String)
  | ipv4 (address : Nat)
  | ipv6 (pieces : List Nat)
  deriving DecidableEq, Repr

/-- What follows `//`: who asks, and where. -/
structure Authority where
  username : String := ""
  password : String := ""
  host : Host
  port : Option Nat := none
  deriving DecidableEq, Repr

/-- The parts of an absolute URL. -/
structure Url where
  scheme : String
  authority : Option Authority := none
  path : String
  query : Option String := none
  fragment : Option String := none
  deriving DecidableEq, Repr

/-- Why a text is no URL. -/
inductive UrlError where
  | relativeWithoutBase
  | emptyHost
  | invalidPort
  | invalidIpv4
  | invalidIpv6
  | invalidDomainName
  | invalidDomainCharacter
  deriving DecidableEq, Repr

/-- The error in words. -/
def UrlError.message : UrlError → String
  | relativeWithoutBase => "relative URL without a base"
  | emptyHost => "empty host"
  | invalidPort => "invalid port number"
  | invalidIpv4 => "invalid IPv4 address"
  | invalidIpv6 => "invalid IPv6 address"
  | invalidDomainName => "invalid international domain name"
  | invalidDomainCharacter => "invalid domain character"

namespace Host

/-- The four bytes of an IPv4 address, with dots. -/
def ipv4Text (address : Nat) : List Char :=
  List.intercalate ['.']
    ([24, 16, 8, 0].map fun shift => Decimal.digits (address >>> shift % 256))

/-- The length of the run of zeros at the front. -/
def zeroRun (pieces : List Nat) : Nat := (pieces.takeWhile (· == 0)).length

/-- Where the first longest run of zeros starts and how long it is. -/
def longestZeroRun : List Nat → Nat × Nat
  | [] => (0, 0)
  | piece :: rest =>
    let (start, length) := longestZeroRun rest
    let here := zeroRun (piece :: rest)
    if here ≥ length ∧ here > 0 then (0, here) else (start + 1, length)

/-- Pieces in hexadecimal, with colons between them. -/
def piecesText (pieces : List Nat) : List Char :=
  List.intercalate [':'] (pieces.map Hex.lowerNumber)

/-- An IPv6 address; its first longest run of two or more zeros is left out. -/
def ipv6Text (pieces : List Nat) : List Char :=
  let (start, length) := longestZeroRun pieces
  if length < 2 then piecesText pieces
  else piecesText (pieces.take start) ++ [':', ':'] ++ piecesText (pieces.drop (start + length))

/-- The text of a host. -/
def print : Host → String
  | empty => ""
  | name domain => domain
  | ipv4 address => String.ofList (ipv4Text address)
  | ipv6 pieces => String.ofList ('[' :: ipv6Text pieces ++ [']'])

end Host

namespace Url

/-- The host, unless it is empty. -/
def host? (url : Url) : Option Host :=
  url.authority.bind fun a => if a.host = .empty then none else some a.host

/-- The port, unless it is the usual one of the scheme. -/
def port? (url : Url) : Option Nat := url.authority.bind (·.port)

/-- A part with its mark in front, if there is one. -/
def marked (mark : String) : Option String → String
  | none => ""
  | some s => mark ++ s

/-- The name and password in front of a host. -/
def credentials (a : Authority) : String :=
  if a.username = "" ∧ a.password = "" then ""
  else a.username ++ (if a.password = "" then "" else ":" ++ a.password) ++ "@"

/-- What stands between the scheme and the path. -/
def authorityText : Option Authority → String
  | none => ""
  | some a =>
    "//" ++ credentials a ++ a.host.print
      ++ marked ":" (a.port.map fun port => String.ofList (Decimal.digits port))

/-- The URL without its query and its fragment. A path that starts with two slashes is kept apart
from the scheme where there is no authority. -/
def base (url : Url) : String :=
  let separate := url.authority.isNone && ['/', '/'].isPrefixOf url.path.toList
  url.scheme ++ ":" ++ authorityText url.authority ++ (if separate then "/." else "") ++ url.path

/-- The whole URL. -/
def print (url : Url) : String := url.base ++ marked "?" url.query ++ marked "#" url.fragment

end Url

end ArchiveAccounts
