import ArchiveAccounts.Text.Normal
import ArchiveAccounts.Url.Domain.Direction
import ArchiveAccounts.Url.Domain.Joiner
import ArchiveAccounts.Url.Domain.Mapping
import ArchiveAccounts.Url.Punycode

/-!
# Domain names

The ASCII form of a domain name: characters mapped and composed, and labels with others than ASCII
written in Punycode after `xn--`. A label that comes in that form already has to write one that
could have been given.
-/

namespace ArchiveAccounts.Url.Domain
set_option autoImplicit false

open Text

/-- The ASCII characters that no domain may hold. -/
def isForbidden (c : Char) : Bool :=
  c.toNat ≤ 0x20 || c.toNat == 0x7F || ['#', '/', ':', '<', '>', '?', '@', '[', '\\', ']', '^', '|',
    '%'].contains c

/-- The form in which texts are compared that name the same domain. -/
def normalForm? (s : List Char) : Option (List Char) := do
  let mapped ← s.mapM mapChar?
  let form := composedForm mapped.flatten
  if form.any isForbidden then none else some form

/-- What stands in front of a label in Punycode. -/
def punycodeMark : List Char := ['x', 'n', '-', '-']

/-- Whether a label of other characters than ASCII can be part of a domain. -/
def isReadable (label : List Char) : Bool :=
  !(label.head?.any isMark) && joinersAllowed [] label && (dropLead? punycodeMark label).isNone

/-- The label that a normal one is read as; none if it can be no part of a domain. -/
def readLabel? (label : List Char) : Option (List Char) :=
  if isAscii label then
    match dropLead? punycodeMark label with
    | none => some label
    | some encoded => do
      let written ← Punycode.decode? encoded
      if !isAscii written && normalForm? written == some written && isReadable written then
        some written
      else none
  else if isReadable label then some label
  else none

/-- The ASCII form of a label. -/
def writeLabel (label : List Char) : List Char :=
  if isAscii label then label else punycodeMark ++ Punycode.encode label

/-- The ASCII form of a domain name. -/
def toAscii? (domain : List Char) : Option (List Char) := do
  let form ← normalForm? domain
  let labels ← (splitAt '.' form).mapM readLabel?
  if directionsAgree labels then some (List.intercalate ['.'] (labels.map writeLabel)) else none

end ArchiveAccounts.Url.Domain
