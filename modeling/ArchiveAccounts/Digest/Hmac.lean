import ArchiveAccounts.Digest.Sha256

/-!
# Keyed digests

HMAC over SHA-256: two nested digests, each keyed with a mask of the key.
-/

namespace ArchiveAccounts.Digest
set_option autoImplicit false

/-- The key filled up to one block; a longer key is digested first. -/
def blockKey (key : List UInt8) : List UInt8 :=
  let short := if key.length > 64 then sha256 key else key
  short ++ List.replicate (64 - short.length) 0

/-- The HMAC of a message under a key. -/
def hmacSha256 (key message : List UInt8) : List UInt8 :=
  let block := blockKey key
  sha256 (block.map (· ^^^ 0x5c) ++ sha256 (block.map (· ^^^ 0x36) ++ message))

end ArchiveAccounts.Digest
