import ArchiveAccounts.Text.CombiningClass
import ArchiveAccounts.Text.Mark

/-!
# Joiners

Two characters without a shape ask for letters to be joined or not to be. A domain name may hold
them only where they change what is seen: after a sign that takes the vowel from a letter, and the
one that keeps letters apart also between letters that would be joined.
-/

namespace ArchiveAccounts.Url.Domain
set_option autoImplicit false

open Text

/-- Keeps letters apart. -/
def nonJoiner : Char := Char.ofNat 0x200C

/-- Joins letters. -/
def joiner : Char := Char.ofNat 0x200D

/-- Whether a code point lies in one of some closed ranges. -/
def isWithin (ranges : List (Nat × Nat)) (c : Char) : Bool :=
  ranges.any fun r => decide (r.1 ≤ c.toNat) && decide (c.toNat ≤ r.2)

/-- Letters that are joined with the one before them only. -/
def joinsBackward (c : Char) : Bool :=
  isWithin [(0x622, 0x625), (0x627, 0x627), (0x629, 0x629), (0x62F, 0x632), (0x648, 0x648),
    (0x671, 0x673), (0x675, 0x677), (0x688, 0x699), (0x6C0, 0x6C0), (0x6C3, 0x6CB), (0x6CD, 0x6CD),
    (0x6CF, 0x6CF), (0x6D2, 0x6D3), (0x6D5, 0x6D5), (0x6EE, 0x6EF), (0x710, 0x710), (0x715, 0x719),
    (0x71E, 0x71E), (0x728, 0x728), (0x72A, 0x72A), (0x72C, 0x72C), (0x72F, 0x72F), (0x74D, 0x74D),
    (0x759, 0x75B), (0x76B, 0x76C), (0x771, 0x771), (0x773, 0x774), (0x778, 0x779)] c

/-- Letters that are joined with those on both sides of them. -/
def joinsBothWays (c : Char) : Bool :=
  isWithin [(0x620, 0x620), (0x626, 0x626), (0x628, 0x628), (0x62A, 0x62E), (0x633, 0x63F),
    (0x641, 0x647), (0x649, 0x64A), (0x66E, 0x66F), (0x678, 0x687), (0x69A, 0x6BF), (0x6C1, 0x6C2),
    (0x6CC, 0x6CC), (0x6CE, 0x6CE), (0x6D0, 0x6D1), (0x6FA, 0x6FC), (0x6FF, 0x6FF), (0x712, 0x714),
    (0x71A, 0x71D), (0x71F, 0x727), (0x729, 0x729), (0x72B, 0x72B), (0x72D, 0x72E), (0x74E, 0x758),
    (0x75C, 0x76A), (0x76D, 0x770), (0x772, 0x772), (0x775, 0x777), (0x77A, 0x77F),
    (0x7CA, 0x7EA)] c

/-- Whether a joiner may stand between the characters `before` it, the nearest one first, and those
`after` it. -/
def isJoinerAllowed (c : Char) (before after : List Char) : Bool :=
  before.head?.any (fun b => combiningClass b == viramaClass) ||
    (c == nonJoiner &&
      ((before.dropWhile isNonspacingMark).head?.any joinsBothWays &&
        (after.dropWhile isNonspacingMark).head?.any fun a => joinsBothWays a || joinsBackward a))

/-- Whether all joiners of a label stand where they may, after the characters `before`. -/
def joinersAllowed (before : List Char) : List Char → Bool
  | [] => true
  | c :: after =>
    (!(c == nonJoiner || c == joiner) || isJoinerAllowed c before after) &&
      joinersAllowed (c :: before) after

end ArchiveAccounts.Url.Domain
