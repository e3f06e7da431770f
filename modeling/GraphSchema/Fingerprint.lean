/-
  This file defines fingerprints: words of sixty-four bits
  that are computed from a list of items and tell most
  different lists apart.  Different lists may have the same
  fingerprint, so that a fingerprint can only speed a
  comparison up.

  Key definitions include:
    * `FeedItem`
    * `Fingerprint`
    * `Fingerprint.mixing`
-/

------------------------------------------------------------
-- Fingerprints
------------------------------------------------------------

namespace GraphSchema

/- An item of what is fed to a fingerprint. -/
inductive FeedItem where
| tag (n : Nat)
| count (n : Nat)
| flag (b : Bool)
| text (s : String)
| word (w : UInt64)
deriving DecidableEq

/- A way to compute fingerprints from feeds. -/
class Fingerprint where
  ofFeed : List FeedItem → UInt64

end GraphSchema

------------------------------------------------------------
-- A Fingerprint by Mixing
------------------------------------------------------------

namespace GraphSchema

namespace Fingerprint

/- The words of an item.  A text has an end mark. -/
def words : FeedItem → List UInt64
| .tag n => [UInt64.ofNat n]
| .count n => [UInt64.ofNat n]
| .flag b => [if b then 1 else 0]
| .text s =>
    s.toList.map (fun c => UInt64.ofNat c.toNat)
      ++ [0xFFFFFFFF]
| .word w => [w]

/- Mix one more word into a fingerprint. -/
def mix (h w : UInt64) : UInt64 :=
  let mixed := (h ^^^ w) * 0x9E3779B97F4A7C15
  mixed ^^^ (mixed >>> 29)

/- The fingerprint that mixes all words of a feed. -/
@[reducible]
def mixing : Fingerprint where
  ofFeed items :=
    (items.flatMap words).foldl mix 0xCBF29CE484222325

end Fingerprint

end GraphSchema
