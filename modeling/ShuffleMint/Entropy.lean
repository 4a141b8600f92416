import ShuffleMint.Hash.Sha256
import ShuffleMint.Random.Generator
import ShuffleMint.Token

/-!
# Where and when a call runs, and the seed it gives

The first call that issues a token, or a caller who asks for it, shuffles the order with a seed made
from the sender and from the place of the call on the chain.
-/

namespace ShuffleMint

/-- Where and when a call runs: the instant and height of its block, its place in the block, and the
address of the mint. -/
structure Env where
  time : Nat
  height : Nat
  transaction : Option Nat
  self : Address

namespace Env

/-- The text that a shuffle is seeded with: the sender, then height, time and place in decimal. -/
def entropyText (env : Env) (sender : Address) : String :=
  sender ++ toString env.height ++ toString env.time ++ toString (env.transaction.getD 0)

/-- The seed of a shuffle: the first half of the digest of its text. -/
def entropy (env : Env) (sender : Address) : Seed :=
  let digest := Sha256.digest (env.entropyText sender).toUTF8.toList
  Vector.ofFn fun i => digest.getD i 0

end Env

end ShuffleMint
