import ShuffleMint.Token

/-!
# Coins

A coin is an amount of one denomination. Money travels as lists of coins, in which a denomination
may come more than once.
-/

namespace ShuffleMint

/-- An amount of one denomination. -/
structure Coin where
  denom : String
  amount : Nat
  deriving DecidableEq

namespace Coin

/-- A coin in messages to people: the amount, then the denomination. -/
def label (c : Coin) : String := toString c.amount ++ c.denom

end Coin

end ShuffleMint
