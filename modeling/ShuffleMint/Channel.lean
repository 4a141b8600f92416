/-!
# Mint channels

A mint is booked on one of five channels, and every address has a count of its own on each.
-/

namespace ShuffleMint

/-- The ways of minting. -/
inductive Channel where
  | publicSale
  | whitelist
  | airdrop
  | bundle
  | customBundle
  deriving DecidableEq

namespace Channel

/-- The name of a channel in messages to people. -/
def label : Channel → String
  | publicSale => "public"
  | whitelist => "whitelist"
  | airdrop => "airdrop"
  | bundle => "bundle"
  | customBundle => "custom bundle"

end Channel

end ShuffleMint
