import ShuffleMint.Command
import ShuffleMint.Escrow

/-!
# Minting a random token

A promised mint goes through the airdropper and is free. Any other mint goes through the whitelist
before the sale starts, if one is attached, at the price that the whitelist sets; from the start on,
or without a whitelist, it is a public one.
-/

namespace ShuffleMint

namespace Mint

/-- The collaborator that a mint goes through, if any. -/
def gatekeeper (c : Config) (now : Nat) (promised : Bool) : Outcome (Option Collaborator) :=
  if promised then
    match c.airdropper with
    | some contract => .ok (some (.airdropper contract))
    | none => .error (.rejected (.notEligible .noAirdropper))
  else if now < c.startTime then .ok (c.whitelist.map .whitelist)
  else .ok none

/-- The channel that a mint through a collaborator, or through none, is booked on. -/
def channelOf : Option Collaborator → Channel
  | some collaborator => collaborator.channel
  | none => .publicSale

/-- The price of a mint, after the collaborator it goes through has allowed it. -/
def priceOf (answers : Answers) (c : Config) (recipient : Address) :
    Option Collaborator → Step CallState Nat
  | some collaborator => do
    let eligibility ← collaborator.eligibility answers recipient
    eligibility.verify collaborator.channel 1
    pure eligibility.price
  | none => pure c.mintPrice

/-- Draws a token for a recipient who has paid, counts the mint and passes the payment on. -/
def draw (c : Config) (env : Env) (sender recipient : Address) (through : Option Collaborator)
    (payment : Nat) : Step Store Response := do
  let channel := channelOf through
  let allocator ← Store.loadAllocator
  let (token, allocator) ← Step.onCopy
    (do Allocator.ensureShuffled (env.entropy sender); Allocator.next none) allocator
  let mintIt ← mintMessage recipient token
  let _ ← recordMint c env.time channel recipient 1
  Store.saveAllocator allocator
  let payouts ← Escrow.settleRevenue c payment
  pure (Response.ofMessages
    [("action", "mint"), ("sender", sender), ("recipient", recipient), ("channel", channel.label),
      ("collection_id", toString token.collection), ("token_id", toString token.number),
      ("mint_price", toString payment)]
    (mintIt :: (through.map fun g => g.recordMint recipient).toList ++ payouts))

end Mint

/-- Mints a random token. -/
def Call.mint (call : Call) (promised : Bool) (named : Option String) : Step CallState Response := do
  let c ← Store.loadConfig
  let recipient ← resolveRecipient c call.sender named
  let through ← Mint.gatekeeper c call.env.time promised
  let s ← Step.get
  let _ ← s.store.checkMint c call.env.time (Mint.channelOf through) recipient 1
  let price ← Mint.priceOf call.answers c recipient through
  let payment ← checkPayment c call.funds price
  Mint.draw c call.env call.sender recipient through payment

end ShuffleMint
