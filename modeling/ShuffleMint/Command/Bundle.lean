import ShuffleMint.Command
import ShuffleMint.Escrow

/-!
# Minting a bundle

A bundle is one random token of every collection. When it leaves a collection without a token to
draw, no further bundle can be filled and the channel is completed.
-/

namespace ShuffleMint

namespace Bundle

/-- Draws the next token of each collection in turn. -/
def drawEach : List Nat → Step Allocator (List Token) :=
  Step.forEach fun collection => Allocator.next (some collection)

/-- Whether one of the collections has no token to draw. -/
def anyExhausted (a : Allocator) : List Nat → Outcome Bool
  | [] => .ok false
  | collection :: rest => do
    let n ← a.arena.pendingIn collection
    if n = 0 then .ok true else anyExhausted a rest

/-- Completes the channel if no further bundle can be filled, and yields the configuration then. -/
def close (c : Config) (exhausted : Bool) : Step Store Config :=
  if exhausted then do
    let c := { c with bundleCompleted := true }
    Store.saveConfig c
    pure c
  else pure c

end Bundle

/-- Mints one token of every collection. -/
def Call.mintBundle (call : Call) : Step Store Response := do
  let c ← Store.loadConfig
  let s ← Step.get
  let _ ← s.checkMint c call.env.time .bundle call.sender 1
  let payment ← checkPayment c call.funds c.bundlePrice
  let allocator ← Store.loadAllocator
  let collections := allocator.collectionIds
  let (tokens, allocator) ← Step.onCopy
    (do Allocator.ensureShuffled (call.env.entropy call.sender); Bundle.drawEach collections)
    allocator
  let mints ← Step.forEach (mintMessage call.sender) tokens
  let _ ← recordMint c call.env.time .bundle call.sender 1
  Store.saveAllocator allocator
  let exhausted ← Bundle.anyExhausted allocator collections
  let c ← Bundle.close c exhausted
  let payouts ← Escrow.settleRevenue c payment
  pure (Response.ofMessages
    [("action", "mint_bundle"), ("sender", call.sender), ("token_count", toString tokens.length),
      ("bundle_completed", toString c.bundleCompleted), ("mint_price", toString payment)]
    (mints ++ payouts))

end ShuffleMint
