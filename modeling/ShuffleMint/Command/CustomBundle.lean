import ShuffleMint.Command.Airdrop
import ShuffleMint.Escrow

/-!
# The custom bundle

Those who administer a mint may stage particular tokens, which are then sold in the order of their
staging, so many at a time for one price. Staged tokens cannot be drawn or claimed otherwise. The
channel is completed whenever fewer tokens are staged than a bundle has.
-/

namespace ShuffleMint

namespace CustomBundle

/-- Puts tokens back into the random draw and counts those that were staged. -/
def release : List Token → Step Allocator Nat
  | [] => pure 0
  | t :: ts => do
    let released ← Allocator.unstage t
    let more ← release ts
    pure (if released then more + 1 else more)

/-- Stages tokens after those already staged, and yields all of them. A token that is staged or
assigned by the airdropper is refused. -/
def stageEach (assigned : List Token) : List Token → List Token → Step Allocator (List Token)
  | [], staged => pure staged
  | t :: ts, staged =>
    if staged.contains t then Step.reject (.invalidConfig (.stagedTwice t))
    else if assigned.contains t then Step.reject (.invalidConfig (.promisedToken t))
    else do
      Allocator.stage t
      stageEach assigned ts (staged ++ [t])

/-- The tokens assigned by the airdropper, if there is one. It is not asked when nothing is staged. -/
def assignedTokens (answers : Answers) (c : Config) (tokens : List Token) :
    Step CallState (List Token) :=
  match c.airdropper with
  | some contract =>
    if tokens.isEmpty then pure [] else Airdropper.assignedTokens answers contract
  | none => pure []

/-- Releases the tokens staged before, if so asked, and stages others. Yields how many were released
and which are staged now. -/
def restage (purge : Bool) (staged assigned tokens : List Token) :
    Step Allocator (Nat × List Token) := do
  let released ← if purge then release staged else pure 0
  let staged ← stageEach assigned tokens (if purge then [] else staged)
  pure (released, staged)

/-- The configuration with the terms of a custom bundle of which so many tokens are staged. -/
def withTerms (c : Config) (count price staged : Nat) : Config :=
  { c with
    customEnabled := true
    customCompleted := staged < count
    customCount := count
    customPrice := price }

/-- The message that mints a staged token to its buyer. -/
def sellMessages (buyer : Address) (t : Token) : Step Store (List Message) := do
  let mintIt ← mintMessage buyer t
  pure [mintIt]

/-- Completes the channel if the tokens left fill no bundle, and yields the configuration then. -/
def close (c : Config) (left : List Token) : Step Store Config :=
  if left.length < c.customCount then do
    let c := { c with customCompleted := true }
    Store.saveConfig c
    pure c
  else pure c

/-- Sells a bundle of staged tokens to a buyer who has paid and counts the mint. What is left stays
staged. -/
def sell (c : Config) (env : Env) (buyer : Address) (payment : Nat) (bundle left : List Token) :
    Step Store Response := do
  let allocator ← Store.loadAllocator
  let (_, allocator) ← Step.onCopy (Allocator.ensureShuffled (env.entropy buyer)) allocator
  let (mints, allocator) ←
    Airdrop.issueEach Allocator.claimStaged (sellMessages buyer) bundle allocator
  let _ ← recordMint c env.time .customBundle buyer 1
  Store.saveAllocator allocator
  Store.saveStaged left
  let c ← close c left
  let payouts ← Escrow.settleRevenue c payment
  pure (Response.ofMessages
    [("action", "mint_custom_bundle"), ("sender", buyer), ("token_count", toString bundle.length),
      ("custom_bundle_completed", toString c.customCompleted), ("mint_price", toString payment)]
    (mints ++ payouts))

end CustomBundle

/-- Stages tokens for the custom bundle and sets its size and price. -/
def Call.stageBundle (call : Call) (count price : Nat) (purge : Bool)
    (tokens : Option (List Token)) : Step CallState Response := do
  requireNoFunds call.funds
  let c ← Store.loadConfig
  c.requireAdministrator call.sender
  if count = 0 then Step.reject (.invalidConfig .emptyBundle)
  else
    let allocator ← Store.loadAllocator
    let s ← Step.get
    let tokens := tokens.getD []
    let assigned ← CustomBundle.assignedTokens call.answers c tokens
    let ((released, staged), allocator) ← Step.onCopy
      (CustomBundle.restage purge s.store.stagedTokens assigned tokens) allocator
    Store.saveAllocator allocator
    Store.saveStaged staged
    Store.saveConfig (CustomBundle.withTerms c count price staged.length)
    pure (Response.silent
      [("action", "process_custom_bundle"), ("sender", call.sender),
        ("staged", toString staged.length), ("released", toString released),
        ("content_count", toString count), ("mint_price", toString price)])

/-- Mints the next staged tokens as one bundle. -/
def Call.mintCustomBundle (call : Call) : Step Store Response := do
  let c ← Store.loadConfig
  let s ← Step.get
  let _ ← s.checkMint c call.env.time .customBundle call.sender 1
  let payment ← checkPayment c call.funds c.customPrice
  let staged ← Store.require Store.staged
  if staged.length < c.customCount then Step.reject .soldOut
  else
    CustomBundle.sell c call.env call.sender payment (staged.take c.customCount)
      (staged.drop c.customCount)

end ShuffleMint
