import ShuffleMint.Command

/-!
# Tokens promised by the airdropper

An address receives the particular tokens that it is promised, for free. So that no random draw
takes them before, the tokens that the airdropper has assigned can be taken out of the draw.
-/

namespace ShuffleMint

namespace Airdrop

/-- Issues tokens by name, one after the other, each with the messages that go with it. -/
def issueEach (claim : Token → Step Allocator Unit) (messages : Token → Step Store (List Message)) :
    List Token → Allocator → Step Store (List Message × Allocator)
  | [], a => pure ([], a)
  | t :: ts, a => do
    let (_, a) ← Step.onCopy (claim t) a
    let first ← messages t
    let (rest, a) ← issueEach claim messages ts a
    pure (first ++ rest, a)

/-- The promised tokens that are not claimed yet, in the order of the promise. -/
def unclaimed (p : PromisedTokens) (limit : Option Nat) : List Token :=
  (p.promised.filter fun t => !p.claimed.contains t).take (limit.getD (countBound - 1))

/-- Mints a token to its recipient and reports it to the airdropper. -/
def claimMessages (contract recipient : Address) (t : Token) : Step Store (List Message) := do
  let mintIt ← mintMessage recipient t
  pure [mintIt, Airdropper.markClaimed contract recipient t]

/-- Issues tokens to the recipient that they are promised to, and counts them. -/
def issue (c : Config) (env : Env) (sender recipient contract : Address) (tokens : List Token) :
    Step Store Response := do
  let s ← Step.get
  let _ ← s.checkMint c env.time .airdrop recipient tokens.length
  let allocator ← Store.loadAllocator
  let (_, allocator) ← Step.onCopy (Allocator.ensureShuffled (env.entropy sender)) allocator
  let (messages, allocator) ←
    issueEach Allocator.claim (claimMessages contract recipient) tokens allocator
  let _ ← recordMint c env.time .airdrop recipient tokens.length
  Store.saveAllocator allocator
  pure (Response.ofMessages
    [("action", "airdrop_claim"), ("sender", sender), ("recipient", recipient),
      ("token_count", toString tokens.length)]
    messages)

/-- Takes tokens out of the random draw. -/
def reserve (sender : Address) (tokens : List Token) : Step Store Response := do
  let allocator ← Store.loadAllocator
  let (removed, allocator) ← Step.onCopy (Allocator.reserveAll tokens) allocator
  Store.saveAllocator allocator
  pure (Response.silent
    [("action", "clean_claimed_tokens_from_shuffle"), ("sender", sender),
      ("removed", toString removed)])

end Airdrop

/-- Mints the tokens promised to an address. -/
def Call.claimAirdrop (call : Call) (limit : Option Nat) (named : Option String) :
    Step CallState Response := do
  requireNoFunds call.funds
  let c ← Store.loadConfig
  let recipient ← resolveRecipient c call.sender named
  match c.airdropper with
  | none => Step.reject (.notEligible .noAirdropper)
  | some contract =>
    let promised ← Airdropper.promisedTokens call.answers contract recipient
    if promised.closed || !promised.inProgress then
      Step.reject (.mintingClosed .claimsNotInProgress)
    else
      let tokens := Airdrop.unclaimed promised limit
      if tokens.isEmpty then Step.reject (.notEligible .nothingToClaim)
      else Airdrop.issue c call.env call.sender recipient contract tokens

/-- Takes the tokens assigned by the airdropper out of the random draw. -/
def Call.cleanAssigned (call : Call) : Step CallState Response := do
  requireNoFunds call.funds
  let c ← Store.loadConfig
  c.requireAdministrator call.sender
  match c.airdropper with
  | none => Step.reject .invalidTarget
  | some contract =>
    let assigned ← Airdropper.assignedTokens call.answers contract
    Airdrop.reserve call.sender assigned

end ShuffleMint
