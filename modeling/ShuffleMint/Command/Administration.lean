import ShuffleMint.Command
import ShuffleMint.Escrow

/-!
# Administration

The commands of those who administer a mint: its settings, its collaborators and its escrow. Anyone
may also shuffle the order for a fee, which those who administer the mint do not pay.
-/

namespace ShuffleMint

namespace Config

/-- Applies a patch by a caller at an instant, and writes the configuration if it is valid. -/
def update (now : Nat) (caller : Address) (patch : ConfigPatch) : Step Store Config := do
  let c ← Store.loadConfig
  c.requireAdministrator caller
  if patch.endTime.value.any (· ≤ now) then Step.reject (.invalidConfig .endNotAhead)
  else
    let (_, c) ← Step.onCopy patch.apply c
    c.validate
    Store.saveConfig c
    pure c

/-- What the collaborators are told when the maintainer has changed. -/
def maintainerMessages (before after : Config) : List Message :=
  if after.maintainer = before.maintainer then []
  else after.collaborators.map (Collaborator.updateMaintainer after.maintainer)

/-- The collaborator attached in the role that a target names. -/
def attached (c : Config) : Target → Option Collaborator
  | .airdropper => c.airdropper.map .airdropper
  | .whitelist => c.whitelist.map .whitelist
  | .nothing => none

end Config

/-- What shuffling costs anyone who does not administer the mint. -/
def shuffleFee : Nat := 500000000

/-- Changes settings. -/
def Call.updateConfig (call : Call) (patch : ConfigPatch) : Step Store Response := do
  requireNoFunds call.funds
  let before ← Store.loadConfig
  let after ← Config.update call.env.time call.sender patch
  pure (Response.ofMessages [("action", "update_config"), ("sender", call.sender)]
    (before.maintainerMessages after))

/-- The reply id under which a target is created. -/
def Target.replyId? : Target → Option Nat
  | .airdropper => some ReplyId.airdropper
  | .whitelist => some ReplyId.whitelist
  | .nothing => none

/-- Creates a collaborator. -/
def Call.initModule (call : Call) (target : Target) (plan : ModulePlan) : Step Store Response := do
  requireNoFunds call.funds
  let c ← Store.loadConfig
  c.requireAdministrator call.sender
  match target.replyId? with
  | none => Step.reject .invalidTarget
  | some id =>
    pure ⟨[("action", "init_submodule"), ("sender", call.sender)],
      [⟨some id, plan.message call.env.self⟩]⟩

/-- The messages that take the fee of a shuffle. Who administers the mint pays none and sends no
coins. -/
def chargeShuffle (c : Config) (sender : Address) (funds : List Coin) : Outcome (List Message) :=
  if c.canAdminister sender then (requireNoFunds funds).map fun _ => []
  else chargeFee shuffleFee funds

/-- Shuffles the order. -/
def Call.shuffle (call : Call) : Step Store Response := do
  let c ← Store.loadConfig
  let allocator ← Store.loadAllocator
  let (_, allocator) ← Step.onCopy
    (Allocator.initializeShuffle (call.env.entropy call.sender)) allocator
  let messages ← chargeShuffle c call.sender call.funds
  Store.saveAllocator allocator
  pure (Response.ofMessages [("action", "shuffle_token_order"), ("sender", call.sender)] messages)

/-- Forwards a message to a collaborator. -/
def Call.forward (call : Call) (target : Target) (message : HookMessage) : Step Store Response := do
  requireNoFunds call.funds
  let c ← Store.loadConfig
  c.requireAdministrator call.sender
  match c.attached target with
  | none => Step.reject .invalidTarget
  | some collaborator =>
    let forwarded ← collaborator.forward message
    pure (Response.ofMessages
      [("action", "submodule_hook"), ("sender", call.sender), ("target", collaborator.address)]
      [forwarded])

/-- Pays out what is held in escrow for an address. -/
def Call.disburse (call : Call) (address : String) : Step Store Response := do
  requireNoFunds call.funds
  let c ← Store.loadConfig
  c.requireAdministrator call.sender
  let payee ← validateAddress address
  let amount ← Escrow.disburse payee
  pure (Response.ofMessages
    [("action", "disburse_funds"), ("sender", call.sender), ("recipient", payee),
      ("amount", toString amount)]
    (if amount = 0 then [] else [.send payee [c.price amount]]))

end ShuffleMint
