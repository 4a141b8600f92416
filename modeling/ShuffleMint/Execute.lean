import ShuffleMint.Command.Administration
import ShuffleMint.Command.Airdrop
import ShuffleMint.Command.Bundle
import ShuffleMint.Command.CustomBundle
import ShuffleMint.Command.Mint

/-!
# Carrying out commands

Every command of a call, on the store and on the questions that the call has asked.
-/

namespace ShuffleMint

namespace Call

/-- Carries a command out. -/
def execute (call : Call) : Command → Step CallState Response
  | .updateConfig patch => call.updateConfig patch
  | .initModule target plan => call.initModule target plan
  | .mint promised recipient => call.mint promised recipient
  | .mintBundle => call.mintBundle
  | .claimAirdrop limit recipient => call.claimAirdrop limit recipient
  | .cleanAssigned => call.cleanAssigned
  | .shuffle => call.shuffle
  | .forward target message => call.forward target message
  | .disburse address => call.disburse address
  | .stageBundle count price purge tokens => call.stageBundle count price purge tokens
  | .mintCustomBundle => call.mintCustomBundle

end Call

end ShuffleMint
