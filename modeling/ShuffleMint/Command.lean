import ShuffleMint.Collaborator
import ShuffleMint.Entropy
import ShuffleMint.Payment
import ShuffleMint.Setup
import ShuffleMint.Tracker

/-!
# Commands

What a caller can ask of a mint that is set up, and what the commands have in common: who receives
the tokens, what has to be paid, and the message that mints a token in the contract of its
collection.
-/

namespace ShuffleMint

/-- The contract that a command is about. -/
inductive Target where
  | nothing
  | airdropper
  | whitelist
  deriving DecidableEq

/-- What a caller can ask of a mint. -/
inductive Command where
  /-- Change settings. -/
  | updateConfig (patch : ConfigPatch)
  /-- Create a collaborator; its reply replaces the one attached. -/
  | initModule (target : Target) (plan : ModulePlan)
  /-- Mint a random token, or one promised by the airdropper without saying which. -/
  | mint (promised : Bool) (recipient : Option String)
  /-- Mint one token of every collection. -/
  | mintBundle
  /-- Mint the tokens promised to an address, at most so many. -/
  | claimAirdrop (limit : Option Nat) (recipient : Option String)
  /-- Take the tokens assigned by the airdropper out of the random draw. -/
  | cleanAssigned
  /-- Shuffle the order before anything is minted. -/
  | shuffle
  /-- Forward a message to a collaborator. -/
  | forward (target : Target) (message : HookMessage)
  /-- Pay out what is held in escrow for an address. -/
  | disburse (address : String)
  /-- Stage tokens for the custom bundle. -/
  | stageBundle (count price : Nat) (purge : Bool) (tokens : Option (List Token))
  /-- Mint the next staged tokens as one bundle. -/
  | mintCustomBundle

/-- A call of a mint: where and when, by whom, with which coins, and what other contracts answer. -/
structure Call where
  env : Env
  sender : Address
  funds : List Coin
  answers : Answers

instance : MonadLift (Step Store) (Step CallState) where
  monadLift := CallState.onStore

/-- Who receives the tokens of a mint. Only those who administer it can name another than the
caller. -/
def resolveRecipient (c : Config) (sender : Address) (named : Option String) : Outcome Address := do
  match ← validateAddress? named with
  | none => .ok sender
  | some recipient =>
    if recipient = sender then .ok sender
    else if c.canAdminister sender then .ok recipient
    else .error (.rejected (.unauthorized .mintForAnother))

/-- The payment of a mint, which has to be the price exactly. -/
def checkPayment (c : Config) (funds : List Coin) (price : Nat) : Outcome Nat := do
  let paid ← mayPay c.denom funds
  if paid = price then .ok paid
  else .error (.rejected (.incorrectPayment (c.price paid) (c.price price)))

/-- The URI of a token: that of its collection, a slash, and its number. -/
def Collection.tokenUri (c : Collection) (number : Nat) : String :=
  c.baseUri ++ "/" ++ toString number

/-- The message that mints a token to an owner in the contract of its collection. -/
def mintMessage (owner : Address) (t : Token) : Step Store Message := do
  let collection ← Store.require fun s => s.collections.get? t.collection
  let s ← Step.get
  match s.collectionContracts.get? t.collection with
  | some contract =>
    pure (.execute contract (.mintToken t.number owner (collection.tokenUri t.number)))
  | none => Step.reject (.creationFailed (.collection t.collection))

end ShuffleMint
