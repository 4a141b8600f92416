import ShuffleMint.Message
import ShuffleMint.Store

/-!
# Collaborators

Two contracts may be attached to a mint. The whitelist opens a channel before the sale starts; the
airdropper promises mints, and particular tokens, to addresses. The mint asks them who is eligible
and tells them who has minted. What they answer is not under its control, so a call is given the
answers from outside, each of which may depend on what was asked before in the same call.
-/

namespace ShuffleMint

/-- What can be asked of a collaborator. -/
inductive Inquiry where
  | whitelistStatus (minter : Address)
  | promisedMints (minter : Address)
  | promisedTokens (minter : Address)
  | assignedTokens (start : Option Token) (limit : Nat)
  deriving DecidableEq

/-- A question to a contract. -/
structure Question where
  contract : Address
  inquiry : Inquiry
  deriving DecidableEq

/-- The whitelist on an address: whether minting is open, whether the address is listed, how often
it has minted, how often it may, and at which price. -/
structure WhitelistStatus where
  closed : Bool
  inProgress : Bool
  listed : Bool
  minted : Nat
  cap : Nat
  price : Nat
  deriving DecidableEq

/-- The airdropper on an address: how many mints it is promised and how many it has taken. -/
structure PromisedMints where
  closed : Bool
  inProgress : Bool
  promised : Nat
  claimed : Nat
  deriving DecidableEq

/-- The airdropper on an address: which tokens it is promised and which it has received. -/
structure PromisedTokens where
  closed : Bool
  inProgress : Bool
  promised : List Token
  claimed : List Token
  deriving DecidableEq

/-- Why a question has no answer. -/
inductive QueryFault where
  /-- There is no contract at the address. -/
  | noContract
  /-- The contract answers with an error. -/
  | refused (text : String)
  /-- The answer has another form than asked for. -/
  | unreadable
  deriving DecidableEq

namespace QueryFault

/-- The rejection that a question without an answer leads to. -/
def rejection (contract : Address) : QueryFault → Rejection
  | noContract => .general (.noSuchContract contract)
  | refused text => .general (.collaborator text)
  | unreadable => .unreadableAnswer

end QueryFault

/-- What the contracts outside answer, given the questions asked before, and how many pages of
assigned tokens one call may read. -/
structure Answers where
  whitelistStatus : List Question → Address → Address → Except QueryFault WhitelistStatus
  promisedMints : List Question → Address → Address → Except QueryFault PromisedMints
  promisedTokens : List Question → Address → Address → Except QueryFault PromisedTokens
  assignedTokens : List Question → Address → Option Token → Nat → Except QueryFault (List Token)
  pageBudget : Nat

/-- What a call reads and changes: the store, and the questions asked so far. -/
structure CallState where
  store : Store
  asked : List Question
  deriving DecidableEq

namespace CallState

/-- A step on the store. -/
def onStore {α : Type} (step : Step Store α) : Step CallState α :=
  Step.focus CallState.store (fun store s => { s with store }) step

/-- Asks a question and notes it, whatever comes of it. -/
def ask {α : Type} (q : Question) (answer : List Question → Except QueryFault α) :
    Step CallState α := do
  let s ← Step.get
  Step.put { s with asked := s.asked ++ [q] }
  match answer s.asked with
  | .ok a => pure a
  | .error fault => Step.reject (fault.rejection q.contract)

end CallState

/-- What a collaborator makes of one address. -/
structure Eligibility where
  isOpen : Bool
  listed : Bool
  minted : Nat
  cap : Nat
  price : Nat
  deriving DecidableEq

namespace Eligibility

/-- Refuses mints that the collaborator does not allow. -/
def verify (e : Eligibility) (channel : Channel) (units : Nat) : Outcome Unit :=
  if !e.isOpen then .error (.rejected (.mintingClosed (.notInProgress channel)))
  else if !e.listed then .error (.rejected (.notEligible (.notListed channel)))
  else do
    let count ← addCounts e.minted units
    if e.cap < count then .error (.rejected (.capExceeded channel e.cap)) else .ok ()

end Eligibility

namespace WhitelistStatus

/-- What the status of an address on the whitelist allows. -/
def eligibility (s : WhitelistStatus) : Eligibility :=
  ⟨!s.closed && s.inProgress, s.listed, s.minted, s.cap, s.price⟩

end WhitelistStatus

namespace PromisedMints

/-- What the promises to an address allow. A promised mint is free. -/
def eligibility (p : PromisedMints) : Eligibility :=
  ⟨!p.closed && p.inProgress, 0 < p.promised, p.claimed, p.promised, 0⟩

end PromisedMints

/-- A message that a caller wants forwarded. Only the execution of a contract can be, so of any
other message nothing but that it is another is kept. -/
inductive HookMessage where
  | execute (contract : Address) (payload : List UInt8) (funds : List Coin)
  | other
  deriving DecidableEq

/-- A contract attached to the mint, in its role. -/
inductive Collaborator where
  | whitelist (contract : Address)
  | airdropper (contract : Address)
  deriving DecidableEq

namespace Collaborator

/-- The address of a collaborator. -/
def address : Collaborator → Address
  | whitelist contract => contract
  | airdropper contract => contract

/-- The channel that a collaborator gates. -/
def channel : Collaborator → Channel
  | whitelist _ => .whitelist
  | airdropper _ => .airdrop

/-- Asks what a collaborator makes of an address. -/
def eligibility (answers : Answers) (minter : Address) : Collaborator → Step CallState Eligibility
  | whitelist contract => do
    let status ← CallState.ask ⟨contract, .whitelistStatus minter⟩
      fun asked => answers.whitelistStatus asked contract minter
    pure status.eligibility
  | airdropper contract => do
    let promises ← CallState.ask ⟨contract, .promisedMints minter⟩
      fun asked => answers.promisedMints asked contract minter
    pure promises.eligibility

/-- Tells a collaborator that an address has minted. -/
def recordMint (minter : Address) : Collaborator → Message
  | whitelist contract => .execute contract (.countWhitelistMint minter)
  | airdropper contract => .execute contract (.countPromisedMint minter)

/-- Tells a collaborator who maintains the mint. -/
def updateMaintainer (maintainer : Option Address) (c : Collaborator) : Message :=
  .execute c.address (.setMaintainer maintainer)

/-- Forwards a message to the collaborator it is meant for. It must carry no coins. -/
def forward (c : Collaborator) : HookMessage → Outcome Message
  | .execute contract payload funds =>
    if contract = c.address then
      if funds.isEmpty then .ok (.execute contract (.raw payload))
      else .error (.rejected (.unauthorized .hookWithFunds))
    else .error (.rejected .invalidTarget)
  | .other => .error (.rejected .invalidTarget)

end Collaborator

namespace Config

/-- The collaborators attached to a mint, the airdropper first. -/
def collaborators (c : Config) : List Collaborator :=
  (c.airdropper.map Collaborator.airdropper).toList ++
    (c.whitelist.map Collaborator.whitelist).toList

end Config

namespace Airdropper

/-- How many assigned tokens are asked for at a time. -/
def pageSize : Nat := 30

/-- Asks which tokens an address is promised. -/
def promisedTokens (answers : Answers) (contract minter : Address) :
    Step CallState PromisedTokens :=
  CallState.ask ⟨contract, .promisedTokens minter⟩
    fun asked => answers.promisedTokens asked contract minter

/-- Asks for the assigned tokens after a start, page by page, until one is not full. -/
def assignedAfter (answers : Answers) (contract : Address) :
    Nat → Option Token → Step CallState (List Token)
  | 0, _ => Step.fail .exhausted
  | pages + 1, start => do
    let page ← CallState.ask ⟨contract, .assignedTokens start pageSize⟩
      fun asked => answers.assignedTokens asked contract start pageSize
    if page.length < pageSize then pure page
    else
      let rest ← assignedAfter answers contract pages page.getLast?
      pure (page ++ rest)

/-- Asks for all assigned tokens. -/
def assignedTokens (answers : Answers) (contract : Address) : Step CallState (List Token) :=
  assignedAfter answers contract answers.pageBudget none

/-- Tells the airdropper that an address has received a token. -/
def markClaimed (contract minter : Address) (token : Token) : Message :=
  .execute contract (.markClaimed minter token)

end Airdropper

end ShuffleMint
