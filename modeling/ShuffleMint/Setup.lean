import ShuffleMint.Config.Patch
import ShuffleMint.Entropy
import ShuffleMint.Message
import ShuffleMint.Store
import ShuffleMint.Uri

/-!
# Setting a mint up

The setup fixes the collections on sale, numbers them, writes the first configuration and asks the
chain to create the contracts that the mint needs: one for each collection, and the collaborators
that are not there yet. Each is created under a reply id of its own, by which its address comes back.
-/

namespace ShuffleMint

/-- How the administrator of a new contract is chosen. -/
inductive AdminChoice where
  | address (text : String)
  /-- The contract that creates it. -/
  | creator
  | nobody
  deriving DecidableEq

namespace AdminChoice

/-- The administrator of a contract that the mint creates. -/
def forChild (self : Address) : AdminChoice → Option Address
  | address text => some text
  | creator => some self
  | nobody => none

/-- The role that a choice gives for the mint itself. The creator is then who sets it up. -/
def role (sender : Address) : AdminChoice → Outcome AdminRole
  | address text => (validateAddress text).map .address
  | creator => .ok (.coreContract sender)
  | nobody => .ok .nobody

end AdminChoice

/-- A contract that the mint is asked to create. -/
structure ModulePlan where
  code : Nat
  payload : List UInt8
  admin : AdminChoice
  label : String
  deriving DecidableEq

/-- The message that creates a planned contract. -/
def ModulePlan.message (plan : ModulePlan) (self : Address) : Message :=
  .create (plan.admin.forChild self) plan.code (.raw plan.payload) plan.label

/-- A collection as it is asked for. -/
structure CollectionRequest where
  name : String
  symbol : String
  baseUri : String
  supply : Nat

/-- What a mint is set up with. Without a choice the sender administers it. -/
structure Setup where
  admin : Option AdminChoice
  maintainer : Option String
  airdropper : Option String
  whitelist : Option String
  startTime : Nat
  endTime : Option Nat
  mintCap : Nat
  bundleCap : Nat
  mintPrice : Nat
  bundlePrice : Nat
  denom : String
  collectionCode : Nat
  escrowFunds : Bool
  bundleEnabled : Bool
  collections : List CollectionRequest
  royalties : RoyaltiesRequest
  airdropperPlan : Option ModulePlan
  whitelistPlan : Option ModulePlan

namespace ReplyId

/-- The reply id of the airdropper. -/
def airdropper : Nat := 1

/-- The reply id of the whitelist. -/
def whitelist : Nat := 2

/-- The id of the first collection. The others count up from it. -/
def firstCollection : Nat := 101

end ReplyId

namespace ContractInfo

/-- The name and version that this mint writes. -/
def current : ContractInfo := ⟨"crates.io:nft-minter", "0.2.0"⟩

end ContractInfo

namespace Collection

/-- How many tokens collections have together. -/
def totalSupply : List Collection → Nat
  | [] => 0
  | c :: rest => c.supply + totalSupply rest

end Collection

namespace CollectionRequest

/-- Refuses a collection without tokens or without a usable base for the URIs of its tokens. -/
def validate (r : CollectionRequest) : Outcome Unit :=
  match Uri.scheme r.baseUri with
  | .error fault => .error (.rejected (.invalidConfig (.baseUri fault)))
  | .ok scheme =>
    if scheme ≠ "ipfs" ∧ scheme ≠ "https" then .error (.rejected (.invalidConfig .baseUriScheme))
    else if r.supply = 0 then .error (.rejected (.invalidConfig (.emptyCollection r.name)))
    else .ok ()

/-- The collections asked for, numbered from an id on. -/
def number : Nat → List CollectionRequest → List Collection
  | _, [] => []
  | id, r :: rest => ⟨id, r.supply, r.name, r.symbol, r.baseUri⟩ :: number (id + 1) rest

/-- Refuses the first collection that is not valid. -/
def validateEach : List CollectionRequest → Outcome Unit
  | [] => .ok ()
  | r :: rest => do
    r.validate
    validateEach rest

/-- The numbered collections, if each is valid and together they have as many tokens as a mint may
have. A sum too large for a count is reported as the largest count. -/
def validateAll (rs : List CollectionRequest) : Outcome (List Collection) := do
  validateEach rs
  let collections := number ReplyId.firstCollection rs
  let total := min (countBound - 1) (Collection.totalSupply collections)
  if 1 ≤ total ∧ total ≤ maxSupply then .ok collections
  else .error (.rejected (.invalidConfig (.collectionsSupply maxSupply total)))

end CollectionRequest

namespace Collection

/-- The message that creates the contract of a collection, over which the mint has the only say. -/
def creation (c : Collection) (code : Nat) (self : Address) : Dispatch :=
  ⟨some c.id, .create none code (.createCollection c.name c.symbol self) (c.name ++ " collection")⟩

end Collection

namespace Setup

/-- Refuses a sale that has started or ended, and a collaborator that is both given and planned. -/
def validateRequest (m : Setup) (now : Nat) : Outcome Unit :=
  if m.startTime < now then .error (.rejected (.invalidConfig .startPassed))
  else if m.endTime.any (· ≤ now) then .error (.rejected (.invalidConfig .endNotAhead))
  else if m.airdropper.isSome ∧ m.airdropperPlan.isSome then
    .error (.rejected (.invalidConfig .airdropperTwice))
  else if m.whitelist.isSome ∧ m.whitelistPlan.isSome then
    .error (.rejected (.invalidConfig .whitelistTwice))
  else .ok ()

/-- The first configuration of a mint with so many tokens, before it is validated. -/
def config (m : Setup) (sender : Address) (totalSupply : Nat) : Outcome Config := do
  let admin ← (m.admin.getD (.address sender)).role sender
  let maintainer ← validateAddress? m.maintainer
  let airdropper ← validateAddress? m.airdropper
  let whitelist ← validateAddress? m.whitelist
  let royalties ← m.royalties.validate
  return {
    admin, maintainer, airdropper, whitelist, royalties, totalSupply
    startTime := m.startTime
    endTime := m.endTime
    mintCap := m.mintCap
    bundleCap := m.bundleCap
    mintPrice := m.mintPrice
    bundlePrice := m.bundlePrice
    denom := m.denom
    collectionCode := m.collectionCode
    escrowFunds := m.escrowFunds
    bundleEnabled := m.bundleEnabled
    bundleCompleted := false
    customEnabled := false
    customCompleted := false
    customPrice := 0
    customCount := 0 }

/-- The messages that create the planned collaborators, the airdropper first. -/
def moduleCreations (m : Setup) (self : Address) : List Dispatch :=
  (m.airdropperPlan.map fun plan => ⟨some ReplyId.airdropper, plan.message self⟩).toList ++
    (m.whitelistPlan.map fun plan => ⟨some ReplyId.whitelist, plan.message self⟩).toList

/-- Sets a mint up. The name and version are written first and stay written when the rest fails. -/
def run (m : Setup) (env : Env) (sender : Address) : Step Store Response := do
  Step.modify fun s => { s with contractInfo := some ContractInfo.current }
  m.validateRequest env.time
  let collections ← CollectionRequest.validateAll m.collections
  let totalSupply := Collection.totalSupply collections
  let config ← m.config sender totalSupply
  config.validate
  Store.saveConfig config
  let allocator ← Allocator.ofCollections (collections.map fun c => (c.id, c.supply))
  Store.saveAllocator allocator
  Store.saveStaged []
  Step.modify fun s =>
    { s with
      escrowTotals := some ⟨0, 0⟩
      collections := collections.foldl (fun m c => m.insert c.id c) s.collections }
  pure {
    attributes :=
      [("action", "instantiate"), ("contract_name", ContractInfo.current.contract),
        ("contract_version", ContractInfo.current.version), ("sender", sender),
        ("total_token_supply", toString totalSupply)]
    dispatches :=
      m.moduleCreations env.self ++
        collections.map fun c => c.creation config.collectionCode env.self }

end Setup

end ShuffleMint
