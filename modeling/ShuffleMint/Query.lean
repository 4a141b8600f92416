import ShuffleMint.Address
import ShuffleMint.Tracker
import ShuffleMint.Escrow

/-!
# Queries

A query reads the store and changes nothing. Listings come in pages: the entries after a key, in
ascending order, thirty unless asked otherwise and never more than a hundred.
-/

namespace ShuffleMint

/-- The channels whose counts can be listed. -/
inductive ListedChannel where
  | publicSale
  | bundle
  | customBundle
  deriving DecidableEq

/-- The channel that is listed. -/
def ListedChannel.channel : ListedChannel → Channel
  | publicSale => .publicSale
  | bundle => .bundle
  | customBundle => .customBundle

/-- What can be asked of a mint. -/
inductive Query where
  | config
  | addressMints (minter : String)
  | mintCounts (channel : ListedChannel) (start : Option String) (limit : Option Nat)
  | balances (start : Option String) (limit : Option Nat)
  | collections (start : Option Nat) (limit : Option Nat)
  | supplies (start : Option Nat) (limit : Option Nat)
  | remaining (address : Option String)
  | collectionContracts
  | order
  | customBundle

/-- How often an address has minted on each channel. -/
structure AddressMints where
  address : Address
  publicSale : Nat
  whitelist : Nat
  airdrop : Nat
  bundle : Nat
  customBundle : Nat
  deriving DecidableEq

/-- The supply of a collection and what is left of it. -/
structure CollectionSupply where
  collection : Nat
  total : Nat
  issued : Nat
  remaining : Nat
  deriving DecidableEq

/-- What is left to mint, in all and, where one was named, for an address. -/
structure Remaining where
  total : Nat
  remaining : Nat
  bundles : Nat
  customBundles : Nat
  mintCap : Nat
  bundleCap : Nat
  minted : Option Nat
  bundlesMinted : Option Nat
  customBundlesMinted : Option Nat
  deriving DecidableEq

/-- How many slots are in which part of the order. -/
structure OrderState where
  shuffled : Bool
  locked : Bool
  total : Nat
  issued : Nat
  pending : Nat
  reserved : Nat
  deriving DecidableEq

/-- The terms of the custom bundle and the tokens staged for it. -/
structure CustomBundleState where
  enabled : Bool
  completed : Bool
  price : Nat
  count : Nat
  staged : List Token
  deriving DecidableEq

/-- The answer to a query. -/
inductive QueryAnswer where
  | config (config : Config) (shuffled : Bool)
  | addressMints (mints : AddressMints)
  | mintCounts (counts : List (Address × Nat))
  | balances (balances : List (Address × Nat))
  | collections (collections : List Collection)
  | supplies (supplies : List CollectionSupply)
  | remaining (remaining : Remaining)
  | collectionContracts (contracts : List (Nat × Address))
  | order (state : OrderState)
  | customBundle (state : CustomBundleState)

namespace Page

/-- The size of a page unless asked otherwise. -/
def usual : Nat := 30

/-- The largest size of a page. -/
def most : Nat := 100

/-- The size of a page for a limit. -/
def size (limit : Option Nat) : Nat := min (limit.getD usual) most

end Page

namespace Store

/-- How often an address has minted on each channel. -/
def addressMints (s : Store) (address : Address) : AddressMints where
  address := address
  publicSale := s.mintCount .publicSale address
  whitelist := s.mintCount .whitelist address
  airdrop := s.mintCount .airdrop address
  bundle := s.mintCount .bundle address
  customBundle := s.mintCount .customBundle address

/-- The supplies of collections with what is left of each. -/
def supplyListing : List (Nat × Supply) → Outcome (List CollectionSupply)
  | [] => .ok []
  | (collection, supply) :: rest => do
    let remaining ← supply.remaining
    let others ← supplyListing rest
    return ⟨collection, supply.total, supply.issued, remaining⟩ :: others

/-- How many tokens of each collection a draw can still reach. -/
def pendingCounts (a : Allocator) : List Nat → Outcome (List Nat)
  | [] => .ok []
  | collection :: rest => do
    let n ← a.arena.pendingIn collection
    let others ← pendingCounts a rest
    return n :: others

/-- How many bundles can still be minted: as many as the scarcest collection has tokens to draw. -/
def remainingBundles (c : Config) (a : Allocator) : Outcome Nat :=
  if c.bundleEnabled && !c.bundleCompleted then do
    let counts ← pendingCounts a a.collectionIds
    return counts.min?.getD 0
  else .ok 0

/-- How many custom bundles can still be minted from the staged tokens. -/
def remainingCustomBundles (s : Store) (c : Config) : Nat :=
  if c.customEnabled && !c.customCompleted && 0 < c.customCount then
    s.stagedTokens.length / c.customCount
  else 0

/-- What is left to mint. -/
def remaining (s : Store) (named : Option String) : Outcome Remaining := do
  let c ← s.demand Store.config
  let a ← s.demand Store.allocator?
  let bundles ← remainingBundles c a
  let left ← a.arena.remaining
  let address ← validateAddress? named
  return {
    total := a.arena.total
    remaining := left
    bundles
    customBundles := s.remainingCustomBundles c
    mintCap := c.mintCap
    bundleCap := c.bundleCap
    minted := address.map (s.mintCount .publicSale)
    bundlesMinted := address.map (s.mintCount .bundle)
    customBundlesMinted := address.map (s.mintCount .customBundle) }

/-- How many slots are in which part of the order. -/
def orderState (s : Store) : Outcome OrderState := do
  let a ← s.demand Store.allocator?
  let pending ← a.arena.pending
  let unissued ← a.arena.remaining
  let reserved ← subtractCounts unissued pending
  return {
    shuffled := a.arena.shuffled
    locked := 0 < a.arena.cursor
    total := a.arena.total
    issued := a.arena.cursor
    pending
    reserved }

/-- The terms of the custom bundle. -/
def customBundleState (s : Store) : Outcome CustomBundleState := do
  let c ← s.demand Store.config
  return {
    enabled := c.customEnabled
    completed := c.customCompleted
    price := c.customPrice
    count := c.customCount
    staged := s.stagedTokens }

/-- Answers a query. -/
def query (s : Store) : Query → Outcome QueryAnswer
  | .config => do
    let c ← s.demand Store.config
    let a ← s.demand Store.allocator?
    return .config c a.arena.shuffled
  | .addressMints minter => do
    let address ← validateAddress minter
    return .addressMints (s.addressMints address)
  | .mintCounts channel start limit => do
    let start ← validateAddress? start
    return .mintCounts ((s.trackers.of channel.channel).page start (Page.size limit))
  | .balances start limit => do
    let start ← validateAddress? start
    return .balances (s.balances.page start (Page.size limit))
  | .collections start limit =>
    .ok (.collections ((s.collections.page start (Page.size limit)).map Prod.snd))
  | .supplies start limit => do
    let listing ← supplyListing (s.supplies.page start (Page.size limit))
    return .supplies listing
  | .remaining named => (s.remaining named).map .remaining
  | .collectionContracts => .ok (.collectionContracts s.collectionContracts.entries)
  | .order => s.orderState.map .order
  | .customBundle => s.customBundleState.map .customBundle

end Store

end ShuffleMint
