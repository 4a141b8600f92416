import ShuffleMint.Allocator
import ShuffleMint.Config

/-!
# The store

Everything that a mint remembers between calls. Each part may be absent, as all of them are before
the mint is set up; a step that needs an absent part is rejected.
-/

namespace ShuffleMint

/-- The mint counts of every channel, by address. -/
structure Trackers where
  publicSale : SortedMap Address Nat
  whitelist : SortedMap Address Nat
  airdrop : SortedMap Address Nat
  bundle : SortedMap Address Nat
  customBundle : SortedMap Address Nat
  deriving DecidableEq

namespace Trackers

/-- No counts. -/
def empty : Trackers :=
  ⟨SortedMap.empty, SortedMap.empty, SortedMap.empty, SortedMap.empty, SortedMap.empty⟩

/-- The counts of a channel. -/
def of (t : Trackers) : Channel → SortedMap Address Nat
  | .publicSale => t.publicSale
  | .whitelist => t.whitelist
  | .airdrop => t.airdrop
  | .bundle => t.bundle
  | .customBundle => t.customBundle

/-- Replaces the counts of a channel. -/
def update (t : Trackers) (channel : Channel) (counts : SortedMap Address Nat) : Trackers :=
  match channel with
  | .publicSale => { t with publicSale := counts }
  | .whitelist => { t with whitelist := counts }
  | .airdrop => { t with airdrop := counts }
  | .bundle => { t with bundle := counts }
  | .customBundle => { t with customBundle := counts }

end Trackers

/-- What was ever paid into escrow and what was ever paid out of it. -/
structure EscrowTotals where
  deposited : Nat
  disbursed : Nat
  deriving DecidableEq

/-- The name and version that the mint was last set up or migrated with. -/
structure ContractInfo where
  contract : String
  version : String
  deriving DecidableEq

/-- Everything that a mint remembers between calls. -/
structure Store where
  config : Option Config
  arena : Option Arena
  supplies : SortedMap Nat Supply
  staged : Option (List Token)
  collections : SortedMap Nat Collection
  collectionContracts : SortedMap Nat Address
  trackers : Trackers
  balances : SortedMap Address Nat
  escrowTotals : Option EscrowTotals
  contractInfo : Option ContractInfo
  deriving DecidableEq

namespace Store

/-- The store before the mint is set up. -/
def empty : Store where
  config := none
  arena := none
  supplies := SortedMap.empty
  staged := none
  collections := SortedMap.empty
  collectionContracts := SortedMap.empty
  trackers := Trackers.empty
  balances := SortedMap.empty
  escrowTotals := none
  contractInfo := none

/-- The allocator: the arena, if there is one, and the supplies. -/
def allocator? (s : Store) : Option Allocator := s.arena.map fun arena => ⟨arena, s.supplies⟩

/-- A part of a store that has to be there. -/
def demand {α : Type} (s : Store) (part : Store → Option α) : Outcome α :=
  match part s with
  | some a => .ok a
  | none => .error (.rejected .missingEntry)

/-- A part of the store at hand that has to be there. -/
def require {α : Type} (part : Store → Option α) : Step Store α := fun s => (s.demand part, s)

/-- The stored configuration. -/
def loadConfig : Step Store Config := require Store.config

/-- Replaces the configuration. -/
def saveConfig (c : Config) : Step Store Unit := Step.modify fun s => { s with config := some c }

/-- The stored allocator. -/
def loadAllocator : Step Store Allocator := require Store.allocator?

/-- The stored supplies with those of an allocator written over them. -/
def withSupplies (stored : SortedMap Nat Supply) (written : SortedMap Nat Supply) :
    SortedMap Nat Supply :=
  written.entries.foldl (fun m e => m.insert e.1 e.2) stored

/-- Writes an allocator into the store. -/
def saveAllocator (a : Allocator) : Step Store Unit :=
  Step.modify fun s =>
    { s with arena := some a.arena, supplies := withSupplies s.supplies a.supplies }

/-- The tokens staged for the custom bundle; none before the first are. -/
def stagedTokens (s : Store) : List Token := s.staged.getD []

/-- Replaces the tokens staged for the custom bundle. -/
def saveStaged (tokens : List Token) : Step Store Unit :=
  Step.modify fun s => { s with staged := some tokens }

end Store

end ShuffleMint
