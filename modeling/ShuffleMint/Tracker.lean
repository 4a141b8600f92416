import ShuffleMint.Store

/-!
# Channels and mint counts

A channel is open or not by the clock, the settings and the completion flags. While it is open, an
address may mint on it up to the cap of the channel. The count of an address is checked before it is
written, and nothing else ever lowers or raises it.
-/

namespace ShuffleMint

/-- Whether a channel takes mints, and if not, why. -/
inductive ChannelState where
  | notStarted
  | active
  | completed
  | expired
  deriving DecidableEq

namespace Channel

/-- The cap of a channel for one address. The collaborators cap the channels that they gate. -/
def cap? (c : Config) : Channel → Option Nat
  | publicSale => some c.mintCap
  | bundle => some c.bundleCap
  | customBundle => some c.bundleCap
  | whitelist => none
  | airdrop => none

/-- Whether a channel opens at the start time. The gated ones run on their collaborator's schedule. -/
def waitsForStart : Channel → Bool
  | whitelist => false
  | airdrop => false
  | _ => true

/-- The completion or the missing enablement of a bundle channel. -/
def bundleState? (c : Config) : Channel → Option ChannelState
  | bundle =>
    if c.bundleCompleted then some .completed
    else if c.bundleEnabled then none else some .notStarted
  | customBundle =>
    if c.customCompleted then some .completed
    else if c.customEnabled then none else some .notStarted
  | _ => none

/-- The state of a channel at an instant. The end comes first, then the flags, then the start. -/
def state (c : Config) (now : Nat) (channel : Channel) : ChannelState :=
  if c.endTime.any (· ≤ now) then .expired
  else
    match channel.bundleState? c with
    | some s => s
    | none => if channel.waitsForStart && now < c.startTime then .notStarted else .active

/-- Refuses a channel that takes no mints. -/
def requireActive (c : Config) (now : Nat) (channel : Channel) : Outcome Unit :=
  match channel.state c now with
  | .active => .ok ()
  | .notStarted => .error (.rejected (.mintingClosed (.notStarted channel)))
  | .completed => .error (.rejected (.mintingClosed (.completed channel)))
  | .expired => .error (.rejected (.mintingClosed (.ended channel)))

end Channel

namespace Store

/-- How often an address has minted on a channel. -/
def mintCount (s : Store) (channel : Channel) (address : Address) : Nat :=
  ((s.trackers.of channel).get? address).getD 0

/-- Writes how often an address has minted on a channel. -/
def withMintCount (s : Store) (channel : Channel) (address : Address) (count : Nat) : Store :=
  { s with
    trackers := s.trackers.update channel ((s.trackers.of channel).insert address count) }

/-- The count that an address would reach by so many more mints, if the channel is open and its cap
is kept. -/
def checkMint (s : Store) (c : Config) (now : Nat) (channel : Channel) (address : Address)
    (units : Nat) : Outcome Nat := do
  channel.requireActive c now
  let count ← addCounts (s.mintCount channel address) units
  match channel.cap? c with
  | some cap =>
    if cap < count then .error (.rejected (.capExceeded channel cap)) else .ok count
  | none => .ok count

end Store

/-- Counts mints of an address on a channel, after the same check, and yields the new count. -/
def recordMint (c : Config) (now : Nat) (channel : Channel) (address : Address) (units : Nat) :
    Step Store Nat := do
  let s ← Step.get
  let count ← s.checkMint c now channel address units
  Step.put (s.withMintCount channel address count)
  pure count

end ShuffleMint
