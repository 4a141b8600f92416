import ShuffleMint.Failure

/-!
# The configuration of a mint

The configuration says who administers the mint, when it is open, what a mint costs and in which
denomination, how many mints an address may make, and who shares the revenue. Instants are counted
in nanoseconds, shares in basis points.
-/

namespace ShuffleMint

/-- Who may administer a mint, besides its maintainer. -/
inductive AdminRole where
  /-- One address. -/
  | address (addr : Address)
  /-- The contract that created the mint. -/
  | coreContract (addr : Address)
  /-- Nobody. -/
  | nobody
  deriving DecidableEq

namespace AdminRole

/-- The address that the role is given to. -/
def addr? : AdminRole → Option Address
  | address addr => some addr
  | coreContract addr => some addr
  | nobody => none

/-- Whether a caller has the role. -/
def authorizes (role : AdminRole) (caller : Address) : Bool := role.addr? == some caller

end AdminRole

/-- A share of revenue or royalties in basis points. A primary share takes what the others leave. -/
structure Share where
  address : Address
  points : Nat
  primary : Bool
  deriving DecidableEq

/-- Who shares the revenue of mints, and who the royalties of later sales. -/
structure Royalties where
  revenue : List Share
  secondary : List Share
  deriving DecidableEq

/-- The settings of a mint and the completion flags of its bundles. -/
structure Config where
  admin : AdminRole
  maintainer : Option Address
  airdropper : Option Address
  whitelist : Option Address
  startTime : Nat
  endTime : Option Nat
  totalSupply : Nat
  mintCap : Nat
  bundleCap : Nat
  mintPrice : Nat
  bundlePrice : Nat
  denom : String
  collectionCode : Nat
  escrowFunds : Bool
  bundleEnabled : Bool
  bundleCompleted : Bool
  customEnabled : Bool
  customCompleted : Bool
  customPrice : Nat
  customCount : Nat
  royalties : Royalties
  deriving DecidableEq

namespace Config

/-- Whether a caller has the administrator's role. -/
def isAdmin (c : Config) (caller : Address) : Bool := c.admin.authorizes caller

/-- Whether a caller is the maintainer. -/
def isMaintainer (c : Config) (caller : Address) : Bool := c.maintainer == some caller

/-- Whether a caller may administer the mint. -/
def canAdminister (c : Config) (caller : Address) : Bool := c.isAdmin caller || c.isMaintainer caller

/-- Refuses a caller that may not administer the mint. -/
def requireAdministrator (c : Config) (caller : Address) : Outcome Unit :=
  if c.canAdminister caller then .ok ()
  else .error (.rejected (.unauthorized .notAdministrator))

/-- An amount of the denomination in which mints are paid. -/
def price (c : Config) (amount : Nat) : Coin := ⟨c.denom, amount⟩

end Config

end ShuffleMint
