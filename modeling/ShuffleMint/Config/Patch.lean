import ShuffleMint.Address
import ShuffleMint.Config.Validation
import ShuffleMint.Step

/-!
# Patches of a configuration

A patch sets some of the settings and may remove those that are optional. It is applied setting by
setting; when one cannot be changed, those before it are already changed in the copy at hand.
-/

namespace ShuffleMint

/-- A share as a caller writes it, with the text of an address. -/
structure ShareRequest where
  address : String
  points : Nat
  primary : Bool

/-- Revenue shares and royalties as a caller writes them. -/
structure RoyaltiesRequest where
  revenue : List ShareRequest
  secondary : List ShareRequest

/-- What a patch does to an optional setting: a new value, or its removal. -/
structure Change (α : Type) where
  value : Option α
  remove : Bool

/-- A partial update. What it does not mention stays as it is. -/
structure ConfigPatch where
  maintainer : Change String
  airdropper : Change String
  whitelist : Change String
  startTime : Option Nat
  endTime : Change Nat
  mintCap : Option Nat
  bundleCap : Option Nat
  mintPrice : Option Nat
  bundlePrice : Option Nat
  denom : Option String
  escrowFunds : Option Bool
  bundleEnabled : Option Bool
  royalties : Option RoyaltiesRequest

/-- The shares of which every address text is an address. -/
def ShareRequest.validateAll : List ShareRequest → Outcome (List Share)
  | [] => .ok []
  | r :: rest => do
    let address ← validateAddress r.address
    let shares ← validateAll rest
    return ⟨address, r.points, r.primary⟩ :: shares

/-- The royalties of which every address text is an address. -/
def RoyaltiesRequest.validate (r : RoyaltiesRequest) : Outcome Royalties := do
  let revenue ← ShareRequest.validateAll r.revenue
  let secondary ← ShareRequest.validateAll r.secondary
  return ⟨revenue, secondary⟩

namespace Change

/-- The value of an optional setting after a change. -/
def apply {α : Type} (field : RemovableField) (current : Option α) (c : Change α) :
    Outcome (Option α) :=
  match c.value, c.remove with
  | some _, true => .error (.rejected (.invalidConfig (.setAndRemoved field)))
  | some value, false => .ok (some value)
  | none, true => .ok none
  | none, false => .ok current

/-- The value of an optional address after a change, whose text has to be an address. -/
def applyAddress (field : RemovableField) (current : Option Address) (c : Change String) :
    Outcome (Option Address) := do
  let value ← validateAddress? c.value
  apply field current ⟨value, c.remove⟩

end Change

namespace ConfigPatch

/-- Changes the addresses of the maintainer and the collaborators. -/
def applyAddresses (p : ConfigPatch) : Step Config Unit := do
  let c ← Step.get
  let maintainer ← p.maintainer.applyAddress .maintainer c.maintainer
  Step.modify fun c => { c with maintainer := maintainer }
  let airdropper ← p.airdropper.applyAddress .airdropper c.airdropper
  Step.modify fun c => { c with airdropper := airdropper }
  let whitelist ← p.whitelist.applyAddress .whitelist c.whitelist
  Step.modify fun c => { c with whitelist := whitelist }

/-- Changes the instants between which the mint is open. -/
def applyWindow (p : ConfigPatch) : Step Config Unit := do
  Step.modify fun c => { c with startTime := p.startTime.getD c.startTime }
  let c ← Step.get
  let endTime ← p.endTime.apply .endTime c.endTime
  Step.modify fun c => { c with endTime := endTime }

/-- The configuration with the settings of a patch that cannot fail. -/
def withSettings (p : ConfigPatch) (c : Config) : Config :=
  { c with
    mintCap := p.mintCap.getD c.mintCap
    bundleCap := p.bundleCap.getD c.bundleCap
    mintPrice := p.mintPrice.getD c.mintPrice
    bundlePrice := p.bundlePrice.getD c.bundlePrice
    denom := p.denom.getD c.denom
    escrowFunds := p.escrowFunds.getD c.escrowFunds
    bundleEnabled := p.bundleEnabled.getD c.bundleEnabled }

/-- Changes the shares of revenue and royalties. -/
def applyRoyalties (p : ConfigPatch) : Step Config Unit :=
  match p.royalties with
  | some request => do
    let royalties ← request.validate
    Step.modify fun c => { c with royalties := royalties }
  | none => pure ()

/-- Applies a patch, without the rules that relate settings to each other. -/
def apply (p : ConfigPatch) : Step Config Unit := do
  p.applyAddresses
  p.applyWindow
  Step.modify p.withSettings
  p.applyRoyalties

end ConfigPatch

end ShuffleMint
