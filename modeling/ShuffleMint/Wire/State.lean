import ShuffleMint.Json.Read
import ShuffleMint.Message
import ShuffleMint.Store

/-!
# The JSON form of stored values

How the parts of the store are written and read. Amounts and instants are in quotes, counts and
identifiers are numbers, and what is absent is `null`.
-/

namespace ShuffleMint

namespace Coin

/-- A coin as JSON. -/
def toJson (c : Coin) : Json := .object [("denom", .text c.denom), ("amount", .quoted c.amount)]

/-- A coin read from JSON. -/
def ofJson? (j : Json) : Option Coin := do
  let fs ← j.object?
  return ⟨← Json.get fs "denom" Json.text?, ← Json.get fs "amount" (Json.quoted? amountBound)⟩

end Coin

namespace Token

/-- A token read from JSON. -/
def ofJson? (j : Json) : Option Token := do
  let fs ← j.object?
  return ⟨← Json.get fs "collection_id" (Json.nat? wordBound),
    ← Json.get fs "token_id" (Json.nat? countBound)⟩

end Token

namespace Collection

/-- A collection as JSON. -/
def toJson (c : Collection) : Json :=
  .object
    [("id", .nat c.id), ("token_supply", .nat c.supply), ("name", .text c.name),
      ("symbol", .text c.symbol), ("base_token_uri", .text c.baseUri)]

/-- A collection read from JSON. -/
def ofJson? (j : Json) : Option Collection := do
  let fs ← j.object?
  return {
    id := ← Json.get fs "id" (Json.nat? wordBound)
    supply := ← Json.get fs "token_supply" (Json.nat? countBound)
    name := ← Json.get fs "name" Json.text?
    symbol := ← Json.get fs "symbol" Json.text?
    baseUri := ← Json.get fs "base_token_uri" Json.text? }

end Collection

namespace Supply

/-- A supply as JSON. -/
def toJson (s : Supply) : Json :=
  .object [("token_supply", .nat s.total), ("issued", .nat s.issued)]

/-- A supply read from JSON. -/
def ofJson? (j : Json) : Option Supply := do
  let fs ← j.object?
  return ⟨← Json.get fs "token_supply" (Json.nat? countBound),
    ← Json.get fs "issued" (Json.nat? countBound)⟩

end Supply

namespace SlotStatus

/-- The letter of a status. -/
def letter : SlotStatus → Char
  | pending => 'P'
  | reserved => 'R'
  | staged => 'S'
  | issued => 'I'

/-- A status read from its name. -/
def ofJson? (j : Json) : Option SlotStatus := do
  match ← j.text? with
  | "pending" => some pending
  | "reserved" => some reserved
  | "staged" => some staged
  | "issued" => some issued
  | _ => none

end SlotStatus

namespace SlotRun

/-- A run of slots as JSON. -/
def toJson (r : SlotRun) : Json :=
  .object
    [("collection_id", .nat r.collection), ("offset", .nat r.offset),
      ("token_supply", .nat r.supply)]

/-- A run of slots read from JSON. -/
def ofJson? (j : Json) : Option SlotRun := do
  let fs ← j.object?
  return ⟨← Json.get fs "collection_id" (Json.nat? wordBound),
    ← Json.get fs "offset" (Json.nat? countBound),
    ← Json.get fs "token_supply" (Json.nat? countBound)⟩

end SlotRun

namespace Arena

/-- One letter for the status of each slot. -/
def letters (a : Arena) : Json := .text (String.ofList (a.status.map SlotStatus.letter))

/-- An arena as JSON, with one letter for the status of each slot. -/
def toJson (a : Arena) : Json :=
  .object
    [("layout", .array SlotRun.toJson a.layout), ("order", .array Json.nat a.order),
      ("cursor", .nat a.cursor), ("status", a.letters), ("shuffled", .bool a.shuffled)]

/-- An arena read from JSON, with the name of the status of each slot. -/
def ofJson? (j : Json) : Option Arena := do
  let fs ← j.object?
  return {
    layout := ← Json.get fs "layout" (Json.list? SlotRun.ofJson?)
    order := ← Json.get fs "order" (Json.list? (Json.nat? countBound))
    cursor := ← Json.get fs "cursor" (Json.nat? countBound)
    status := ← Json.get fs "status" (Json.list? SlotStatus.ofJson?)
    shuffled := ← Json.get fs "shuffled" Json.bool? }

end Arena

namespace AdminRole

/-- A role as JSON. -/
def toJson : AdminRole → Json
  | address addr => .variant "address" (.object [("addr", .text addr)])
  | coreContract addr => .variant "core_contract" (.object [("addr", .text addr)])
  | nobody => .variant "none" (.object [])

/-- A role read from JSON. -/
def ofJson? (j : Json) : Option AdminRole := do
  let (name, body) ← j.variant?
  let fs ← body.object?
  match name with
  | "address" => return address (← Json.get fs "addr" Json.text?)
  | "core_contract" => return coreContract (← Json.get fs "addr" Json.text?)
  | "none" => some nobody
  | _ => none

end AdminRole

namespace Share

/-- A share as JSON. -/
def toJson (s : Share) : Json :=
  .object [("addr", .text s.address), ("bps", .nat s.points), ("is_primary", .bool s.primary)]

/-- A share read from JSON. -/
def ofJson? (j : Json) : Option Share := do
  let fs ← j.object?
  return ⟨← Json.get fs "addr" Json.text?, ← Json.get fs "bps" (Json.nat? countBound),
    ← Json.get fs "is_primary" Json.bool?⟩

end Share

namespace Royalties

/-- Revenue shares and royalties as JSON. -/
def toJson (r : Royalties) : Json :=
  .object
    [("mint_revenue_share", .array Share.toJson r.revenue),
      ("secondary_market_royalties", .array Share.toJson r.secondary)]

/-- Revenue shares and royalties read from JSON. -/
def ofJson? (j : Json) : Option Royalties := do
  let fs ← j.object?
  return ⟨← Json.get fs "mint_revenue_share" (Json.list? Share.ofJson?),
    ← Json.get fs "secondary_market_royalties" (Json.list? Share.ofJson?)⟩

end Royalties

namespace Config

/-- A configuration as JSON. -/
def toJson (c : Config) : Json :=
  .object
    [("admin", c.admin.toJson),
      ("maintainer_addr", .optional .text c.maintainer),
      ("airdropper_addr", .optional .text c.airdropper),
      ("whitelist_addr", .optional .text c.whitelist),
      ("start_time", .quoted c.startTime),
      ("end_time", .optional .quoted c.endTime),
      ("total_token_supply", .nat c.totalSupply),
      ("max_per_address_mint", .nat c.mintCap),
      ("max_per_address_bundle_mint", .nat c.bundleCap),
      ("mint_price", .quoted c.mintPrice),
      ("bundle_mint_price", .quoted c.bundlePrice),
      ("mint_denom", .text c.denom),
      ("token_code_id", .nat c.collectionCode),
      ("escrow_funds", .bool c.escrowFunds),
      ("bundle_enabled", .bool c.bundleEnabled),
      ("bundle_completed", .bool c.bundleCompleted),
      ("custom_bundle_enabled", .bool c.customEnabled),
      ("custom_bundle_completed", .bool c.customCompleted),
      ("custom_bundle_mint_price", .quoted c.customPrice),
      ("custom_bundle_content_count", .nat c.customCount),
      ("extension", c.royalties.toJson)]

/-- A configuration read from JSON. -/
def ofJson? (j : Json) : Option Config := do
  let fs ← j.object?
  return {
    admin := ← Json.get fs "admin" AdminRole.ofJson?
    maintainer := ← Json.get fs "maintainer_addr" (Json.optional? Json.text?)
    airdropper := ← Json.get fs "airdropper_addr" (Json.optional? Json.text?)
    whitelist := ← Json.get fs "whitelist_addr" (Json.optional? Json.text?)
    startTime := ← Json.get fs "start_time" (Json.quoted? wordBound)
    endTime := ← Json.get fs "end_time" (Json.optional? (Json.quoted? wordBound))
    totalSupply := ← Json.get fs "total_token_supply" (Json.nat? countBound)
    mintCap := ← Json.get fs "max_per_address_mint" (Json.nat? countBound)
    bundleCap := ← Json.get fs "max_per_address_bundle_mint" (Json.nat? countBound)
    mintPrice := ← Json.get fs "mint_price" (Json.quoted? amountBound)
    bundlePrice := ← Json.get fs "bundle_mint_price" (Json.quoted? amountBound)
    denom := ← Json.get fs "mint_denom" Json.text?
    collectionCode := ← Json.get fs "token_code_id" (Json.nat? wordBound)
    escrowFunds := ← Json.get fs "escrow_funds" Json.bool?
    bundleEnabled := ← Json.get fs "bundle_enabled" Json.bool?
    bundleCompleted := ← Json.get fs "bundle_completed" Json.bool?
    customEnabled := ← Json.get fs "custom_bundle_enabled" Json.bool?
    customCompleted := ← Json.get fs "custom_bundle_completed" Json.bool?
    customPrice := ← Json.get fs "custom_bundle_mint_price" (Json.quoted? amountBound)
    customCount := ← Json.get fs "custom_bundle_content_count" (Json.nat? countBound)
    royalties := ← Json.get fs "extension" Royalties.ofJson? }

end Config

namespace EscrowTotals

/-- The totals of escrow as JSON. -/
def toJson (t : EscrowTotals) : Json :=
  .object [("deposited", .quoted t.deposited), ("disbursed", .quoted t.disbursed)]

/-- The totals of escrow read from JSON. -/
def ofJson? (j : Json) : Option EscrowTotals := do
  let fs ← j.object?
  return ⟨← Json.get fs "deposited" (Json.quoted? amountBound),
    ← Json.get fs "disbursed" (Json.quoted? amountBound)⟩

end EscrowTotals

namespace ContractInfo

/-- A name and version as JSON. -/
def toJson (i : ContractInfo) : Json :=
  .object [("contract", .text i.contract), ("version", .text i.version)]

/-- A name and version read from JSON. -/
def ofJson? (j : Json) : Option ContractInfo := do
  let fs ← j.object?
  return ⟨← Json.get fs "contract" Json.text?, ← Json.get fs "version" Json.text?⟩

end ContractInfo

namespace Channel

/-- A channel read from its name. -/
def ofJson? (j : Json) : Option Channel := do
  match ← j.text? with
  | "public" => some publicSale
  | "whitelist" => some whitelist
  | "airdrop" => some airdrop
  | "bundle" => some bundle
  | "custom_bundle" => some customBundle
  | _ => none

end Channel

end ShuffleMint
