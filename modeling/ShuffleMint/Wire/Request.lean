import ShuffleMint.Command
import ShuffleMint.Query
import ShuffleMint.Wire.State

/-!
# The JSON form of requests

How setups, commands and queries are read. What does not have the form of one is none.
-/

namespace ShuffleMint

namespace ShareRequest

/-- A share read from JSON, with the text of an address. -/
def ofJson? (j : Json) : Option ShareRequest := do
  let fs ← j.object?
  return ⟨← Json.get fs "address" Json.text?, ← Json.get fs "bps" (Json.nat? countBound),
    ← Json.get fs "is_primary" Json.bool?⟩

end ShareRequest

namespace RoyaltiesRequest

/-- Revenue shares and royalties read from JSON. -/
def ofJson? (j : Json) : Option RoyaltiesRequest := do
  let fs ← j.object?
  return ⟨← Json.get fs "mint_revenue_share" (Json.list? ShareRequest.ofJson?),
    ← Json.get fs "secondary_market_royalties" (Json.list? ShareRequest.ofJson?)⟩

end RoyaltiesRequest

namespace AdminChoice

/-- The choice of an administrator read from JSON. -/
def ofJson? (j : Json) : Option AdminChoice := do
  let (name, body) ← j.variant?
  let fs ← body.object?
  match name with
  | "address" => return address (← Json.get fs "address" Json.text?)
  | "core_contract" => some creator
  | "none" => some nobody
  | _ => none

end AdminChoice

namespace ModulePlan

/-- A planned contract read from JSON. -/
def ofJson? (j : Json) : Option ModulePlan := do
  let fs ← j.object?
  return {
    code := ← Json.get fs "code_id" (Json.nat? wordBound)
    payload := ← Json.get fs "msg" Json.bytes?
    admin := ← Json.get fs "admin" AdminChoice.ofJson?
    label := ← Json.get fs "label" Json.text? }

end ModulePlan

namespace CollectionRequest

/-- A collection asked for, read from JSON. -/
def ofJson? (j : Json) : Option CollectionRequest := do
  let fs ← j.object?
  return {
    name := ← Json.get fs "name" Json.text?
    symbol := ← Json.get fs "symbol" Json.text?
    baseUri := ← Json.get fs "base_token_uri" Json.text?
    supply := ← Json.get fs "token_supply" (Json.nat? countBound) }

end CollectionRequest

namespace Setup

/-- A setup read from JSON. -/
def ofJson? (j : Json) : Option Setup := do
  let fs ← j.object?
  let base ← Json.get fs "base_fields" Json.object?
  return {
    admin := ← Json.get fs "admin" (Json.optional? AdminChoice.ofJson?)
    maintainer := ← Json.get base "maintainer_address" (Json.optional? Json.text?)
    airdropper := ← Json.get base "airdropper_address" (Json.optional? Json.text?)
    whitelist := ← Json.get base "whitelist_address" (Json.optional? Json.text?)
    startTime := ← Json.get base "start_time" (Json.quoted? wordBound)
    endTime := ← Json.get base "end_time" (Json.optional? (Json.quoted? wordBound))
    mintCap := ← Json.get base "max_per_address_mint" (Json.nat? countBound)
    bundleCap := ← Json.get base "max_per_address_bundle_mint" (Json.nat? countBound)
    mintPrice := ← Json.get base "mint_price" (Json.quoted? amountBound)
    bundlePrice := ← Json.get base "bundle_mint_price" (Json.quoted? amountBound)
    denom := ← Json.get base "mint_denom" Json.text?
    collectionCode := ← Json.get base "token_code_id" (Json.nat? wordBound)
    escrowFunds := ← Json.get base "escrow_funds" Json.bool?
    bundleEnabled := ← Json.get base "bundle_enabled" Json.bool?
    collections := ← Json.get fs "collection_infos" (Json.list? CollectionRequest.ofJson?)
    royalties := ← Json.get fs "extension" RoyaltiesRequest.ofJson?
    airdropperPlan :=
      ← Json.get fs "airdropper_instantiate_info" (Json.optional? ModulePlan.ofJson?)
    whitelistPlan :=
      ← Json.get fs "whitelist_instantiate_info" (Json.optional? ModulePlan.ofJson?) }

end Setup

namespace ConfigPatch

/-- A change of an optional setting, read from the field of its value and that of its removal. -/
def change? {α : Type} (fs : List (String × Json)) (value remove : String)
    (read : Json → Option α) : Option (Change α) := do
  return ⟨← Json.get fs value (Json.optional? read), ← Json.flag? fs remove⟩

/-- A patch read from JSON. -/
def ofJson? (j : Json) : Option ConfigPatch := do
  let fs ← j.object?
  return {
    maintainer := ← change? fs "maintainer_address" "clear_maintainer_address" Json.text?
    airdropper := ← change? fs "airdropper_address" "clear_airdropper_address" Json.text?
    whitelist := ← change? fs "whitelist_address" "clear_whitelist_address" Json.text?
    startTime := ← Json.get fs "start_time" (Json.optional? (Json.quoted? wordBound))
    endTime := ← change? fs "end_time" "clear_end_time" (Json.quoted? wordBound)
    mintCap := ← Json.get fs "max_per_address_mint" (Json.optional? (Json.nat? countBound))
    bundleCap :=
      ← Json.get fs "max_per_address_bundle_mint" (Json.optional? (Json.nat? countBound))
    mintPrice := ← Json.get fs "mint_price" (Json.optional? (Json.quoted? amountBound))
    bundlePrice := ← Json.get fs "bundle_mint_price" (Json.optional? (Json.quoted? amountBound))
    denom := ← Json.get fs "mint_denom" (Json.optional? Json.text?)
    escrowFunds := ← Json.get fs "escrow_funds" (Json.optional? Json.bool?)
    bundleEnabled := ← Json.get fs "bundle_enabled" (Json.optional? Json.bool?)
    royalties := ← Json.get fs "extension" (Json.optional? RoyaltiesRequest.ofJson?) }

end ConfigPatch

namespace Target

/-- A target read from its name. -/
def ofJson? (j : Json) : Option Target := do
  match ← j.text? with
  | "none" => some nothing
  | "airdropper" => some airdropper
  | "whitelist" => some whitelist
  | _ => none

end Target

namespace HookMessage

/-- A message to the bank read from JSON. -/
def ofBank? (j : Json) : Option HookMessage := do
  let (name, body) ← j.variant?
  let fs ← body.object?
  let _ ← Json.get fs "amount" (Json.list? Coin.ofJson?)
  match name with
  | "send" => do
    let _ ← Json.get fs "to_address" Json.text?
    return other
  | "burn" => some other
  | _ => none

/-- A message to a contract, or about one, read from JSON. -/
def ofWasm? (j : Json) : Option HookMessage := do
  let (name, body) ← j.variant?
  let fs ← body.object?
  match name with
  | "execute" =>
    return execute (← Json.get fs "contract_addr" Json.text?) (← Json.get fs "msg" Json.bytes?)
      (← Json.get fs "funds" (Json.list? Coin.ofJson?))
  | "instantiate" => do
    let _ ← Json.get fs "admin" (Json.optional? Json.text?)
    let _ ← Json.get fs "code_id" (Json.nat? wordBound)
    let _ ← Json.get fs "msg" Json.bytes?
    let _ ← Json.get fs "funds" (Json.list? Coin.ofJson?)
    let _ ← Json.get fs "label" Json.text?
    return other
  | "migrate" => do
    let _ ← Json.get fs "contract_addr" Json.text?
    let _ ← Json.get fs "new_code_id" (Json.nat? wordBound)
    let _ ← Json.get fs "msg" Json.bytes?
    return other
  | "update_admin" => do
    let _ ← Json.get fs "contract_addr" Json.text?
    let _ ← Json.get fs "admin" Json.text?
    return other
  | "clear_admin" => do
    let _ ← Json.get fs "contract_addr" Json.text?
    return other
  | _ => none

/-- A message that a caller wants forwarded, read from JSON. -/
def ofJson? (j : Json) : Option HookMessage := do
  let (name, body) ← j.variant?
  match name with
  | "bank" => ofBank? body
  | "custom" => body.object?.map fun _ => other
  | "wasm" => ofWasm? body
  | _ => none

end HookMessage

namespace Command

/-- The target and the message of a forwarding. -/
def forward? : Json → Option Command
  | .list [target, message] => do
    return forward (← Target.ofJson? target) (← HookMessage.ofJson? message)
  | _ => none

/-- A command whose body is an object, read from its name and its fields. -/
def ofFields? (name : String) (fs : List (String × Json)) : Option Command :=
  match name with
  | "init_submodule" => do
    return initModule (← Json.get fs "target" Target.ofJson?)
      (← Json.get fs "module_info" ModulePlan.ofJson?)
  | "mint" => do
    return mint (← Json.get fs "is_promised_mint" Json.bool?)
      (← Json.get fs "minter_address" (Json.optional? Json.text?))
  | "mint_bundle" => some mintBundle
  | "airdrop_claim" => do
    return claimAirdrop (← Json.get fs "limit" (Json.optional? (Json.nat? countBound)))
      (← Json.get fs "minter_address" (Json.optional? Json.text?))
  | "clean_claimed_tokens_from_shuffle" => some cleanAssigned
  | "shuffle_token_order" => some shuffle
  | "disburse_funds" => do
    return disburse (← Json.get fs "address" Json.text?)
  | "process_custom_bundle" => do
    return stageBundle (← Json.get fs "content_count" (Json.nat? countBound))
      (← Json.get fs "mint_price" (Json.quoted? amountBound))
      (← Json.get fs "purge" Json.bool?)
      (← Json.get fs "tokens" (Json.optional? (Json.list? Token.ofJson?)))
  | "mint_custom_bundle" => some mintCustomBundle
  | _ => none

/-- A command read from JSON. -/
def ofJson? (j : Json) : Option Command := do
  let (name, body) ← j.variant?
  match name with
  | "update_config" => return updateConfig (← ConfigPatch.ofJson? body)
  | "submodule_hook" => forward? body
  | _ => ofFields? name (← body.object?)

end Command

namespace Query

/-- A query read from JSON. -/
def ofJson? (j : Json) : Option Query := do
  let (name, body) ← j.variant?
  let fs ← body.object?
  let text := Json.get fs "start_after" (Json.optional? Json.text?)
  let id := Json.get fs "start_after" (Json.optional? (Json.nat? wordBound))
  let limit := Json.get fs "limit" (Json.optional? (Json.nat? countBound))
  match name with
  | "get_config" => some config
  | "check_address_mints" => return addressMints (← Json.get fs "minter_address" Json.text?)
  | "get_address_mints" => return mintCounts .publicSale (← text) (← limit)
  | "get_escrow_balances" => return balances (← text) (← limit)
  | "get_cw721_collection_info" => return collections (← id) (← limit)
  | "get_bundle_mint_tracker" => return mintCounts .bundle (← text) (← limit)
  | "get_custom_bundle_mint_tracker" => return mintCounts .customBundle (← text) (← limit)
  | "get_collection_current_token_supply" => return supplies (← id) (← limit)
  | "get_remaining_tokens" =>
    return remaining (← Json.get fs "address" (Json.optional? Json.text?))
  | "get_cw721_addrs" => some collectionContracts
  | "get_shuffle_state" => some order
  | "get_custom_bundle" => some customBundle
  | _ => none

end Query

end ShuffleMint
