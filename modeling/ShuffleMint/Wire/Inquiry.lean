import ShuffleMint.Collaborator
import ShuffleMint.Wire.State

/-!
# The JSON form of questions to collaborators

How questions are written and their answers are read.
-/

namespace ShuffleMint

namespace Inquiry

/-- The name of a question. -/
def name : Inquiry → String
  | whitelistStatus _ => "check_whitelist"
  | promisedMints _ => "check_address_promised_mints"
  | promisedTokens _ => "check_address_promised_tokens"
  | assignedTokens _ _ => "get_assigned_token_ids"

/-- A question as JSON. -/
def toJson (q : Inquiry) : Json :=
  let byMinter (minter : Address) : Json := .object [("minter_address", .text minter)]
  .variant q.name (match q with
    | whitelistStatus minter => byMinter minter
    | promisedMints minter => byMinter minter
    | promisedTokens minter => byMinter minter
    | assignedTokens start limit =>
      .object
        [("start_after",
            .optional (fun t => .list [.nat t.collection, .nat t.number]) start),
          ("limit", .nat limit)])

end Inquiry

namespace WhitelistStatus

/-- The status of an address on the whitelist, read from JSON. -/
def ofJson? (j : Json) : Option WhitelistStatus := do
  let fs ← j.object?
  let _ ← Json.get fs "minter_addr" Json.text?
  return {
    closed := ← Json.get fs "whitelist_is_closed" Json.bool?
    inProgress := ← Json.get fs "whitelist_in_progress" Json.bool?
    listed := ← Json.get fs "is_on_whitelist" Json.bool?
    minted := ← Json.get fs "current_mint_count" (Json.nat? countBound)
    cap := ← Json.get fs "max_per_address_mint" (Json.nat? countBound)
    price := ← Json.get fs "mint_price" (Json.quoted? amountBound) }

end WhitelistStatus

namespace PromisedMints

/-- The mints promised to an address, read from JSON. -/
def ofJson? (j : Json) : Option PromisedMints := do
  let fs ← j.object?
  let _ ← Json.get fs "minter_addr" Json.text?
  return {
    closed := ← Json.get fs "airdrop_mint_is_closed" Json.bool?
    inProgress := ← Json.get fs "airdrop_mint_in_progress" Json.bool?
    promised := ← Json.get fs "promised_mint_count" (Json.nat? countBound)
    claimed := ← Json.get fs "claimed_mint_count" (Json.nat? countBound) }

end PromisedMints

namespace PromisedTokens

/-- The tokens promised to an address, read from JSON. -/
def ofJson? (j : Json) : Option PromisedTokens := do
  let fs ← j.object?
  let _ ← Json.get fs "minter_addr" Json.text?
  return {
    closed := ← Json.get fs "airdrop_mint_is_closed" Json.bool?
    inProgress := ← Json.get fs "airdrop_mint_in_progress" Json.bool?
    promised := ← Json.get fs "address_promised_token_ids" (Json.list? Token.ofJson?)
    claimed := ← Json.get fs "address_claimed_token_ids" (Json.list? Token.ofJson?) }

end PromisedTokens

end ShuffleMint
