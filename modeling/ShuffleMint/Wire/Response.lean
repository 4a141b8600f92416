import ShuffleMint.Query
import ShuffleMint.Wire.State

/-!
# The JSON form of responses

How messages, responses and the answers to queries are written. A payload is shown as its text, and
in base64 where its bytes are no text.
-/

namespace ShuffleMint

namespace Payload

/-- A payload as it is shown. -/
def shown (p : Payload) : Json :=
  match p, p.toJson? with
  | _, some j => .text j.render
  | raw bytes, none =>
    match String.fromUTF8? (ByteArray.mk bytes.toArray) with
    | some s => .text s
    | none => .variant "base64" (.text (Base64.encode bytes))
  | _, none => .null

end Payload

namespace Message

/-- The creation of a contract as JSON. -/
def creation (admin : Option Address) (code : Nat) (payload : Payload) (label : String) : Json :=
  .variant "instantiate" (.object
    [("admin", .optional .text admin), ("code_id", .nat code), ("msg", payload.shown),
      ("funds", .list []), ("label", .text label)])

/-- A message as JSON. -/
def toJson : Message → Json
  | send payee coins =>
    .variant "bank" (.variant "send"
      (.object [("to_address", .text payee), ("amount", .array Coin.toJson coins)]))
  | burn coins =>
    .variant "bank" (.variant "burn" (.object [("amount", .array Coin.toJson coins)]))
  | fundPool coins =>
    .variant "custom" (.object
      [("route", .text "distribution"),
        ("msg_data", .variant "fund_community_pool"
          (.object [("amount", .array Coin.toJson coins)])),
        ("version", .text "1.0.0")])
  | execute contract payload =>
    .variant "wasm" (.variant "execute" (.object
      [("contract_addr", .text contract), ("msg", payload.shown), ("funds", .list [])]))
  | create admin code payload label => .variant "wasm" (creation admin code payload label)

end Message

namespace Dispatch

/-- A message on its way as JSON. -/
def toJson (d : Dispatch) : Json :=
  .object
    [("id", .nat (d.replyId.getD 0)),
      ("reply_on", .text (if d.replyId.isSome then "success" else "never")),
      ("msg", d.message.toJson)]

end Dispatch

namespace Response

/-- A response as JSON. -/
def toJson (r : Response) : Json :=
  .object
    [("attributes", .array (fun a => .list [.text a.1, .text a.2]) r.attributes),
      ("messages", .array Dispatch.toJson r.dispatches)]

end Response

namespace QueryAnswer

/-- An entry of a listing by address. -/
def addressEntry (value : String) (encode : Nat → Json) (e : Address × Nat) : Json :=
  .object [("address", .text e.1), (value, encode e.2)]

/-- The answer to a query as JSON. -/
def toJson : QueryAnswer → Json
  | config c shuffled => .object [("config", c.toJson), ("shuffled", .bool shuffled)]
  | addressMints m =>
    .object
      [("address", .text m.address), ("public", .nat m.publicSale),
        ("whitelist", .nat m.whitelist), ("airdrop", .nat m.airdrop), ("bundle", .nat m.bundle),
        ("custom_bundle", .nat m.customBundle)]
  | mintCounts counts => .array (addressEntry "value" .nat) counts
  | balances bs => .array (addressEntry "balance" .quoted) bs
  | collections cs => .array Collection.toJson cs
  | supplies ss =>
    .array (fun s => .object
      [("collection_id", .nat s.collection), ("token_supply", .nat s.total),
        ("issued", .nat s.issued), ("remaining", .nat s.remaining)]) ss
  | remaining r =>
    .object
      [("total_token_supply", .nat r.total), ("remaining_token_supply", .nat r.remaining),
        ("remaining_bundle_mints", .nat r.bundles),
        ("remaining_custom_bundle_mints", .nat r.customBundles),
        ("max_per_address_mint", .nat r.mintCap),
        ("max_per_address_bundle_mint", .nat r.bundleCap),
        ("address_minted", .optional .nat r.minted),
        ("address_bundles_minted", .optional .nat r.bundlesMinted),
        ("address_custom_bundles_minted", .optional .nat r.customBundlesMinted)]
  | collectionContracts cs =>
    .array (fun e => .object [("collection_id", .nat e.1), ("address", .text e.2)]) cs
  | order s =>
    .object
      [("shuffled", .bool s.shuffled), ("locked", .bool s.locked), ("total", .nat s.total),
        ("issued", .nat s.issued), ("pending", .nat s.pending), ("reserved", .nat s.reserved)]
  | customBundle s =>
    .object
      [("enabled", .bool s.enabled), ("completed", .bool s.completed),
        ("mint_price", .quoted s.price), ("content_count", .nat s.count),
        ("staged_tokens", .array Token.toJson s.staged)]

end QueryAnswer

end ShuffleMint
