import ShuffleMint.Json
import ShuffleMint.Coin

/-!
# Messages to other contracts and to the bank

A call answers with messages that the chain carries out after it. The payload of a message to a
contract is kept as what it means; its text is written from that.
-/

namespace ShuffleMint

/-- What a message tells a contract. -/
inductive Payload where
  /-- Bytes that come from a caller and are passed on as they are. -/
  | raw (bytes : List UInt8)
  /-- To a collection: mint a token to an owner. -/
  | mintToken (number : Nat) (owner : Address) (uri : String)
  /-- To a new collection: its name, its symbol and who may mint. -/
  | createCollection (name symbol : String) (minter : Address)
  /-- To the whitelist: an address has minted. -/
  | countWhitelistMint (minter : Address)
  /-- To the airdropper: an address has taken a promised mint. -/
  | countPromisedMint (minter : Address)
  /-- To the airdropper: an address has received a token promised to it. -/
  | markClaimed (minter : Address) (token : Token)
  /-- To a collaborator: the maintainer is now this one, or nobody. -/
  | setMaintainer (maintainer : Option Address)
  deriving DecidableEq

/-- A message that a call sends. Messages to contracts carry no coins. -/
inductive Message where
  | send (payee : Address) (coins : List Coin)
  | burn (coins : List Coin)
  | fundPool (coins : List Coin)
  | execute (contract : Address) (payload : Payload)
  | create (admin : Option Address) (code : Nat) (payload : Payload) (label : String)
  deriving DecidableEq

/-- A message on its way. Where the call wants to hear of its success there is a reply id. -/
structure Dispatch where
  replyId : Option Nat
  message : Message
  deriving DecidableEq

/-- What a successful call answers: attributes for the record, and messages in order. -/
structure Response where
  attributes : List (String × String)
  dispatches : List Dispatch
  deriving DecidableEq

namespace Token

/-- A token as JSON. -/
def toJson (t : Token) : Json :=
  .object [("collection_id", .nat t.collection), ("token_id", .nat t.number)]

end Token

namespace Payload

/-- The JSON of a payload that is not passed on from a caller. -/
def toJson? : Payload → Option Json
  | raw _ => none
  | mintToken number owner uri =>
    some (.variant "mint" (.object
      [("token_id", .quoted number), ("owner", .text owner), ("token_uri", .text uri),
        ("extension", .object [])]))
  | createCollection name symbol minter =>
    some (.object [("name", .text name), ("symbol", .text symbol), ("minter", .text minter)])
  | countWhitelistMint minter => some (.variant "update_address_mint_tracker" (.text minter))
  | countPromisedMint minter =>
    some (.variant "increment_address_claimed_promised_mint_count" (.text minter))
  | markClaimed minter token =>
    some (.variant "mark_token_id_claimed"
      (.object [("address", .text minter), ("token", token.toJson)]))
  | setMaintainer maintainer =>
    some (.variant "update_maintainer_address" (.optional .text maintainer))

end Payload

namespace Response

/-- A response that hears of none of its messages. -/
def ofMessages (attributes : List (String × String)) (messages : List Message) : Response :=
  ⟨attributes, messages.map fun m => ⟨none, m⟩⟩

/-- A response without messages. -/
def silent (attributes : List (String × String)) : Response := ⟨attributes, []⟩

end Response

end ShuffleMint
