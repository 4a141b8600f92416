import ShuffleMint.Address
import ShuffleMint.ReplyData
import ShuffleMint.Setup

/-!
# Replies of created contracts

A contract that the mint asked for reports its address under the reply id it was created with. The
address is attached in the configuration, or noted for the collection.
-/

namespace ShuffleMint

/-- What is known of a creation: that it failed, or the data it returned, if any. -/
inductive CreationResult where
  | failed
  | succeeded (data : Option (List UInt8))

namespace CreationResult

/-- The address text that a creation reports. -/
def address? : CreationResult → Option String
  | failed => none
  | succeeded none => none
  | succeeded (some data) => ReplyData.address? data

end CreationResult

/-- The contract that is created under a reply id. -/
def Store.childOf? (s : Store) (id : Nat) : Option ChildContract :=
  if id = ReplyId.airdropper then some .airdropper
  else if id = ReplyId.whitelist then some .whitelist
  else (s.collections.get? id).map fun _ => .collection id

namespace ChildContract

/-- Notes the address of a created contract. -/
def attach (contract : Address) : ChildContract → Step Store Unit
  | airdropper => do
    let c ← Store.loadConfig
    Store.saveConfig { c with airdropper := some contract }
  | whitelist => do
    let c ← Store.loadConfig
    Store.saveConfig { c with whitelist := some contract }
  | collection id =>
    Step.modify fun s => { s with collectionContracts := s.collectionContracts.insert id contract }

end ChildContract

/-- Takes note of a created contract. -/
def receiveReply (id : Nat) (result : CreationResult) : Step Store Response := do
  let s ← Step.get
  match s.childOf? id with
  | none => Step.reject .unknownReply
  | some child =>
    match result.address? with
    | none => Step.reject (.creationFailed child)
    | some text =>
      let contract ← validateAddress text
      child.attach contract
      pure (Response.silent
        [("action", "instantiate_reply"), ("contract", child.label), ("address", contract)])

end ShuffleMint
