import ShuffleMint.Wire.State

/-!
# Entries of the store

The store as named entries: a name is that of a part of the store, for a map followed by a slash and
a key. Entries are written by name, and the difference of two stores is a list of entries.
-/

namespace ShuffleMint

namespace Store

/-- Why an entry is not written. -/
inductive EntryFault where
  | unknownName
  | unreadableValue
  deriving DecidableEq

/-- A value read for an entry, or its absence. -/
def readEntry {α : Type} (read : Json → Option α) (value : Json) :
    Except EntryFault (Option α) :=
  match Json.optional? read value with
  | some a => .ok a
  | none => .error .unreadableValue

/-- A map with the entry of a key written or taken out. -/
def writeKey {κ ν : Type} [Key κ] (m : SortedMap κ ν) (k : κ) : Option ν → SortedMap κ ν
  | some v => m.insert k v
  | none => m.erase k

/-- The channel of the tracker with a name. -/
def trackerOf? (name : String) : Option Channel :=
  match name with
  | "address_mint_tracker" => some .publicSale
  | "whitelist_mint_tracker" => some .whitelist
  | "airdrop_mint_tracker" => some .airdrop
  | "bundle_mint_tracker" => some .bundle
  | "custom_bundle_mint_tracker" => some .customBundle
  | _ => none

/-- The name of the tracker of a channel. -/
def trackerName : Channel → String
  | .publicSale => "address_mint_tracker"
  | .whitelist => "whitelist_mint_tracker"
  | .airdrop => "airdrop_mint_tracker"
  | .bundle => "bundle_mint_tracker"
  | .customBundle => "custom_bundle_mint_tracker"

/-- Writes an entry that has no key. -/
def writePart (s : Store) (name : String) (value : Json) : Except EntryFault Store :=
  match name with
  | "config" => return { s with config := ← readEntry Config.ofJson? value }
  | "shuffle_state" => return { s with arena := ← readEntry Arena.ofJson? value }
  | "custom_bundle_tokens" =>
    return { s with staged := ← readEntry (Json.list? Token.ofJson?) value }
  | "escrow_totals" => return { s with escrowTotals := ← readEntry EscrowTotals.ofJson? value }
  | "contract_info" => return { s with contractInfo := ← readEntry ContractInfo.ofJson? value }
  | _ => .error .unknownName

/-- Writes an entry of a map by identifier. -/
def writeById (s : Store) (name : String) (id : Nat) (value : Json) : Except EntryFault Store :=
  match name with
  | "cw721_collection_info" => do
    let v ← readEntry Collection.ofJson? value
    return { s with collections := writeKey s.collections id v }
  | "cw721_addrs" => do
    let v ← readEntry Json.text? value
    return { s with collectionContracts := writeKey s.collectionContracts id v }
  | "collection_supply" => do
    let v ← readEntry Supply.ofJson? value
    return { s with supplies := writeKey s.supplies id v }
  | _ => .error .unknownName

/-- Writes an entry of a map by address. -/
def writeByAddress (s : Store) (name : String) (address : Address) (value : Json) :
    Except EntryFault Store :=
  match trackerOf? name with
  | some channel => do
    let v ← readEntry (Json.nat? countBound) value
    return { s with
      trackers := s.trackers.update channel (writeKey (s.trackers.of channel) address v) }
  | none =>
    if name = "bank_balances" then do
      let v ← readEntry (Json.quoted? amountBound) value
      return { s with balances := writeKey s.balances address v }
    else .error .unknownName

/-- Whether the keys of a map are identifiers. -/
def isById (name : String) : Bool :=
  ["cw721_collection_info", "cw721_addrs", "collection_supply"].contains name

/-- Writes an entry by name; `null` takes it out. -/
def writeEntry (s : Store) (name : String) (value : Json) : Except EntryFault Store :=
  let part := name.toList.takeWhile (· != '/')
  match name.toList.drop part.length with
  | [] => s.writePart name value
  | _ :: key =>
    let part := String.ofList part
    if isById part then
      match Numeral.below? wordBound (String.ofList key) with
      | some id => s.writeById part id value
      | none => .error .unknownName
    else s.writeByAddress part (String.ofList key) value

/-- The entry of a part that differs: its new value, `null` where there is none. -/
def partChange {α : Type} [DecidableEq α] (name : String) (toJson : α → Json)
    (before after : Option α) : List (String × Json) :=
  if before = after then [] else [(name, .optional toJson after)]

/-- The entries of a map that differ: those taken out, and those written. -/
def mapChanges {κ ν : Type} [Key κ] [DecidableEq κ] [DecidableEq ν] (name : String)
    (keyText : κ → String) (toJson : ν → Json) (before after : SortedMap κ ν) :
    List (String × Json) :=
  if before = after then []
  else
    let label (k : κ) : String := name ++ "/" ++ keyText k
    (before.entries.filterMap fun (k, _) =>
      if (after.get? k).isSome then none else some (label k, Json.null)) ++
    (after.entries.filterMap fun (k, v) =>
      if before.get? k = some v then none else some (label k, toJson v))

/-- The entries in which a store differs from an earlier one. -/
def changes (before after : Store) : List (String × Json) :=
  partChange "config" Config.toJson before.config after.config ++
  partChange "shuffle_state" Arena.toJson before.arena after.arena ++
  partChange "custom_bundle_tokens" (Json.array Token.toJson) before.staged after.staged ++
  partChange "escrow_totals" EscrowTotals.toJson before.escrowTotals after.escrowTotals ++
  partChange "contract_info" ContractInfo.toJson before.contractInfo after.contractInfo ++
  mapChanges "cw721_collection_info" toString Collection.toJson
    before.collections after.collections ++
  mapChanges "cw721_addrs" toString Json.text
    before.collectionContracts after.collectionContracts ++
  mapChanges "collection_supply" toString Supply.toJson before.supplies after.supplies ++
  mapChanges "bank_balances" id Json.quoted before.balances after.balances ++
  ([Channel.publicSale, .whitelist, .airdrop, .bundle, .customBundle].flatMap fun channel =>
    mapChanges (trackerName channel) id Json.nat
      (before.trackers.of channel) (after.trackers.of channel))

end Store

end ShuffleMint
