import ShuffleMint.Channel
import ShuffleMint.Coin
import ShuffleMint.Token

/-!
# Failures

A call fails in one of three ways: a rule rejects it, the arithmetic leaves its bounds and the call
is aborted, or the call asks more questions than it may. Only rejections carry a cause, and every
cause has a message of its own.
-/

namespace ShuffleMint

/-- Why a text is no address. -/
inductive AddressFault where
  | tooShort
  | tooLong
  | notNormalized
  deriving DecidableEq

namespace AddressFault

/-- The message of an address fault. -/
def message : AddressFault → String
  | tooShort =>
    "Invalid input: human address too short for this mock implementation (must be >= 3)."
  | tooLong =>
    "Invalid input: human address too long for this mock implementation (must be <= 90)."
  | notNormalized => "Invalid input: address not normalized"

end AddressFault

/-- Why a text is no URI. -/
inductive UriFault where
  | relative
  | emptyHost
  | internationalName
  | ipv4
  | ipv6
  | domainCharacter
  | port
  deriving DecidableEq

namespace UriFault

/-- The message of a URI fault. -/
def message : UriFault → String
  | relative => "relative URL without a base"
  | emptyHost => "empty host"
  | internationalName => "invalid international domain name"
  | ipv4 => "invalid IPv4 address"
  | ipv6 => "invalid IPv6 address"
  | domainCharacter => "invalid domain character"
  | port => "invalid port number"

end UriFault

/-- Faults that are not about the rules of minting. -/
inductive GeneralFault where
  /-- A text that should name an account does not. -/
  | address (fault : AddressFault)
  /-- A question went to an address without a contract. -/
  | noSuchContract (contract : Address)
  /-- A collaborator answered with an error text. -/
  | collaborator (text : String)
  /-- The order of tokens holds a slot that no collection covers. -/
  | slotOutsideArena
  /-- A slot is marked pending and is not in the pending window. -/
  | slotNotPending
  /-- The stored contract name is another one. -/
  | otherContract
  /-- The stored version is no version. -/
  | unreadableVersion
  /-- The stored version is later than this one. -/
  | laterVersion
  deriving DecidableEq

namespace GeneralFault

/-- The message of a general fault, without the words that announce it. -/
def message : GeneralFault → String
  | address fault => fault.message
  | noSuchContract contract => "Querier system error: No such contract: " ++ contract
  | collaborator text => "Querier contract error: " ++ text
  | slotOutsideArena => "slot outside of arena"
  | slotNotPending => "pending slot missing from token order"
  | otherContract => "Cannot upgrade to a different contract"
  | unreadableVersion => "Invalid contract version"
  | laterVersion => "Cannot upgrade to a previous contract version"

end GeneralFault

/-- The per-address caps of a configuration. -/
inductive CapField where
  | mint
  | bundleMint
  deriving DecidableEq

namespace CapField

/-- The name of a cap in messages. -/
def label : CapField → String
  | mint => "max_per_address_mint"
  | bundleMint => "max_per_address_bundle_mint"

end CapField

/-- The settings that a patch can remove. -/
inductive RemovableField where
  | maintainer
  | airdropper
  | whitelist
  | endTime
  deriving DecidableEq

namespace RemovableField

/-- The name of a removable setting in messages. -/
def label : RemovableField → String
  | maintainer => "maintainer_address"
  | airdropper => "airdropper_address"
  | whitelist => "whitelist_address"
  | endTime => "end_time"

end RemovableField

/-- Why a configuration, a patch of it or a custom bundle is refused. -/
inductive ConfigFault where
  | startAfterEnd
  | startPassed
  | endNotAhead
  | totalSupply (most : Nat)
  | cap (field : CapField) (most given : Nat)
  | denomLength (bytes : Nat)
  | denomStart
  | denomCharacter (c : Char)
  | revenueTotal (points most : Nat)
  | revenuePrimary
  | royaltyTotal (points most : Nat)
  | royaltyPrimary
  | setAndRemoved (field : RemovableField)
  | airdropperTwice
  | whitelistTwice
  | baseUri (fault : UriFault)
  | baseUriScheme
  | emptyCollection (name : String)
  | collectionsSupply (most given : Nat)
  | tokenUnavailable (token : Token)
  | emptyBundle
  | stagedTwice (token : Token)
  | promisedToken (token : Token)
  deriving DecidableEq

namespace ConfigFault

/-- The message of a configuration fault, without the words that announce it. -/
def message : ConfigFault → String
  | startAfterEnd => "start_time must not be after end_time"
  | startPassed => "start_time must not be in the past"
  | endNotAhead => "end_time must be in the future"
  | totalSupply most => "total_token_supply must be between 1 and " ++ toString most
  | cap field most given =>
    field.label ++ " must be between 1 and " ++ toString most ++ ", got " ++ toString given
  | denomLength bytes =>
    "mint_denom length must be between 3 and 128, got " ++ toString bytes
  | denomStart => "mint_denom must start with an ascii letter"
  | denomCharacter c => "mint_denom contains invalid character '" ++ c.toString ++ "'"
  | revenueTotal points most =>
    "mint revenue share adds up to " ++ toString points ++ " bps, max is " ++ toString most
  | revenuePrimary => "mint revenue share needs exactly one primary address"
  | royaltyTotal points most =>
    "secondary royalties add up to " ++ toString points ++ " bps, max is " ++ toString most
  | royaltyPrimary => "secondary royalties allow at most one primary address"
  | setAndRemoved field => field.label ++ " cannot be set and cleared at once"
  | airdropperTwice => "set either airdropper_address or airdropper_instantiate_info"
  | whitelistTwice => "set either whitelist_address or whitelist_instantiate_info"
  | baseUri fault => "base token uri: " ++ fault.message
  | baseUriScheme => "base_token_uri must be an ipfs or https uri"
  | emptyCollection name => "collection " ++ name ++ " has no tokens"
  | collectionsSupply most given =>
    "total token supply must be between 1 and " ++ toString most ++ ", got " ++ toString given
  | tokenUnavailable token => "token " ++ token.label ++ " is not available"
  | emptyBundle => "custom bundle content_count must be at least 1"
  | stagedTwice token => "token " ++ token.label ++ " is staged twice"
  | promisedToken token => "token " ++ token.label ++ " is promised by the airdropper"

end ConfigFault

/-- Why a caller may not do what it asks for. -/
inductive AuthorityFault where
  | notAdministrator
  | mintForAnother
  | hookWithFunds
  deriving DecidableEq

namespace AuthorityFault

/-- The message of an authority fault, without the words that announce it. -/
def message : AuthorityFault → String
  | notAdministrator => "Sender is not an admin or maintainer"
  | mintForAnother => "Only an admin or maintainer can mint for another address"
  | hookWithFunds => "Submodule hooks cannot move funds"

end AuthorityFault

/-- Why a channel takes no mints. -/
inductive ClosedFault where
  | notStarted (channel : Channel)
  | completed (channel : Channel)
  | ended (channel : Channel)
  | notInProgress (channel : Channel)
  | claimsNotInProgress
  deriving DecidableEq

namespace ClosedFault

/-- The message of a closed channel, without the words that announce it. -/
def message : ClosedFault → String
  | notStarted channel => channel.label ++ " mint has not started"
  | completed channel => channel.label ++ " mint is completed"
  | ended channel => channel.label ++ " mint has ended"
  | notInProgress channel => channel.label ++ " mint is not in progress"
  | claimsNotInProgress => "airdrop claim is not in progress"

end ClosedFault

/-- Why an address or a token cannot be minted to or minted. -/
inductive EligibilityFault where
  | noAirdropper
  | nothingToClaim
  | notListed (channel : Channel)
  | alreadyMinted (token : Token)
  | staged (token : Token)
  | notStaged (token : Token)
  deriving DecidableEq

namespace EligibilityFault

/-- The message of an eligibility fault, without the words that announce it. -/
def message : EligibilityFault → String
  | noAirdropper => "no airdropper is attached"
  | nothingToClaim => "address has no unclaimed promised tokens"
  | notListed channel => "address is not on the " ++ channel.label ++ " list"
  | alreadyMinted token => "token " ++ token.label ++ " was already minted"
  | staged token => "token " ++ token.label ++ " is staged for the custom bundle"
  | notStaged token => "token " ++ token.label ++ " is not staged"

end EligibilityFault

/-- Why the coins sent with a call are refused. -/
inductive PaymentFault where
  | missingDenom (denom : String)
  | otherDenom (denom : String)
  | severalDenoms
  | noFunds
  | notPayable
  deriving DecidableEq

namespace PaymentFault

/-- The message of a payment fault. -/
def message : PaymentFault → String
  | missingDenom denom => "Must send reserve token '" ++ denom ++ "'"
  | otherDenom denom => "Received unsupported denom '" ++ denom ++ "'"
  | severalDenoms => "Sent more than one denomination"
  | noFunds => "No funds sent"
  | notPayable => "This message does no accept funds"

end PaymentFault

/-- Why a fee is not met. -/
inductive FeeFault where
  | insufficient (expected paid : Nat)
  | payment (fault : PaymentFault)
  deriving DecidableEq

namespace FeeFault

/-- The message of a fee fault. -/
def message : FeeFault → String
  | insufficient expected paid =>
    "Insufficient fee: expected " ++ toString expected ++ ", got " ++ toString paid
  | payment fault => fault.message

end FeeFault

/-- The contracts that the mint creates. -/
inductive ChildContract where
  | airdropper
  | whitelist
  | collection (id : Nat)
  deriving DecidableEq

namespace ChildContract

/-- The name of a created contract in messages and attributes. -/
def label : ChildContract → String
  | airdropper => "airdropper"
  | whitelist => "whitelist"
  | collection id => "cw721 collection " ++ toString id

end ChildContract

/-- The cause for which a rule rejects a call. -/
inductive Rejection where
  /-- A fault that is not about the rules of minting. -/
  | general (fault : GeneralFault)
  /-- Two amounts of money add up to more than an amount can be. -/
  | sumOverflow (left right : Nat)
  /-- A part of the store that the call needs is absent. -/
  | missingEntry
  /-- The answer of a collaborator has another form than asked for. -/
  | unreadableAnswer
  | unauthorized (fault : AuthorityFault)
  | invalidConfig (fault : ConfigFault)
  | mintingClosed (fault : ClosedFault)
  | capExceeded (channel : Channel) (cap : Nat)
  | notEligible (fault : EligibilityFault)
  | soldOut
  | orderLocked
  | alreadyShuffled
  | incorrectPayment (paid due : Coin)
  | invalidToken (token : Token)
  | invalidTarget
  | unknownReply
  | creationFailed (contract : ChildContract)
  | payment (fault : PaymentFault)
  | fee (fault : FeeFault)
  deriving DecidableEq

namespace Rejection

/-- The message of a rejection; the two causes that are reported by their kind alone have none. -/
def message : Rejection → Option String
  | general fault => some ("Generic error: " ++ fault.message)
  | sumOverflow left right =>
    some ("Overflow: Cannot Add with " ++ toString left ++ " and " ++ toString right)
  | missingEntry => none
  | unreadableAnswer => none
  | unauthorized fault => some ("Unauthorized: " ++ fault.message)
  | invalidConfig fault => some ("Invalid config: " ++ fault.message)
  | mintingClosed fault => some ("Minting closed: " ++ fault.message)
  | capExceeded channel cap =>
    some ("Max " ++ channel.label ++ " mints per address exceeded (" ++ toString cap ++ ")")
  | notEligible fault => some ("Not eligible: " ++ fault.message)
  | soldOut => some "Sold out"
  | orderLocked => some "Token order is locked once minting has begun"
  | alreadyShuffled => some "Token order was already shuffled"
  | incorrectPayment paid due =>
    some ("IncorrectPaymentAmount " ++ paid.label ++ " != " ++ due.label)
  | invalidToken token => some ("Invalid token " ++ token.label)
  | invalidTarget => some "Execution target does not match the attached submodule"
  | unknownReply => some "Invalid reply ID"
  | creationFailed contract => some ("Instantiate " ++ contract.label ++ " error")
  | payment fault => some fault.message
  | fee fault => some fault.message

end Rejection

/-- The ways in which a call fails. -/
inductive Failure where
  /-- A rule rejects the call. -/
  | rejected (cause : Rejection)
  /-- A number left its bounds or a position its list, and the call stopped there. -/
  | aborted
  /-- The call put more questions to collaborators than it may. -/
  | exhausted
  deriving DecidableEq

/-- The result of a check or a calculation that may fail. -/
abbrev Outcome (α : Type) := Except Failure α

/-- The sum of two counts, aborted when it is no count. -/
def addCounts (a b : Nat) : Outcome Nat :=
  if a + b < countBound then .ok (a + b) else .error .aborted

/-- The difference of two counts, aborted when the second is larger. -/
def subtractCounts (a b : Nat) : Outcome Nat :=
  if b ≤ a then .ok (a - b) else .error .aborted

end ShuffleMint
