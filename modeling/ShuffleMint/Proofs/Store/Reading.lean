import ShuffleMint.Proofs.StepFailure
import ShuffleMint.Run

/-!
# Steps that only read the store

What a command does before its first write keeps the store whether it succeeds or fails: it loads
parts of the store, asks its collaborators, works on a copy of the allocator and forms messages.
-/

namespace ShuffleMint

open Step (Keeps)

/-- Reading a part of the store changes nothing. -/
theorem Store.keeps_require {α : Type} (part : Store → Option α) : Keeps id (Store.require part) :=
  fun _ => rfl

/-- A step of the store that keeps the store keeps it within a call. -/
theorem CallState.keeps_onStore {α : Type} {step : Step Store α} (h : Keeps id step) :
    Keeps CallState.store (liftM step : Step CallState α) :=
  fun s => h s.store

/-- A question changes nothing in the store. -/
theorem CallState.keeps_ask {α : Type} (q : Question)
    (answer : List Question → Except QueryFault α) :
    Keeps CallState.store (CallState.ask q answer) := by
  intro s
  simp only [CallState.ask, Step.get_bind_apply, Step.put_bind_apply]
  cases answer s.asked <;> rfl

/-- Asking a collaborator about an address changes nothing in the store. -/
theorem Collaborator.keeps_eligibility (answers : Answers) (minter : Address)
    (collaborator : Collaborator) :
    Keeps CallState.store (collaborator.eligibility answers minter) := by
  cases collaborator with
  | whitelist contract => exact (CallState.keeps_ask _ _).bind fun _ => Step.keeps_pure _
  | airdropper contract => exact (CallState.keeps_ask _ _).bind fun _ => Step.keeps_pure _

/-- Finding the price of a mint changes nothing in the store. -/
theorem Mint.keeps_priceOf (answers : Answers) (c : Config) (recipient : Address)
    (through : Option Collaborator) :
    Keeps CallState.store (priceOf answers c recipient through) := by
  cases through with
  | none => exact Step.keeps_pure _
  | some collaborator =>
    exact (collaborator.keeps_eligibility answers recipient).bind fun e =>
      (Step.keeps_lift _).bind fun _ => Step.keeps_pure _

/-- Reading the tokens that the airdropper has assigned changes nothing in the store. -/
theorem Airdropper.keeps_assignedAfter (answers : Answers) (contract : Address) (pages : Nat)
    (start : Option Token) :
    Keeps CallState.store (assignedAfter answers contract pages start) := by
  induction pages generalizing start with
  | zero => exact Step.keeps_fail _
  | succ pages ih =>
    refine (CallState.keeps_ask _ _).bind fun page => ?_
    split
    · exact Step.keeps_pure _
    · exact (ih _).bind fun rest => Step.keeps_pure _

/-- Reading the assigned tokens before others are staged changes nothing in the store. -/
theorem CustomBundle.keeps_assignedTokens (answers : Answers) (c : Config) (tokens : List Token) :
    Keeps CallState.store (assignedTokens answers c tokens) := by
  unfold assignedTokens
  cases c.airdropper with
  | none => exact Step.keeps_pure _
  | some contract =>
    simp only
    split
    · exact Step.keeps_pure _
    · exact Airdropper.keeps_assignedAfter _ _ _ _

/-- Forming the message that mints a token changes nothing. -/
theorem keeps_mintMessage (owner : Address) (token : Token) :
    Keeps id (mintMessage owner token) := by
  refine (Store.keeps_require _).bind fun collection => Step.keeps_get.bind fun s => ?_
  cases s.collectionContracts.get? token.collection with
  | none => exact Step.keeps_reject _
  | some contract => exact Step.keeps_pure _

/-- Forming the messages of a claimed token changes nothing. -/
theorem Airdrop.keeps_claimMessages (contract recipient : Address) (token : Token) :
    Keeps id (claimMessages contract recipient token) :=
  (keeps_mintMessage recipient token).bind fun _ => Step.keeps_pure _

/-- Forming the messages of a token sold from the custom bundle changes nothing. -/
theorem CustomBundle.keeps_sellMessages (buyer : Address) (token : Token) :
    Keeps id (sellMessages buyer token) :=
  (keeps_mintMessage buyer token).bind fun _ => Step.keeps_pure _

/-- Issuing tokens on a copy of the allocator changes nothing in the store. -/
theorem Airdrop.keeps_issueEach {claim : Token → Step Allocator Unit}
    {messages : Token → Step Store (List Message)} (hmessages : ∀ t, Keeps id (messages t))
    (tokens : List Token) (a : Allocator) : Keeps id (issueEach claim messages tokens a) := by
  induction tokens generalizing a with
  | nil => exact Step.keeps_pure _
  | cons t rest ih =>
    exact (Step.keeps_onCopy _ _).bind fun made => (hmessages t).bind fun first =>
      (ih made.2).bind fun others => Step.keeps_pure _

end ShuffleMint
