import ShuffleMint.Proofs.Check
import ShuffleMint.Proofs.Command.Failure

/-!
# The checks of commands

Before it writes, a command checks who calls, what is paid, whether its channel is open and which
tokens it is about. Each check is listed here with the condition under which it may abort: several
coins of one denomination, or a count that one more mint takes out of its bound. On a consistent
allocator no look-up aborts.
-/

namespace ShuffleMint

open Outcome (FailsAsCheck failsAsCheck_ok failsAsCheck_reject failsAsCheck_abort)

variable {overflow : Prop} {c : Config} {s : Store}

/-! ## Coins -/

/-- Coins that may not come are rejected. -/
theorem requireNoFunds_failsAsCheck (funds : List Coin) :
    (requireNoFunds funds).FailsAsCheck overflow := by
  cases funds with
  | nil => exact failsAsCheck_ok _
  | cons coin rest => exact failsAsCheck_reject rfl

/-- Coins are rejected for another denomination. Several coins of the one abort, and then two coins
have one denomination. -/
theorem mayPay_failsAsCheck (denom : String) (funds : List Coin) :
    (mayPay denom funds).FailsAsCheck (¬ (funds.map Coin.denom).Nodup) := by
  rcases funds with _ | ⟨first, _ | ⟨second, rest⟩⟩
  · exact failsAsCheck_ok _
  · simp only [mayPay]
    split
    · exact failsAsCheck_ok _
    · exact failsAsCheck_reject rfl
  · simp only [mayPay]
    split
    · exact failsAsCheck_reject rfl
    · next hnone =>
      refine failsAsCheck_abort fun hdistinct => ?_
      simp only [List.find?_eq_none, List.mem_cons, bne_iff_ne, Decidable.not_not,
        forall_eq_or_imp] at hnone
      obtain ⟨hfirst, hsecond, -⟩ := hnone
      simp [hfirst, hsecond] at hdistinct

/-- The payment of a mint is rejected when it is not the price. -/
theorem checkPayment_failsAsCheck (c : Config) (funds : List Coin) (price : Nat) :
    (checkPayment c funds price).FailsAsCheck (¬ (funds.map Coin.denom).Nodup) := by
  refine (mayPay_failsAsCheck c.denom funds).bind fun paid _ => ?_
  split
  · exact failsAsCheck_ok _
  · exact failsAsCheck_reject rfl

/-- The fee of a shuffle is rejected when it is not paid. -/
theorem chargeShuffle_failsAsCheck (c : Config) (sender : Address) (funds : List Coin) :
    (chargeShuffle c sender funds).FailsAsCheck overflow := by
  unfold chargeShuffle
  split
  · exact (requireNoFunds_failsAsCheck funds).map _
  · unfold chargeFee
    split
    · exact failsAsCheck_reject rfl
    · split
      · exact failsAsCheck_reject rfl
      · exact failsAsCheck_ok _

/-! ## Callers and channels -/

/-- A caller who may not administer the mint is rejected. -/
theorem Config.requireAdministrator_failsAsCheck (c : Config) (caller : Address) :
    (c.requireAdministrator caller).FailsAsCheck overflow := by
  unfold requireAdministrator
  split
  · exact failsAsCheck_ok _
  · exact failsAsCheck_reject rfl

/-- A recipient who is no address is rejected, and so is one that the caller may not name. -/
theorem resolveRecipient_failsAsCheck (c : Config) (sender : Address) (named : Option String) :
    (resolveRecipient c sender named).FailsAsCheck overflow := by
  refine (validateAddress?_failsAsCheck named).bind fun recipient _ => ?_
  cases recipient with
  | none => exact failsAsCheck_ok _
  | some recipient =>
    dsimp only
    split
    · exact failsAsCheck_ok _
    · split
      · exact failsAsCheck_ok _
      · exact failsAsCheck_reject rfl

/-- A promised mint is rejected without an airdropper. -/
theorem Mint.gatekeeper_failsAsCheck (c : Config) (now : Nat) (promised : Bool) :
    (gatekeeper c now promised).FailsAsCheck overflow := by
  unfold gatekeeper
  split
  · split
    · exact failsAsCheck_ok _
    · exact failsAsCheck_reject rfl
  · split <;> exact failsAsCheck_ok _

/-- A channel that is not open is rejected. -/
theorem Channel.requireActive_failsAsCheck (c : Config) (now : Nat) (channel : Channel) :
    (channel.requireActive c now).FailsAsCheck overflow := by
  unfold requireActive
  split
  · exact failsAsCheck_ok _
  all_goals exact failsAsCheck_reject rfl

/-- Mints above a cap are rejected, unless they take the count out of its bound. -/
theorem Store.checkMint_failsAsCheck (s : Store) (c : Config) (now : Nat) (channel : Channel)
    (address : Address) (units : Nat) :
    (s.checkMint c now channel address units).FailsAsCheck
      (countBound ≤ s.mintCount channel address + units) := by
  refine (channel.requireActive_failsAsCheck c now).bind fun _ _ => ?_
  refine (addCounts_failsAsCheck _ _).bind fun count _ => ?_
  split
  · split
    · exact failsAsCheck_reject rfl
    · exact failsAsCheck_ok _
  · exact failsAsCheck_ok _

/-- So are mints that a collaborator does not allow: it has to be open to the recipient before what
it says of the recipient's mints is added up. -/
theorem Eligibility.verify_failsAsCheck (e : Eligibility) (channel : Channel) (units : Nat) :
    (e.verify channel units).FailsAsCheck
      (e.isOpen = true ∧ e.listed = true ∧ countBound ≤ e.minted + units) := by
  unfold verify
  split
  · exact failsAsCheck_reject rfl
  · next hopen =>
    split
    · exact failsAsCheck_reject rfl
    · next hlisted =>
      rw [Bool.not_eq_true', Bool.not_eq_false] at hopen hlisted
      refine ((addCounts_failsAsCheck _ _).imp fun hsum => ⟨hopen, hlisted, hsum⟩).bind
        fun count _ => ?_
      split
      · exact failsAsCheck_reject rfl
      · exact failsAsCheck_ok _

/-- A message that is not for a collaborator is rejected. -/
theorem Collaborator.forward_failsAsCheck (collaborator : Collaborator) (message : HookMessage) :
    (collaborator.forward message).FailsAsCheck overflow := by
  unfold forward
  split
  · split
    · split
      · exact failsAsCheck_ok _
      · exact failsAsCheck_reject rfl
    · exact failsAsCheck_reject rfl
  · exact failsAsCheck_reject rfl

/-! ## What is read and asked -/

/-- A part of the store that is missing is rejected. -/
theorem Store.demand_failsAsCheck {α : Type} (s : Store) (part : Store → Option α) :
    (s.demand part).FailsAsCheck overflow := by
  unfold demand
  split
  · exact failsAsCheck_ok _
  · exact failsAsCheck_reject rfl

/-- A question without an answer is rejected. -/
theorem CallState.ask_failsAsCheck {α : Type} (q : Question)
    (answer : List Question → Except QueryFault α) (u : CallState) :
    (ask q answer u).1.FailsAsCheck overflow := by
  simp only [ask, Step.get_bind_apply, Step.put_bind_apply]
  cases answer u.asked with
  | ok a => exact failsAsCheck_ok _
  | error fault => cases fault <;> exact failsAsCheck_reject rfl

/-- The message that mints a token is rejected without the contract of its collection. -/
theorem mintMessage_failsAsCheck (owner : Address) (t : Token) (s : Store) :
    (mintMessage owner t s).1.FailsAsCheck overflow := by
  intro e he
  rcases Step.bind_eq_error_iff.mp (Step.eq_of_outcome he) with hrequire | ⟨collection, u, -, hrest⟩
  · exact s.demand_failsAsCheck _ e (Prod.mk.inj hrequire).1
  · rw [Step.get_bind_apply] at hrest
    cases hcontract : u.collectionContracts.get? t.collection with
    | none =>
      rw [hcontract] at hrest
      cases hrest
      exact .rejected rfl
    | some contract =>
      rw [hcontract] at hrest
      cases hrest

/-- So is any list of messages made with it. -/
theorem messages_failsAsCheck (owner : Address) (t : Token) (more : Message → List Message)
    (s : Store) :
    ((mintMessage owner t >>= fun mintIt => pure (more mintIt)) s).1.FailsAsCheck overflow := by
  intro e he
  rcases Step.bind_eq_error_iff.mp (Step.eq_of_outcome he) with hmint | ⟨mintIt, u, -, hpure⟩
  · exact mintMessage_failsAsCheck owner t s e (by rw [hmint])
  · cases hpure

/-! ## Tokens by name -/

namespace Allocator.Consistent

variable {a : Allocator}

/-- A claim is rejected for the token that it names. -/
theorem claim_failsAsCheck (h : a.Consistent) (t : Token) :
    (claim t a).1.FailsAsCheck overflow := by
  rcases h.token_cases t with ⟨e, hslot⟩ | ⟨slot, status, htoken, hstatus⟩
  · rw [h.claim_apply_invalid hslot]
    exact failsAsCheck_reject rfl
  · rw [h.claim_apply htoken hstatus]
    cases status with
    | issued | staged => exact failsAsCheck_reject rfl
    | pending | reserved => exact failsAsCheck_ok _

/-- So is a claim from the custom bundle. -/
theorem claimStaged_failsAsCheck (h : a.Consistent) (t : Token) :
    (claimStaged t a).1.FailsAsCheck overflow := by
  rcases h.token_cases t with ⟨e, hslot⟩ | ⟨slot, status, htoken, hstatus⟩
  · rw [h.claimStaged_apply_invalid hslot]
    exact failsAsCheck_reject rfl
  · rw [h.claimStaged_apply htoken hstatus]
    cases status with
    | staged => exact failsAsCheck_ok _
    | issued | pending | reserved => exact failsAsCheck_reject rfl

/-- So is holding a token back. -/
theorem hold_failsAsCheck (h : a.Consistent) (status : SlotStatus) (t : Token) :
    (Allocator.hold status t a).1.FailsAsCheck overflow := by
  rcases h.token_cases t with ⟨e, hslot⟩ | ⟨slot, stood, htoken, hstood⟩
  · rw [h.hold_apply_invalid hslot]
    exact failsAsCheck_reject rfl
  · rw [h.hold_apply htoken hstood]
    cases stood with
    | pending => exact failsAsCheck_ok _
    | issued | staged | reserved => exact failsAsCheck_reject rfl

/-- So is putting a token back. -/
theorem unstage_failsAsCheck (h : a.Consistent) (t : Token) :
    (unstage t a).1.FailsAsCheck overflow := by
  rcases h.token_cases t with ⟨e, hslot⟩ | ⟨slot, status, htoken, hstatus⟩
  · rw [h.unstage_apply_invalid hslot]
    exact failsAsCheck_reject rfl
  · rw [h.unstage_apply htoken hstatus]
    cases status <;> exact failsAsCheck_ok _

end Allocator.Consistent

/-- Tokens that are issued by name on a consistent allocator fail as checks when each claim does and
the messages of each do. -/
theorem Airdrop.issueEach_failsAsCheck {claim : Token → Step Allocator Unit}
    {messages : Token → Step Store (List Message)} (hkeeps : ∀ t, Step.Keeps id (messages t))
    (hmessages : ∀ t, (messages t s).1.FailsAsCheck overflow)
    (hclaim : ∀ t a, a.Consistent → (claim t a).1.FailsAsCheck overflow)
    (hkept : ∀ t a b, a.Consistent → claim t a = (.ok (), b) → b.Consistent)
    {a : Allocator} (ha : a.Consistent) (tokens : List Token) :
    (issueEach claim messages tokens a s).1.FailsAsCheck overflow := by
  intro e he
  rcases failsOnly_issueEach hkeeps tokens a e _ (Step.eq_of_outcome he) with
    hclaims | ⟨t, -, hmessage⟩
  · have hall : Step.FailsOnly (fun e _ => e.OfCheck overflow) (Step.forEach claim tokens) a := by
      refine Step.FailsOnly.forEach (p := Allocator.Consistent) (fun t b hb e u hfails => ?_)
        (fun t _ b b' hb hok => hkept t b b' hb hok) _ ha
      exact hclaim t b hb e (by rw [hfails])
    exact hall e _ (Step.eq_of_outcome hclaims)
  · exact hmessages t e hmessage

section Issuing

variable {a : Allocator}

/-- Issuing promised tokens is rejected for one of them, or for its message. -/
theorem Airdrop.issueClaimed_failsAsCheck (ha : a.Consistent) (contract recipient : Address)
    (tokens : List Token) (s : Store) :
    (issueEach Allocator.claim (claimMessages contract recipient) tokens a s).1.FailsAsCheck
      overflow :=
  issueEach_failsAsCheck (keeps_claimMessages contract recipient)
    (fun t => messages_failsAsCheck recipient t _ s) (fun t _ h => h.claim_failsAsCheck t)
    (fun _ _ _ h hok => (h.claim_issues hok).moves.consistent h) ha tokens

/-- So is issuing staged tokens. -/
theorem CustomBundle.issueStaged_failsAsCheck (ha : a.Consistent) (buyer : Address)
    (tokens : List Token) (s : Store) :
    (Airdrop.issueEach Allocator.claimStaged (sellMessages buyer) tokens a s).1.FailsAsCheck
      overflow :=
  Airdrop.issueEach_failsAsCheck (keeps_sellMessages buyer)
    (fun t => messages_failsAsCheck buyer t _ s) (fun t _ h => h.claimStaged_failsAsCheck t)
    (fun _ _ _ h hok => (h.claimStaged_issues hok).moves.consistent h) ha tokens

end Issuing

end ShuffleMint
