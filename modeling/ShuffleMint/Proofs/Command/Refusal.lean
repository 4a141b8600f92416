import ShuffleMint.Proofs.Allocator.Shuffling
import ShuffleMint.Proofs.Command.Checks
import ShuffleMint.Proofs.Command.Failure

/-!
# Failures that are about the order

The allocator refuses a draw when no token is left to draw, and a shuffle when tokens are issued or
when that is done. No check of a command, no message and no settlement fails in one of these ways.
What a minting command has left to fear of the order is the shuffle before it issues, which a mint
never refuses that has issued from a shuffled order only, and that it is sold out.
-/

namespace ShuffleMint

open Step (FailsOnly)

/-- A failure that is about the order, if at all, because no token is left. -/
def AtMostSoldOut {σ : Type} (e : Failure) (_ : σ) : Prop :=
  e.isOfOrder = true → e = .rejected .soldOut

variable {a : Allocator} {s : Store} {c : Config} {e : Failure}

/-- A failure that is not about the order is at most that no token is left. -/
theorem atMostSoldOut_of_not {σ : Type} {t : σ} (h : e.isOfOrder = false) : AtMostSoldOut e t := by
  intro horder
  rw [h] at horder
  cases horder

/-- What is at most that no token is left is not about the shuffle. -/
theorem AtMostSoldOut.ne {σ : Type} {t : σ} (h : AtMostSoldOut e t) :
    e ≠ .rejected .orderLocked ∧ e ≠ .rejected .alreadyShuffled := by
  constructor
  · rintro rfl
    cases h rfl
  · rintro rfl
    cases h rfl

/-! ## Settlements -/

/-- Shares of an amount abort where they fail. -/
theorem Share.portions_eq_aborted {amount left : Nat} {shares : List Share}
    (h : portions amount left shares = .error e) : e = .aborted := by
  induction shares generalizing left with
  | nil => cases h
  | cons share rest ih =>
    rcases Outcome.bind_eq_error_iff.mp h with hown | ⟨own, -, hrest⟩
    · unfold part at hown
      split at hown
      · cases hown
      · simp only [portion] at hown
        split at hown <;> cases hown
        rfl
    · rcases Outcome.bind_eq_error_iff.mp hrest with hothers | ⟨others, -, hpure⟩
      · exact ih hothers
      · cases hpure

/-- Settling a revenue is not about the order. -/
theorem Escrow.isOfOrder_of_settleRevenue {amount : Nat}
    (h : (settleRevenue c amount s).1 = .error e) : e.isOfOrder = false := by
  rcases Step.bind_eq_error_iff.mp (Step.eq_of_outcome h) with hsplit | ⟨parts, u, -, hsettle⟩
  · rcases Outcome.bind_eq_error_iff.mp (Prod.mk.inj hsplit).1 with hportions | ⟨_, -, hpure⟩
    · rw [Share.portions_eq_aborted hportions]
      rfl
    · cases hpure
  · obtain ⟨x, y, rfl, -⟩ := ((failsOnly_settle c parts u) _ _ hsettle).2.overflow
    rfl

/-! ## The allocator -/

namespace Allocator

/-- Shuffling never finds a mint sold out. -/
theorem ensureShuffled_ne_soldOut {seed : Seed} (h : (ensureShuffled seed a).1 = .error e) :
    e ≠ .rejected .soldOut := by
  rw [ensureShuffled_apply, initializeShuffle_apply] at h
  split at h
  · cases h
  · split at h
    · cases h
      exact nofun
    · cases h

namespace Consistent

/-- A draw fails as sold out. -/
theorem eq_soldOut_of_next (h : a.Consistent) {collection : Option Nat}
    (hfails : (next collection a).1 = .error e) : e = .rejected .soldOut := by
  rcases h.next_apply_cases collection with ⟨-, happly⟩ | ⟨slot, t, -, -, -, happly⟩
  · rw [happly] at hfails
    exact (Except.error.inj hfails).symm
  · rw [happly] at hfails
    cases hfails

end Consistent

end Allocator

/-! ## Minting commands -/

/-- What fails as a check fails is not about the order. -/
theorem atMostSoldOut_of_check {σ α : Type} {o : Outcome α} {t : σ} (h : o.FailsAsCheck True)
    (he : o = .error e) : AtMostSoldOut e t :=
  atMostSoldOut_of_not (h e he).isOfOrder_eq

/-- Neither is a check that is a step. -/
theorem failsOnly_lift_of_check {σ α : Type} {o : Outcome α} {t : σ} (h : o.FailsAsCheck True) :
    FailsOnly AtMostSoldOut (liftM o : Step σ α) t :=
  Step.failsOnly_lift fun _ => atMostSoldOut_of_check h

/-- Reading a part of the store fails where it is missing. -/
theorem Store.failsOnly_require {α : Type} (part : Store → Option α) :
    FailsOnly AtMostSoldOut (Store.require part) s :=
  failsOnly_lift_of_check (s.demand_failsAsCheck part)

/-- Two steps of a call of which the first keeps the store fail as the first does, or as the second
does where the store is the same. -/
theorem CallState.failsOnly_bind {α β : Type} {kind : Failure → CallState → Prop} {u : CallState}
    {first : Step CallState α} {next : α → Step CallState β} (hfirst : FailsOnly kind first u)
    (h : Step.Keeps CallState.store first) (hu : u.store = s)
    (hnext : ∀ x v, v.store = s → FailsOnly kind (next x) v) :
    FailsOnly kind (first >>= next) u :=
  hfirst.bind fun x v hmade => hnext x v ((h.view_eq hmade).trans hu)

/-- A question without an answer is not about the order. -/
theorem CallState.failsOnly_ask {α : Type} (q : Question)
    (answer : List Question → Except QueryFault α) (u : CallState) :
    FailsOnly AtMostSoldOut (ask q answer) u :=
  fun _ _ hrun => atMostSoldOut_of_check (ask_failsAsCheck q answer u) (by rw [hrun])

/-- The check of a count is not about the order. -/
theorem Store.failsOnly_checkMint {σ : Type} {now : Nat} {channel : Channel} {address : Address}
    {units : Nat} {t : σ} :
    FailsOnly AtMostSoldOut (liftM (s.checkMint c now channel address units) : Step σ Nat) t :=
  failsOnly_lift_of_check ((s.checkMint_failsAsCheck _ _ _ _ _).imp fun _ => trivial)

/-- Neither is the payment. -/
theorem failsOnly_checkPayment {σ : Type} {funds : List Coin} {price : Nat} {t : σ} :
    FailsOnly AtMostSoldOut (liftM (checkPayment c funds price) : Step σ Nat) t :=
  failsOnly_lift_of_check ((checkPayment_failsAsCheck _ _ _).imp fun _ => trivial)

/-- Finding the price of a mint is not about the order. -/
theorem Mint.failsOnly_priceOf (answers : Answers) (recipient : Address)
    (through : Option Collaborator) (u : CallState) :
    FailsOnly AtMostSoldOut (priceOf answers c recipient through) u := by
  cases through with
  | none => exact Step.failsOnly_of_ok rfl
  | some collaborator =>
    refine FailsOnly.bind ?_ fun eligibility v _ => ?_
    · cases collaborator <;>
        exact (CallState.failsOnly_ask _ _ u).bind fun _ _ _ => Step.failsOnly_of_ok rfl
    · have hverify := (eligibility.verify_failsAsCheck collaborator.channel 1).imp fun _ => trivial
      exact (failsOnly_lift_of_check hverify).bind fun _ _ _ => Step.failsOnly_of_ok rfl

/-- Counting a mint is not about the order. -/
theorem failsOnly_recordMint_atMostSoldOut {now : Nat} {channel : Channel} {address : Address}
    {units : Nat} : FailsOnly AtMostSoldOut (recordMint c now channel address units) s :=
  failsOnly_recordMint fun _ =>
    atMostSoldOut_of_check ((s.checkMint_failsAsCheck _ _ _ _ _).imp fun _ => trivial)

/-- Settling a revenue is not about the order. -/
theorem Escrow.failsOnly_settleRevenue_atMostSoldOut {amount : Nat} :
    FailsOnly AtMostSoldOut (settleRevenue c amount) s :=
  fun e t he => atMostSoldOut_of_not (isOfOrder_of_settleRevenue (s := s) (by rw [he]))

namespace Store.Sound

/-- Shuffling unless that is done does not fail. -/
theorem failsOnly_ensureShuffled (hdraws : a.DrawsShuffled) (seed : Seed) :
    FailsOnly AtMostSoldOut (Allocator.ensureShuffled seed) a := by
  obtain ⟨b, hok⟩ := hdraws.exists_ensureShuffled seed
  exact Step.failsOnly_of_ok hok

/-- Drawing a token fails as sold out, if at all. -/
theorem failsOnly_draw_atMostSoldOut (hs : s.Sound)
    (hdraws : ∀ a, s.allocator? = some a → a.DrawsShuffled) (env : Env) (sender recipient : Address)
    (through : Option Collaborator) (payment : Nat) :
    FailsOnly AtMostSoldOut (Mint.draw c env sender recipient through payment) s := by
  refine (failsOnly_require _).bind_of_keeps (keeps_require _) fun a ha => ?_
  replace ha := (loadAllocator_eq_ok_iff.mp ha).1
  refine FailsOnly.bind (Step.failsOnly_onCopy fun e he => ?_) fun drawn _ _ => ?_
  · have hdrawing : FailsOnly AtMostSoldOut
        (Allocator.ensureShuffled (env.entropy sender) >>= fun _ => Allocator.next none) a := by
      refine (failsOnly_ensureShuffled (hdraws a ha) _).bind fun _ b hshuffled => ?_
      intro e t hfails
      have hconsistent := (Allocator.Consistent.ensureShuffled_moves hshuffled).consistent
        (hs.consistent ha)
      exact fun _ => hconsistent.eq_soldOut_of_next (by rw [hfails])
    exact hdrawing e _ (Step.eq_of_outcome he)
  refine FailsOnly.bind (fun e t he => ?_) fun m _ _ => ?_
  · exact atMostSoldOut_of_check (mintMessage_failsAsCheck _ _ _) (by rw [he])
  refine failsOnly_recordMint_atMostSoldOut.bind fun count _ _ => ?_
  refine FailsOnly.bind (Step.failsOnly_of_ok rfl) fun _ _ _ => ?_
  exact Escrow.failsOnly_settleRevenue_atMostSoldOut.bind fun _ _ _ => Step.failsOnly_of_ok rfl

/-- Minting a random token fails as sold out, if for the order at all. -/
theorem failsOnly_mint_atMostSoldOut (hs : s.Sound)
    (hdraws : ∀ a, s.allocator? = some a → a.DrawsShuffled) (call : Call) (promised : Bool)
    (named : Option String) {u : CallState} (hu : u.store = s) :
    FailsOnly AtMostSoldOut (call.mint promised named) u := by
  refine CallState.failsOnly_bind (CallState.failsOnly_onStore (failsOnly_require _))
    (CallState.keeps_onStore (keeps_require _)) hu fun c u₁ hu₁ => ?_
  refine CallState.failsOnly_bind (failsOnly_lift_of_check (resolveRecipient_failsAsCheck _ _ _))
    (Step.keeps_lift _) hu₁ fun recipient u₂ hu₂ => ?_
  refine CallState.failsOnly_bind (failsOnly_lift_of_check (Mint.gatekeeper_failsAsCheck _ _ _))
    (Step.keeps_lift _) hu₂ fun through u₃ hu₃ => ?_
  refine CallState.failsOnly_bind (Step.failsOnly_of_ok rfl) Step.keeps_get hu₃ fun _ u₄ hu₄ => ?_
  refine CallState.failsOnly_bind failsOnly_checkMint
    (Step.keeps_lift _) hu₄ fun count u₅ hu₅ => ?_
  refine CallState.failsOnly_bind (Mint.failsOnly_priceOf _ _ _ u₅) (Mint.keeps_priceOf _ _ _ _)
    hu₅ fun price u₆ hu₆ => ?_
  refine CallState.failsOnly_bind failsOnly_checkPayment
    (Step.keeps_lift _) hu₆ fun payment u₇ hu₇ => ?_
  have hdraw := hs.failsOnly_draw_atMostSoldOut (c := c) hdraws call.env call.sender recipient
    through payment
  rw [← hu₇] at hdraw
  exact CallState.failsOnly_onStore hdraw

/-- Minting a bundle fails as sold out, if for the order at all. -/
theorem failsOnly_mintBundle_atMostSoldOut (hs : s.Sound)
    (hdraws : ∀ a, s.allocator? = some a → a.DrawsShuffled) (call : Call) :
    FailsOnly AtMostSoldOut call.mintBundle s := by
  refine (failsOnly_require _).bind_of_keeps (keeps_require _) fun c _ => ?_
  refine FailsOnly.bind_of_keeps (Step.failsOnly_of_ok rfl) Step.keeps_get fun s' _ => ?_
  refine failsOnly_checkMint.bind_of_keeps (Step.keeps_lift _) fun count _ => ?_
  refine failsOnly_checkPayment.bind_of_keeps (Step.keeps_lift _) fun payment _ => ?_
  refine (failsOnly_require _).bind_of_keeps (keeps_require _) fun a ha => ?_
  replace ha := (loadAllocator_eq_ok_iff.mp ha).1
  have hconsistent := hs.consistent ha
  refine FailsOnly.bind (Step.failsOnly_onCopy fun e he => ?_) fun drawn t hdrawn => ?_
  · have hdrawing : FailsOnly AtMostSoldOut
        (Allocator.ensureShuffled (call.env.entropy call.sender) >>= fun _ =>
          Bundle.drawEach a.collectionIds) a := by
      refine (failsOnly_ensureShuffled (hdraws a ha) _).bind fun _ b hshuffled => ?_
      refine FailsOnly.forEach (p := Allocator.Consistent) (fun collection b hb e t hfails => ?_)
        (fun collection t b b' hb hnext => ?_) _ ?_
      · exact fun _ => hb.eq_soldOut_of_next (by rw [hfails])
      · exact (hb.next_issues hnext).moves.consistent hb
      · exact (Allocator.Consistent.ensureShuffled_moves hshuffled).consistent hconsistent
    exact hdrawing e _ (Step.eq_of_outcome he)
  have hleft := Bundle.consistent_of_draw hconsistent (Step.onCopy_eq_ok_pair_iff.mp hdrawn).1
  obtain ⟨exhausted, hexhausted⟩ := Bundle.exists_anyExhausted hleft a.collectionIds
  refine FailsOnly.bind ?_ fun mints _ _ => ?_
  · refine FailsOnly.forEach (p := fun _ => True) (fun token u _ e v he => ?_)
      (fun _ _ _ _ _ _ => trivial) _ trivial
    exact atMostSoldOut_of_check (mintMessage_failsAsCheck _ _ u) (by rw [he])
  refine failsOnly_recordMint_atMostSoldOut.bind fun _ _ _ => ?_
  refine FailsOnly.bind (Step.failsOnly_of_ok rfl) fun _ _ _ => ?_
  refine FailsOnly.bind (Step.failsOnly_of_ok (Step.lift_eq_ok_iff.mpr ⟨hexhausted, rfl⟩))
    fun exhausted' _ _ => ?_
  refine (Bundle.failsOnly_close c exhausted').bind fun _ _ _ => ?_
  exact Escrow.failsOnly_settleRevenue_atMostSoldOut.bind fun _ _ _ => Step.failsOnly_of_ok rfl

/-- Issuing promised tokens is not refused for the order. -/
theorem failsOnly_issue_atMostSoldOut (hs : s.Sound)
    (hdraws : ∀ a, s.allocator? = some a → a.DrawsShuffled) (env : Env)
    (sender recipient contract : Address) (tokens : List Token) :
    FailsOnly AtMostSoldOut (Airdrop.issue c env sender recipient contract tokens) s := by
  refine FailsOnly.bind_of_keeps (Step.failsOnly_of_ok rfl) Step.keeps_get fun s' _ => ?_
  refine failsOnly_checkMint.bind_of_keeps (Step.keeps_lift _) fun count _ => ?_
  refine (failsOnly_require _).bind_of_keeps (keeps_require _) fun a ha => ?_
  replace ha := (loadAllocator_eq_ok_iff.mp ha).1
  refine FailsOnly.bind_of_keeps (Step.failsOnly_onCopy fun e he => ?_) (Step.keeps_onCopy _ _)
    fun shuffled hshuffled => ?_
  · exact failsOnly_ensureShuffled (hdraws a ha) _ e _ (Step.eq_of_outcome he)
  have hmoves := Allocator.Consistent.ensureShuffled_moves
    (Step.onCopy_eq_ok_pair_iff.mp hshuffled).1
  have hafter := hmoves.consistent (hs.consistent ha)
  refine FailsOnly.bind (fun e t he => ?_) fun issued _ _ => ?_
  · exact atMostSoldOut_of_check (Airdrop.issueClaimed_failsAsCheck hafter _ _ _ s) (by rw [he])
  refine failsOnly_recordMint_atMostSoldOut.bind fun _ _ _ => ?_
  exact FailsOnly.bind (Step.failsOnly_of_ok rfl) fun _ _ _ => Step.failsOnly_of_ok rfl

/-- Neither is a claim. -/
theorem failsOnly_claimAirdrop_atMostSoldOut (hs : s.Sound)
    (hdraws : ∀ a, s.allocator? = some a → a.DrawsShuffled) (call : Call) (limit : Option Nat)
    (named : Option String) {u : CallState} (hu : u.store = s) :
    FailsOnly AtMostSoldOut (call.claimAirdrop limit named) u := by
  refine CallState.failsOnly_bind (failsOnly_lift_of_check (requireNoFunds_failsAsCheck _))
    (Step.keeps_lift _) hu fun _ u₁ hu₁ => ?_
  refine CallState.failsOnly_bind (CallState.failsOnly_onStore (failsOnly_require _))
    (CallState.keeps_onStore (keeps_require _)) hu₁ fun c u₂ hu₂ => ?_
  refine CallState.failsOnly_bind (failsOnly_lift_of_check (resolveRecipient_failsAsCheck _ _ _))
    (Step.keeps_lift _) hu₂ fun recipient u₃ hu₃ => ?_
  have hrejected (u : CallState) (cause : Rejection)
      (hcause : (Failure.rejected cause).isOfOrder = false) :
      FailsOnly AtMostSoldOut (Step.reject cause : Step CallState Response) u := by
    intro e v he
    obtain rfl := Except.error.inj (Prod.mk.inj he).1
    exact atMostSoldOut_of_not hcause
  cases c.airdropper with
  | none => exact hrejected u₃ _ rfl
  | some contract =>
    refine CallState.failsOnly_bind (CallState.failsOnly_ask _ _ u₃) (CallState.keeps_ask _ _) hu₃
      fun promised u₄ hu₄ => ?_
    split
    · exact hrejected u₄ _ rfl
    · dsimp only
      split
      · exact hrejected u₄ _ rfl
      · have hissue := hs.failsOnly_issue_atMostSoldOut (c := c) hdraws call.env call.sender
          recipient contract (Airdrop.unclaimed promised limit)
        rw [← hu₄] at hissue
        exact CallState.failsOnly_onStore hissue

/-- Selling a custom bundle is not refused for the order. -/
theorem failsOnly_sell_atMostSoldOut (hs : s.Sound)
    (hdraws : ∀ a, s.allocator? = some a → a.DrawsShuffled) (env : Env) (buyer : Address)
    (payment : Nat) (bundle left : List Token) :
    FailsOnly AtMostSoldOut (CustomBundle.sell c env buyer payment bundle left) s := by
  refine (failsOnly_require _).bind_of_keeps (keeps_require _) fun a ha => ?_
  replace ha := (loadAllocator_eq_ok_iff.mp ha).1
  refine FailsOnly.bind_of_keeps (Step.failsOnly_onCopy fun e he => ?_) (Step.keeps_onCopy _ _)
    fun shuffled hshuffled => ?_
  · exact failsOnly_ensureShuffled (hdraws a ha) _ e _ (Step.eq_of_outcome he)
  have hmoves := Allocator.Consistent.ensureShuffled_moves
    (Step.onCopy_eq_ok_pair_iff.mp hshuffled).1
  have hafter := hmoves.consistent (hs.consistent ha)
  refine FailsOnly.bind (fun e t he => ?_) fun issued _ _ => ?_
  · exact atMostSoldOut_of_check (CustomBundle.issueStaged_failsAsCheck hafter _ _ s) (by rw [he])
  refine failsOnly_recordMint_atMostSoldOut.bind fun _ _ _ => ?_
  refine FailsOnly.bind (Step.failsOnly_of_ok rfl) fun _ _ _ => ?_
  refine FailsOnly.bind (Step.failsOnly_of_ok rfl) fun _ _ _ => ?_
  refine (CustomBundle.failsOnly_close c left).bind fun _ _ _ => ?_
  exact Escrow.failsOnly_settleRevenue_atMostSoldOut.bind fun _ _ _ => Step.failsOnly_of_ok rfl

/-- Minting a custom bundle fails as sold out, if for the order at all. -/
theorem failsOnly_mintCustomBundle_atMostSoldOut (hs : s.Sound)
    (hdraws : ∀ a, s.allocator? = some a → a.DrawsShuffled) (call : Call) :
    FailsOnly AtMostSoldOut call.mintCustomBundle s := by
  refine (failsOnly_require _).bind_of_keeps (keeps_require _) fun c _ => ?_
  refine FailsOnly.bind_of_keeps (Step.failsOnly_of_ok rfl) Step.keeps_get fun s' _ => ?_
  refine failsOnly_checkMint.bind_of_keeps (Step.keeps_lift _) fun count _ => ?_
  refine failsOnly_checkPayment.bind_of_keeps (Step.keeps_lift _) fun payment _ => ?_
  refine (failsOnly_require _).bind_of_keeps (keeps_require _) fun staged _ => ?_
  split
  · exact fun e t he _ => (Except.error.inj (Prod.mk.inj he).1).symm
  · exact hs.failsOnly_sell_atMostSoldOut hdraws _ _ _ _ _

end Store.Sound

end ShuffleMint
