import ShuffleMint.Proofs.Command.Issuing

/-!
# What a successful mint has done

The four commands that mint, read backwards: from the fact that a command succeeded, what it read,
what it checked, which moves of the allocator it made on a copy, which messages it formed, and the
store in which it ended as an explicit change of the store in which it began.
-/

namespace ShuffleMint

/-- A call takes no coins when none are sent. -/
theorem requireNoFunds_eq_ok_iff {funds : List Coin} {u : Unit} :
    requireNoFunds funds = .ok u ↔ funds = [] := by
  cases funds <;> simp [requireNoFunds]

/-- What comes with a call. -/
def Call.paid (call : Call) : Nat := (call.funds.map Coin.amount).sum

/-- Without coins nothing is paid. -/
theorem Call.paid_eq_zero {call : Call} (h : call.funds = []) : call.paid = 0 := by
  rw [Call.paid, h]
  rfl

/-- Coins pay a price exactly: one coin of the denomination of the mint, or none at all when there
is nothing to pay. -/
def Config.PaidBy (c : Config) (price : Nat) (funds : List Coin) : Prop :=
  funds = [c.price price] ∨ funds = [] ∧ price = 0

/-- The payment of a mint is taken exactly when the coins pay the price. -/
theorem checkPayment_eq_ok_iff {c : Config} {funds : List Coin} {price payment : Nat} :
    checkPayment c funds price = .ok payment ↔ payment = price ∧ c.PaidBy price funds := by
  simp only [checkPayment, Outcome.bind_eq_ok_iff, Config.PaidBy, Config.price]
  constructor
  · rintro ⟨paid, hpaid, hprice⟩
    split at hprice
    · next hexact =>
      obtain rfl := Except.ok.inj hprice
      obtain rfl := hexact
      refine ⟨rfl, ?_⟩
      unfold mayPay at hpaid
      split at hpaid
      · exact .inr ⟨rfl, (Except.ok.inj hpaid).symm⟩
      · next coin =>
        split at hpaid
        · next hdenom =>
          rw [← hdenom, ← Except.ok.inj hpaid]
          exact .inl rfl
        · cases hpaid
      · split at hpaid <;> cases hpaid
    · cases hprice
  · rintro ⟨rfl, rfl | ⟨rfl, rfl⟩⟩
    · exact ⟨payment, by simp [mayPay], by simp⟩
    · exact ⟨0, rfl, rfl⟩

/-- What is paid for a mint is all that comes with the call. -/
theorem checkPayment_eq_paid {c : Config} {call : Call} {price payment : Nat}
    (h : checkPayment c call.funds price = .ok payment) : payment = call.paid := by
  obtain ⟨rfl, hexact | ⟨hnone, hzero⟩⟩ := checkPayment_eq_ok_iff.mp h
  · rw [Call.paid, hexact]
    simp [Config.price]
  · rw [Call.paid_eq_zero hnone, hzero]

/-- What is paid for a mint comes in the denomination of the mint. -/
theorem checkPayment_denom {c : Config} {funds : List Coin} {price payment : Nat}
    (h : checkPayment c funds price = .ok payment) : ∀ coin ∈ funds, coin.denom = c.denom := by
  obtain ⟨-, rfl | ⟨rfl, -⟩⟩ := checkPayment_eq_ok_iff.mp h
  · simp [Config.price]
  · simp

namespace Mint

/-- A drawn token is the next of the shuffled copy. Its mint is counted, the copy is stored and the
payment settled. -/
theorem draw_eq_ok {c : Config} {env : Env} {sender recipient : Address}
    {through : Option Collaborator} {payment : Nat} {s t : Store} {r : Response}
    (h : draw c env sender recipient through payment s = (.ok r, t)) :
    ∃ a shuffled b token m count payouts,
      s.allocator? = some a ∧
      Allocator.ensureShuffled (env.entropy sender) a = (.ok (), shuffled) ∧
      Allocator.next none shuffled = (.ok token, b) ∧
      s.Mints recipient token m ∧
      s.checkMint c env.time (channelOf through) recipient 1 = .ok count ∧
      Escrow.settleRevenue c payment
        ((s.withMintCount (channelOf through) recipient count).withAllocator b) =
          (.ok payouts, t) ∧
      r = Response.ofMessages
        [("action", "mint"), ("sender", sender), ("recipient", recipient),
          ("channel", (channelOf through).label), ("collection_id", toString token.collection),
          ("token_id", toString token.number), ("mint_price", toString payment)]
        (m :: (through.map fun g => g.recordMint recipient).toList ++ payouts) := by
  simp only [draw, Step.bind_eq_ok_iff, Store.loadAllocator_eq_ok_iff, Step.onCopy_eq_ok_pair_iff,
    mintMessage_eq_ok_iff, recordMint_eq_ok_iff, Store.saveAllocator_eq_ok_iff, Step.pure_eq_ok_iff,
    and_assoc, exists_and_left, exists_eq_left, exists_const] at h
  obtain ⟨a, ha, ⟨token, b⟩, ⟨_, shuffled, hshuffled, hnext⟩, m, hm, count, hcount, payouts, t',
    hsettle, hresponse, rfl⟩ := h
  exact ⟨a, shuffled, b, token, m, count, payouts, ha, hshuffled, hnext, hm, hcount, hsettle,
    hresponse.symm⟩

end Mint

/-- Tokens promised to a recipient are checked as so many mints, claimed one after the other on the
shuffled copy, and counted. -/
theorem Airdrop.issue_eq_ok {c : Config} {env : Env} {sender recipient contract : Address}
    {tokens : List Token} {s t : Store} {r : Response}
    (h : issue c env sender recipient contract tokens s = (.ok r, t)) :
    ∃ count a shuffled b messages,
      s.checkMint c env.time .airdrop recipient tokens.length = .ok count ∧
      s.allocator? = some a ∧
      Allocator.ensureShuffled (env.entropy sender) a = (.ok (), shuffled) ∧
      Issued Allocator.claim (claimMessages contract recipient) s tokens shuffled messages b ∧
      t = (s.withMintCount .airdrop recipient count).withAllocator b ∧
      r = Response.ofMessages
        [("action", "airdrop_claim"), ("sender", sender), ("recipient", recipient),
          ("token_count", toString tokens.length)]
        messages := by
  simp only [issue, Step.bind_eq_ok_iff, Step.lift_eq_ok_iff, Step.get_bind_apply,
    Store.loadAllocator_eq_ok_iff, Step.onCopy_eq_ok_pair_iff, recordMint_eq_ok_iff,
    Store.saveAllocator_eq_ok_iff, Step.pure_eq_ok_iff, and_assoc, exists_and_left, exists_eq_left,
    exists_const] at h
  obtain ⟨count, hcount, a, ha, ⟨_, shuffled⟩, hshuffled, ⟨messages, b⟩, u, hissue, count',
    hcount', hresponse, rfl⟩ := h
  obtain ⟨rfl, hissued⟩ :=
    issueEach_eq_ok (fun _ _ _ hm => (claimMessages_eq_ok_iff.mp hm).2) hissue
  obtain rfl := Except.ok.inj (hcount.symm.trans hcount')
  exact ⟨count, a, shuffled, b, messages, hcount, ha, hshuffled, hissued, rfl, hresponse.symm⟩

namespace CustomBundle

/-- Closing the channel changes its completion flag at most, in the configuration and in the store.
-/
theorem close_eq_ok {c c' : Config} {left : List Token} {s t : Store}
    (h : close c left s = (.ok c', t)) :
    (left.length < c.customCount ∧ c' = { c with customCompleted := true } ∧ t = s.withConfig c') ∨
      (c.customCount ≤ left.length ∧ c' = c ∧ t = s) := by
  unfold close at h
  split at h
  · next hfew =>
    simp only [Step.bind_eq_ok_iff, Store.saveConfig_eq_ok_iff, Step.pure_eq_ok_iff, exists_eq_left,
      exists_const] at h
    obtain ⟨rfl, rfl⟩ := h
    exact .inl ⟨hfew, rfl, rfl⟩
  · next henough =>
    obtain ⟨rfl, rfl⟩ := Step.pure_eq_ok_iff.mp h
    exact .inr ⟨Nat.not_lt.mp henough, rfl, rfl⟩

/-- A sold bundle is claimed token by token on the shuffled copy, counted and settled, and what is
left stays staged. -/
theorem sell_eq_ok {c : Config} {env : Env} {buyer : Address} {payment : Nat}
    {bundle left : List Token} {s t : Store} {r : Response}
    (h : sell c env buyer payment bundle left s = (.ok r, t)) :
    ∃ a shuffled b mints count c' closed payouts,
      s.allocator? = some a ∧
      Allocator.ensureShuffled (env.entropy buyer) a = (.ok (), shuffled) ∧
      Airdrop.Issued Allocator.claimStaged (sellMessages buyer) s bundle shuffled mints b ∧
      s.checkMint c env.time .customBundle buyer 1 = .ok count ∧
      close c left (((s.withMintCount .customBundle buyer count).withAllocator b).withStaged left) =
        (.ok c', closed) ∧
      Escrow.settleRevenue c' payment closed = (.ok payouts, t) ∧
      r = Response.ofMessages
        [("action", "mint_custom_bundle"), ("sender", buyer),
          ("token_count", toString bundle.length),
          ("custom_bundle_completed", toString c'.customCompleted),
          ("mint_price", toString payment)]
        (mints ++ payouts) := by
  simp only [sell, Step.bind_eq_ok_iff, Store.loadAllocator_eq_ok_iff, Step.onCopy_eq_ok_pair_iff,
    recordMint_eq_ok_iff, Store.saveAllocator_eq_ok_iff, Store.saveStaged_eq_ok_iff,
    Step.pure_eq_ok_iff, and_assoc, exists_and_left, exists_eq_left, exists_const] at h
  obtain ⟨a, ha, ⟨_, shuffled⟩, hshuffled, ⟨mints, b⟩, u, hissue, count, hcount, c', closed,
    hclosed, payouts, t', hsettle, hresponse, rfl⟩ := h
  obtain ⟨rfl, hissued⟩ :=
    Airdrop.issueEach_eq_ok (fun _ _ _ hm => (sellMessages_eq_ok_iff.mp hm).2) hissue
  exact ⟨a, shuffled, b, mints, count, c', closed, payouts, ha, hshuffled, hissued, hcount, hclosed,
    hsettle, hresponse.symm⟩

end CustomBundle

/-- Closing the channel changes its completion flag at most, in the configuration and in the store.
-/
theorem Bundle.close_eq_ok {c c' : Config} {exhausted : Bool} {s t : Store}
    (h : close c exhausted s = (.ok c', t)) :
    (exhausted = true ∧ c' = { c with bundleCompleted := true } ∧ t = s.withConfig c') ∨
      (exhausted = false ∧ c' = c ∧ t = s) := by
  cases exhausted with
  | true =>
    simp only [close, if_true, Step.bind_eq_ok_iff, Store.saveConfig_eq_ok_iff,
      Step.pure_eq_ok_iff, exists_eq_left, exists_const] at h
    obtain ⟨rfl, rfl⟩ := h
    exact .inl ⟨rfl, rfl, rfl⟩
  | false =>
    obtain ⟨rfl, rfl⟩ := Step.pure_eq_ok_iff.mp h
    exact .inr ⟨rfl, rfl, rfl⟩

namespace Call

variable {call : Call}

/-- A mint is allowed by its collaborator, within its cap and paid, and then drawn. -/
theorem mint_eq_ok {promised : Bool} {named : Option String} {s t : CallState} {r : Response}
    (h : call.mint promised named s = (.ok r, t)) :
    ∃ c recipient through count price payment u,
      s.store.config = some c ∧
      resolveRecipient c call.sender named = .ok recipient ∧
      Mint.gatekeeper c call.env.time promised = .ok through ∧
      s.store.checkMint c call.env.time (Mint.channelOf through) recipient 1 = .ok count ∧
      Mint.priceOf call.answers c recipient through s = (.ok price, u) ∧
      checkPayment c call.funds price = .ok payment ∧
      Mint.draw c call.env call.sender recipient through payment u.store = (.ok r, t.store) := by
  simp only [Call.mint, Step.bind_eq_ok_iff, Step.lift_eq_ok_iff, Step.get_bind_apply,
    CallState.onStore_eq_ok_iff, Store.loadConfig_eq_ok_iff, and_assoc, exists_and_left,
    exists_eq_left] at h
  obtain ⟨c, hc, recipient, hrecipient, through, hthrough, count, hcount, price, u, hprice,
    payment, hpayment, t', hdraw, rfl⟩ := h
  exact ⟨c, recipient, through, count, price, payment, u, hc, hrecipient, hthrough, hcount, hprice,
    hpayment, hdraw⟩

/-- A bundle is paid, drawn from every collection of the shuffled copy, counted and settled. The
channel is completed when a collection has no token left to draw. -/
theorem mintBundle_eq_ok {s t : Store} {r : Response} (h : call.mintBundle s = (.ok r, t)) :
    ∃ c count payment a shuffled b tokens mints exhausted c' closed payouts,
      s.config = some c ∧
      s.checkMint c call.env.time .bundle call.sender 1 = .ok count ∧
      checkPayment c call.funds c.bundlePrice = .ok payment ∧
      s.allocator? = some a ∧
      Allocator.ensureShuffled (call.env.entropy call.sender) a = (.ok (), shuffled) ∧
      Bundle.drawEach a.collectionIds shuffled = (.ok tokens, b) ∧
      List.Forall₂ (s.Mints call.sender) tokens mints ∧
      Bundle.anyExhausted b a.collectionIds = .ok exhausted ∧
      Bundle.close c exhausted
        ((s.withMintCount .bundle call.sender count).withAllocator b) = (.ok c', closed) ∧
      Escrow.settleRevenue c' payment closed = (.ok payouts, t) ∧
      r = Response.ofMessages
        [("action", "mint_bundle"), ("sender", call.sender),
          ("token_count", toString tokens.length),
          ("bundle_completed", toString c'.bundleCompleted), ("mint_price", toString payment)]
        (mints ++ payouts) := by
  simp only [Call.mintBundle, Step.bind_eq_ok_iff, Step.lift_eq_ok_iff, Step.get_bind_apply,
    Store.loadConfig_eq_ok_iff, Store.loadAllocator_eq_ok_iff, Step.onCopy_eq_ok_pair_iff,
    recordMint_eq_ok_iff, Store.saveAllocator_eq_ok_iff, Step.pure_eq_ok_iff,
    and_assoc, exists_and_left, exists_eq_left, exists_const] at h
  obtain ⟨c, hc, count, hcount, payment, hpayment, a, ha, ⟨tokens, b⟩, ⟨_, shuffled, hshuffled,
    hdraw⟩, mints, u, hmints, count', hcount', exhausted, hexhausted, c', closed, hclosed, payouts,
    t', hsettle, hresponse, rfl⟩ := h
  obtain ⟨rfl, hall⟩ :=
    Step.forEach_eq_ok (fun _ _ _ hm => (mintMessage_eq_ok_iff.mp hm).2) hmints
  obtain rfl := Except.ok.inj (hcount.symm.trans hcount')
  exact ⟨c, count, payment, a, shuffled, b, tokens, mints, exhausted, c', closed, payouts, hc,
    hcount, hpayment, ha, hshuffled, hdraw, hall.imp fun _ _ hm => (mintMessage_eq_ok_iff.mp hm).1,
    hexhausted, hclosed, hsettle, hresponse.symm⟩

/-- A claim is open at the airdropper, and issues what is promised and not claimed yet. -/
theorem claimAirdrop_eq_ok {limit : Option Nat} {named : Option String} {s t : CallState}
    {r : Response} (h : call.claimAirdrop limit named s = (.ok r, t)) :
    ∃ c recipient contract promised u,
      call.funds = [] ∧
      s.store.config = some c ∧
      resolveRecipient c call.sender named = .ok recipient ∧
      c.airdropper = some contract ∧
      Airdropper.promisedTokens call.answers contract recipient s = (.ok promised, u) ∧
      promised.closed = false ∧ promised.inProgress = true ∧
      Airdrop.unclaimed promised limit ≠ [] ∧
      Airdrop.issue c call.env call.sender recipient contract (Airdrop.unclaimed promised limit)
        u.store = (.ok r, t.store) := by
  simp only [Call.claimAirdrop, Step.bind_eq_ok_iff, Step.lift_eq_ok_iff, requireNoFunds_eq_ok_iff,
    CallState.onStore_eq_ok_iff, Store.loadConfig_eq_ok_iff, and_assoc, exists_and_left,
    exists_eq_left, exists_const] at h
  obtain ⟨hfunds, c, hc, recipient, hrecipient, hclaim⟩ := h
  cases hairdropper : c.airdropper with
  | none => simp [hairdropper] at hclaim
  | some contract =>
    rw [hairdropper] at hclaim
    obtain ⟨promised, u, hpromised, hissue⟩ := Step.bind_eq_ok_iff.mp hclaim
    split at hissue
    · simp at hissue
    · next hopen =>
      split at hissue
      · simp at hissue
      · next hsome =>
        obtain ⟨t', ht', rfl⟩ := CallState.onStore_eq_ok_iff.mp hissue
        rw [Bool.or_eq_true, not_or, Bool.not_eq_true, Bool.not_eq_true,
          Bool.not_eq_false'] at hopen
        rw [List.isEmpty_iff] at hsome
        exact ⟨c, recipient, contract, promised, u, hfunds, hc, hrecipient, hairdropper, hpromised,
          hopen.1, hopen.2, hsome, ht'⟩

/-- A custom bundle is paid and made of the first staged tokens. -/
theorem mintCustomBundle_eq_ok {s t : Store} {r : Response}
    (h : call.mintCustomBundle s = (.ok r, t)) :
    ∃ c count payment staged,
      s.config = some c ∧
      s.checkMint c call.env.time .customBundle call.sender 1 = .ok count ∧
      checkPayment c call.funds c.customPrice = .ok payment ∧
      s.staged = some staged ∧
      c.customCount ≤ staged.length ∧
      CustomBundle.sell c call.env call.sender payment (staged.take c.customCount)
        (staged.drop c.customCount) s = (.ok r, t) := by
  simp only [Call.mintCustomBundle, Step.bind_eq_ok_iff, Step.lift_eq_ok_iff, Step.get_bind_apply,
    Store.loadConfig_eq_ok_iff, Store.require_eq_ok_iff, and_assoc, exists_and_left,
    exists_eq_left] at h
  obtain ⟨c, hc, count, hcount, payment, hpayment, staged, hstaged, hsell⟩ := h
  split at hsell
  · simp at hsell
  · next henough =>
    exact ⟨c, count, payment, staged, hc, hcount, hpayment, hstaged, Nat.not_lt.mp henough, hsell⟩

end Call

end ShuffleMint
