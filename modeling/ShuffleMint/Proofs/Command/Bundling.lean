import ShuffleMint.Proofs.Allocator.Pending
import ShuffleMint.Proofs.Command.CustomBundle
import ShuffleMint.Query

/-!
# When bundles can be minted

A bundle can be drawn when every collection has a pending slot, and it takes one of each. What the
query of the remaining bundles counts is how often that can be done; the remaining custom bundles are
how often the staged tokens can be divided by the size of one. Nothing else but a deposit that
overflows can keep a bundle from being minted that is checked, paid and drawn, and whose tokens have
their messages.
-/

namespace ShuffleMint

variable {s : Store} {c : Config}

namespace Bundle

variable {a b : Allocator} {collections : List Nat}

/-- Drawing from collections in turn takes from each as many pending slots as it comes up. -/
theorem pendingOf_drawEach (h : a.Consistent) {tokens : List Token}
    (hok : drawEach collections a = (.ok tokens, b)) (id : Nat) :
    b.arena.pendingOf id + collections.count id = a.arena.pendingOf id := by
  induction collections generalizing a tokens with
  | nil =>
    obtain ⟨-, rfl⟩ := Step.pure_eq_ok_iff.mp hok
    rfl
  | cons collection rest ih =>
    obtain ⟨t, c, hfirst, hrest⟩ := Step.bind_eq_ok_iff.mp hok
    obtain ⟨others, d, hothers, hdone⟩ := Step.bind_eq_ok_iff.mp hrest
    obtain ⟨-, rfl⟩ := Step.pure_eq_ok_iff.mp hdone
    have hdrawn := h.pendingOf_next hfirst id
    have hlater := ih ((h.next_issues hfirst).moves.consistent h) hothers
    rw [List.count_cons, ← hdrawn, ← hlater, Nat.add_assoc]
    by_cases hsame : id = collection
    · simp [hsame]
    · simp [hsame, Ne.symm hsame]

/-- A token can be drawn from collections in turn when each has as many pending slots as it comes
up. -/
theorem exists_drawEach (h : a.Consistent)
    (hpending : ∀ id, collections.count id ≤ a.arena.pendingOf id) :
    ∃ tokens b, drawEach collections a = (.ok tokens, b) := by
  induction collections generalizing a with
  | nil => exact ⟨[], a, rfl⟩
  | cons collection rest ih =>
    have hfirst := hpending collection
    rw [List.count_cons_self] at hfirst
    obtain ⟨t, c, hdraw⟩ := h.exists_next (Nat.lt_of_lt_of_le (Nat.succ_pos _) hfirst)
    have hlater : ∀ id, rest.count id ≤ c.arena.pendingOf id := by
      intro id
      have hdrawn := h.pendingOf_next hdraw id
      have hcount := hpending id
      rw [List.count_cons] at hcount
      by_cases hsame : id = collection
      · simp only [hsame, beq_self_eq_true, if_true] at hcount hdrawn ⊢
        omega
      · simp only [Ne.symm hsame, beq_iff_eq, hsame, if_false] at hcount hdrawn
        omega
    obtain ⟨others, d, hothers⟩ := ih ((h.next_issues hdraw).moves.consistent h) hlater
    refine ⟨t :: others, d, ?_⟩
    rw [drawEach, Step.forEach_cons, Step.bind_of_ok hdraw]
    exact Step.bind_of_ok hothers _

/-- Whether some collection is exhausted is whether one has no pending slot. -/
theorem anyExhausted_eq (h : a.Consistent) (collections : List Nat) :
    anyExhausted a collections =
      .ok (collections.any fun id => a.arena.pendingOf id = 0) := by
  induction collections with
  | nil => rfl
  | cons collection rest ih =>
    rw [anyExhausted, h.arena.pendingIn_eq_pendingOf, List.any_cons]
    by_cases hzero : a.arena.pendingOf collection = 0
    · simp [hzero, bind, Except.bind]
    · simp [hzero, bind, Except.bind, ih]

/-- While every collection has a pending slot, a bundle can be drawn after the shuffle. -/
theorem exists_draw (h : a.Consistent) (hleft : ∀ id ∈ a.collectionIds, 0 < a.arena.pendingOf id)
    {seed : Seed} {shuffled : Allocator}
    (hshuffled : Allocator.ensureShuffled seed a = (.ok (), shuffled)) :
    ∃ tokens b, drawEach a.collectionIds shuffled = (.ok tokens, b) := by
  have hconsistent := (Allocator.Consistent.ensureShuffled_moves hshuffled).consistent h
  have hids : a.collectionIds.Nodup := a.supplies.nodup_keys
  refine exists_drawEach hconsistent fun id => ?_
  rw [hids.count, Allocator.pendingOf_ensureShuffled hshuffled]
  split
  · next hid => exact hleft id hid
  · exact Nat.zero_le _

/-- A bundle that is drawn after the shuffle leaves one bundle less, and leaves a collection exhausted
when it leaves none. -/
theorem bundlesLeft_draw (h : a.Consistent) (hsome : a.collectionIds ≠ []) {seed : Seed}
    {shuffled : Allocator} (hshuffled : Allocator.ensureShuffled seed a = (.ok (), shuffled))
    {tokens : List Token} (hdraw : drawEach a.collectionIds shuffled = (.ok tokens, b)) :
    b.bundlesLeft + 1 = a.bundlesLeft ∧
      anyExhausted b a.collectionIds = .ok (b.bundlesLeft = 0) := by
  have hshuffle := Allocator.Consistent.ensureShuffled_moves hshuffled
  have hdrawn := (drawEach_issues (hshuffle.consistent h) hdraw).1
  have hmem := (hshuffle.trans hdrawn.moves).mem_collectionIds_iff h
  have hsome' : b.collectionIds ≠ [] := by
    obtain ⟨id, hid⟩ := List.exists_mem_of_ne_nil _ hsome
    exact List.ne_nil_of_mem ((hmem id).mpr hid)
  have hids : a.collectionIds.Nodup := a.supplies.nodup_keys
  have htaken : ∀ id ∈ a.collectionIds, b.arena.pendingOf id + 1 = a.arena.pendingOf id := by
    intro id hid
    have hcount := pendingOf_drawEach (hshuffle.consistent h) hdraw id
    rwa [List.count_eq_one_of_mem hids hid, Allocator.pendingOf_ensureShuffled hshuffled] at hcount
  have hleft : ∀ n, n ≤ b.bundlesLeft ↔ n + 1 ≤ a.bundlesLeft := by
    intro n
    rw [Allocator.le_bundlesLeft_iff hsome', Allocator.le_bundlesLeft_iff hsome]
    constructor
    · intro hall id hid
      rw [← htaken id hid]
      exact Nat.succ_le_succ (hall id ((hmem id).mpr hid))
    · intro hall id hid
      have hbound := hall id ((hmem id).mp hid)
      rw [← htaken id ((hmem id).mp hid)] at hbound
      exact Nat.le_of_succ_le_succ hbound
  constructor
  · have hatMost := (hleft b.bundlesLeft).mp (Nat.le_refl _)
    have hatLeast := hleft (a.bundlesLeft - 1)
    omega
  · rw [anyExhausted_eq (hdrawn.moves.consistent (hshuffle.consistent h)), Except.ok.injEq,
      Bool.eq_iff_iff, List.any_eq_true, decide_eq_true_iff,
      Allocator.bundlesLeft_eq_zero_iff hsome']
    simp only [decide_eq_true_eq, hmem]

end Bundle

/-! ## What is left of the bundles -/

namespace Store

/-- The numbers of pending slots of collections can be told. -/
theorem pendingCounts_eq {a : Allocator} (h : a.Consistent) (collections : List Nat) :
    pendingCounts a collections = .ok (collections.map a.arena.pendingOf) := by
  induction collections with
  | nil => rfl
  | cons collection rest ih =>
    rw [pendingCounts, h.arena.pendingIn_eq_pendingOf, ih]
    rfl

/-- While their channel is open, as many bundles remain as are left to draw. -/
theorem remainingBundles_eq {a : Allocator} (h : a.Consistent) (c : Config) :
    remainingBundles c a =
      .ok (if c.bundleEnabled && !c.bundleCompleted then a.bundlesLeft else 0) := by
  rw [remainingBundles, pendingCounts_eq h]
  cases c.bundleEnabled && !c.bundleCompleted <;> rfl

/-- Bundles remain where their channel is open and so many are left to draw. -/
theorem remainingBundles_eq_succ_iff {a : Allocator} (h : a.Consistent) {c : Config} {n : Nat} :
    remainingBundles c a = .ok (n + 1) ↔
      c.bundleEnabled = true ∧ c.bundleCompleted = false ∧ a.bundlesLeft = n + 1 := by
  rw [remainingBundles_eq h]
  cases c.bundleEnabled <;> cases c.bundleCompleted <;> simp

/-- Custom bundles remain where their channel is open and the staged tokens make up so many. -/
theorem remainingCustomBundles_eq_succ_iff {n : Nat} :
    s.remainingCustomBundles c = n + 1 ↔ c.customEnabled = true ∧ c.customCompleted = false ∧
      s.stagedTokens.length / c.customCount = n + 1 := by
  rw [remainingCustomBundles]
  rcases Nat.eq_zero_or_pos c.customCount with hzero | hpositive
  · simp [hzero]
  · cases c.customEnabled <;> cases c.customCompleted <;> simp [hpositive]

end Store

/-! ## Bundles that are minted -/

/-- A step that succeeds for every entry of a list and keeps the state is taken for all of them. -/
theorem Step.exists_forEach {σ α β : Type} {f : α → Step σ β} {xs : List α} {s : σ}
    (h : ∀ x ∈ xs, ∃ y, f x s = (.ok y, s)) : ∃ ys, Step.forEach f xs s = (.ok ys, s) := by
  induction xs with
  | nil => exact ⟨[], rfl⟩
  | cons x rest ih =>
    obtain ⟨y, hy⟩ := h x (List.mem_cons_self ..)
    obtain ⟨ys, hys⟩ := ih fun x hx => h x (List.mem_cons_of_mem _ hx)
    refine ⟨y :: ys, ?_⟩
    rw [Step.forEach_cons, Step.bind_of_ok hy, Step.bind_of_ok hys]
    rfl

/-- Tokens that can be claimed one after the other, and that all have their messages, are issued by
name. -/
theorem Airdrop.exists_issueEach {claim : Token → Step Allocator Unit}
    {messages : Token → Step Store (List Message)} {tokens : List Token} {a b : Allocator}
    {done : List Unit} (hclaims : Step.forEach claim tokens a = (.ok done, b))
    (hmessages : ∀ t ∈ tokens, ∃ first, messages t s = (.ok first, s)) :
    ∃ made, issueEach claim messages tokens a s = (.ok (made, b), s) := by
  induction tokens generalizing a done with
  | nil =>
    obtain ⟨-, rfl⟩ := Step.pure_eq_ok_iff.mp hclaims
    exact ⟨[], rfl⟩
  | cons t rest ih =>
    obtain ⟨u, claimed, hclaim, hrest⟩ := Step.bind_eq_ok_iff.mp hclaims
    obtain ⟨others, b', hothers, hdone⟩ := Step.bind_eq_ok_iff.mp hrest
    obtain ⟨-, rfl⟩ := Step.pure_eq_ok_iff.mp hdone
    obtain ⟨first, hfirst⟩ := hmessages t (List.mem_cons_self ..)
    obtain ⟨made, hmade⟩ := ih hothers fun t ht => hmessages t (List.mem_cons_of_mem _ ht)
    refine ⟨first ++ made, ?_⟩
    simp only [issueEach, Step.bind_eq_ok_iff, Step.onCopy_eq_ok_pair_iff, Step.pure_eq_ok_iff]
    exact ⟨(u, claimed), s, ⟨hclaim, rfl⟩, first, s, hfirst, (made, b), s, hmade, rfl, rfl⟩

/-- A valid configuration passes every amount of money on for which there is room. -/
theorem Escrow.exists_settleRevenue (hvalid : c.validate = .ok ()) {amount : Nat}
    (hamount : amount < amountBound) (hbalanced : s.EscrowBalanced) (hroom : s.HasRoom c amount) :
    ∃ payouts t, settleRevenue c amount s = (.ok payouts, t) := by
  obtain ⟨parts, hparts⟩ := exists_splitRevenue hvalid hamount
  rw [settleRevenue, Step.lift_bind_ok hparts]
  cases hescrow : c.escrowFunds with
  | true =>
    have hheld := hroom hescrow
    rw [← sum_splitRevenue hvalid hparts] at hheld
    exact exists_settle_hold hescrow hbalanced hheld
  | false => exact ⟨_, s, settle_apply_send hescrow parts s⟩

namespace Call

variable {call : Call} {count payment : Nat} {a shuffled b : Allocator}

/-- A bundle that is checked, paid and drawn, whose tokens have their messages and for whose price
there is room is minted. -/
theorem exists_mintBundle (hc : s.config = some c) (hvalid : c.validate = .ok ())
    (hbalanced : s.EscrowBalanced) (hroom : s.HasRoom c payment)
    (hcount : s.checkMint c call.env.time .bundle call.sender 1 = .ok count)
    (hpayment : checkPayment c call.funds c.bundlePrice = .ok payment)
    (hamount : payment < amountBound) (ha : s.allocator? = some a)
    (hshuffled : Allocator.ensureShuffled (call.env.entropy call.sender) a = (.ok (), shuffled))
    {tokens : List Token} (hdraw : Bundle.drawEach a.collectionIds shuffled = (.ok tokens, b))
    (hb : b.Consistent) (hmints : ∀ t ∈ tokens, ∃ m, s.Mints call.sender t m) :
    ∃ r t, call.mintBundle s = (.ok r, t) := by
  obtain ⟨mints, hmade⟩ := Step.exists_forEach fun t ht =>
    (hmints t ht).imp fun m hm => mintMessage_eq_ok_iff.mpr ⟨hm, rfl⟩
  have hexhausted := Bundle.anyExhausted_eq hb a.collectionIds
  generalize (a.collectionIds.any fun id => b.arena.pendingOf id = 0) = exhausted at hexhausted
  obtain ⟨c', closed, hclosed⟩ : ∃ c' closed, Bundle.close c exhausted
      ((s.withMintCount .bundle call.sender count).withAllocator b) = (.ok c', closed) := by
    cases exhausted <;> exact ⟨_, _, rfl⟩
  obtain ⟨hvalidity, -, hsame, hbalances, htotals⟩ := Bundle.close_keeps hclosed
  obtain ⟨payouts, ended, hsettle⟩ := Escrow.exists_settleRevenue (hvalidity.trans hvalid) hamount
    (hbalanced.congr hbalances htotals) (hroom.congr hsame htotals)
  simp only [mintBundle, Step.bind_eq_ok_iff, Step.lift_eq_ok_iff, Step.get_bind_apply,
    Store.loadConfig_eq_ok_iff, Store.loadAllocator_eq_ok_iff, Step.onCopy_eq_ok_pair_iff,
    recordMint_eq_ok_iff, Store.saveAllocator_eq_ok_iff, Step.pure_eq_ok_iff]
  exact ⟨_, ended, c, s, ⟨hc, rfl⟩, count, s, ⟨hcount, rfl⟩, payment, s, ⟨hpayment, rfl⟩, a, s,
    ⟨ha, rfl⟩, (tokens, b), s, ⟨⟨(), shuffled, hshuffled, hdraw⟩, rfl⟩, mints, s, hmade, count, _,
    ⟨hcount, rfl⟩, (), _, rfl, _, _, ⟨hexhausted, rfl⟩, c', closed, hclosed, payouts, ended,
    hsettle, rfl, rfl⟩

/-- A custom bundle that is checked and paid, whose tokens can be claimed and have their messages and
for whose price there is room is minted. -/
theorem exists_mintCustomBundle (hc : s.config = some c) (hvalid : c.validate = .ok ())
    (hbalanced : s.EscrowBalanced) (hroom : s.HasRoom c payment)
    (hcount : s.checkMint c call.env.time .customBundle call.sender 1 = .ok count)
    (hpayment : checkPayment c call.funds c.customPrice = .ok payment)
    (hamount : payment < amountBound) (ha : s.allocator? = some a)
    (hshuffled : Allocator.ensureShuffled (call.env.entropy call.sender) a = (.ok (), shuffled))
    {staged : List Token} (hlisted : s.staged = some staged)
    (henough : c.customCount ≤ staged.length) {done : List Unit}
    (hclaims : Step.forEach Allocator.claimStaged (staged.take c.customCount) shuffled =
      (.ok done, b))
    (hmints : ∀ t ∈ staged.take c.customCount, ∃ m, s.Mints call.sender t m) :
    ∃ r t, call.mintCustomBundle s = (.ok r, t) := by
  obtain ⟨made, hmade⟩ := Airdrop.exists_issueEach hclaims fun t ht =>
    let ⟨m, hm⟩ := hmints t ht
    ⟨[m], CustomBundle.sellMessages_eq_ok_iff.mpr ⟨⟨m, hm, rfl⟩, rfl⟩⟩
  obtain ⟨c', closed, hclosed⟩ : ∃ c' closed, CustomBundle.close c (staged.drop c.customCount)
      (((s.withMintCount .customBundle call.sender count).withAllocator b).withStaged
        (staged.drop c.customCount)) = (.ok c', closed) := by
    unfold CustomBundle.close
    split <;> exact ⟨_, _, rfl⟩
  obtain ⟨hvalidity, -, hsame, hbalances, htotals⟩ := CustomBundle.close_keeps hclosed
  obtain ⟨payouts, ended, hsettle⟩ := Escrow.exists_settleRevenue (hvalidity.trans hvalid) hamount
    (hbalanced.congr hbalances htotals) (hroom.congr hsame htotals)
  have hsell : ∃ r, CustomBundle.sell c call.env call.sender payment
      (staged.take c.customCount) (staged.drop c.customCount) s = (.ok r, ended) := by
    simp only [CustomBundle.sell, Step.bind_eq_ok_iff, Store.loadAllocator_eq_ok_iff,
      Step.onCopy_eq_ok_pair_iff, recordMint_eq_ok_iff, Store.saveAllocator_eq_ok_iff,
      Store.saveStaged_eq_ok_iff, Step.pure_eq_ok_iff]
    exact ⟨_, a, s, ⟨ha, rfl⟩, ((), shuffled), s, ⟨hshuffled, rfl⟩, (made, b), s, hmade, count, _,
      ⟨hcount, rfl⟩, (), _, rfl, (), _, rfl, c', closed, hclosed, payouts, ended, hsettle, rfl,
      rfl⟩
  obtain ⟨r, hsell⟩ := hsell
  refine ⟨r, ended, ?_⟩
  rw [mintCustomBundle, Step.bind_of_ok (Store.loadConfig_eq_ok_iff.mpr ⟨hc, rfl⟩),
    Step.get_bind_apply, Step.lift_bind_ok hcount, Step.lift_bind_ok hpayment,
    Step.bind_of_ok (Store.require_eq_ok_iff.mpr ⟨hlisted, rfl⟩),
    if_neg (Nat.not_lt.mpr henough), hsell]

end Call

end ShuffleMint
