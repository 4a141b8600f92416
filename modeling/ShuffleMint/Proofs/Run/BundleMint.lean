import ShuffleMint.Proofs.Command.BundleDraw
import ShuffleMint.Proofs.Run.RemainingBundles

/-!
# Minting a bundle

A bundle is minted when its channel is active, its buyer may mint one more and pays the price, and
every collection has a token to draw and a contract to mint it. Which tokens it takes is decided by
the queue after the shuffle: of each collection the one that is pending first. The draws do not get
in each other's way, so the collections could be visited in any order.
-/

namespace ShuffleMint

variable {s t : Store} {r : Response} {c : Config} {call : Call}

/-- The conditions under which a call mints a bundle. -/
structure Store.OffersBundle (s : Store) (c : Config) (a : Allocator) (call : Call) : Prop where
  active : Channel.bundle.state c call.env.time = .active
  withinCap : s.mintCount .bundle call.sender + 1 ≤ c.bundleCap
  paid : c.PaidBy c.bundlePrice call.funds
  pending : ∀ id ∈ s.collections.keys, ∃ token ∈ a.queue.pending, token.collection = id
  created : ∀ id ∈ s.collections.keys, (s.collectionContracts.get? id).isSome

namespace Store.Sound

variable {a shuffled b : Allocator}

/-- A bundle is minted where it is offered. -/
theorem exists_mintBundle (hs : s.Sound) (hc : s.config = some c) (ha : s.allocator? = some a)
    (hshuffled : Allocator.ensureShuffled (call.env.entropy call.sender) a = (.ok (), shuffled))
    (hcoins : ∀ coin ∈ call.funds, coin.amount < amountBound) (hroom : s.HasRoom c c.bundlePrice)
    (h : s.OffersBundle c a call) : ∃ r t, call.mintBundle s = (.ok r, t) := by
  have hconsistent := hs.consistent ha
  have hids := hs.collectionIds_eq ha
  have hvalid := Config.validate_eq_ok_iff.mp (hs.validate_eq_ok hc)
  have hpayment := checkPayment_eq_ok_iff.mpr ⟨rfl, h.paid⟩
  have hcount : s.checkMint c call.env.time .bundle call.sender 1 =
      .ok (s.mintCount .bundle call.sender + 1) := by
    have hcap := h.withinCap
    have hsupply := hvalid.supply.2
    have hbundle := hvalid.bundleCap.2
    have hbound : 50000 < countBound := by decide
    refine checkMint_eq_ok_iff.mpr ⟨h.active, rfl, by omega, fun cap hcap' => ?_⟩
    obtain rfl := Option.some.inj hcap'
    exact hcap
  obtain ⟨tokens, b, hdraw⟩ := Bundle.exists_draw hconsistent (fun id hid =>
    hconsistent.exists_pending_iff.mp (h.pending id (hids ▸ hid))) hshuffled
  have hafter := (Allocator.Consistent.ensureShuffled_moves hshuffled).consistent hconsistent
  have hdistinct : a.collectionIds.Nodup := a.supplies.nodup_keys
  obtain ⟨-, hcollections, -⟩ := Bundle.drawEach_queue hafter hdistinct hdraw
  refine Call.exists_mintBundle hc (hs.validate_eq_ok hc) hs.balanced hroom hcount hpayment
    (checkPayment_lt hcoins hpayment) ha hshuffled hdraw
    ((Bundle.drawEach_issues hafter hdraw).1.moves.consistent hafter) fun token htoken => ?_
  have hid : token.collection ∈ s.collections.keys := by
    rw [← hids, ← hcollections]
    exact List.mem_map_of_mem htoken
  obtain ⟨collection, hcollection⟩ := SortedMap.mem_keys_iff.mp hid
  obtain ⟨contract, hcontract⟩ := Option.isSome_iff_exists.mp (h.created _ hid)
  exact ⟨_, collection, contract, hcollection, hcontract, rfl⟩

/-- Where a bundle is minted it is offered. -/
theorem offersBundle_of_mintBundle (hs : s.Sound) (hc : s.config = some c)
    (ha : s.allocator? = some a) (h : call.mintBundle s = (.ok r, t)) :
    s.OffersBundle c a call := by
  obtain ⟨c', count, payment, a', shuffled, b, tokens, mints, _, _, _, _, hc', hcount, hpayment,
    ha', hshuffled, hdraw, hmints, -⟩ := Call.mintBundle_eq_ok h
  obtain rfl := Option.some.inj (hc.symm.trans hc')
  obtain rfl := Option.some.inj (ha.symm.trans ha')
  have hconsistent := hs.consistent ha
  have hids := hs.collectionIds_eq ha
  have hafter := (Allocator.Consistent.ensureShuffled_moves hshuffled).consistent hconsistent
  obtain ⟨hactive, rfl, -, hcap⟩ := checkMint_eq_ok_iff.mp hcount
  refine ⟨hactive, hcap _ rfl, (checkPayment_eq_ok_iff.mp hpayment).2, fun id hid => ?_,
    fun id hid => ?_⟩
  · obtain ⟨token, hcollection, hpending⟩ :=
      Bundle.exists_pending_of_drawEach hafter hdraw id (hids ▸ hid)
    rw [Allocator.Consistent.standing_ensureShuffled hshuffled] at hpending
    exact ⟨token, hconsistent.mem_queue_pending.mpr hpending, hcollection⟩
  · have hdistinct : a.collectionIds.Nodup := a.supplies.nodup_keys
    obtain ⟨-, hcollections, -⟩ := Bundle.drawEach_queue hafter hdistinct hdraw
    rw [← hids, ← hcollections] at hid
    obtain ⟨token, htoken, rfl⟩ := List.mem_map.mp hid
    obtain ⟨m, -, _, contract, -, hcontract, -⟩ := exists_of_forall₂ hmints.flip htoken
    rw [hcontract]
    rfl

/-- What a bundle that is minted has drawn from the shuffled copy, minted and written. -/
theorem drawn_of_mintBundle (hs : s.Sound) (hc : s.config = some c) (ha : s.allocator? = some a)
    (hshuffled : Allocator.ensureShuffled (call.env.entropy call.sender) a = (.ok (), shuffled))
    (h : call.mintBundle s = (.ok r, t)) :
    ∃ tokens b, t.allocator? = some b ∧
      Bundle.drawEach a.collectionIds shuffled = (.ok tokens, b) ∧
      List.Forall₂ (s.Mints call.sender) tokens r.mints ∧
      t.config = some
        { c with bundleCompleted := a.collectionIds.any fun id =>
            b.queue.pending.all fun token => token.collection ≠ id } := by
  obtain ⟨c₁, _, _, a₁, shuffled₁, b, tokens, mints, _, _, _, payouts, hc₁, -, -, ha₁, hshuffled₁,
    hdraw, hmints, -, -, hsettle, hr⟩ := Call.mintBundle_eq_ok h
  obtain rfl := Option.some.inj (hc.symm.trans hc₁)
  obtain rfl := Option.some.inj (ha.symm.trans ha₁)
  obtain ⟨-, rfl⟩ := Prod.mk.inj (hshuffled.symm.trans hshuffled₁)
  obtain ⟨c₂, a₂, _, b₂, _, exhausted, hc₂, ha₂, hb, hshuffled₂, hdraw₂, hissues, hexhausted,
    hconfig⟩ := hs.draws_mintBundle h
  obtain rfl := Option.some.inj (hc.symm.trans hc₂)
  obtain rfl := Option.some.inj (ha.symm.trans ha₂)
  obtain ⟨-, rfl⟩ := Prod.mk.inj (hshuffled.symm.trans hshuffled₂)
  obtain ⟨-, rfl⟩ := Prod.mk.inj (hdraw.symm.trans hdraw₂)
  have hafter :=
    (Allocator.Consistent.ensureShuffled_moves hshuffled).consistent (hs.consistent ha)
  have hbconsistent := hissues.moves.consistent hafter
  have hminted : r.mints = mints := by
    rw [hr, Response.mints_ofMessages, List.filter_append, filter_isMint_of_mints hmints,
      filter_isMint_of_settleRevenue hsettle, List.append_nil]
  obtain ⟨-, hincomplete⟩ := Channel.bundleState?_bundle_eq_none_iff.mp
    (Channel.bundle.state_eq_active_iff.mp (hs.offersBundle_of_mintBundle hc ha h).active).2.1
  rw [Bundle.anyExhausted_eq hbconsistent, hbconsistent.any_pendingOf_eq] at hexhausted
  rw [← Except.ok.inj hexhausted, hincomplete, Bool.or_false] at hconfig
  exact ⟨tokens, b, hb, hdraw, hminted ▸ hmints, hconfig⟩

end Store.Sound

/-- A bundle is minted exactly where it is offered, as long as its price overflows no deposit. It
takes of every collection, by ascending id, the token that is pending first after the shuffle, and
mints each of them to the buyer with one message. The tokens become the last issued ones, the others
that are pending keep their order, every collection has one more issued token and the buyer one more
bundle. The channel is completed when a collection is left without a pending token. Visited in any
other order, the collections yield the same tokens. -/
theorem bundle_mint_outcome (hs : Reachable s) (hc : s.config = some c) (call : Call)
    (hcoins : ∀ coin ∈ call.funds, coin.amount < amountBound) (hroom : s.HasRoom c c.bundlePrice) :
    let minting := (Transaction.command call .mintBundle).perform
    let ids := s.collections.keys
    ∃ a shuffled, s.allocator? = some a ∧
      Allocator.ensureShuffled (call.env.entropy call.sender) a = (.ok (), shuffled) ∧
      ids.Pairwise (· < ·) ∧
      ((∃ r t, minting s = (.ok r, t)) ↔ s.OffersBundle c a call) ∧
      ∀ r t, minting s = (.ok r, t) →
        ∃ tokens b, t.allocator? = some b ∧
          tokens.map some = ids.map (fun id => shuffled.queue.next? (some id)) ∧
          tokens.map Token.collection = ids ∧
          List.Forall₂ (s.Mints call.sender) tokens r.mints ∧
          b.queue = shuffled.queue.issueAll tokens ∧
          (∀ id ∈ ids, ∃ supply, s.supplies.get? id = some supply ∧
            t.supplies.get? id = some ⟨supply.total, supply.issued + 1⟩) ∧
          (∀ channel owner, t.mintCount channel owner =
            s.mintCount channel owner + if channel = .bundle ∧ owner = call.sender then 1 else 0) ∧
          t.config = some
            { c with bundleCompleted := ids.any fun id =>
                b.queue.pending.all fun token => token.collection ≠ id } ∧
          ∀ visited : List Nat, visited.Perm ids →
            ∃ tokens' b', Bundle.drawEach visited shuffled = (.ok tokens', b') ∧
              tokens'.map some = visited.map fun id => shuffled.queue.next? (some id) := by
  intro minting ids
  have hsound := hs.sound
  obtain ⟨a, ha, -⟩ := hsound.allocator
  have hconsistent := hsound.consistent ha
  have hids : a.collectionIds = ids := hsound.collectionIds_eq ha
  have hdistinct : a.collectionIds.Nodup := a.supplies.nodup_keys
  obtain ⟨shuffled, hshuffled⟩ :=
    (hs.drawsShuffled a ha).exists_ensureShuffled (call.env.entropy call.sender)
  have hafter := (Allocator.Consistent.ensureShuffled_moves hshuffled).consistent hconsistent
  have hminting : ∀ {r t}, minting s = (.ok r, t) ↔ call.mintBundle s = (.ok r, t) := by
    intro r t
    exact (CallState.fresh_onStore call.mintBundle s).congr_left
  refine ⟨a, shuffled, ha, hshuffled, ?_, ⟨?_, ?_⟩, ?_⟩
  · exact s.collections.ascending_keys.imp of_decide_eq_true
  · rintro ⟨r, t, hperform⟩
    exact hsound.offersBundle_of_mintBundle hc ha (hminting.mp hperform)
  · intro hoffered
    obtain ⟨r, t, hmint⟩ :=
      hsound.exists_mintBundle hc ha hshuffled hcoins hroom hoffered
    exact ⟨r, t, hminting.mpr hmint⟩
  · intro r t hperform
    have hmint := hminting.mp hperform
    obtain ⟨tokens, b, hb, hdraw, hmints, hconfig⟩ :=
      hsound.drawn_of_mintBundle hc ha hshuffled hmint
    obtain ⟨hnext, hcollections, hqueue, hcounts⟩ := Bundle.drawEach_queue hafter hdistinct hdraw
    rw [hids] at hnext hcollections hconfig
    refine ⟨tokens, b, hb, hnext, hcollections, hmints, hqueue, fun id hid => ?_,
      fun channel owner => ?_, hconfig, fun visited hperm => ?_⟩
    · rw [← hids] at hid
      obtain ⟨supply, hsupply⟩ := SortedMap.mem_keys_iff.mp hid
      have hcount := hcounts id
      rw [Allocator.supplies_ensureShuffled hshuffled, hsupply, Option.map_some,
        List.count_eq_one_of_mem hdistinct hid] at hcount
      refine ⟨supply, ?_, ?_⟩
      · rw [(Store.allocator?_eq_some_iff.mp ha).2, hsupply]
      · rw [(Store.allocator?_eq_some_iff.mp hb).2, hcount]
    · cases hsound.effect hperform with
      | minted hdone =>
        obtain rfl := Option.some.inj hdone.booked
        obtain rfl := Except.ok.inj hdone.named
        exact hdone.mintCount_eq channel owner
    · exact Bundle.drawEach_perm hafter hdistinct hdraw (hids ▸ hperm)

namespace PairSale

/-- A mint of two collections, of two tokens and of one. -/
def founded : Store :=
  ({ FirstSale.setup with
      collections := [⟨"Gold", "GLD", "ipfs://gold", 2⟩, ⟨"Silver", "SLV", "ipfs://silver", 1⟩]
    }.run ⟨5, 1, none, "mint"⟩ "admin" Store.empty).2

/-- The store once the contracts of both collections are there. -/
def ready : Store :=
  (founded.play [.reply 101 (.succeeded (some [10, 4, 103, 111, 108, 100])),
    .reply 102 (.succeeded (some [10, 6, 115, 105, 108, 118, 101, 114]))]).2

end PairSale

/-- A bundle of one token of each of two collections takes the only token of the second, and with it
completes the channel. -/
theorem bundle_mint_outcome_pair :
    let call := FirstSale.call "buyer" [⟨"ustars", 100⟩]
    Reachable PairSale.ready ∧ (∀ coin ∈ call.funds, coin.amount < amountBound) ∧
      ∃ c a tokens r t, PairSale.ready.config = some c ∧
        PairSale.ready.HasRoom c c.bundlePrice ∧ PairSale.ready.OffersBundle c a call ∧
        (Transaction.command call .mintBundle).perform PairSale.ready = (.ok r, t) ∧
        tokens.map Token.collection = [101, 102] ∧
        List.Forall₂ (PairSale.ready.Mints "buyer") tokens r.mints ∧
        t.mintCount .bundle "buyer" = 1 ∧ t.config = some { c with bundleCompleted := true } := by
  intro call
  have hs : Reachable PairSale.ready :=
    ⟨_, _, Founded.of_isOk (by decide +kernel), PairSale.founded.run_play _⟩
  have hcoins : ∀ coin ∈ call.funds, coin.amount < amountBound := by decide
  have hprice : PairSale.ready.config.map Config.bundlePrice = some 100 := by decide +kernel
  obtain ⟨c, hc, hprice⟩ := Option.map_eq_some_iff.mp hprice
  have hroom : PairSale.ready.HasRoom c c.bundlePrice := fun _ => by
    rw [hprice]
    decide +kernel
  obtain ⟨a, shuffled, -, -, -, hiff, hdone⟩ := bundle_mint_outcome hs hc call hcoins hroom
  obtain ⟨r, t, hperform⟩ : ∃ r t,
      (Transaction.command call .mintBundle).perform PairSale.ready = (.ok r, t) :=
    Transaction.exists_of_isOk (by decide +kernel)
  obtain ⟨tokens, b, -, -, hcollections, hmints, -, -, hcounts, hconfig, -⟩ := hdone r t hperform
  have hids : PairSale.ready.collections.keys = [101, 102] := by decide +kernel
  have hfresh : PairSale.ready.mintCount .bundle "buyer" = 0 := by decide +kernel
  have hcompleted : ((Transaction.command call .mintBundle).perform PairSale.ready).2.config.map
      Config.bundleCompleted = some true := by decide +kernel
  rw [hperform, hconfig, Option.map_some, Option.some.injEq] at hcompleted
  refine ⟨hs, hcoins, c, a, tokens, r, t, hc, hroom, hiff.mp ⟨r, t, hperform⟩, hperform,
    hcollections.trans hids, hmints, ?_, ?_⟩
  · rw [hcounts, hfresh, if_pos ⟨rfl, rfl⟩]
  · rw [hconfig]
    exact congrArg (fun completed => some { c with bundleCompleted := completed }) hcompleted

end ShuffleMint
