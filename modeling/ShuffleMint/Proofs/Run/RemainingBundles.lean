import Mathlib.Data.Fintype.EquivFin
import ShuffleMint.Proofs.Command.Bundling
import ShuffleMint.Proofs.Run.BundleCompletion
import ShuffleMint.Proofs.Run.MintCounts
import ShuffleMint.Proofs.Run.Settings
import ShuffleMint.Proofs.Run.Shuffling

/-!
# Advertised bundles can be minted

A query tells how many bundles and how many custom bundles remain. While a mint is on sale and sends
its revenue on at once, that is exactly how many callers can mint one after the other, when each of
them mints for the first time and pays the price. Every bundle that is minted leaves one less, and
where none is left the next one is refused.
-/

namespace ShuffleMint

variable {s t : Store} {r : Response} {c c' : Config} {now : Nat} {call : Call}

/-- A mint is on sale at an instant and sends its revenue on at once, and the contracts of its
collections are there. -/
structure Store.OnSale (s : Store) (c : Config) (now : Nat) : Prop where
  reachable : Reachable s
  config : s.config = some c
  unescrowed : c.escrowFunds = false
  started : c.startTime ≤ now
  ahead : ∀ stop, c.endTime = some stop → now < stop
  created : ∀ id, (s.collections.get? id).isSome → (s.collectionContracts.get? id).isSome

/-- Calls of distinct callers, each of which has not yet minted on a channel and pays a price at an
instant. -/
structure Store.Buyers (s : Store) (c : Config) (now : Nat) (channel : Channel) (price : Nat)
    (calls : List Call) : Prop where
  distinct : (calls.map Call.sender).Nodup
  fresh : ∀ call ∈ calls, s.mintCount channel call.sender = 0
  timely : ∀ call ∈ calls, call.env.time = now
  paid : ∀ call ∈ calls, c.PaidBy price call.funds ∧
    ∀ coin ∈ call.funds, coin.amount < amountBound

/-- Transactions all succeed one after the other. -/
def Store.Takes (s : Store) (transactions : List Transaction) : Prop :=
  ∃ events t, Run s events t ∧ events.map Event.transaction = transactions

namespace Store

/-! ## Transactions that all succeed -/

/-- Transactions all succeed when the first does and the others do after it. -/
theorem takes_cons_iff {transaction : Transaction} {rest : List Transaction} :
    s.Takes (transaction :: rest) ↔
      ∃ r t, transaction.perform s = (.ok r, t) ∧ t.Takes rest := by
  constructor
  · rintro ⟨events, u, hrun, hevents⟩
    obtain ⟨e, later, rfl, rfl, rfl⟩ := List.map_eq_cons_iff.mp hevents
    have hall : Run s ([e] ++ later) u := hrun
    obtain ⟨middle, hfirst, hlater⟩ := hall.split
    obtain ⟨-, -, hperform⟩ := hfirst.exists_of_mem_replay (List.mem_singleton_self (s, e))
    obtain rfl := hfirst.eq_of_events (Run.start.next hperform)
    exact ⟨e.response, _, hperform, later, u, hlater, rfl⟩
  · rintro ⟨r, t, hperform, events, u, hrun, rfl⟩
    exact ⟨⟨transaction, r⟩ :: events, u, (Run.start.next hperform).append hrun, rfl⟩

/-- Calls of a command that is refused when none is offered, and otherwise leaves one less on offer,
all succeed when they are no more than what is offered. -/
theorem takes_iff_length_le {command : Command} (offers : Store → Nat → List Call → Prop)
    (hnone : ∀ {s call rest r t}, offers s 0 (call :: rest) →
      (Transaction.command call command).perform s ≠ (.ok r, t))
    (hsome : ∀ {s n call rest}, offers s (n + 1) (call :: rest) →
      ∃ r t, (Transaction.command call command).perform s = (.ok r, t) ∧ offers t n rest)
    {n : Nat} {calls : List Call} (h : offers s n calls) :
    s.Takes (calls.map fun call => .command call command) ↔ calls.length ≤ n := by
  induction calls generalizing s n with
  | nil => exact iff_of_true ⟨[], s, .start, rfl⟩ (Nat.zero_le n)
  | cons call rest ih =>
    rw [List.map_cons, takes_cons_iff, List.length_cons]
    cases n with
    | zero =>
      refine iff_of_false ?_ (Nat.not_succ_le_zero _)
      rintro ⟨r, t, hperform, -⟩
      exact hnone h hperform
    | succ n =>
      obtain ⟨r, t, hperform, hoffers⟩ := hsome h
      rw [Nat.succ_le_succ_iff, ← ih hoffers]
      constructor
      · rintro ⟨r', t', hperform', hrest⟩
        rwa [(Prod.mk.inj (hperform.symm.trans hperform')).2]
      · exact fun hrest => ⟨r, t, hperform, hrest⟩

end Store

/-! ## A mint on sale -/

namespace Store.OnSale

/-- A mint on sale has an allocator, in which some collection is supplied. -/
theorem exists_allocator (h : s.OnSale c now) :
    ∃ a, s.allocator? = some a ∧ a.Consistent ∧ a.collectionIds ≠ [] := by
  obtain ⟨a, ha, hconsistent, -⟩ := h.reachable.sound.allocator
  exact ⟨a, ha, hconsistent, h.reachable.collectionIds_ne_nil ha⟩

/-- A mint on sale holds nothing in escrow, so there is always room. -/
theorem hasRoom (h : s.OnSale c now) {amount : Nat} : s.HasRoom c amount := fun hescrow => by
  rw [h.unescrowed] at hescrow
  cases hescrow

/-- A token that stands in some way has the message that mints it. -/
theorem exists_mints (h : s.OnSale c now) {a : Allocator} (ha : s.allocator? = some a)
    {token : Token} {status : SlotStatus} (hstanding : a.standing token = some status)
    (owner : Address) : ∃ m, s.Mints owner token m := by
  have hs := h.reachable.sound
  obtain ⟨slot, htoken, -⟩ := (hs.consistent ha).standing_eq_some_iff.mp hstanding
  obtain ⟨collection, hcollection, -⟩ := hs.exists_collection ha htoken
  obtain ⟨contract, hcontract⟩ := Option.isSome_iff_exists.mp
    (h.created token.collection (by rw [hcollection]; rfl))
  exact ⟨_, collection, contract, hcollection, hcontract, rfl⟩

/-- The next buyer may mint on the channel of a bundle while no flag closes it, and pays its price. -/
theorem checks_buyer (h : s.OnSale c now) {channel : Channel} {price : Nat} {rest : List Call}
    (hbuyers : s.Buyers c now channel price (call :: rest))
    (hcap : channel.cap? c = some c.bundleCap) (hopen : channel.bundleState? c = none) :
    s.checkMint c call.env.time channel call.sender 1 = .ok 1 ∧
      checkPayment c call.funds price = .ok price ∧ price < amountBound := by
  have hcall := List.mem_cons_self (a := call) (l := rest)
  have hvalid := Config.validate_eq_ok_iff.mp (h.reachable.sound.validate_eq_ok h.config)
  obtain ⟨hpaid, hamounts⟩ := hbuyers.paid call hcall
  have hpayment := checkPayment_eq_ok_iff.mpr ⟨rfl, hpaid⟩
  refine ⟨?_, hpayment, checkPayment_lt hamounts hpayment⟩
  rw [hbuyers.timely call hcall]
  refine checkMint_eq_ok_iff.mpr
    ⟨?_, by rw [hbuyers.fresh call hcall], by decide, fun cap hcap' => ?_⟩
  · exact channel.state_eq_active_iff.mpr ⟨h.ahead, hopen, fun _ => h.started⟩
  · obtain rfl := Option.some.inj (hcap.symm.trans hcap')
    exact hvalid.bundleCap.1

/-- A mint stays on sale when it mints and changes its completion flags only. -/
theorem of_minted (h : s.OnSale c now) {transaction : Transaction}
    (hperform : transaction.perform s = (.ok r, t)) (hconfig : t.config = some c')
    (hsame : c'.escrowFunds = c.escrowFunds ∧ c'.startTime = c.startTime ∧ c'.endTime = c.endTime)
    (hkept : t.collections = s.collections ∧ t.collectionContracts = s.collectionContracts) :
    t.OnSale c' now := by
  obtain ⟨hescrow, hstart, hend⟩ := hsame
  refine ⟨h.reachable.perform hperform, hconfig, hescrow.trans h.unescrowed, hstart ▸ h.started,
    hend ▸ h.ahead, ?_⟩
  rw [hkept.1, hkept.2]
  exact h.created

end Store.OnSale

/-- Those who come after a buyer can still buy once the buyer has. -/
theorem Store.Buyers.of_minted {channel : Channel} {price : Nat} {rest : List Call}
    (h : s.Buyers c now channel price (call :: rest)) {command : Command} {tokens : List Token}
    (hminted : s.Minted call command c channel call.sender tokens r t)
    (hdenom : c'.denom = c.denom) : t.Buyers c' now channel price rest := by
  obtain ⟨hother, hdistinct⟩ := List.nodup_cons.mp h.distinct
  refine ⟨hdistinct, fun later hlater => ?_, fun later hlater =>
    h.timely later (List.mem_cons_of_mem _ hlater), fun later hlater => ?_⟩
  · have hdifferent : later.sender ≠ call.sender := fun hsame =>
      hother (hsame ▸ List.mem_map_of_mem hlater)
    rw [hminted.mintCount_eq, if_neg fun hboth => hdifferent hboth.2]
    exact h.fresh later (List.mem_cons_of_mem _ hlater)
  · have hpaid := h.paid later (List.mem_cons_of_mem _ hlater)
    rwa [Config.PaidBy, Config.price, hdenom]

/-! ## Bundles -/

namespace Store.OnSale

variable {a : Allocator} {n : Nat} {rest : List Call}

/-- While bundles are left, one can be drawn, and each of its tokens has its message. -/
theorem exists_drawEach (h : s.OnSale c now) (ha : s.allocator? = some a)
    (hsome : a.collectionIds ≠ []) (hleft : 0 < a.bundlesLeft) (seed : Seed) (owner : Address) :
    ∃ shuffled tokens b, Allocator.ensureShuffled seed a = (.ok (), shuffled) ∧
      Bundle.drawEach a.collectionIds shuffled = (.ok tokens, b) ∧ b.Consistent ∧
      ∀ token ∈ tokens, ∃ m, s.Mints owner token m := by
  have hconsistent := h.reachable.sound.consistent ha
  obtain ⟨shuffled, hshuffled⟩ := (h.reachable.drawsShuffled a ha).exists_ensureShuffled seed
  have hshuffle := Allocator.Consistent.ensureShuffled_moves hshuffled
  obtain ⟨tokens, b, hdraw⟩ := Bundle.exists_draw hconsistent
    ((Allocator.le_bundlesLeft_iff hsome).mp hleft) hshuffled
  obtain ⟨hissues, -⟩ := Bundle.drawEach_issues (hshuffle.consistent hconsistent) hdraw
  have hb := hissues.moves.consistent (hshuffle.consistent hconsistent)
  refine ⟨shuffled, tokens, b, hshuffled, hdraw, hb, fun token htoken => ?_⟩
  obtain ⟨status, -, hstood⟩ := hissues.stood token htoken
  rw [Allocator.Consistent.standing_ensureShuffled hshuffled] at hstood
  exact h.exists_mints ha hstood owner

/-- While bundles remain, the next buyer mints one and leaves one less. -/
theorem mints_bundle (h : s.OnSale c now) (ha : s.allocator? = some a)
    (hbuyers : s.Buyers c now .bundle c.bundlePrice (call :: rest))
    (hleft : remainingBundles c a = .ok (n + 1)) :
    ∃ r t c' b, (Transaction.command call .mintBundle).perform s = (.ok r, t) ∧ t.OnSale c' now ∧
      t.allocator? = some b ∧ t.Buyers c' now .bundle c'.bundlePrice rest ∧
      remainingBundles c' b = .ok n := by
  have hs := h.reachable.sound
  obtain ⟨a', ha', hconsistent, hsome⟩ := h.exists_allocator
  obtain rfl := Option.some.inj (ha.symm.trans ha')
  obtain ⟨henabled, hincomplete, hleft⟩ := (remainingBundles_eq_succ_iff hconsistent).mp hleft
  obtain ⟨shuffled, tokens, b, hshuffled, hdraw, hb, hmints⟩ := h.exists_drawEach ha hsome
    (by rw [hleft]; exact Nat.succ_pos n) (call.env.entropy call.sender) call.sender
  obtain ⟨hcount, hpayment, hamount⟩ := h.checks_buyer hbuyers rfl
    (Channel.bundleState?_bundle_eq_none_iff.mpr ⟨henabled, hincomplete⟩)
  obtain ⟨r, t, hmint⟩ := Call.exists_mintBundle h.config (hs.validate_eq_ok h.config) hs.balanced
    h.hasRoom hcount hpayment hamount ha hshuffled hdraw hb hmints
  have hperform : (Transaction.command call .mintBundle).perform s = (.ok r, t) :=
    (CallState.fresh_onStore call.mintBundle s).trans hmint
  -- It leaves one bundle less, and completes the channel when it leaves none.
  obtain ⟨c₁, a₁, shuffled₁, b₁, tokens₁, exhausted, hc₁, ha₁, hb₁, hshuffled₁, hdraw₁, -,
    hexhausted, hconfig⟩ := hs.draws_mintBundle hmint
  obtain rfl := Option.some.inj (h.config.symm.trans hc₁)
  obtain rfl := Option.some.inj (ha.symm.trans ha₁)
  obtain ⟨-, rfl⟩ := Prod.mk.inj (hshuffled.symm.trans hshuffled₁)
  obtain ⟨-, rfl⟩ := Prod.mk.inj (hdraw.symm.trans hdraw₁)
  obtain ⟨hless, hflag⟩ := Bundle.bundlesLeft_draw hconsistent hsome hshuffled hdraw
  obtain rfl := Except.ok.inj (hexhausted.symm.trans hflag)
  cases hs.effect hperform with
  | minted hminted hchannel =>
    obtain rfl := Option.some.inj (h.config.symm.trans hminted.config)
    obtain rfl := Option.some.inj hminted.booked
    obtain rfl := Except.ok.inj hminted.named
    refine ⟨r, t, _, b, hperform, h.of_minted hperform hconfig ⟨rfl, rfl, rfl⟩
      ⟨hminted.kept.1, hminted.kept.2.1⟩, hb₁, hbuyers.of_minted hminted rfl, ?_⟩
    rw [remainingBundles_eq hb, henabled, hincomplete]
    by_cases hnone : b.bundlesLeft = 0
    · simp [hnone]
      omega
    · simp [hnone]
      omega

/-- Where no bundle remains, none is minted. -/
theorem mintBundle_ne_ok (h : s.OnSale c now) (ha : s.allocator? = some a)
    (hnone : remainingBundles c a = .ok 0) :
    (Transaction.command call .mintBundle).perform s ≠ (.ok r, t) := by
  intro hperform
  have hs := h.reachable.sound
  have hmint := (CallState.fresh_onStore call.mintBundle s).symm.trans hperform
  obtain ⟨a', ha', hconsistent, hsome⟩ := h.exists_allocator
  obtain rfl := Option.some.inj (ha.symm.trans ha')
  obtain ⟨_, count, _, a₁, shuffled, b, _, _, _, _, _, _, hc, hcount, -, ha₁, hshuffled, hdraw, -⟩ :=
    Call.mintBundle_eq_ok hmint
  obtain rfl := Option.some.inj (h.config.symm.trans hc)
  obtain rfl := Option.some.inj (ha.symm.trans ha₁)
  obtain ⟨hless, -⟩ := Bundle.bundlesLeft_draw hconsistent hsome hshuffled hdraw
  obtain ⟨henabled, hincomplete⟩ :=
    Channel.bundleState?_bundle_eq_none_iff.mp (window_of_checkMint hcount).2.1
  have hleft := (remainingBundles_eq_succ_iff hconsistent).mpr ⟨henabled, hincomplete, hless.symm⟩
  rw [hleft] at hnone
  cases hnone

/-- Buyers all mint a bundle exactly when they are no more than the bundles that remain. -/
theorem takes_bundles_iff (h : s.OnSale c now) (ha : s.allocator? = some a) {calls : List Call}
    (hbuyers : s.Buyers c now .bundle c.bundlePrice calls)
    (hleft : remainingBundles c a = .ok n) :
    s.Takes (calls.map fun call => .command call .mintBundle) ↔ calls.length ≤ n := by
  apply Store.takes_iff_length_le (fun s n calls => ∃ c a, s.OnSale c now ∧
    s.allocator? = some a ∧ s.Buyers c now .bundle c.bundlePrice calls ∧
    remainingBundles c a = .ok n)
  · rintro s call rest r t ⟨c, a, h, ha, -, hnone⟩
    exact h.mintBundle_ne_ok ha hnone
  · rintro s n call rest ⟨c, a, h, ha, hbuyers, hleft⟩
    obtain ⟨r, t, c', b, hperform, h', hb, hbuyers', hless⟩ := h.mints_bundle ha hbuyers hleft
    exact ⟨r, t, hperform, c', b, h', hb, hbuyers', hless⟩
  · exact ⟨c, a, h, ha, hbuyers, hleft⟩

/-! ## Custom bundles -/

/-- While custom bundles remain, the next buyer mints one and leaves one less. -/
theorem mints_customBundle (h : s.OnSale c now)
    (hbuyers : s.Buyers c now .customBundle c.customPrice (call :: rest))
    (hleft : s.remainingCustomBundles c = n + 1) :
    ∃ r t c', (Transaction.command call .mintCustomBundle).perform s = (.ok r, t) ∧
      t.OnSale c' now ∧ t.Buyers c' now .customBundle c'.customPrice rest ∧
      t.remainingCustomBundles c' = n := by
  have hs := h.reachable.sound
  obtain ⟨c₁, a, staged, hc₁, ha, hlisted, hcoherent⟩ := h.reachable.bundleCoherent
  obtain rfl := Option.some.inj (h.config.symm.trans hc₁)
  have hconsistent := hs.consistent ha
  obtain ⟨henabled, hincomplete, hleft⟩ := remainingCustomBundles_eq_succ_iff.mp hleft
  have hstored : s.stagedTokens = staged := by rw [stagedTokens, hlisted]; rfl
  rw [hstored] at hleft
  have henough := hcoherent.count_le_length henabled hincomplete
  -- The staged tokens can be claimed, and each of them has its message.
  obtain ⟨shuffled, hshuffled⟩ := (h.reachable.drawsShuffled a ha).exists_ensureShuffled
    (call.env.entropy call.sender)
  obtain ⟨done, b, hclaims⟩ := hcoherent.exists_claims hconsistent hshuffled
  have hmints : ∀ token ∈ staged.take c.customCount, ∃ m, s.Mints call.sender token m :=
    fun token htoken => h.exists_mints ha
      ((hcoherent.mem_iff token).mp (List.mem_of_mem_take htoken)) call.sender
  obtain ⟨hcount, hpayment, hamount⟩ := h.checks_buyer hbuyers rfl
    (Channel.bundleState?_customBundle_eq_none_iff.mpr ⟨henabled, hincomplete⟩)
  obtain ⟨r, t, hmint⟩ := Call.exists_mintCustomBundle h.config (hs.validate_eq_ok h.config)
    hs.balanced h.hasRoom hcount hpayment hamount ha hshuffled hlisted henough hclaims hmints
  have hperform : (Transaction.command call .mintCustomBundle).perform s = (.ok r, t) :=
    (CallState.fresh_onStore call.mintCustomBundle s).trans hmint
  -- It leaves one bundle less, and completes the channel when it leaves none.
  cases hs.effect hperform with
  | minted hminted hchannel => exact absurd (Option.some.inj hminted.booked).symm hchannel
  | sold hminted hlisted₁ _ hstaged _ hconfig =>
    obtain rfl := Option.some.inj (h.config.symm.trans hminted.config)
    obtain rfl := Option.some.inj (hlisted.symm.trans hlisted₁)
    refine ⟨r, t, _, hperform, h.of_minted hperform hconfig ⟨rfl, rfl, rfl⟩
      ⟨hminted.kept.1, hminted.kept.2.1⟩, hbuyers.of_minted hminted rfl, ?_⟩
    have hpositive := (hcoherent.enabled henabled).1
    have hfewer : (staged.drop c.customCount).length / c.customCount = n := by
      rw [List.length_drop]
      rw [Nat.div_eq_sub_div hpositive henough] at hleft
      exact Nat.succ.inj hleft
    rw [remainingCustomBundles, stagedTokens, hstaged, henabled, Option.getD_some, hfewer]
    by_cases hfew : (staged.drop c.customCount).length < c.customCount
    · rw [Nat.div_eq_of_lt hfew] at hfewer
      simp [hfewer]
    · simp only [hfew, decide_false, Bool.not_false, Bool.and_true, Bool.true_and]
      exact if_pos (decide_eq_true hpositive)

/-- Where no custom bundle remains, none is minted. -/
theorem mintCustomBundle_ne_ok (h : s.OnSale c now) (hnone : s.remainingCustomBundles c = 0) :
    (Transaction.command call .mintCustomBundle).perform s ≠ (.ok r, t) := by
  intro hperform
  have hs := h.reachable.sound
  obtain ⟨c₁, a, staged, hc₁, -, hlisted, hcoherent⟩ := h.reachable.bundleCoherent
  obtain rfl := Option.some.inj (h.config.symm.trans hc₁)
  cases hs.effect hperform with
  | minted hminted hchannel => exact absurd (Option.some.inj hminted.booked).symm hchannel
  | sold hminted hlisted₁ henough _ hopen _ =>
    obtain rfl := Option.some.inj (h.config.symm.trans hminted.config)
    obtain rfl := Option.some.inj (hlisted.symm.trans hlisted₁)
    have hstored : s.stagedTokens = staged := by rw [stagedTokens, hlisted]; rfl
    have hpositive := Nat.div_pos henough (hcoherent.enabled hopen.1).1
    obtain ⟨n, hn⟩ := Nat.exists_eq_succ_of_ne_zero hpositive.ne'
    rw [← hstored] at hn
    rw [remainingCustomBundles_eq_succ_iff.mpr ⟨hopen.1, hopen.2, hn⟩] at hnone
    cases hnone

/-- Buyers all mint a custom bundle exactly when they are no more than the custom bundles that
remain. -/
theorem takes_customBundles_iff (h : s.OnSale c now) {calls : List Call}
    (hbuyers : s.Buyers c now .customBundle c.customPrice calls) :
    s.Takes (calls.map fun call => .command call .mintCustomBundle) ↔
      calls.length ≤ s.remainingCustomBundles c := by
  apply Store.takes_iff_length_le (fun s n calls => ∃ c, s.OnSale c now ∧
    s.Buyers c now .customBundle c.customPrice calls ∧ s.remainingCustomBundles c = n)
  · rintro s call rest r t ⟨c, h, -, hnone⟩
    exact h.mintCustomBundle_ne_ok hnone
  · rintro s n call rest ⟨c, h, hbuyers, hleft⟩
    obtain ⟨r, t, c', hperform, h', hbuyers', hless⟩ := h.mints_customBundle hbuyers hleft
    exact ⟨r, t, hperform, c', h', hbuyers', hless⟩
  · exact ⟨c, h, hbuyers, rfl⟩

end Store.OnSale

/-! ## Callers and the query -/

/-- However many callers are asked for, there are so many who can mint for the first time and pay a
price that is an amount. -/
theorem Store.exists_buyers (s : Store) (c : Config) (now : Nat) (channel : Channel) {price : Nat}
    (hprice : price < amountBound) (k : Nat) :
    ∃ calls, calls.length = k ∧ s.Buyers c now channel price calls := by
  induction k with
  | zero => exact ⟨[], rfl, List.nodup_nil, nofun, nofun, nofun⟩
  | succ k ih =>
    obtain ⟨calls, hlength, hbuyers⟩ := ih
    obtain ⟨sender, hsender⟩ := Infinite.exists_notMem_finset
      ((s.trackers.of channel).keys ++ calls.map Call.sender).toFinset
    rw [List.mem_toFinset, List.mem_append, not_or] at hsender
    obtain ⟨hfresh, hother⟩ := hsender
    have hnone : s.mintCount channel sender = 0 := by
      rw [mintCount]
      cases hcount : (s.trackers.of channel).get? sender with
      | none => rfl
      | some count => exact absurd (SortedMap.mem_keys_iff.mpr ⟨count, hcount⟩) hfresh
    refine ⟨⟨⟨now, 0, none, "mint"⟩, sender, [c.price price], FirstSale.nobody⟩ :: calls,
      congrArg (· + 1) hlength, List.nodup_cons.mpr ⟨hother, hbuyers.distinct⟩,
      List.forall_mem_cons.mpr ⟨hnone, hbuyers.fresh⟩,
      List.forall_mem_cons.mpr ⟨rfl, hbuyers.timely⟩,
      List.forall_mem_cons.mpr ⟨⟨.inl rfl, ?_⟩, hbuyers.paid⟩⟩
    simpa [Config.price] using hprice

/-- A part that a store has is there when it is demanded. -/
theorem Store.demand_eq_ok {α : Type} {part : Store → Option α} {x : α} (h : part s = some x) :
    s.demand part = .ok x := by
  rw [demand, h]

/-- The query of what remains tells how many slots there are, how many of them are not yet issued,
and how many bundles remain. -/
theorem Store.query_remaining {a : Allocator} (hc : s.config = some c) (ha : s.allocator? = some a)
    (hconsistent : a.Consistent) {named : Option String} {address : Option Address}
    (hnamed : validateAddress? named = .ok address) :
    ∃ report, s.query (.remaining named) = .ok (.remaining report) ∧
      report.total = a.arena.total ∧ report.remaining = a.arena.total - a.arena.cursor ∧
      remainingBundles c a = .ok report.bundles ∧
      s.remainingCustomBundles c = report.customBundles := by
  have hbundles := remainingBundles_eq hconsistent c
  have hremaining : ∃ report, s.remaining named = .ok report ∧
      report.total = a.arena.total ∧ report.remaining = a.arena.total - a.arena.cursor ∧
      remainingBundles c a = .ok report.bundles ∧
      s.remainingCustomBundles c = report.customBundles := by
    simp only [remaining, Outcome.bind_eq_ok_iff]
    exact ⟨_, ⟨c, demand_eq_ok hc, a, demand_eq_ok ha, _, hbundles, _,
      hconsistent.arena.remaining_eq, address, hnamed, rfl⟩, rfl, rfl, hbundles, rfl⟩
  obtain ⟨report, hreport, htold⟩ := hremaining
  exact ⟨report, Outcome.map_eq_ok_iff.mpr ⟨report, hreport, rfl⟩, htold⟩

/-- While a mint is on sale, sends its revenue on at once and has the contracts of all its
collections, what the query tells of the remaining bundles is exact. Callers who have not minted a
bundle yet, no two of them the same, and who pay the price of a bundle, mint one after the other
exactly when they are no more than there are bundles said to remain. So it is with custom bundles and
their price. Whatever the number, there are so many callers. -/
theorem remaining_bundles_exact (h : s.OnSale c now) {named : Option String}
    {address : Option Address} (hnamed : validateAddress? named = .ok address) :
    ∃ report, s.query (.remaining named) = .ok (.remaining report) ∧
      (∀ calls, s.Buyers c now .bundle c.bundlePrice calls →
        (s.Takes (calls.map fun call => .command call .mintBundle) ↔
          calls.length ≤ report.bundles)) ∧
      (∀ calls, s.Buyers c now .customBundle c.customPrice calls →
        (s.Takes (calls.map fun call => .command call .mintCustomBundle) ↔
          calls.length ≤ report.customBundles)) ∧
      ∀ channel price k, price < amountBound →
        ∃ calls, calls.length = k ∧ s.Buyers c now channel price calls := by
  obtain ⟨a, ha, hconsistent, -⟩ := h.exists_allocator
  obtain ⟨report, hreport, -, -, hbundles, hcustom⟩ :=
    Store.query_remaining h.config ha hconsistent hnamed
  refine ⟨report, hreport, fun calls hbuyers => ?_, fun calls hbuyers => ?_,
    fun channel price k hprice => s.exists_buyers c now channel hprice k⟩
  · exact h.takes_bundles_iff ha hbuyers hbundles
  · exact hcustom ▸ h.takes_customBundles_iff hbuyers

namespace FirstSale

/-- The store that the setup leaves when the revenue is to be sent on at once. -/
def foundedSending : Store :=
  ({ setup with escrowFunds := false }.run ⟨5, 1, none, "mint"⟩ "admin" Store.empty).2

/-- The store of that mint once the contract of its collection is there and two of the three tokens
are staged. -/
def sending : Store :=
  (foundedSending.play
    [.reply 101 (.succeeded (some [10, 4, 103, 111, 108, 100])), staging]).2

end FirstSale

/-- With two of three tokens staged for custom bundles of one, two custom bundles and one bundle are
said to remain. Two callers mint the custom bundles; of two who want a bundle, not both mint one. -/
theorem remaining_bundles_exact_sending :
    ∃ c report, FirstSale.sending.OnSale c 20 ∧
      FirstSale.sending.query (.remaining none) = .ok (.remaining report) ∧
      report.bundles = 1 ∧ report.customBundles = 2 ∧
      FirstSale.sending.Takes
        [.command (FirstSale.call "ann" [⟨"ustars", 50⟩]) .mintCustomBundle,
          .command (FirstSale.call "bob" [⟨"ustars", 50⟩]) .mintCustomBundle] ∧
      ¬ FirstSale.sending.Takes
        [.command (FirstSale.call "ann" [⟨"ustars", 100⟩]) .mintBundle,
          .command (FirstSale.call "bob" [⟨"ustars", 100⟩]) .mintBundle] := by
  have hfounded : Founded FirstSale.foundedSending := Founded.of_isOk (by decide +kernel)
  have hs : Reachable FirstSale.sending := ⟨_, _, hfounded, FirstSale.foundedSending.run_play _⟩
  obtain ⟨c, hc, -⟩ := hs.sound.config
  have hterms : FirstSale.sending.config.map (fun c => (c.escrowFunds, c.startTime, c.endTime,
      c.denom, c.bundlePrice, c.customPrice)) = some (false, 10, none, "ustars", 100, 50) := by
    decide +kernel
  rw [hc, Option.map_some, Option.some.injEq] at hterms
  simp only [Prod.mk.injEq] at hterms
  obtain ⟨hescrow, hstart, hend, hdenom, hprice, hcustom⟩ := hterms
  have honly : FirstSale.sending.collections.keys = [101] := by decide +kernel
  have hcreated : (FirstSale.sending.collectionContracts.get? 101).isSome = true := by
    decide +kernel
  have hsale : FirstSale.sending.OnSale c 20 := by
    refine ⟨hs, hc, hescrow, by omega, fun stop hstop => ?_, fun id hid => ?_⟩
    · rw [hend] at hstop
      cases hstop
    · have hmem := SortedMap.mem_keys_iff.mpr (Option.isSome_iff_exists.mp hid)
      rw [honly, List.mem_singleton] at hmem
      rwa [hmem]
  have hbuyers (channel : Channel) (price : Nat) (hamount : price < amountBound)
      (hfresh : ∀ sender ∈ ["ann", "bob"], FirstSale.sending.mintCount channel sender = 0) :
      FirstSale.sending.Buyers c 20 channel price
        [FirstSale.call "ann" [⟨"ustars", price⟩], FirstSale.call "bob" [⟨"ustars", price⟩]] := by
    refine ⟨by simp [FirstSale.call], ?_, by simp [FirstSale.call], ?_⟩
    · simpa [FirstSale.call] using hfresh
    · simp [FirstSale.call, Config.PaidBy, Config.price, hdenom, hamount]
  obtain ⟨report, hreport, hbundles, hcustoms, -⟩ := remaining_bundles_exact hsale
    (rfl : validateAddress? none = .ok none)
  have hcounts : (FirstSale.sending.remaining none).map (fun r => (r.bundles, r.customBundles)) =
      .ok (1, 2) := by decide +kernel
  have hmapped : (FirstSale.sending.remaining none).map QueryAnswer.remaining =
      .ok (.remaining report) := hreport
  obtain ⟨report', hreport', hsame⟩ := Outcome.map_eq_ok_iff.mp hmapped
  obtain rfl := QueryAnswer.remaining.inj hsame
  rw [hreport'] at hcounts
  obtain ⟨hone, htwo⟩ := Prod.mk.inj (Except.ok.inj hcounts)
  refine ⟨c, report', hsale, hreport, hone, htwo, ?_, fun htakes => ?_⟩
  · refine (hcustoms [FirstSale.call "ann" [⟨"ustars", 50⟩],
      FirstSale.call "bob" [⟨"ustars", 50⟩]] ?_).mpr (Nat.le_of_eq htwo.symm)
    rw [hcustom]
    exact hbuyers .customBundle 50 (by decide) (by decide +kernel)
  · have hatMost := (hbundles [FirstSale.call "ann" [⟨"ustars", 100⟩],
      FirstSale.call "bob" [⟨"ustars", 100⟩]] ?_).mp htakes
    · rw [hone] at hatMost
      exact absurd hatMost (by decide)
    · rw [hprice]
      exact hbuyers .bundle 100 (by decide) (by decide +kernel)

end ShuffleMint
