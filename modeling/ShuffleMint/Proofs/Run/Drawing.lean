import ShuffleMint.Proofs.Run.Effect

/-!
# What minting draws from

Every minting command takes a copy of the stored allocator, shuffles its order unless that was done,
issues tokens on it and stores it again. How it comes by these tokens differs from command to
command. Said here is, of each command, what its copy goes through, from the allocator that the
store holds before the command to the one that it holds after it.
-/

namespace ShuffleMint

variable {s t u : Store} {r : Response} {c : Config}

/-- Settling a revenue leaves the allocator alone. -/
theorem allocator?_of_settleRevenue {payment : Nat} {payouts : List Message}
    (hsettle : Escrow.settleRevenue c payment u = (.ok payouts, t)) :
    t.allocator? = u.allocator? := by
  obtain ⟨honly, -⟩ := Escrow.settleRevenue_eq_ok hsettle
  exact honly.view_eq Store.allocator? fun _ _ _ => rfl

/-- Settling a revenue leaves the configuration alone. -/
theorem config_of_settleRevenue {payment : Nat} {payouts : List Message}
    (hsettle : Escrow.settleRevenue c payment u = (.ok payouts, t)) : t.config = u.config := by
  obtain ⟨honly, -⟩ := Escrow.settleRevenue_eq_ok hsettle
  exact honly.view_eq Store.config fun _ _ _ => rfl

namespace Store.Sound

variable {call : Call}

/-- A copy that is shuffled and issues tokens is stored as it is. -/
theorem allocator?_withAllocator_of_issues (hs : s.Sound) {a shuffled b : Allocator} {seed : Seed}
    {statuses : List SlotStatus} {tokens : List Token} (ha : s.allocator? = some a)
    (hshuffled : Allocator.ensureShuffled seed a = (.ok (), shuffled))
    (hissues : shuffled.Issues statuses tokens b) (hu : u.allocator? = s.allocator?) :
    (u.withAllocator b).allocator? = some b :=
  allocator?_withAllocator (hu.trans ha) (hs.consistent ha)
    ((Allocator.Consistent.ensureShuffled_moves hshuffled).trans hissues.moves)

/-- A random mint draws the next token. -/
theorem draws_mint (hs : s.Sound) {promised : Bool} {named : Option String} {v : CallState}
    (h : call.mint promised named ⟨s, []⟩ = (.ok r, v)) :
    ∃ a shuffled b token, s.allocator? = some a ∧ v.store.allocator? = some b ∧
      Allocator.ensureShuffled (call.env.entropy call.sender) a = (.ok (), shuffled) ∧
      Allocator.next none shuffled = (.ok token, b) ∧ shuffled.Issues [.pending] [token] b ∧
      v.store.config = s.config := by
  obtain ⟨c, recipient, through, _, price, payment, w, -, -, -, -, hprice, -, hdraw⟩ :=
    Call.mint_eq_ok h
  rw [(Mint.keeps_priceOf _ _ _ _).view_eq hprice] at hdraw
  obtain ⟨a, shuffled, b, token, _, count, _, ha, hshuffled, hnext, -, -, hsettle, -⟩ :=
    Mint.draw_eq_ok hdraw
  have hshuffle := Allocator.Consistent.ensureShuffled_moves hshuffled
  have hissues := (hshuffle.consistent (hs.consistent ha)).next_issues hnext
  exact ⟨a, shuffled, b, token, ha, (allocator?_of_settleRevenue hsettle).trans
    (hs.allocator?_withAllocator_of_issues ha hshuffled hissues rfl), hshuffled, hnext, hissues,
    (config_of_settleRevenue hsettle).trans rfl⟩

/-- A bundle draws the next token of every collection. It raises the flag of its channel if it
leaves a collection without one. -/
theorem draws_mintBundle (hs : s.Sound) (h : call.mintBundle s = (.ok r, t)) :
    ∃ c a shuffled b tokens exhausted, s.config = some c ∧ s.allocator? = some a ∧
      t.allocator? = some b ∧
      Allocator.ensureShuffled (call.env.entropy call.sender) a = (.ok (), shuffled) ∧
      Bundle.drawEach a.collectionIds shuffled = (.ok tokens, b) ∧
      shuffled.Issues [.pending] tokens b ∧
      Bundle.anyExhausted b a.collectionIds = .ok exhausted ∧
      t.config = some { c with bundleCompleted := exhausted || c.bundleCompleted } := by
  obtain ⟨c, count, payment, a, shuffled, b, tokens, _, exhausted, c', closed, _, hc, -, -, ha,
    hshuffled, hdraw, -, hexhausted, hclosed, hsettle, -⟩ := Call.mintBundle_eq_ok h
  have hshuffle := Allocator.Consistent.ensureShuffled_moves hshuffled
  have hissues := (Bundle.drawEach_issues (hshuffle.consistent (hs.consistent ha)) hdraw).1
  have hstored := hs.allocator?_withAllocator_of_issues (u := s.withMintCount .bundle call.sender
    count) ha hshuffled hissues rfl
  have hkept : closed.allocator? = some b ∧
      closed.config = some { c with bundleCompleted := exhausted || c.bundleCompleted } := by
    rcases Bundle.close_eq_ok hclosed with ⟨rfl, rfl, rfl⟩ | ⟨rfl, rfl, rfl⟩
    · exact ⟨hstored, rfl⟩
    · exact ⟨hstored, hc⟩
  exact ⟨c, a, shuffled, b, tokens, exhausted, hc, ha,
    (allocator?_of_settleRevenue hsettle).trans hkept.1, hshuffled, hdraw, hissues, hexhausted,
    (config_of_settleRevenue hsettle).trans hkept.2⟩

/-- A claim takes the tokens that the airdropper promises its recipient and that are not claimed
yet, up to its limit. -/
theorem draws_claimAirdrop (hs : s.Sound) {limit : Option Nat} {named : Option String}
    {v : CallState} (h : call.claimAirdrop limit named ⟨s, []⟩ = (.ok r, v)) :
    ∃ c recipient contract promises a shuffled b, s.config = some c ∧
      resolveRecipient c call.sender named = .ok recipient ∧ c.airdropper = some contract ∧
      call.answers.promisedTokens [] contract recipient = .ok promises ∧
      s.allocator? = some a ∧ v.store.allocator? = some b ∧
      Allocator.ensureShuffled (call.env.entropy call.sender) a = (.ok (), shuffled) ∧
      shuffled.Issues [.pending, .reserved] (Airdrop.unclaimed promises limit) b ∧
      v.store.config = s.config := by
  obtain ⟨c, recipient, contract, promises, w, -, hc, hrecipient, hattached, hpromises, -, -, -,
    hissue⟩ := Call.claimAirdrop_eq_ok h
  rw [(CallState.keeps_ask _ _).view_eq hpromises] at hissue
  obtain ⟨count, a, shuffled, b, _, -, ha, hshuffled, hissued, hstore, -⟩ :=
    Airdrop.issue_eq_ok hissue
  have hshuffle := Allocator.Consistent.ensureShuffled_moves hshuffled
  have hissues := hissued.issues_claimed (hshuffle.consistent (hs.consistent ha))
  refine ⟨c, recipient, contract, promises, a, shuffled, b, hc, hrecipient, hattached,
    CallState.ask_eq_ok hpromises, ha, ?_, hshuffled, hissues, ?_⟩
  · rw [hstore]
    exact hs.allocator?_withAllocator_of_issues ha hshuffled hissues rfl
  · rw [hstore]
    rfl

/-- A custom bundle takes the tokens staged first. -/
theorem draws_mintCustomBundle (hs : s.Sound) (h : call.mintCustomBundle s = (.ok r, t)) :
    ∃ c staged a shuffled b, s.config = some c ∧ s.staged = some staged ∧
      c.customCount ≤ staged.length ∧ s.allocator? = some a ∧ t.allocator? = some b ∧
      Allocator.ensureShuffled (call.env.entropy call.sender) a = (.ok (), shuffled) ∧
      shuffled.Issues [.staged] (staged.take c.customCount) b := by
  obtain ⟨c, _, payment, staged, hc, -, -, hlisted, henough, hsell⟩ :=
    Call.mintCustomBundle_eq_ok h
  obtain ⟨a, shuffled, b, _, count, c', closed, _, ha, hshuffled, hissued, -, hclosed, hsettle,
    -⟩ := CustomBundle.sell_eq_ok hsell
  have hshuffle := Allocator.Consistent.ensureShuffled_moves hshuffled
  have hissues := hissued.issues (by simp) (fun _ _ _ h hok => h.claimStaged_issues hok)
    (hshuffle.consistent (hs.consistent ha))
  have hstored := hs.allocator?_withAllocator_of_issues (u := s.withMintCount .customBundle
    call.sender count) ha hshuffled hissues rfl
  have hkept : closed.allocator? = some b := by
    rcases CustomBundle.close_eq_ok hclosed with ⟨-, -, rfl⟩ | ⟨-, -, rfl⟩ <;> exact hstored
  exact ⟨c, staged, a, shuffled, b, hc, hlisted, henough, ha,
    (allocator?_of_settleRevenue hsettle).trans hkept, hshuffled, hissues⟩

end Store.Sound

end ShuffleMint
