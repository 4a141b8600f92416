import ShuffleMint.Proofs.Allocator.Queue
import ShuffleMint.Proofs.Arena.Census
import ShuffleMint.Proofs.Query.Listing
import ShuffleMint.Proofs.Run.BundleCoherence
import ShuffleMint.Proofs.Run.RemainingBundles

/-!
# Supplies are told alike

How many tokens there are, and how many of them are issued, held back or left to draw, is told by
four queries. They read it off the order and its cursor, the supplies of the collections, the
settings and the list of staged tokens, and they subtract what they have not counted. Over every run
these parts of the store are kept in step, so no difference is ever asked for that is not there, and
the figures agree.
-/

namespace ShuffleMint

variable {s : Store} {c : Config} {a : Allocator}

/-- What the queries tell about the supply of a mint: the settings, the parts of the order, the
custom bundle, and the supplies of the collections, whose pages are parts of one listing that can be
read to its end. -/
structure Store.Tells (s : Store) (c : Config) (order : OrderState) (custom : CustomBundleState)
    (listing : List CollectionSupply) : Prop where
  config : s.query .config = .ok (.config c order.shuffled)
  order : s.query .order = .ok (.order order)
  customBundle : s.query .customBundle = .ok (.customBundle custom)
  page : ∀ start limit, ∃ page, s.query (.supplies start limit) = .ok (.supplies page) ∧
    page.Sublist listing
  read : ∀ limit, (∀ n ∈ limit, 1 ≤ n) → ∀ received,
    Listing.supplies.Reads s limit none received ↔ received = listing

/-- What is issued and what remains add up to all tokens over a listing in which they do for each
collection. -/
theorem sum_issued_add_sum_remaining {listing : List CollectionSupply}
    (h : ∀ e ∈ listing, e.issued + e.remaining = e.total) :
    (listing.map CollectionSupply.issued).sum + (listing.map CollectionSupply.remaining).sum =
      (listing.map CollectionSupply.total).sum := by
  induction listing with
  | nil => rfl
  | cons e rest ih =>
    have hfirst := h e List.mem_cons_self
    have hrest := ih fun e he => h e (List.mem_cons_of_mem _ he)
    simp only [List.map_cons, List.sum_cons]
    omega

/-- What the listing of the supplies shows to its end. -/
def Allocator.listing (a : Allocator) : List CollectionSupply :=
  a.supplies.entries.map Listing.supplies.shown

namespace Allocator.Consistent

/-- Of no collection more is issued than there is. -/
theorem issued_le_total (h : a.Consistent) {e : Nat × Supply} (he : e ∈ a.supplies.entries) :
    e.2.issued ≤ e.2.total := by
  obtain ⟨r, -, -, hsupply⟩ := (h.supplied e.1 e.2).mp (SortedMap.get?_eq_some_iff.mpr he)
  rw [hsupply]
  show a.arena.issuedIn r ≤ r.supply
  rw [h.arena.issuedIn_eq_countP]
  exact List.countP_le_length.trans_eq List.length_range'

/-- Tokens that stand in one way are no more than there are slots of that status. -/
theorem length_le_statusCount (h : a.Consistent) {tokens : List Token} (hnodup : tokens.Nodup)
    {status : SlotStatus} (hstanding : ∀ t ∈ tokens, a.standing t = some status) :
    tokens.length ≤ a.arena.statusCount status := by
  have hsubset : tokens ⊆ (placesOf a.arena.status status).filterMap a.arena.token? := by
    intro t ht
    obtain ⟨slot, htoken, hslot⟩ := h.standing_eq_some_iff.mp (hstanding t ht)
    exact mem_filterMap_token?.mpr ⟨slot, mem_placesOf.mpr hslot, htoken⟩
  calc tokens.length
      ≤ ((placesOf a.arena.status status).filterMap a.arena.token?).length :=
        (List.subperm_of_subset hnodup hsubset).length_le
    _ ≤ (placesOf a.arena.status status).length := List.length_filterMap_le _ _
    _ = a.arena.statusCount status := length_placesOf

/-- Of each collection the issued and the remaining tokens are all its tokens. -/
theorem issued_add_remaining (h : a.Consistent) :
    ∀ e ∈ a.listing, e.issued + e.remaining = e.total := by
  intro e he
  obtain ⟨entry, hentry, rfl⟩ := List.mem_map.mp he
  exact Nat.add_sub_of_le (h.issued_le_total hentry)

/-- The tokens issued of the collections are the issued slots. -/
theorem sum_listing_issued (h : a.Consistent) :
    (a.listing.map CollectionSupply.issued).sum = a.arena.statusCount .issued := by
  rw [Allocator.listing, List.map_map, ← h.arena.cursor_eq_statusCount]
  exact h.sum_issued

/-- The tokens of the collections are all slots. -/
theorem sum_listing_total (h : a.Consistent) :
    (a.listing.map CollectionSupply.total).sum = a.arena.total := by
  rw [Allocator.listing, List.map_map]
  exact h.sum_total

/-- The tokens that remain of the collections are the slots that are not issued. -/
theorem sum_listing_remaining (h : a.Consistent) :
    (a.listing.map CollectionSupply.remaining).sum = a.arena.total - a.arena.cursor := by
  have hsum := sum_issued_add_sum_remaining h.issued_add_remaining
  rw [h.sum_listing_issued, h.sum_listing_total, ← h.arena.cursor_eq_statusCount] at hsum
  omega

end Allocator.Consistent

/-- What there is to tell of an order: how many slots are issued, pending and held back. -/
def Allocator.orderState (a : Allocator) : OrderState where
  shuffled := a.arena.shuffled
  locked := 0 < a.arena.cursor
  total := a.arena.total
  issued := a.arena.statusCount .issued
  pending := a.arena.statusCount .pending
  reserved := a.arena.statusCount .reserved + a.arena.statusCount .staged

namespace Store

/-- The query of the settings tells them, and whether the order is shuffled. -/
theorem query_config (hc : s.config = some c) (ha : s.allocator? = some a) :
    s.query .config = .ok (.config c a.arena.shuffled) := by
  rw [query, demand_eq_ok hc, demand_eq_ok ha]
  rfl

/-- The query of the custom bundle tells its terms and the staged tokens. -/
theorem query_customBundle (hc : s.config = some c) :
    s.query .customBundle = .ok (.customBundle
      ⟨c.customEnabled, c.customCompleted, c.customPrice, c.customCount, s.stagedTokens⟩) := by
  rw [query, customBundleState, demand_eq_ok hc]
  rfl

/-- The query of the order takes what is pending away from what is not issued. That is what is held
back. -/
theorem query_order (ha : s.allocator? = some a) (h : a.Consistent) :
    s.query .order = .ok (.order a.orderState) := by
  have hsum := a.arena.sum_statusCount
  have hcursor := h.arena.cursor_eq_statusCount
  have hreserved : subtractCounts (a.arena.total - a.arena.cursor) (a.arena.statusCount .pending) =
      .ok (a.arena.statusCount .reserved + a.arena.statusCount .staged) := by
    rw [subtractCounts, if_pos (by omega)]
    congr 1
    omega
  refine Outcome.map_eq_ok_iff.mpr ⟨_, ?_, rfl⟩
  simp only [Store.orderState, Outcome.bind_eq_ok_iff]
  refine ⟨a, demand_eq_ok ha, _, h.arena.pending_eq, _, h.arena.remaining_eq, _, hreserved, ?_⟩
  rw [Allocator.orderState, ← hcursor]
  rfl

/-- The supplies are listed completely. -/
theorem complete_supplies (ha : s.allocator? = some a) (h : a.Consistent) :
    Listing.supplies.Complete s (· < ·) fun _ => True :=
  Listing.complete_supplies fun _ he => h.issued_le_total ((allocator?_eq_some_iff.mp ha).2 ▸ he)

/-- The pages of the supplies are parts of one listing. -/
theorem query_supplies (ha : s.allocator? = some a) (h : a.Consistent)
    (start limit : Option Nat) :
    ∃ page, s.query (.supplies start limit) = .ok (.supplies page) ∧ page.Sublist a.listing := by
  obtain ⟨-, hsupplies⟩ := allocator?_eq_some_iff.mp ha
  have hserved := Listing.served_supplies fun _ he => h.issued_le_total (hsupplies ▸ he)
  refine ⟨_, hserved start limit fun _ _ => trivial, ?_⟩
  have hafter : (s.supplies.after start).Sublist s.supplies.entries := by
    cases start with
    | none => exact List.Sublist.refl _
    | some id => exact List.filter_sublist
  rw [Allocator.listing, ← hsupplies]
  exact ((List.take_sublist _ _).trans hafter).map _

/-- A store with settings and an allocator tells about both. -/
theorem tells (hc : s.config = some c) (ha : s.allocator? = some a) (h : a.Consistent) :
    s.Tells c a.orderState
      ⟨c.customEnabled, c.customCompleted, c.customPrice, c.customCount, s.stagedTokens⟩
      a.listing where
  config := s.query_config hc ha
  order := s.query_order ha h
  customBundle := s.query_customBundle hc
  page := s.query_supplies ha h
  read limit hlimit received := by
    rw [Allocator.listing, ← (allocator?_eq_some_iff.mp ha).2]
    exact (s.complete_supplies ha h).read limit hlimit received

end Store

/-- On every reachable store the queries agree. The issued, the pending and the reserved slots are
all slots; reserved are those that are held for an address or for the custom bundle, and they are no
fewer than the tokens listed for it. Of each collection the issued and the remaining tokens are all
its tokens. Over all collections, the issued tokens are as many as there are issued slots, the
remaining ones as many as are said to remain, and all of them as many as the settings say. -/
theorem supply_queries_agree (hs : Reachable s) :
    ∃ c arena order custom listing, s.config = some c ∧ s.arena = some arena ∧
      s.Tells c order custom listing ∧
      order.issued + order.pending + order.reserved = order.total ∧
      order.reserved = arena.statusCount .reserved + arena.statusCount .staged ∧
      custom.staged.length ≤ order.reserved ∧
      listing.map CollectionSupply.collection = s.collections.keys ∧
      (∀ e ∈ listing, e.issued + e.remaining = e.total) ∧
      (listing.map CollectionSupply.issued).sum = order.issued ∧
      (listing.map CollectionSupply.total).sum = c.totalSupply ∧
      ∀ named, (∀ text ∈ named, IsAddress text) →
        ∃ report, s.query (.remaining named) = .ok (.remaining report) ∧
          report.remaining = (listing.map CollectionSupply.remaining).sum ∧
          report.total = c.totalSupply := by
  have hsound := hs.sound
  obtain ⟨c, a, staged, hc, ha, hstaged, hcoherent⟩ := hs.bundleCoherent
  have h := hsound.consistent ha
  obtain ⟨harena, -⟩ := Store.allocator?_eq_some_iff.mp ha
  refine ⟨c, a.arena, _, _, _, hc, harena, Store.tells hc ha h, ?sum, rfl, ?staged, ?collections,
    h.issued_add_remaining, h.sum_listing_issued, h.sum_listing_total.trans (hs.total_eq hc ha),
    fun named hnamed => ?remaining⟩
  case sum => exact a.arena.sum_statusCount
  case staged =>
    have hlength := h.length_le_statusCount hcoherent.nodup fun t => (hcoherent.mem_iff t).mp
    show s.stagedTokens.length ≤ _
    rw [Store.stagedTokens, hstaged]
    exact hlength.trans (Nat.le_add_left _ _)
  case collections =>
    rw [← hsound.collectionIds_eq ha, Allocator.listing, List.map_map]
    rfl
  case remaining =>
    obtain ⟨report, hreport, hall, hleft, -⟩ :=
      Store.query_remaining hc ha h (validateAddress?_eq_ok_iff.mpr ⟨rfl, hnamed⟩)
    exact ⟨report, hreport, hleft.trans h.sum_listing_remaining.symm,
      hall.trans (hs.total_eq hc ha)⟩

/-- With one of three tokens sold in a bundle and two staged, one slot is told as issued, none as
pending and two as reserved, and the collections have one token issued and two that remain. -/
theorem supply_queries_agree_completed :
    Reachable FirstSale.completed ∧ ∃ c order custom listing,
      FirstSale.completed.Tells c order custom listing ∧
      (order.issued, order.pending, order.reserved) = (1, 0, 2) ∧ custom.staged.length ≤ 2 ∧
      (listing.map CollectionSupply.issued).sum = 1 ∧ c.totalSupply = 3 ∧
      ∃ report, FirstSale.completed.query (.remaining (some "buyer")) = .ok (.remaining report) ∧
        (report.remaining, report.total) = (2, 3) := by
  have hs : Reachable FirstSale.completed :=
    ⟨_, _, FirstSale.founded_founded,
      (FirstSale.founded.run_play _).append (FirstSale.restaged.run_play _)⟩
  have hparts : FirstSale.completed.orderState.map
      (fun order => (order.issued, order.pending, order.reserved)) = .ok (1, 0, 2) := by
    decide +kernel
  have hthree : FirstSale.completed.config.map Config.totalSupply = some 3 := by decide +kernel
  have hbuyer : IsAddress "buyer" := ⟨"buyer", by decide +kernel⟩
  obtain ⟨c, _, order, custom, listing, hc, -, htells, hsum, -, hstaged, -, heach, hissued, htotal,
    hremaining⟩ := supply_queries_agree hs
  have hanswered : FirstSale.completed.orderState.map QueryAnswer.order = .ok (.order order) :=
    htells.order
  obtain ⟨_, horder, hsame⟩ := Outcome.map_eq_ok_iff.mp hanswered
  obtain rfl := QueryAnswer.order.inj hsame
  rw [horder] at hparts
  simp only [Except.map, Except.ok.injEq, Prod.mk.injEq] at hparts
  rw [hc, Option.map_some, Option.some.injEq] at hthree
  obtain ⟨report, hreport, hleft, hall⟩ := hremaining (some "buyer") fun _ ht => by
    rwa [← Option.some.inj ht]
  have hadd := sum_issued_add_sum_remaining heach
  simp only [Prod.mk.injEq]
  exact ⟨hs, c, _, custom, listing, htells, hparts, by omega, by omega, hthree, report, hreport,
    by omega, by omega⟩

end ShuffleMint
