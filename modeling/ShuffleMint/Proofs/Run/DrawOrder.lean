import Mathlib.Data.List.Perm.Basic
import ShuffleMint.Proofs.Run.Shuffling

/-!
# Draws cannot be steered

Once the order is shuffled, a random mint draws the first pending token. Who calls, for whom, on
which channel, when and with which coins has no say in it, although every call brings its own seed.
So two calls that could each come next draw the same token and leave the same slots and supplies.

A public mint changes the store in a way that depends on the call through its recipient only: it
counts one more mint for the recipient, draws, and passes the same price on. Counting commutes with
the rest and with other counts, and so the order of public mints is nowhere remembered. Which
recipient is told which token does depend on the order; it is told to other contracts, not kept.
-/

namespace ShuffleMint

variable {s t start : Store} {r : Response} {c : Config} {call : Call} {events : List Event}

/-- What a response tells of a drawn token: its only mint message mints the token, and its
attributes name the token's collection and number. -/
structure Response.Draws (s : Store) (token : Token) (r : Response) : Prop where
  minted : ∃ owner m, s.Mints owner token m ∧ r.mints = [m]
  collection : ("collection_id", toString token.collection) ∈ r.attributes
  number : ("token_id", toString token.number) ∈ r.attributes

/-- A public mint: one that is booked on the channel of the public sale. -/
def Transaction.IsSale (c : Config) : Transaction → Prop
  | .command call request => request.channel? c call.env.time = some .publicSale
  | _ => False

/-- Whom a random mint is for, where that can be told. -/
def Transaction.recipient? (c : Config) : Transaction → Option Address
  | .command call (.mint _ named) => (resolveRecipient c call.sender named).toOption
  | _ => none

namespace Trackers

/-- The counts with one more public mint of an address. -/
def countSale (trackers : Trackers) (recipient : Address) : Trackers :=
  trackers.update .publicSale ((trackers.of .publicSale).insert recipient
    (((trackers.of .publicSale).get? recipient).getD 0 + 1))

/-- It does not matter who is counted first. -/
theorem countSale_comm (trackers : Trackers) (first second : Address) :
    (trackers.countSale first).countSale second = (trackers.countSale second).countSale first := by
  by_cases hsame : first = second
  · rw [hsame]
  · have hcounts : ((trackers.countSale first).countSale second).publicSale =
        ((trackers.countSale second).countSale first).publicSale := by
      refine SortedMap.ext_get? fun address => ?_
      simp only [countSale, update, of, SortedMap.get?_insert, hsame, Ne.symm hsame, if_false]
      by_cases hfirst : address = first
      · simp [hfirst, hsame]
      · simp [hfirst]
    exact congrArg (fun counts => { trackers with publicSale := counts }) hcounts

end Trackers

namespace Store

/-- The store with its next token drawn. -/
def drawn (s : Store) : Store :=
  match s.allocator? with
  | some a => s.withAllocator (Allocator.next none a).2
  | none => s

/-- The store with the price of a public mint passed on. -/
def withPrice (c : Config) (s : Store) : Store :=
  match splitRevenue c c.mintPrice with
  | .ok parts => if c.escrowFunds then s.withDeposits parts else s
  | .error _ => s

/-- The store with the mint counts replaced. -/
def withTrackers (s : Store) (trackers : Trackers) : Store := { s with trackers := trackers }

/-- The store after a public mint for a recipient. -/
def withSale (c : Config) (s : Store) (recipient : Address) : Store :=
  ((s.withTrackers (s.trackers.countSale recipient)).drawn).withPrice c

/-- Drawing leaves the counts alone and does not look at them. -/
theorem drawn_withTrackers (s : Store) (trackers : Trackers) :
    (s.withTrackers trackers).drawn = s.drawn.withTrackers trackers := by
  unfold drawn
  have hsame : (s.withTrackers trackers).allocator? = s.allocator? := rfl
  rw [hsame]
  cases s.allocator? <;> rfl

/-- Deposits leave the counts alone and do not look at them. -/
theorem withDeposits_withTrackers (s : Store) (trackers : Trackers)
    (parts : List (Address × Nat)) :
    (s.withTrackers trackers).withDeposits parts =
      (s.withDeposits parts).withTrackers trackers := by
  induction parts generalizing s with
  | nil => rfl
  | cons part rest ih =>
    have hfirst : (s.withTrackers trackers).withDeposit part.1 part.2 =
        (s.withDeposit part.1 part.2).withTrackers trackers := by
      unfold withDeposit
      split <;> rfl
    show ((s.withTrackers trackers).withDeposit part.1 part.2).withDeposits rest = _
    rw [hfirst, ih]
    rfl

/-- Passing the price on leaves the counts alone and does not look at them. -/
theorem withPrice_withTrackers (c : Config) (s : Store) (trackers : Trackers) :
    (s.withTrackers trackers).withPrice c = (s.withPrice c).withTrackers trackers := by
  unfold withPrice
  split
  · split
    · exact s.withDeposits_withTrackers trackers _
    · rfl
  · rfl

/-- A public mint draws and passes its price on as if nobody were counted. -/
theorem withSale_eq (c : Config) (s : Store) (recipient : Address) :
    s.withSale c recipient =
      (s.drawn.withPrice c).withTrackers (s.trackers.countSale recipient) := by
  rw [withSale, drawn_withTrackers, withPrice_withTrackers]

/-- It does not matter which of two public mints comes first. -/
theorem withSale_comm (c : Config) (s : Store) (first second : Address) :
    (s.withSale c first).withSale c second = (s.withSale c second).withSale c first := by
  have htwo (first second : Address) : (s.withSale c first).withSale c second =
      ((s.drawn.withPrice c).drawn.withPrice c).withTrackers
        ((s.trackers.countSale first).countSale second) := by
    rw [withSale_eq c (s.withSale c first), withSale_eq c s first, drawn_withTrackers,
      withPrice_withTrackers]
    rfl
  rw [htwo, htwo, Trackers.countSale_comm]

/-- A public mint leaves the configuration alone. -/
theorem config_withSale (c : Config) (s : Store) (recipient : Address) :
    (s.withSale c recipient).config = s.config := by
  have hdrawn : s.drawn.config = s.config := by
    unfold drawn
    cases s.allocator? <;> rfl
  have hprice : (s.drawn.withPrice c).config = s.drawn.config := by
    unfold withPrice
    split
    · split
      · exact (escrowOnly_withDeposits _ _).view_eq Store.config fun _ _ _ => rfl
      · rfl
    · rfl
  rw [withSale_eq, ← hdrawn, ← hprice]
  rfl

namespace Sound

/-- From a shuffled order a random mint draws the first pending token, whoever calls and however it
is booked. -/
theorem mint_of_shuffled (hs : s.Sound) (hshuffled : s.isShuffled = true) {promised : Bool}
    {named : Option String}
    (h : (Transaction.command call (.mint promised named)).perform s = (.ok r, t)) :
    ∃ a b token, s.allocator? = some a ∧ Allocator.next none a = (.ok token, b) ∧
      t.allocator? = some b ∧ r.Draws s token := by
  have hfresh : CallState.fresh (call.mint promised named) s = (.ok r, t) := h
  obtain ⟨asked, hmint⟩ := CallState.fresh_eq_ok_iff.mp hfresh
  obtain ⟨c, recipient, through, -, price, payment, w, -, -, -, -, hprice, -, hdraw⟩ :=
    Call.mint_eq_ok hmint
  rw [(Mint.keeps_priceOf _ _ _ _).view_eq hprice] at hdraw
  obtain ⟨a, shuffled, b, token, m, count, payouts, ha, hensured, hnext, hm, -, hsettle, hr⟩ :=
    Mint.draw_eq_ok hdraw
  rw [isShuffled_eq ha] at hshuffled
  rw [Allocator.ensureShuffled_apply, if_pos hshuffled] at hensured
  obtain ⟨-, rfl⟩ := Prod.mk.inj hensured
  have hissues := (hs.consistent ha).next_issues hnext
  have hstored := (allocator?_of_settleRevenue hsettle).trans
    (allocator?_withAllocator (s := s.withMintCount _ recipient count) ha (hs.consistent ha)
      hissues.moves)
  refine ⟨a, b, token, ha, hnext, hstored, ⟨recipient, m, hm, ?_⟩, ?_, ?_⟩
  · rw [hr]
    exact Mint.mints_eq hm hsettle _ through
  · simp [hr, Response.ofMessages]
  · simp [hr, Response.ofMessages]

end Sound

/-- A public mint from a shuffled order leaves a store that depends on the call through its
recipient only. -/
theorem exists_withSale (hshuffled : s.isShuffled = true) (hc : s.config = some c)
    {transaction : Transaction} (hsale : transaction.IsSale c)
    (h : transaction.perform s = (.ok r, t)) :
    ∃ recipient, transaction.recipient? c = some recipient ∧ t = s.withSale c recipient := by
  cases transaction with
  | reply id result => cases hsale
  | migration => cases hsale
  | command call command =>
    cases command with
    | mint promised named =>
      have hfresh : CallState.fresh (call.mint promised named) s = (.ok r, t) := h
      obtain ⟨asked, hmint⟩ := CallState.fresh_eq_ok_iff.mp hfresh
      obtain ⟨c', recipient, through, -, price, payment, w, hc', hrecipient, hthrough, -, hprice,
        hpayment, hdraw⟩ := Call.mint_eq_ok hmint
      obtain rfl := Option.some.inj (hc.symm.trans hc')
      -- The mint goes through no collaborator, so its price is the one that is set.
      have hpublic : through = none := by
        have hbooked := (Mint.channel?_eq hthrough).symm.trans hsale
        cases through with
        | none => rfl
        | some collaborator => cases collaborator <;> cases hbooked
      subst hpublic
      obtain ⟨rfl, rfl⟩ := Step.pure_eq_ok_iff.mp hprice
      obtain ⟨rfl, -⟩ := checkPayment_eq_ok_iff.mp hpayment
      obtain ⟨a, shuffled, b, token, m, count, payouts, ha, hensured, hnext, -, hcount, hsettle, -⟩ :=
        Mint.draw_eq_ok hdraw
      rw [isShuffled_eq ha] at hshuffled
      rw [Allocator.ensureShuffled_apply, if_pos hshuffled] at hensured
      obtain ⟨-, rfl⟩ := Prod.mk.inj hensured
      obtain ⟨-, rfl, -⟩ := Store.checkMint_eq_ok_iff.mp hcount
      refine ⟨recipient, by simp [Transaction.recipient?, hrecipient, Except.toOption], ?_⟩
      have hdrawn : (s.withTrackers (s.trackers.countSale recipient)).drawn =
          (s.withMintCount .publicSale recipient (s.mintCount .publicSale recipient + 1)).withAllocator
            b := by
        have hsame : (s.withTrackers (s.trackers.countSale recipient)).allocator? = some a := ha
        rw [drawn, hsame]
        simp only [hnext]
        rfl
      obtain ⟨-, -, parts, hparts, hsettled⟩ := Escrow.settleRevenue_eq_ok hsettle
      rw [withSale, hdrawn, withPrice, hparts]
      cases hescrow : c.escrowFunds with
      | true =>
        rw [hescrow, if_pos rfl] at hsettled
        exact hsettled.2
      | false =>
        rw [hescrow, if_neg (by simp)] at hsettled
        exact hsettled.2
    | updateConfig _ | initModule _ _ | mintBundle | claimAirdrop _ _ | cleanAssigned | shuffle
    | forward _ _ | disburse _ | stageBundle _ _ _ _ | mintCustomBundle => cases hsale

end Store

/-- A run of public mints from a shuffled order ends in the store that its recipients lead to, one
sale after the other. -/
theorem Run.eq_foldl_withSale (hstart : start.Sound) (hshuffled : start.isShuffled = true)
    (hc : start.config = some c) (h : Run start events s)
    (hsales : ∀ e ∈ events, e.transaction.IsSale c) :
    s = ((events.map Event.transaction).filterMap (Transaction.recipient? c)).foldl
      (Store.withSale c) start ∧ s.config = some c := by
  induction h with
  | start => exact ⟨rfl, hc⟩
  | @next events m t transaction r hrun hperform ih =>
    obtain ⟨hm, hconfig⟩ := ih fun e he => hsales e (List.mem_append_left _ he)
    have hsale : transaction.IsSale c :=
      hsales ⟨transaction, r⟩ (List.mem_append_right _ (List.mem_singleton.mpr rfl))
    obtain ⟨recipient, hrecipient, hlast⟩ :=
      Store.exists_withSale (hrun.isShuffled hstart hshuffled) hconfig hsale hperform
    constructor
    · rw [List.map_append, List.filterMap_append, List.foldl_append, ← hm, List.map_singleton,
        List.filterMap_cons_some hrecipient]
      exact hlast
    · rw [hlast, Store.config_withSale, hconfig]

/-- The store after public mints does not depend on their order. -/
theorem foldl_withSale_perm {recipients recipients' : List Address}
    (h : recipients.Perm recipients') (c : Config) (s : Store) :
    recipients.foldl (Store.withSale c) s = recipients'.foldl (Store.withSale c) s :=
  h.foldl_eq' (fun first _ second _ s => Store.withSale_comm c s first second) s

/-- From a shuffled order any two random mints that could come next, whoever calls them and however
they are booked, draw the same token and leave the same slots and the same supplies. Public mints
taken in one order and in another, where all of them succeed in both, leave the same store. -/
theorem draws_not_steered (hs : Reachable s) (hshuffled : s.isShuffled = true) :
    (∀ (call call' : Call) (promised promised' : Bool) (named named' : Option String)
        (r r' : Response) (t t' : Store),
      (Transaction.command call (.mint promised named)).perform s = (.ok r, t) →
      (Transaction.command call' (.mint promised' named')).perform s = (.ok r', t') →
        (∃ token, r.Draws s token ∧ r'.Draws s token) ∧ t'.arena = t.arena ∧
          t'.supplies = t.supplies) ∧
      ∀ (c : Config) (events events' : List Event) (t t' : Store), s.config = some c →
        (∀ e ∈ events, e.transaction.IsSale c) → Run s events t → Run s events' t' →
          (events.map Event.transaction).Perm (events'.map Event.transaction) → t' = t := by
  have hsound := hs.sound
  constructor
  · intro call call' promised promised' named named' r r' t t' hmint hmint'
    obtain ⟨a, b, token, ha, hnext, hb, hdraws⟩ := hsound.mint_of_shuffled hshuffled hmint
    obtain ⟨a', b', token', ha', hnext', hb', hdraws'⟩ := hsound.mint_of_shuffled hshuffled hmint'
    obtain rfl := Option.some.inj (ha.symm.trans ha')
    obtain ⟨htoken, rfl⟩ := Prod.mk.inj (hnext.symm.trans hnext')
    obtain rfl := Except.ok.inj htoken
    obtain ⟨harena, hsupplies⟩ := Store.allocator?_eq_some_iff.mp hb
    obtain ⟨harena', hsupplies'⟩ := Store.allocator?_eq_some_iff.mp hb'
    exact ⟨⟨token, hdraws, hdraws'⟩, harena'.trans harena.symm, hsupplies'.trans hsupplies.symm⟩
  · intro c events events' t t' hc hsales hrun hrun' hperm
    have hsales' : ∀ e ∈ events', e.transaction.IsSale c := by
      intro e he
      have hmem := hperm.mem_iff.mpr (List.mem_map_of_mem he)
      obtain ⟨e', he', htransaction⟩ := List.mem_map.mp hmem
      exact htransaction ▸ hsales e' he'
    obtain ⟨ht, -⟩ := hrun.eq_foldl_withSale hsound hshuffled hc hsales
    obtain ⟨ht', -⟩ := hrun'.eq_foldl_withSale hsound hshuffled hc hsales'
    rw [ht, ht', foldl_withSale_perm (hperm.filterMap _) c s]

namespace FirstSale

/-- Another buyer mints a token for its price. -/
def purchaseOf (buyer : Address) : Transaction :=
  .command (FirstSale.call buyer [⟨"ustars", 100⟩]) (.mint false none)

/-- What comes after the first sale when two buyers follow it in an order. -/
def followed (first second : Address) : List Event × Store :=
  sold.play [purchaseOf first, purchaseOf second]

end FirstSale

/-- After a first sale the token that comes next is the same for two buyers, and when both buy, it
does not matter to the store who is first. -/
theorem draws_not_steered_first_sale :
    Reachable FirstSale.sold ∧ FirstSale.sold.isShuffled = true ∧
      (∃ token r r' t t', (FirstSale.purchaseOf "ann").perform FirstSale.sold = (.ok r, t) ∧
        (FirstSale.purchaseOf "bob").perform FirstSale.sold = (.ok r', t') ∧
        r.Draws FirstSale.sold token ∧ r'.Draws FirstSale.sold token ∧ t'.arena = t.arena) ∧
      (FirstSale.followed "ann" "bob").1.length = 2 ∧
      (FirstSale.followed "bob" "ann").2 = (FirstSale.followed "ann" "bob").2 := by
  have hs : Reachable FirstSale.sold :=
    ⟨_, _, FirstSale.founded_founded, FirstSale.run_events.1⟩
  have hshuffled : FirstSale.sold.isShuffled = true := by decide +kernel
  obtain ⟨hdraws, hsales⟩ := draws_not_steered hs hshuffled
  obtain ⟨r, t, hann⟩ := Transaction.exists_of_isOk
    (by decide +kernel : ((FirstSale.purchaseOf "ann").perform FirstSale.sold).1.isOk = true)
  obtain ⟨r', t', hbob⟩ := Transaction.exists_of_isOk
    (by decide +kernel : ((FirstSale.purchaseOf "bob").perform FirstSale.sold).1.isOk = true)
  obtain ⟨⟨token, htoken, htoken'⟩, harena, -⟩ := hdraws _ _ _ _ _ _ _ _ _ _ hann hbob
  have hlength : (FirstSale.followed "ann" "bob").1.length = 2 := by decide +kernel
  have hlength' : (FirstSale.followed "bob" "ann").1.length = 2 := by decide +kernel
  refine ⟨hs, hshuffled, ⟨token, r, r', t, t', hann, hbob, htoken, htoken', harena⟩, hlength, ?_⟩
  obtain ⟨c, hc, -⟩ := hs.sound.config
  have hbooked : FirstSale.sold.config.map (fun c => (Command.mint false none).channel? c 20) =
      some (some .publicSale) := by decide +kernel
  rw [hc, Option.map_some, Option.some.injEq] at hbooked
  have hevents := FirstSale.sold.map_transaction_play hlength
  have hevents' := FirstSale.sold.map_transaction_play hlength'
  refine hsales c _ _ _ _ hc (fun e he => ?_) (FirstSale.sold.run_play _) (FirstSale.sold.run_play _)
    (by rw [hevents, hevents']; exact List.Perm.swap ..)
  have hmem := List.mem_map_of_mem (f := Event.transaction) he
  rw [hevents] at hmem
  simp only [List.mem_cons, List.not_mem_nil, or_false] at hmem
  rcases hmem with hfirst | hsecond
  · rw [hfirst]
    exact hbooked
  · rw [hsecond]
    exact hbooked

end ShuffleMint
