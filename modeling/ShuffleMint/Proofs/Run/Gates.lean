import ShuffleMint.Proofs.Run.BundleCoherence
import ShuffleMint.Proofs.Run.MintCounts
import ShuffleMint.Proofs.Run.Settings

/-!
# Nothing is minted outside its gate

Each minting command has gates of its own: the clock and the flags of the configuration for a public
mint and for the bundles, what a collaborator answers about the recipient for the others. A command
that succeeds has passed one of its gates, before the end of the sale, has paid the price of that
gate to the last coin, mints what it yields, which is never nothing, and is booked on the channel of
that gate and on no other.
-/

namespace ShuffleMint

/-- What lets a command mint for a recipient, with the channel it is booked on and the price it has.
-/
inductive Call.Gate (call : Call) (c : Config) (recipient : Address) :
    Command → Channel → Nat → Prop where
  /-- Before the start the whitelist admits whom it lists, up to its cap and at its price. -/
  | whitelisted {named : Option String} {contract : Address} {status : WhitelistStatus}
      (hbefore : call.env.time < c.startTime) (hattached : c.whitelist = some contract)
      (hanswer : call.answers.whitelistStatus [] contract recipient = .ok status)
      (hopen : status.closed = false ∧ status.inProgress = true) (hlisted : status.listed = true)
      (hcap : status.minted + 1 ≤ status.cap) :
      Gate call c recipient (.mint false named) .whitelist status.price
  /-- From the start on anybody mints, at the price of the mint. -/
  | started {named : Option String} (hstarted : c.startTime ≤ call.env.time) :
      Gate call c recipient (.mint false named) .publicSale c.mintPrice
  /-- The airdropper admits whom it has promised mints that are not taken yet, for free. -/
  | promised {named : Option String} {contract : Address} {promises : PromisedMints}
      (hattached : c.airdropper = some contract)
      (hanswer : call.answers.promisedMints [] contract recipient = .ok promises)
      (hopen : promises.closed = false ∧ promises.inProgress = true)
      (hpromised : 0 < promises.promised) (hcap : promises.claimed + 1 ≤ promises.promised) :
      Gate call c recipient (.mint true named) .airdrop 0
  /-- The airdropper hands out the tokens that it has promised while its claims are open, for free
  and without a coin. -/
  | claimed {limit : Option Nat} {named : Option String} {contract : Address}
      {promises : PromisedTokens} (hattached : c.airdropper = some contract)
      (hanswer : call.answers.promisedTokens [] contract recipient = .ok promises)
      (hopen : promises.closed = false ∧ promises.inProgress = true) (hfunds : call.funds = []) :
      Gate call c recipient (.claimAirdrop limit named) .airdrop 0
  /-- From the start on bundles are minted while they are enabled and not completed. -/
  | bundle (hstarted : c.startTime ≤ call.env.time) (henabled : c.bundleEnabled = true)
      (hcompleted : c.bundleCompleted = false) :
      Gate call c recipient .mintBundle .bundle c.bundlePrice
  /-- So are custom bundles. -/
  | customBundle (hstarted : c.startTime ≤ call.env.time) (henabled : c.customEnabled = true)
      (hcompleted : c.customCompleted = false) :
      Gate call c recipient .mintCustomBundle .customBundle c.customPrice

/-- A command mints for a recipient before the end of the sale, through a gate whose channel is the
one it is booked on and whose price is paid exactly. -/
structure Call.Admits (call : Call) (c : Config) (command : Command) (channel : Channel)
    (recipient : Address) (price : Nat) : Prop where
  ahead : ∀ stop, c.endTime = some stop → call.env.time < stop
  named : resolveRecipient c call.sender command.named? = .ok recipient
  booked : command.channel? c call.env.time = some channel
  gate : call.Gate c recipient command channel price
  paid : c.PaidBy price call.funds

variable {s t : Store} {r : Response} {c : Config}

/-! ## The gates of the commands -/

/-- A collaborator allows mints while it is open to an address that it lists and has a cap for. -/
theorem Eligibility.verify_eq_ok_iff {e : Eligibility} {channel : Channel} {units : Nat}
    {u : Unit} :
    e.verify channel units = .ok u ↔
      e.isOpen = true ∧ e.listed = true ∧ e.minted + units < countBound ∧
        e.minted + units ≤ e.cap := by
  unfold verify
  cases e.isOpen with
  | false => simp
  | true =>
    cases e.listed with
    | false => simp
    | true =>
      simp only [Bool.not_true, Bool.false_eq_true, if_false, Outcome.bind_eq_ok_iff,
        addCounts_eq_ok_iff, true_and]
      constructor
      · rintro ⟨count, ⟨hbound, rfl⟩, hcap⟩
        split at hcap
        · cases hcap
        · next hwithin => exact ⟨hbound, Nat.not_lt.mp hwithin⟩
      · rintro ⟨hbound, hwithin⟩
        exact ⟨_, ⟨hbound, rfl⟩, if_neg (Nat.not_lt.mpr hwithin)⟩

/-- A promised mint goes through the airdropper. Any other goes through the whitelist, which takes
an attached one and a start that is ahead, or through no collaborator. -/
theorem Mint.gatekeeper_eq_ok {now : Nat} {promised : Bool} {through : Option Collaborator}
    (h : gatekeeper c now promised = .ok through) :
    (promised = true ∧ ∃ contract,
        c.airdropper = some contract ∧ through = some (.airdropper contract)) ∨
      (promised = false ∧ now < c.startTime ∧ ∃ contract,
        c.whitelist = some contract ∧ through = some (.whitelist contract)) ∨
      (promised = false ∧ through = none) := by
  unfold gatekeeper at h
  cases promised with
  | true =>
    cases hairdropper : c.airdropper with
    | none => simp [hairdropper] at h
    | some contract => exact .inl ⟨rfl, contract, rfl, by simpa [hairdropper, eq_comm] using h⟩
  | false =>
    right
    rw [if_neg Bool.false_ne_true] at h
    split at h
    · next hbefore =>
      obtain rfl := Except.ok.inj h
      cases hwhitelist : c.whitelist with
      | none => exact .inr ⟨rfl, rfl⟩
      | some contract => exact .inl ⟨rfl, hbefore, contract, rfl, rfl⟩
    · exact .inr ⟨rfl, (Except.ok.inj h).symm⟩

namespace Call

variable {call : Call} {recipient : Address}

/-- A random mint that finds its price has passed the gate of its channel. -/
theorem gate_of_priceOf {promised : Bool} (named : Option String) {through : Option Collaborator}
    {price : Nat} {w : CallState}
    (hthrough : Mint.gatekeeper c call.env.time promised = .ok through)
    (hstarted : (Mint.channelOf through).waitsForStart = true → c.startTime ≤ call.env.time)
    (hprice : Mint.priceOf call.answers c recipient through ⟨s, []⟩ = (.ok price, w)) :
    call.Gate c recipient (.mint promised named) (Mint.channelOf through) price := by
  rcases Mint.gatekeeper_eq_ok hthrough with
    ⟨rfl, contract, hattached, rfl⟩ | ⟨rfl, hbefore, contract, hattached, rfl⟩ | ⟨rfl, rfl⟩
  · simp only [Mint.priceOf, Collaborator.eligibility, Step.bind_eq_ok_iff, Step.lift_eq_ok_iff,
      Eligibility.verify_eq_ok_iff, Step.pure_eq_ok_iff] at hprice
    obtain ⟨_, _, ⟨promises, _, hasked, rfl, rfl⟩, _, _, ⟨⟨hopen, hpromised, -, hcap⟩, -⟩, rfl,
      -⟩ := hprice
    simp only [PromisedMints.eligibility, Bool.and_eq_true, Bool.not_eq_true',
      decide_eq_true_eq] at hopen hpromised hcap
    exact .promised hattached (CallState.ask_eq_ok hasked) hopen hpromised hcap
  · simp only [Mint.priceOf, Collaborator.eligibility, Step.bind_eq_ok_iff, Step.lift_eq_ok_iff,
      Eligibility.verify_eq_ok_iff, Step.pure_eq_ok_iff] at hprice
    obtain ⟨_, _, ⟨status, _, hasked, rfl, rfl⟩, _, _, ⟨⟨hopen, hlisted, -, hcap⟩, -⟩, rfl, -⟩ :=
      hprice
    simp only [WhitelistStatus.eligibility, Bool.and_eq_true, Bool.not_eq_true'] at hopen hlisted
    exact .whitelisted hbefore hattached (CallState.ask_eq_ok hasked) hopen hlisted hcap
  · obtain ⟨rfl, -⟩ := Step.pure_eq_ok_iff.mp hprice
    exact .started (hstarted rfl)

/-- What a minting command has passed when it succeeds in a store with a configuration. -/
def Admitted (call : Call) (s : Store) (command : Command) : Prop :=
  ∃ c channel recipient price, s.config = some c ∧ call.Admits c command channel recipient price

/-- A random mint has passed a gate. -/
theorem admitted_mint {promised : Bool} {named : Option String} {v : CallState}
    (h : call.mint promised named ⟨s, []⟩ = (.ok r, v)) :
    call.Admitted s (.mint promised named) := by
  obtain ⟨c, recipient, through, count, price, payment, w, hc, hrecipient, hthrough, hcount, hprice,
    hpayment, -⟩ := mint_eq_ok h
  obtain ⟨hahead, -, hstarted⟩ := Store.window_of_checkMint hcount
  obtain ⟨-, hpaid⟩ := checkPayment_eq_ok_iff.mp hpayment
  exact ⟨c, _, recipient, price, hc, hahead, hrecipient, Mint.channel?_eq hthrough,
    gate_of_priceOf named hthrough hstarted hprice, hpaid⟩

/-- A bundle has passed its gate. -/
theorem admitted_mintBundle (h : call.mintBundle s = (.ok r, t)) :
    call.Admitted s .mintBundle := by
  obtain ⟨c, count, payment, _, _, _, _, _, _, _, _, _, hc, hcount, hpayment, -⟩ :=
    mintBundle_eq_ok h
  obtain ⟨hahead, hflags, hstarted⟩ := Store.window_of_checkMint hcount
  obtain ⟨henabled, hcompleted⟩ := Channel.bundleState?_bundle_eq_none_iff.mp hflags
  obtain ⟨-, hpaid⟩ := checkPayment_eq_ok_iff.mp hpayment
  exact ⟨c, _, _, _, hc, hahead, rfl, rfl, .bundle (hstarted rfl) henabled hcompleted, hpaid⟩

/-- A custom bundle has passed its gate. -/
theorem admitted_mintCustomBundle (h : call.mintCustomBundle s = (.ok r, t)) :
    call.Admitted s .mintCustomBundle := by
  obtain ⟨c, count, payment, _, hc, hcount, hpayment, -⟩ := mintCustomBundle_eq_ok h
  obtain ⟨hahead, hflags, hstarted⟩ := Store.window_of_checkMint hcount
  obtain ⟨henabled, hcompleted⟩ := Channel.bundleState?_customBundle_eq_none_iff.mp hflags
  obtain ⟨-, hpaid⟩ := checkPayment_eq_ok_iff.mp hpayment
  exact ⟨c, _, _, _, hc, hahead, rfl, rfl, .customBundle (hstarted rfl) henabled hcompleted, hpaid⟩

/-- A claim has passed its gate. -/
theorem admitted_claimAirdrop {limit : Option Nat} {named : Option String} {v : CallState}
    (h : call.claimAirdrop limit named ⟨s, []⟩ = (.ok r, v)) :
    call.Admitted s (.claimAirdrop limit named) := by
  obtain ⟨c, recipient, contract, promises, w, hfunds, hc, hrecipient, hattached, hpromises,
    hclosed, hprogress, -, hissue⟩ := claimAirdrop_eq_ok h
  obtain ⟨count, _, _, _, _, hcount, -⟩ := Airdrop.issue_eq_ok hissue
  obtain ⟨hahead, -⟩ := Store.window_of_checkMint hcount
  exact ⟨c, _, recipient, 0, hc, hahead, hrecipient, rfl,
    .claimed hattached (CallState.ask_eq_ok hpromises) ⟨hclosed, hprogress⟩ hfunds,
    .inr ⟨hfunds, rfl⟩⟩

end Call

/-- Whatever mints has passed one of its gates. -/
theorem Transaction.admitted {call : Call} {command : Command}
    (hminting : (Transaction.command call command).isMinting = true)
    (h : (Transaction.command call command).perform s = (.ok r, t)) : call.Admitted s command := by
  obtain ⟨asked, hexecute⟩ := CallState.fresh_eq_ok_iff.mp h
  cases command with
  | mint promised named => exact Call.admitted_mint hexecute
  | claimAirdrop limit named => exact Call.admitted_claimAirdrop hexecute
  | mintBundle =>
    obtain ⟨_, hmint, -⟩ := CallState.onStore_eq_ok_iff.mp hexecute
    exact Call.admitted_mintBundle hmint
  | mintCustomBundle =>
    obtain ⟨_, hmint, -⟩ := CallState.onStore_eq_ok_iff.mp hexecute
    exact Call.admitted_mintCustomBundle hmint
  | _ => cases hminting

/-- What has minted on a sound store is described as a mint. -/
theorem Store.Sound.exists_minted (hs : s.Sound) {call : Call} {command : Command}
    (hminting : (Transaction.command call command).isMinting = true)
    (h : (Transaction.command call command).perform s = (.ok r, t)) :
    ∃ c channel recipient tokens, s.Minted call command c channel recipient tokens r t := by
  rcases hs.minted_or h with ⟨_, _, c, channel, recipient, tokens, htaken, hminted, -⟩ | ⟨hidle, -⟩
  · obtain ⟨rfl, rfl⟩ := Transaction.command.inj htaken
    exact ⟨c, channel, recipient, tokens, hminted⟩
  · rw [hminting] at hidle
    cases hidle

/-- What has passed its gate yields a token: a mint has some collection, and the custom bundle that is
enabled is not empty. -/
theorem Reachable.yields_pos (hs : Reachable s) (hc : s.config = some c) {a : Allocator}
    (ha : s.allocator? = some a) {call : Call} {recipient : Address} {command : Command}
    {channel : Channel} {price n : Nat} (hgate : call.Gate c recipient command channel price)
    (hyields : command.Yields c a n) : 0 < n := by
  cases hgate with
  | whitelisted | started | promised =>
    obtain rfl : n = 1 := hyields
    exact Nat.one_pos
  | claimed => exact hyields
  | bundle =>
    obtain rfl : n = a.collectionIds.length := hyields
    exact List.length_pos_iff.mpr (hs.collectionIds_ne_nil ha)
  | customBundle _ henabled =>
    obtain rfl : n = c.customCount := hyields
    obtain ⟨c', _, _, hc', -, -, hcoherent⟩ := hs.bundleCoherent
    obtain rfl := Option.some.inj (hc.symm.trans hc')
    exact (hcoherent.enabled henabled).1

/-- On every reachable store, at any time, by any sender, with any coins and whatever the
collaborators answer, a command that mints has passed one of its gates before the end of the sale
and paid the price of that gate exactly. It mints at least one token and as many as it yields, which
is one for a random mint. All tokens go to the recipient that the gate was passed for, who is counted
for them on the channel of the gate; no other count changes. -/
theorem minted_through_gate (hs : Reachable s) {call : Call} {command : Command}
    (hminting : (Transaction.command call command).isMinting = true)
    (h : (Transaction.command call command).perform s = (.ok r, t)) :
    ∃ c a channel recipient price, s.config = some c ∧ s.allocator? = some a ∧
      call.Admits c command channel recipient price ∧
      0 < r.mints.length ∧ command.Yields c a r.mints.length ∧
      (∀ m ∈ r.mints, m.owner? = some recipient) ∧
      ∀ other address, t.mintCount other address = s.mintCount other address +
        if other = channel ∧ address = recipient then channel.units r.mints.length else 0 := by
  obtain ⟨c, channel, recipient, price, hc, hadmits⟩ := Transaction.admitted hminting h
  obtain ⟨c', channel', recipient', tokens, hminted⟩ := hs.sound.exists_minted hminting h
  obtain rfl := Option.some.inj (hc.symm.trans hminted.config)
  obtain rfl := Option.some.inj (hadmits.booked.symm.trans hminted.booked)
  obtain rfl := Except.ok.inj (hadmits.named.symm.trans hminted.named)
  obtain ⟨a, _, ha, -, -, hyields⟩ := hminted.issued
  rw [← hminted.length_mints] at hyields
  refine ⟨c, a, channel, recipient, price, hc, ha, hadmits,
    hs.yields_pos hc ha hadmits.gate hyields, hyields, Store.owner?_of_mints hminted.mints, ?_⟩
  intro other address
  rw [hminted.mintCount_eq, hminted.length_mints]

/-- The second buyer of a first sale passes a gate and pays as it asks, and is minted one token and
counted for it. -/
theorem minted_through_gate_second_sale :
    ∃ r t, Reachable FirstSale.sold ∧
      (Transaction.command (FirstSale.call "stranger" [⟨"ustars", 100⟩]) (.mint false none)).perform
        FirstSale.sold = (.ok r, t) ∧
      ∃ c channel recipient price, FirstSale.sold.config = some c ∧
        (FirstSale.call "stranger" [⟨"ustars", 100⟩]).Admits c (.mint false none) channel recipient
          price ∧
        r.mints.length = 1 ∧
        t.mintCount channel recipient =
          FirstSale.sold.mintCount channel recipient + channel.units r.mints.length := by
  have hs : Reachable FirstSale.sold :=
    ⟨_, _, FirstSale.founded_founded, FirstSale.run_events.1⟩
  have hok : ((Transaction.command (FirstSale.call "stranger" [⟨"ustars", 100⟩])
      (.mint false none)).perform FirstSale.sold).1.isOk = true := by decide +kernel
  obtain ⟨r, t, hperform⟩ := Transaction.exists_of_isOk hok
  obtain ⟨c, a, channel, recipient, price, hc, -, hadmits, -, hone, -, hcounts⟩ :=
    minted_through_gate hs rfl hperform
  have hcounted := hcounts channel recipient
  rw [if_pos ⟨rfl, rfl⟩] at hcounted
  exact ⟨r, t, hs, hperform, c, channel, recipient, price, hc, hadmits, hone, hcounted⟩

end ShuffleMint
