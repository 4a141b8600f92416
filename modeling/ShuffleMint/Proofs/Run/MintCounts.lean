import ShuffleMint.Proofs.Run.Effect
import ShuffleMint.Proofs.Run.History

/-!
# The counts agree with what was minted

Every address has a count on each channel. On the channels of single tokens it is the number of
tokens minted to the address, and on those of the bundles the number of bundles that the address has
bought. So counts never go down, no count is above the cap of its channel right after it was raised,
and the counts of all addresses account for every issued token.
-/

namespace ShuffleMint

/-- The channel of a command that mints a bundle. -/
def Command.bundle? : Command → Option Channel
  | mintBundle => some .bundle
  | mintCustomBundle => some .customBundle
  | _ => none

namespace Event

/-- The channel that an event is booked on, by the settings of the store in which it was taken. -/
def channel? (s : Store) (e : Event) : Option Channel :=
  match e.transaction, s.config with
  | .command call command, some c => command.channel? c call.env.time
  | _, _ => none

/-- How many tokens an event mints to an address. -/
def mintedTo (address : Address) (e : Event) : Nat :=
  e.response.mints.countP fun m => m.owner? == some address

/-- Whether an event is a call of an address that mints a bundle on a channel. -/
def isBundleOf (channel : Channel) (address : Address) (e : Event) : Bool :=
  match e.transaction with
  | .command call command => command.bundle? == some channel && call.sender == address
  | _ => false

/-- What an event counts for an address on a channel: a bundle is counted once for its caller, other
tokens are counted one by one for their owner. -/
def counts (channel : Channel) (address : Address) (s : Store) (e : Event) : Nat :=
  match channel with
  | .bundle | .customBundle => if e.isBundleOf channel address then 1 else 0
  | _ => if e.channel? s = some channel then e.mintedTo address else 0

/-- How many tokens an event sells in a custom bundle. -/
def soldInBundle (s : Store) (e : Event) : Nat :=
  if e.channel? s = some .customBundle then e.response.mints.length else 0

end Event

/-- What a run counts for an address on a channel. -/
def counted (channel : Channel) (address : Address) (start : Store) (events : List Event) : Nat :=
  ((start.replay events).map fun e => e.2.counts channel address e.1).sum

/-- How many tokens a run sells in custom bundles. -/
def soldInBundles (start : Store) (events : List Event) : Nat :=
  ((start.replay events).map fun e => e.2.soldInBundle e.1).sum

/-- How many tokens the counts of all addresses account for, apart from those of custom bundles. A
bundle has one token of every collection. -/
def Store.countedTokens (s : Store) : Nat :=
  (s.trackers.of .publicSale).sum + (s.trackers.of .whitelist).sum + (s.trackers.of .airdrop).sum +
    s.collections.entries.length * (s.trackers.of .bundle).sum

variable {start s t : Store} {r : Response} {events : List Event}

/-! ## What one event counts -/

/-- A command that is booked on a channel mints a bundle on that channel or none. -/
theorem Command.bundle?_eq_some_iff {c : Config} {now : Nat} {command : Command} {channel : Channel}
    (h : command.channel? c now = some channel) {other : Channel}
    (hbundle : other = .bundle ∨ other = .customBundle) :
    command.bundle? = some other ↔ other = channel := by
  cases command with
  | mint promised named =>
    have hsingle : channel ≠ .bundle ∧ channel ≠ .customBundle := by
      simp only [channel?] at h
      split at h
      · simp [← Option.some.inj h]
      · split at h <;> simp [← Option.some.inj h]
    rcases hbundle with rfl | rfl
    · simp [bundle?, hsingle.1.symm]
    · simp [bundle?, hsingle.2.symm]
  | mintBundle => rw [← Option.some.inj h]; simp [bundle?, eq_comm]
  | mintCustomBundle => rw [← Option.some.inj h]; simp [bundle?, eq_comm]
  | claimAirdrop limit named =>
    rw [← Option.some.inj h]
    rcases hbundle with rfl | rfl <;> simp [bundle?]
  | _ => cases h

/-- A command that is booked on the channel of the bundles yields a token of every collection. -/
theorem Command.Yields.eq_length_collectionIds {c : Config} {a : Allocator} {n now : Nat}
    {command : Command} (h : command.Yields c a n) (hbooked : command.channel? c now = some .bundle) :
    n = a.collectionIds.length := by
  have hbundle : command.bundle? = some .bundle :=
    (Command.bundle?_eq_some_iff hbooked (.inl rfl)).mpr rfl
  cases command with
  | mintBundle => exact h
  | _ => cases hbundle

namespace Store.Minted

variable {call : Call} {command : Command} {c : Config} {channel : Channel} {recipient : Address}
  {tokens : List Token}

/-- What has been minted is booked on its channel. -/
theorem channel?_eq (h : s.Minted call command c channel recipient tokens r t) :
    Event.channel? s ⟨.command call command, r⟩ = some channel := by
  simp only [Event.channel?, h.config, h.booked]

/-- A token is minted by one message. -/
theorem length_mints (h : s.Minted call command c channel recipient tokens r t) :
    r.mints.length = tokens.length := h.mints.length_eq.symm

/-- All tokens are minted to the recipient. -/
theorem mintedTo_eq (h : s.Minted call command c channel recipient tokens r t)
    (address : Address) : Event.mintedTo address ⟨.command call command, r⟩ =
      if address = recipient then tokens.length else 0 := by
  have howner := owner?_of_mints h.mints
  rw [← h.length_mints, Event.mintedTo]
  split
  · next hsame =>
    rw [hsame]
    exact List.countP_eq_length.mpr fun m hm => by rw [howner m hm]; exact beq_self_eq_true _
  · next hother =>
    refine List.countP_eq_zero.mpr fun m hm => ?_
    rw [howner m hm]
    simpa using Ne.symm hother

/-- A bundle is minted to its caller. -/
theorem isBundleOf_iff (h : s.Minted call command c channel recipient tokens r t)
    {other : Channel} (hbundle : other = .bundle ∨ other = .customBundle) (address : Address) :
    Event.isBundleOf other address ⟨.command call command, r⟩ = true ↔
      other = channel ∧ address = recipient := by
  have hsold := Command.bundle?_eq_some_iff h.booked hbundle
  have hcaller : command.bundle? = some other → recipient = call.sender := by
    intro hsome
    have hnamed := h.named
    cases command with
    | mintBundle => exact (Except.ok.inj hnamed).symm
    | mintCustomBundle => exact (Except.ok.inj hnamed).symm
    | _ => cases hsome
  rw [Event.isBundleOf, Bool.and_eq_true, beq_iff_eq, beq_iff_eq, hsold]
  refine and_congr_right fun hsame => ?_
  rw [hcaller (hsold.mpr hsame), eq_comm]

/-- A minting command counts its units for its recipient on its channel. -/
theorem counts_eq (h : s.Minted call command c channel recipient tokens r t) (other : Channel)
    (address : Address) : Event.counts other address s ⟨.command call command, r⟩ =
      if other = channel ∧ address = recipient then channel.units tokens.length else 0 := by
  have hsingle : (if Event.channel? s ⟨.command call command, r⟩ = some other then
      Event.mintedTo address ⟨.command call command, r⟩ else 0) =
        if other = channel ∧ address = recipient then tokens.length else 0 := by
    rw [h.channel?_eq, h.mintedTo_eq]
    by_cases hsame : channel = other
    · simp [hsame]
    · simp [hsame, Ne.symm hsame]
  have hunits {n : Nat} (hn : other.units tokens.length = n) :
      (if other = channel ∧ address = recipient then n else 0) =
        if other = channel ∧ address = recipient then channel.units tokens.length else 0 := by
    split
    · next hboth => rw [← hboth.1, hn]
    · rfl
  cases other with
  | bundle => simpa only [Event.counts, h.isBundleOf_iff (.inl rfl)] using hunits (n := 1) rfl
  | customBundle => simpa only [Event.counts, h.isBundleOf_iff (.inr rfl)] using hunits (n := 1) rfl
  | publicSale | whitelist | airdrop => exact hsingle.trans (hunits rfl)

/-- A minting command raises the count of its recipient on its channel. -/
theorem mintCount_eq (h : s.Minted call command c channel recipient tokens r t)
    (other : Channel) (address : Address) : t.mintCount other address =
      s.mintCount other address +
        if other = channel ∧ address = recipient then channel.units tokens.length else 0 := by
  obtain ⟨count, hcount, htrackers⟩ := h.counted
  obtain ⟨-, rfl, -⟩ := checkMint_eq_ok_iff.mp hcount
  rw [mintCount, htrackers]
  exact s.mintCount_withMintCount channel recipient _ other address

/-- Right after a mint the count of the recipient is within the cap of the channel. -/
theorem mintCount_le_cap (h : s.Minted call command c channel recipient tokens r t) {cap : Nat}
    (hcap : channel.cap? c = some cap) : t.mintCount channel recipient ≤ cap := by
  obtain ⟨count, hcount, -⟩ := h.counted
  obtain ⟨-, rfl, -, hwithin⟩ := checkMint_eq_ok_iff.mp hcount
  rw [h.mintCount_eq, if_pos ⟨rfl, rfl⟩]
  exact hwithin cap hcap

/-- The tokens that are minted are accounted for by the raised count, or sold in a custom bundle. -/
theorem countedTokens_eq (h : s.Minted call command c channel recipient tokens r t)
    (hcollections : ∀ a, s.allocator? = some a →
      a.collectionIds.length = s.collections.entries.length) :
    t.countedTokens + Event.soldInBundle s ⟨.command call command, r⟩ =
      s.countedTokens + tokens.length := by
  obtain ⟨count, hcount, htrackers⟩ := h.counted
  obtain ⟨-, rfl, -⟩ := checkMint_eq_ok_iff.mp hcount
  obtain ⟨a, b, ha, -, -, hyields⟩ := h.issued
  have hsum (other : Channel) : (t.trackers.of other).sum = (s.trackers.of other).sum +
      if other = channel then channel.units tokens.length else 0 := by
    rw [htrackers, sum_withMintCount]
  rw [countedTokens, countedTokens, h.kept.1, hsum, hsum, hsum, hsum, Event.soldInBundle,
    h.channel?_eq, h.length_mints]
  cases channel with
  | bundle =>
    rw [hyields.eq_length_collectionIds h.booked, hcollections a ha]
    simp [Channel.units, Nat.mul_add, Nat.add_assoc]
  | customBundle => simp
  | publicSale | whitelist | airdrop => simp [Channel.units]; omega

end Store.Minted

/-- What an event that does not mint counts: nothing. -/
theorem Event.counts_eq_zero {e : Event} (h : e.transaction.isMinting = false)
    (channel : Channel) (address : Address) (s : Store) :
    e.counts channel address s = 0 ∧ e.soldInBundle s = 0 := by
  have hchannel : e.channel? s = none := by
    unfold Event.channel?
    split
    · next call command c htransaction _ =>
      rw [htransaction] at h
      cases hbooked : command.channel? c call.env.time with
      | none => rfl
      | some channel =>
        rw [Command.isMinting_of_channel? hbooked] at h
        cases h
    · rfl
  have hbundle (other : Channel) : e.isBundleOf other address = false := by
    unfold Event.isBundleOf
    split
    · next call command htransaction =>
      rw [htransaction] at h
      cases command <;> first | rfl | cases h
    · rfl
  constructor
  · cases channel <;> simp [Event.counts, hchannel, hbundle]
  · simp [Event.soldInBundle, hchannel]

/-- A transaction that succeeds mints, and then leaves the caps alone, or it leaves the counts alone.
-/
theorem Store.Sound.minted_or (hs : s.Sound) {transaction : Transaction}
    (h : transaction.perform s = (.ok r, t)) :
    (∃ call command c channel recipient tokens, transaction = .command call command ∧
      s.Minted call command c channel recipient tokens r t ∧
      ∃ c', t.config = some c' ∧ channel.cap? c' = channel.cap? c) ∨
    (transaction.isMinting = false ∧ t.trackers = s.trackers) := by
  cases hs.effect h with
  | @minted _ _ c channel _ _ _ _ completed hminted _ _ _ hconfig =>
    exact .inl ⟨_, _, _, _, _, _, rfl, hminted, _, hconfig, by cases channel <;> rfl⟩
  | sold hminted _ _ _ _ hconfig => exact .inl ⟨_, _, _, _, _, _, rfl, hminted, _, hconfig, rfl⟩
  | configured | planned | forwarded | cleaned | shuffled | migrated => exact .inr ⟨rfl, rfl⟩
  | paidOut =>
    exact .inr ⟨rfl, (s.escrowOnly_withPayout _).view_eq Store.trackers fun _ _ _ => rfl⟩
  | staged _ _ _ _ _ _ _ _ _ _ ht => exact .inr ⟨rfl, by rw [ht]; rfl⟩
  | @attached _ _ child => exact .inr ⟨rfl, by cases child <;> rfl⟩

/-- The collections of the allocator are those that a sound store lists, in the same order. -/
theorem Store.Sound.collectionIds_eq (hs : s.Sound) {a : Allocator}
    (ha : s.allocator? = some a) : a.collectionIds = s.collections.keys := by
  obtain ⟨a', ha', hconsistent, hlists⟩ := hs.allocator
  obtain rfl := Option.some.inj (ha.symm.trans ha')
  refine SortedMap.keys_eq fun id => ?_
  rw [SortedMap.mem_keys_iff, SortedMap.mem_keys_iff]
  constructor
  · rintro ⟨supply, hsupply⟩
    obtain ⟨run, hrun, hid, -⟩ := (hconsistent.supplied id supply).mp hsupply
    obtain ⟨c, hc, -⟩ := (hlists id run.supply).mp ⟨run, hrun, hid, rfl⟩
    exact ⟨c, hc⟩
  · rintro ⟨c, hc⟩
    obtain ⟨run, hrun, hid, hsupply⟩ := (hlists id c.supply).mpr ⟨c, hc, rfl⟩
    exact ⟨_, (hconsistent.supplied id _).mpr ⟨run, hrun, hid, rfl⟩⟩

/-- What a successful transaction does to the counts is what its event counts. -/
theorem Store.Sound.mintCount_eq (hs : s.Sound) {transaction : Transaction}
    (h : transaction.perform s = (.ok r, t)) (channel : Channel) (address : Address) :
    t.mintCount channel address =
      s.mintCount channel address + Event.counts channel address s ⟨transaction, r⟩ := by
  rcases hs.minted_or h with ⟨call, command, c, _, recipient, tokens, rfl, hminted, -⟩ | ⟨hidle, hsame⟩
  · rw [hminted.mintCount_eq, hminted.counts_eq]
  · rw [(Event.counts_eq_zero hidle channel address s).1, mintCount, mintCount, hsame, Nat.add_zero]

/-- What a successful transaction issues is what its counts account for and what it sells in custom
bundles. -/
theorem Store.Sound.countedTokens_eq (hs : s.Sound) {transaction : Transaction}
    (h : transaction.perform s = (.ok r, t)) :
    ∃ a b, s.allocator? = some a ∧ t.allocator? = some b ∧
      t.countedTokens + Event.soldInBundle s ⟨transaction, r⟩ + a.arena.issuedSlots.length =
        s.countedTokens + b.arena.issuedSlots.length := by
  rcases hs.minted_or h with ⟨call, command, c, _, recipient, tokens, rfl, hminted, -⟩ | ⟨hidle, hsame⟩
  · obtain ⟨a, b, ha, hb, hissues, -⟩ := hminted.issued
    obtain ⟨slots, hslots, htokens⟩ := hissues.moves.exists_issuedSlots_eq (hs.consistent ha)
    have hlength : slots.length = tokens.length := by
      simpa using congrArg List.length htokens
    have hcounted := hminted.countedTokens_eq fun a ha => by
      rw [hs.collectionIds_eq ha, SortedMap.keys, List.length_map]
    refine ⟨a, b, ha, hb, ?_⟩
    rw [hslots, List.length_append, hlength]
    omega
  · obtain ⟨more, owner, hadvance, -, hnone⟩ := hs.advances_perform h
    obtain ⟨a, b, ha, hb, hmoves⟩ := hadvance.moved
    obtain ⟨slots, hslots, htokens⟩ := hmoves.exists_issuedSlots_eq (hs.consistent ha)
    have hlength : slots.length = more.length := by
      simpa using congrArg List.length htokens
    have hsold := (Event.counts_eq_zero (e := ⟨transaction, r⟩) hidle .bundle "" s).2
    refine ⟨a, b, ha, hb, ?_⟩
    rw [hslots, List.length_append, hlength, hnone hidle, hsold, countedTokens, countedTokens, hsame,
      hadvance.collections]
    rfl

/-! ## What a run counts -/

/-- A run raises every count by what it counts. -/
theorem Run.mintCount_eq (hstart : start.Sound) (h : Run start events s) (channel : Channel)
    (address : Address) : s.mintCount channel address =
      start.mintCount channel address + counted channel address start events := by
  induction h with
  | start => rfl
  | @next events m t transaction r hrun hperform ih =>
    have hstep := (hrun.sound hstart).mintCount_eq hperform channel address
    have hcounted : counted channel address start (events ++ [⟨transaction, r⟩]) =
        counted channel address start events + Event.counts channel address m ⟨transaction, r⟩ :=
      hrun.sum_replay_next _ _
    omega

/-- A run issues what its counts account for and what it sells in custom bundles. -/
theorem Run.countedTokens_eq (hstart : start.Sound) (h : Run start events s) :
    ∃ a b, start.allocator? = some a ∧ s.allocator? = some b ∧
      s.countedTokens + soldInBundles start events + a.arena.issuedSlots.length =
        start.countedTokens + b.arena.issuedSlots.length := by
  induction h with
  | start =>
    obtain ⟨a, ha, -⟩ := hstart.allocator
    exact ⟨a, a, ha, ha, rfl⟩
  | @next events m t transaction r hrun hperform ih =>
    obtain ⟨a, b, ha, hb, hbefore⟩ := ih
    obtain ⟨b', b'', hb', hb'', hstep⟩ := (hrun.sound hstart).countedTokens_eq hperform
    obtain rfl := Option.some.inj (hb.symm.trans hb')
    have hsold : soldInBundles start (events ++ [⟨transaction, r⟩]) =
        soldInBundles start events + Event.soldInBundle m ⟨transaction, r⟩ :=
      hrun.sum_replay_next _ _
    exact ⟨a, b'', ha, hb'', by omega⟩

/-- A setup on an empty store counts nothing. -/
theorem Founded.trackers_eq (h : Founded s) : s.trackers = Trackers.empty := by
  obtain ⟨setup, env, sender, response, hrun⟩ := h
  obtain ⟨collections, c, a, -, -, -, -, -, rfl, -⟩ := Setup.run_eq_ok hrun
  rfl

/-- Nothing is counted for an address, and the counts account for no token, when there are none. -/
theorem Store.mintCount_eq_zero (h : s.trackers = Trackers.empty) :
    (∀ channel address, s.mintCount channel address = 0) ∧ s.countedTokens = 0 := by
  constructor
  · intro channel address
    rw [mintCount, h]
    cases channel <;> rfl
  · rw [countedTokens, h]
    rfl

/-- Right after an event that counts something for an address, its count is within the cap that the
settings then have for the channel. -/
theorem Run.mintCount_le_cap (hstart : start.Sound) (h : Run start events s) {taken : Store}
    {e : Event} (he : (taken, e) ∈ start.replay events) {channel : Channel} {address : Address}
    (hcounts : 0 < e.counts channel address taken) :
    ∃ c, (e.transaction.commit taken).config = some c ∧ ∀ cap, channel.cap? c = some cap →
      (e.transaction.commit taken).mintCount channel address ≤ cap := by
  obtain ⟨earlier, hearlier, hperform⟩ := h.exists_of_mem_replay he
  obtain ⟨transaction, r⟩ := e
  rcases (hearlier.sound hstart).minted_or hperform with
    ⟨call, command, c, channel', recipient, tokens, rfl, hminted, c', hc', hcaps⟩ | ⟨hidle, -⟩
  · rw [hminted.counts_eq] at hcounts
    split at hcounts
    · next hboth =>
      obtain ⟨rfl, rfl⟩ := hboth
      refine ⟨c', hc', fun cap hcap => hminted.mintCount_le_cap ?_⟩
      rw [← hcaps, hcap]
    · cases hcounts
  · rw [(Event.counts_eq_zero hidle channel address taken).1] at hcounts
    cases hcounts

/-- Over every run of a mint, the count of an address on a channel is what the events of the run
count for it: the tokens minted to it on the channel, or the bundles that it has bought. Counts never
go down, and right after an event that counts something for an address, its count is within the cap
that the settings then have for the channel. The counts of all addresses, a bundle taken as one token
of every collection, are together with the tokens sold in custom bundles all issued tokens. -/
theorem counts_agree (hstart : Founded start) (hrun : Run start events s) :
    (∀ channel address, s.mintCount channel address = counted channel address start events) ∧
    (∀ earlier later middle, events = earlier ++ later → Run start earlier middle →
      ∀ channel address, middle.mintCount channel address ≤ s.mintCount channel address) ∧
    (∀ taken e channel address, (taken, e) ∈ start.replay events →
      0 < e.counts channel address taken →
        ∃ c, (e.transaction.commit taken).config = some c ∧ ∀ cap, channel.cap? c = some cap →
          (e.transaction.commit taken).mintCount channel address ≤ cap) ∧
    ∃ a, s.allocator? = some a ∧
      s.countedTokens + soldInBundles start events = a.arena.issuedSlots.length := by
  obtain ⟨hsound, origin, horigin, hnothing⟩ := hstart.sound
  obtain ⟨hzero, hnone⟩ := Store.mintCount_eq_zero hstart.trackers_eq
  refine ⟨fun channel address => ?_, fun earlier later middle hevents hearlier channel address => ?_,
    fun taken e channel address he hcounts => hrun.mintCount_le_cap hsound he hcounts, ?_⟩
  · rw [hrun.mintCount_eq hsound, hzero, Nat.zero_add]
  · rw [hevents] at hrun
    obtain ⟨middle', hfirst, hlater⟩ := hrun.split
    obtain rfl := hearlier.eq_of_events hfirst
    rw [hlater.mintCount_eq (hearlier.sound hsound)]
    exact Nat.le_add_right ..
  · obtain ⟨origin', a, horigin', ha, htotal⟩ := hrun.countedTokens_eq hsound
    obtain rfl := Option.some.inj (horigin.symm.trans horigin')
    rw [hnothing, hnone, List.length_nil, Nat.add_zero, Nat.zero_add] at htotal
    exact ⟨a, ha, htotal⟩

/-- In a first sale the buyer is counted once on the public channel, within the cap, for the one
token that is issued. -/
theorem counts_agree_first_sale :
    Founded FirstSale.founded ∧ Run FirstSale.founded FirstSale.events FirstSale.sold ∧
      FirstSale.sold.mintCount .publicSale "buyer" = 1 ∧
      counted .publicSale "buyer" FirstSale.founded FirstSale.events = 1 ∧
      ∃ a, FirstSale.sold.allocator? = some a ∧ a.arena.issuedSlots.length = 1 := by
  obtain ⟨hcounts, -, -, a, ha, hissued⟩ :=
    counts_agree FirstSale.founded_founded FirstSale.run_events.1
  have hbuyer : FirstSale.sold.mintCount .publicSale "buyer" = 1 := by decide +kernel
  have haccounted : FirstSale.sold.countedTokens +
      soldInBundles FirstSale.founded FirstSale.events = 1 := by decide +kernel
  refine ⟨FirstSale.founded_founded, FirstSale.run_events.1, hbuyer, ?_, a, ha, ?_⟩
  · rw [← hcounts, hbuyer]
  · rw [← hissued, haccounted]

end ShuffleMint
