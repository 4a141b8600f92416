import ShuffleMint.Proofs.Collaborator.Paging
import ShuffleMint.Proofs.Command.SplitClaim
import ShuffleMint.Proofs.Run.Overflow
import ShuffleMint.Proofs.Run.Reports

/-!
# Claiming in pieces

An address may claim the tokens that it is promised all at once or in pieces. The mint does not keep
what is left to claim: it asks the airdropper, which knows from the reports of earlier claims. So a
claim of the first tokens and then of the rest comes to the same as one claim of all, as long as the
airdropper believes the reports and the mint reports every token that it issues.

A claim without a limit takes as many tokens as a count can tell. On a reachable store that is no
limit, since a mint has far fewer tokens and none of them is issued twice.
-/

namespace ShuffleMint

variable {s t : Store} {r : Response} {c : Config}

/-- The tokens of which a response reports to a contract that an address has received them. -/
def Response.marked (r : Response) (contract recipient : Address) : List Token :=
  r.reports.filterMap fun report =>
    if report.contract = contract ∧ report.minter = recipient then report.token else none

/-! ## Issuing in two parts -/

section Issuing

variable {env later : Env} {sender recipient contract : Address} {tokens : List Token}

/-- Issuing promised tokens in two parts comes to the same as issuing them at once: one succeeds
where the other does, they end in the same store and form the same messages. -/
theorem Store.Sound.issue_split_iff (hs : s.Sound) (hlater : later.time = env.time) (k : Nat)
    {made : List Message} :
    (∃ r, Airdrop.issue c env sender recipient contract tokens s = (.ok r, t) ∧
        r.messages = made) ↔
      ∃ r₁ u r₂, Airdrop.issue c env sender recipient contract (tokens.take k) s = (.ok r₁, u) ∧
        Airdrop.issue c later sender recipient contract (tokens.drop k) u = (.ok r₂, t) ∧
        r₁.messages ++ r₂.messages = made := by
  constructor
  · rintro ⟨r, hissue, rfl⟩
    rw [← List.take_append_drop k tokens] at hissue
    obtain ⟨a, d, made, hgrants, rfl, rfl⟩ := Airdrop.issue_eq_ok_iff.mp hissue
    have ha := hs.consistent hgrants.held
    obtain ⟨b, first, second, hfirst, hsecond, rfl⟩ := hgrants.split ha hlater
    rw [← hfirst.stored_stored hsecond ha]
    exact ⟨_, _, _, Airdrop.issue_eq_ok_iff.mpr ⟨a, b, first, hfirst, rfl, rfl⟩,
      Airdrop.issue_eq_ok_iff.mpr ⟨b, d, second, hsecond, rfl, rfl⟩, by simp⟩
  · rintro ⟨r₁, u, r₂, hissue₁, hissue₂, rfl⟩
    obtain ⟨a, b, first, hfirst, rfl, rfl⟩ := Airdrop.issue_eq_ok_iff.mp hissue₁
    obtain ⟨e, d, second, hsecond, rfl, rfl⟩ := Airdrop.issue_eq_ok_iff.mp hissue₂
    have ha := hs.consistent hfirst.held
    have hgrants := hfirst.append hsecond ha
    rw [hfirst.stored_stored hsecond ha]
    rw [List.take_append_drop] at hgrants ⊢
    exact ⟨_, Airdrop.issue_eq_ok_iff.mpr ⟨a, d, _, hgrants, rfl, rfl⟩, by simp⟩

/-- No more tokens are issued at once than a mint may have. -/
theorem Reachable.length_le_of_issue (hs : Reachable s)
    (h : Airdrop.issue c env sender recipient contract tokens s = (.ok r, t)) :
    tokens.length ≤ maxSupply := by
  obtain ⟨a, b, made, hgrants, -⟩ := Airdrop.issue_eq_ok_iff.mp h
  have ha := hs.sound.consistent hgrants.held
  have hmoves := (hgrants.issues ha).moves
  obtain ⟨slots, hslots, htokens⟩ := hmoves.exists_issuedSlots_eq ha
  have hlength : slots.length = tokens.length := by simpa using congrArg List.length htokens
  have hissued := (hmoves.consistent ha).arena.length_issuedSlots_le
  have htotal := hs.total_le hgrants.held
  rw [hslots, List.length_append, hlength, hmoves.layout_total_eq.2] at hissued
  omega

/-- A count can tell all the tokens that are issued at once. -/
theorem Reachable.issue_take_iff (hs : Reachable s) :
    Airdrop.issue c env sender recipient contract (tokens.take (countBound - 1)) s = (.ok r, t) ↔
      Airdrop.issue c env sender recipient contract tokens s = (.ok r, t) := by
  have hbound : maxSupply < countBound - 1 := by decide
  by_cases hshort : tokens.length ≤ countBound - 1
  · rw [List.take_of_length_le hshort]
  · constructor
    · intro h
      have hlength := hs.length_le_of_issue h
      rw [List.length_take] at hlength
      omega
    · intro h
      have hlength := hs.length_le_of_issue h
      omega

/-- The messages of promised tokens mint and then report each of them, in order. -/
theorem Airdrop.messages_of_issue
    (h : issue c env sender recipient contract tokens s = (.ok r, t)) :
    ∃ mints, List.Forall₂ (s.Mints recipient) tokens mints ∧
      r.messages = (tokens.zip mints).flatMap fun entry =>
        [entry.2, Airdropper.markClaimed contract recipient entry.1] := by
  obtain ⟨a, b, made, hgrants, -, rfl⟩ := issue_eq_ok_iff.mp h
  obtain ⟨shuffled, -, hissued⟩ := hgrants.claimed
  rw [Response.messages_ofMessages]
  exact hissued.exists_mints

/-- The airdropper hears of exactly the tokens that are issued. -/
theorem Airdrop.marked_of_issue (h : issue c env sender recipient contract tokens s = (.ok r, t)) :
    r.marked contract recipient = tokens := by
  obtain ⟨a, b, made, hgrants, -, rfl⟩ := issue_eq_ok_iff.mp h
  obtain ⟨shuffled, -, hissued⟩ := hgrants.claimed
  rw [Response.marked, Response.reports_ofMessages, hissued.reports_claimed, List.filterMap_map]
  simp

/-- The settings stay as they are. -/
theorem Airdrop.config_of_issue (h : issue c env sender recipient contract tokens s = (.ok r, t)) :
    t.config = s.config := by
  obtain ⟨_, _, _, -, rfl, -⟩ := issue_eq_ok_iff.mp h
  rfl

/-- Promised tokens become the last issued ones, in order, and are counted for their recipient. All
other tokens stand as before, and all other counts are as before. -/
theorem Store.Sound.issued_of_issue (hs : s.Sound)
    (h : Airdrop.issue c env sender recipient contract tokens s = (.ok r, t)) :
    ∃ a b, s.allocator? = some a ∧ t.allocator? = some b ∧
      b.queue.issued = a.queue.issued ++ tokens ∧
      (∀ token, b.standing token = if token ∈ tokens then some .issued else a.standing token) ∧
      ∀ channel owner, t.mintCount channel owner = s.mintCount channel owner +
        if channel = .airdrop ∧ owner = recipient then tokens.length else 0 := by
  obtain ⟨a, b, made, hgrants, rfl, -⟩ := Airdrop.issue_eq_ok_iff.mp h
  have ha := hs.consistent hgrants.held
  have hissues := hgrants.issues ha
  exact ⟨a, b, hgrants.held, hgrants.allocator?_stored ha, hissues.moves.queue_issued ha,
    hissues.standing, Airdrop.mintCount_stored s recipient _ b⟩

end Issuing

/-! ## What is left to claim -/

/-- An airdropper that is open answers, whatever it was asked before, which tokens an address is
promised, and which of them it has received. -/
def Answers.Promises (answers : Answers) (contract recipient : Address)
    (promised claimed : List Token) : Prop :=
  ∀ asked, ∃ received,
    answers.promisedTokens asked contract recipient = .ok ⟨false, true, promised, received⟩ ∧
      ∀ t, t ∈ received ↔ t ∈ claimed

/-- Of a list without repetition, what is not among its first entries comes after them. -/
theorem filter_notMem_take {xs : List Token} (hnodup : xs.Nodup) (k : Nat) :
    xs.filter (· ∉ xs.take k) = xs.drop k := by
  have hdisjoint : (xs.drop k).Disjoint (xs.take k) := by
    rw [← List.take_append_drop k xs] at hnodup
    exact (List.disjoint_of_nodup_append hnodup).symm
  have hnone : (xs.take k).filter (· ∉ xs.take k) = [] :=
    List.filter_eq_nil_iff.mpr fun t ht => by simp [ht]
  have hall : (xs.drop k).filter (· ∉ xs.take k) = xs.drop k :=
    List.filter_eq_self.mpr fun t ht => decide_eq_true (hdisjoint ht)
  calc
    _ = (xs.take k ++ xs.drop k).filter (· ∉ xs.take k) := by rw [List.take_append_drop]
    _ = xs.drop k := by rw [List.filter_append, hnone, hall, List.nil_append]

/-- Once the first unclaimed tokens are claimed too, the others are left. -/
theorem filter_notMem_append_take {promised : List Token} (hdistinct : promised.Nodup)
    (claimed : List Token) (k : Nat) :
    promised.filter (· ∉ claimed ++ (promised.filter (· ∉ claimed)).take k) =
      (promised.filter (· ∉ claimed)).drop k := by
  rw [← filter_notMem_take (hdistinct.filter _) k, List.filter_filter]
  exact List.filter_congr fun t _ => by simp [Bool.and_comm]

section Claiming

variable {call : Call} {named : Option String} {contract recipient : Address}
  {promised claimed : List Token} (hc : s.config = some c)
  (hattached : c.airdropper = some contract)
  (hrecipient : resolveRecipient c call.sender named = .ok recipient)
  (hpromises : call.answers.Promises contract recipient promised claimed)

include hc hattached hrecipient hpromises

/-- A claim at an airdropper that is open, of which something is left within its limit, goes through
when it brings no coins and the tokens can be issued. -/
theorem Call.perform_claimAirdrop_eq_ok_iff {limit : Option Nat}
    (hsome : (promised.filter (· ∉ claimed)).take (limit.getD (countBound - 1)) ≠ []) :
    (Transaction.command call (.claimAirdrop limit named)).perform s = (.ok r, t) ↔
      call.funds = [] ∧ Airdrop.issue c call.env call.sender recipient contract
        ((promised.filter (· ∉ claimed)).take (limit.getD (countBound - 1))) s = (.ok r, t) := by
  obtain ⟨received, hanswer, hsame⟩ := hpromises []
  have hunclaimed : Airdrop.unclaimed ⟨false, true, promised, received⟩ limit =
      (promised.filter (· ∉ claimed)).take (limit.getD (countBound - 1)) := by
    refine congrArg (List.take _) (List.filter_congr fun t _ => ?_)
    simp [hsame]
  have hask : Airdropper.promisedTokens call.answers contract recipient ⟨s, []⟩ =
      (.ok ⟨false, true, promised, received⟩, ⟨s, [⟨contract, .promisedTokens recipient⟩]⟩) :=
    CallState.ask_of_ok hanswer
  have hperform : (Transaction.command call (.claimAirdrop limit named)).perform s =
      CallState.fresh (call.claimAirdrop limit named) s := rfl
  rw [← hunclaimed] at hsome ⊢
  rw [hperform, CallState.fresh_eq_ok_iff]
  constructor
  · rintro ⟨asked, hexecute⟩
    obtain ⟨c', recipient', contract', p, u, hfunds, hc', hrecipient', hattached', hpromised, -, -,
      -, hissue⟩ := claimAirdrop_eq_ok hexecute
    obtain rfl := Option.some.inj (hc.symm.trans hc')
    obtain rfl := Except.ok.inj (hrecipient.symm.trans hrecipient')
    obtain rfl := Option.some.inj (hattached.symm.trans hattached')
    obtain ⟨hp, rfl⟩ := Prod.mk.inj (hask.symm.trans hpromised)
    obtain rfl := Except.ok.inj hp
    exact ⟨hfunds, hissue⟩
  · rintro ⟨hfunds, hissue⟩
    refine ⟨[⟨contract, .promisedTokens recipient⟩], ?_⟩
    simp only [Call.claimAirdrop, Step.bind_eq_ok_iff, Step.lift_eq_ok_iff,
      requireNoFunds_eq_ok_iff, CallState.onStore_eq_ok_iff, Store.loadConfig_eq_ok_iff, and_assoc,
      exists_and_left, exists_eq_left, exists_const]
    refine ⟨hfunds, c, hc, recipient, hrecipient, ?_⟩
    rw [hattached]
    dsimp only
    rw [Step.bind_of_ok hask, if_neg (by simp), if_neg (by simpa using hsome)]
    exact CallState.onStore_eq_ok_iff.mpr ⟨t, hissue, rfl⟩

/-- Without a limit, everything that is left to claim has to be issued. -/
theorem Reachable.perform_claimAirdrop_eq_ok_iff (hs : Reachable s)
    (hsome : promised.filter (· ∉ claimed) ≠ []) :
    (Transaction.command call (.claimAirdrop none named)).perform s = (.ok r, t) ↔
      call.funds = [] ∧ Airdrop.issue c call.env call.sender recipient contract
        (promised.filter (· ∉ claimed)) s = (.ok r, t) := by
  have hbound : countBound - 1 ≠ 0 := by decide
  have hleft : (promised.filter (· ∉ claimed)).take ((none : Option Nat).getD (countBound - 1)) ≠
      [] := by
    rw [Option.getD_none, ne_eq, List.take_eq_nil_iff]
    exact not_or_intro hbound hsome
  rw [Call.perform_claimAirdrop_eq_ok_iff hc hattached hrecipient hpromises hleft,
    Option.getD_none, hs.issue_take_iff]

end Claiming

/-- A claim of all promised tokens succeeds exactly when a claim of the first ones and then of the
rest does, at the same time and at an airdropper that is open, promises each token once and believes
the reports. Both ways end in the same store and form the same messages, which mint and then report
every unclaimed token, in the order of the promise. The claim of the first ones issues just these,
and adds their number to the count of the recipient. -/
theorem claims_in_pieces (hs : Reachable s) (hc : s.config = some c)
    {contract recipient sender : Address} {named : Option String}
    (hattached : c.airdropper = some contract)
    (hrecipient : resolveRecipient c sender named = .ok recipient)
    {promised : List Token} (hdistinct : promised.Nodup) (claimed : List Token)
    {airdropper : List Token → Answers}
    (hreports : ∀ marked,
      (airdropper marked).Promises contract recipient promised (claimed ++ marked))
    {env later : Env} (hlater : later.time = env.time) (funds : List Coin) {k : Nat} (hk : 1 ≤ k)
    (hshort : k < (promised.filter (· ∉ claimed)).length) :
    let unclaimed := promised.filter (· ∉ claimed)
    let claim := fun env marked limit =>
      (Transaction.command ⟨env, sender, funds, airdropper marked⟩
        (.claimAirdrop limit named)).perform
    ((∃ r t, claim env [] none s = (.ok r, t)) ↔
      ∃ r₁ t₁ r₂ t₂, claim env [] (some k) s = (.ok r₁, t₁) ∧
        claim later (r₁.marked contract recipient) none t₁ = (.ok r₂, t₂)) ∧
    (∀ r t, claim env [] none s = (.ok r, t) →
      (∃ mints, List.Forall₂ (s.Mints recipient) unclaimed mints ∧
        r.messages = (unclaimed.zip mints).flatMap fun entry =>
          [entry.2, Airdropper.markClaimed contract recipient entry.1]) ∧
      ∀ r₁ t₁ r₂ t₂, claim env [] (some k) s = (.ok r₁, t₁) →
        claim later (r₁.marked contract recipient) none t₁ = (.ok r₂, t₂) →
          t₂ = t ∧ r₁.messages ++ r₂.messages = r.messages) ∧
    ∀ r₁ t₁, claim env [] (some k) s = (.ok r₁, t₁) →
      r₁.marked contract recipient = unclaimed.take k ∧
      ∃ a b, s.allocator? = some a ∧ t₁.allocator? = some b ∧
        b.queue.issued = a.queue.issued ++ unclaimed.take k ∧
        (∀ token, b.standing token =
          if token ∈ unclaimed.take k then some .issued else a.standing token) ∧
        ∀ channel owner, t₁.mintCount channel owner = s.mintCount channel owner +
          if channel = .airdrop ∧ owner = recipient then k else 0 := by
  intro unclaimed claim
  have hshort : k < unclaimed.length := hshort
  have hnone : claimed ++ ([] : List Token) = claimed := List.append_nil claimed
  have hlength : (unclaimed.take k).length = k := List.length_take_of_le (Nat.le_of_lt hshort)
  have hwhole {r t} : claim env [] none s = (.ok r, t) ↔
      funds = [] ∧ Airdrop.issue c env sender recipient contract unclaimed s = (.ok r, t) :=
    hs.perform_claimAirdrop_eq_ok_iff hc hattached hrecipient (hnone ▸ hreports [])
      (List.ne_nil_of_length_pos (Nat.zero_lt_of_lt hshort))
  have hfirst {r t} : claim env [] (some k) s = (.ok r, t) ↔ funds = [] ∧
      Airdrop.issue c env sender recipient contract (unclaimed.take k) s = (.ok r, t) :=
    Call.perform_claimAirdrop_eq_ok_iff hc hattached hrecipient (hnone ▸ hreports [])
      (List.ne_nil_of_length_pos (Nat.lt_of_lt_of_eq hk hlength.symm))
  -- the second claim asks an airdropper that has received the reports of the first
  have hrest {r₁ t₁ r₂ t₂} (hpiece : claim env [] (some k) s = (.ok r₁, t₁)) :
      claim later (r₁.marked contract recipient) none t₁ = (.ok r₂, t₂) ↔
        Airdrop.issue c later sender recipient contract (unclaimed.drop k) t₁ = (.ok r₂, t₂) := by
    obtain ⟨hfunds, hissue⟩ := hfirst.mp hpiece
    have hleft : promised.filter (· ∉ claimed ++ unclaimed.take k) = unclaimed.drop k :=
      filter_notMem_append_take hdistinct claimed k
    have hsome : unclaimed.drop k ≠ [] := List.drop_eq_nil_iff.not.mpr (Nat.not_le.mpr hshort)
    rw [Airdrop.marked_of_issue hissue, (hs.perform hpiece).perform_claimAirdrop_eq_ok_iff
      ((Airdrop.config_of_issue hissue).trans hc) hattached hrecipient (hreports _)
      (hleft.symm ▸ hsome), hleft]
    exact and_iff_right hfunds
  refine ⟨⟨?_, ?_⟩, ?_, ?_⟩
  · rintro ⟨r, t, hclaim⟩
    obtain ⟨hfunds, hissue⟩ := hwhole.mp hclaim
    obtain ⟨r₁, t₁, r₂, hissue₁, hissue₂, -⟩ :=
      (hs.sound.issue_split_iff hlater k).mp ⟨r, hissue, rfl⟩
    have hpiece := hfirst.mpr ⟨hfunds, hissue₁⟩
    exact ⟨r₁, t₁, r₂, t, hpiece, (hrest hpiece).mpr hissue₂⟩
  · rintro ⟨r₁, t₁, r₂, t, hpiece, hclaim⟩
    obtain ⟨hfunds, hissue₁⟩ := hfirst.mp hpiece
    obtain ⟨r, hissue, -⟩ := (hs.sound.issue_split_iff hlater k).mpr
      ⟨r₁, t₁, r₂, hissue₁, (hrest hpiece).mp hclaim, rfl⟩
    exact ⟨r, t, hwhole.mpr ⟨hfunds, hissue⟩⟩
  · intro r t hclaim
    obtain ⟨-, hissue⟩ := hwhole.mp hclaim
    refine ⟨Airdrop.messages_of_issue hissue, fun r₁ t₁ r₂ t₂ hpiece hclaim₂ => ?_⟩
    obtain ⟨-, hissue₁⟩ := hfirst.mp hpiece
    obtain ⟨r', hissue', hmessages⟩ := (hs.sound.issue_split_iff hlater k).mpr
      ⟨r₁, t₁, r₂, hissue₁, (hrest hpiece).mp hclaim₂, rfl⟩
    obtain ⟨hr, rfl⟩ := Prod.mk.inj (hissue.symm.trans hissue')
    obtain rfl := Except.ok.inj hr
    exact ⟨rfl, hmessages.symm⟩
  · intro r₁ t₁ hpiece
    obtain ⟨-, hissue⟩ := hfirst.mp hpiece
    have hissued := hs.sound.issued_of_issue hissue
    rw [hlength] at hissued
    exact ⟨Airdrop.marked_of_issue hissue, hissued⟩

namespace PromisedSale

/-- An airdropper that promises everyone all three tokens and has assigned the third. It knows the
first as claimed, and those that are reported to it. -/
def promising (marked : List Token) : Answers :=
  { Answers.ofListing [⟨101, 3⟩] 1 with
    promisedTokens := fun _ _ _ =>
      .ok ⟨false, true, [⟨101, 3⟩, ⟨101, 1⟩, ⟨101, 2⟩], ⟨101, 1⟩ :: marked⟩ }

/-- The store after the contract is there and the assigned token is taken out of the draw. -/
def cleaned : Store :=
  (founded.play [.reply 101 (.succeeded (some [10, 4, 103, 111, 108, 100])),
    .command ⟨⟨20, 2, none, "mint"⟩, "admin", [], promising []⟩ .cleanAssigned]).2

end PromisedSale

/-- A reserved token is claimed and then a pending one, which comes to the same as claiming both. -/
theorem claims_in_pieces_reserved_and_pending :
    let call := fun marked =>
      (⟨⟨30, 3, none, "mint"⟩, "buyer", [], PromisedSale.promising marked⟩ : Call)
    let claim := fun marked limit => (Transaction.command (call marked)
      (.claimAirdrop limit none)).perform
    Reachable PromisedSale.cleaned ∧
      ∃ r t r₁ t₁ r₂, claim [] none PromisedSale.cleaned = (.ok r, t) ∧
        claim [] (some 1) PromisedSale.cleaned = (.ok r₁, t₁) ∧
        r₁.marked "drop" "buyer" = [⟨101, 3⟩] ∧ t₁.mintCount .airdrop "buyer" = 1 ∧
        claim [⟨101, 3⟩] none t₁ = (.ok r₂, t) ∧ r₁.messages ++ r₂.messages = r.messages := by
  intro call claim
  have hs : Reachable PromisedSale.cleaned :=
    ⟨_, _, Founded.of_isOk (by decide +kernel), PromisedSale.founded.run_play _⟩
  have hconfig : PromisedSale.cleaned.config.map Config.airdropper = some (some "drop") := by
    decide +kernel
  obtain ⟨c, hc, hattached⟩ := Option.map_eq_some_iff.mp hconfig
  have hreports (marked : List Token) : (PromisedSale.promising marked).Promises "drop" "buyer"
      [⟨101, 3⟩, ⟨101, 1⟩, ⟨101, 2⟩] ([⟨101, 1⟩] ++ marked) :=
    fun _ => ⟨_, rfl, fun _ => Iff.rfl⟩
  obtain ⟨hiff, hsame, hpiece⟩ := claims_in_pieces hs hc hattached
    (show resolveRecipient c "buyer" none = .ok "buyer" from rfl) (by decide) [⟨101, 1⟩] hreports
    (Eq.refl (Env.time ⟨30, 3, none, "mint"⟩)) [] (Nat.le_refl 1) (by decide)
  obtain ⟨r, t, hclaim⟩ : ∃ r t, claim [] none PromisedSale.cleaned = (.ok r, t) :=
    Transaction.exists_of_isOk (by decide +kernel)
  obtain ⟨r₁, t₁, r₂, t₂, hclaim₁, hclaim₂⟩ := hiff.mp ⟨r, t, hclaim⟩
  obtain ⟨rfl, hmessages⟩ := (hsame r t hclaim).2 r₁ t₁ r₂ t₂ hclaim₁ hclaim₂
  obtain ⟨hmarked, -, -, -, -, -, -, hcounts⟩ := hpiece r₁ t₁ hclaim₁
  have hfresh : PromisedSale.cleaned.mintCount .airdrop "buyer" = 0 := by decide +kernel
  rw [hmarked] at hclaim₂
  refine ⟨hs, r, t₂, r₁, t₁, r₂, hclaim, hclaim₁, hmarked, ?_, hclaim₂, hmessages⟩
  rw [hcounts, hfresh, if_pos ⟨rfl, rfl⟩]

end ShuffleMint
