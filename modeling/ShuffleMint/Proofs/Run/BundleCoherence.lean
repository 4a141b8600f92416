import ShuffleMint.Proofs.Command.CustomBundle
import ShuffleMint.Proofs.Run.Effect
import ShuffleMint.Proofs.Run.History

/-!
# The custom bundle of a mint holds together

A setup stages nothing and leaves the custom bundle disabled. Every transaction keeps the list of
staged tokens, the statuses of their slots and the completion flag in agreement: what is drawn,
claimed or reserved was not staged, what is sold leaves the list and the statuses together, and what
is restaged is written to all three. So a custom bundle that is open is never found sold out.
-/

namespace ShuffleMint

open CustomBundle (Coherent Refused terms)

variable {s t : Store} {r : Response}

/-- The custom bundle that a store holds, if it does, holds together. -/
def Store.BundleCoherent (s : Store) : Prop :=
  ∃ c a staged, s.config = some c ∧ s.allocator? = some a ∧ s.staged = some staged ∧
    Coherent c a staged

/-- The tokens of every channel but that of the custom bundle are not staged. -/
theorem Channel.staged_notMem_takesFrom {channel : Channel} (h : channel ≠ .customBundle) :
    .staged ∉ channel.takesFrom := by
  cases channel <;> simp_all [Channel.takesFrom]

namespace Store

/-- A store with the same terms, the same allocator and the same list has the same custom bundle. -/
theorem BundleCoherent.congr (h : s.BundleCoherent)
    (hterms : t.config.map terms = s.config.map terms)
    (hallocator : t.allocator? = s.allocator?) (hstaged : t.staged = s.staged) :
    t.BundleCoherent := by
  obtain ⟨c, a, staged, hc, ha, hlisted, hcoherent⟩ := h
  rw [hc, Option.map_some, Option.map_eq_some_iff] at hterms
  obtain ⟨c', hc', hterms'⟩ := hterms
  exact ⟨c', a, staged, hc', hallocator.trans ha, hstaged.trans hlisted,
    hcoherent.congr hterms' fun _ => Iff.rfl⟩

/-- So has one in which the same tokens are staged. -/
theorem BundleCoherent.withAllocator (h : s.BundleCoherent) {a b : Allocator}
    (ha : s.allocator? = some a) (hb : (s.withAllocator b).allocator? = some b)
    (hstanding : ∀ t, b.standing t = some .staged ↔ a.standing t = some .staged) :
    (s.withAllocator b).BundleCoherent := by
  obtain ⟨c, a', staged, hc, ha', hlisted, hcoherent⟩ := h
  obtain rfl := Option.some.inj (ha.symm.trans ha')
  exact ⟨c, b, staged, hc, hb, hlisted, hcoherent.congr rfl hstanding⟩

/-- Every successful transaction keeps the custom bundle together. -/
theorem Sound.bundleCoherent (hs : s.Sound) (hcoherent : s.BundleCoherent)
    {transaction : Transaction} (h : transaction.perform s = (.ok r, t)) : t.BundleCoherent := by
  have ⟨c, a, staged, hc, ha, hlisted, hbundle⟩ := hcoherent
  cases hs.effect h with
  | minted hminted hchannel hstaged _ hconfig =>
    obtain ⟨a', b, ha', hb, hissues, -⟩ := hminted.issued
    obtain rfl := Option.some.inj (ha.symm.trans ha')
    obtain rfl := Option.some.inj (hc.symm.trans hminted.config)
    exact ⟨_, b, staged, hconfig, hb, hstaged.trans hlisted, hbundle.congr rfl
      (hissues.standing_staged_iff (Channel.staged_notMem_takesFrom hchannel))⟩
  | sold hminted hlisted' _ hstaged hopen hconfig =>
    obtain ⟨a', b, ha', hb, hissues, -⟩ := hminted.issued
    obtain rfl := Option.some.inj (ha.symm.trans ha')
    obtain rfl := Option.some.inj (hc.symm.trans hminted.config)
    obtain rfl := Option.some.inj (hlisted.symm.trans hlisted')
    exact ⟨_, b, _, hconfig, hb, hstaged, hbundle.sell hopen.1 hissues⟩
  | @configured _ _ _ c' _ hc' _ hpatch =>
    have hfixed := (ConfigPatch.keeps_apply _).view_eq hpatch
    simp only [Config.fixedPart, Prod.mk.injEq] at hfixed
    obtain ⟨-, -, -, -, henabled, hcompleted, -, hcount⟩ := hfixed
    refine hcoherent.congr ?_ rfl rfl
    rw [hc']
    exact congrArg some (by rw [terms, henabled, hcompleted, hcount, terms])
  | planned | forwarded => exact hcoherent
  | cleaned _ _ ha' hb _ hstanding =>
    refine hcoherent.withAllocator ha' hb fun token => ?_
    rw [hstanding]
    split
    · next hreserved => simp [hreserved.2]
    · rfl
  | shuffled ha' hb _ hstanding =>
    exact hcoherent.withAllocator ha' hb fun token => by rw [hstanding]
  | @paidOut _ _ payee =>
    have honly := s.escrowOnly_withPayout payee
    have hconfig := honly.view_eq Store.config fun _ _ _ => rfl
    exact hcoherent.congr (by rw [hconfig]) (honly.view_eq Store.allocator? fun _ _ _ => rfl)
      (honly.view_eq Store.staged fun _ _ _ => rfl)
  | staged hc' _ hcount ha' hb _ hkept hnew hstanding _ ht =>
    obtain rfl := Option.some.inj (ha.symm.trans ha')
    obtain rfl := Option.some.inj (hc.symm.trans hc')
    have hstored : s.stagedTokens = staged := by rw [stagedTokens, hlisted]; rfl
    rw [hstored] at hkept hnew hstanding
    refine ⟨_, _, _, by rw [ht]; rfl, hb, by rw [ht]; rfl, ?_⟩
    rw [hkept]
    exact hbundle.restage hcount hnew.1 hnew.2 hstanding
  | @attached _ _ child contract =>
    have hterms : (s.withChild contract child).config.map terms = s.config.map terms :=
      s.map_config_withChild (fun _ _ => rfl) (fun _ _ => rfl) contract child
    exact hcoherent.congr hterms (by cases child <;> rfl) (by cases child <;> rfl)
  | migrated => exact hcoherent.congr rfl rfl rfl

end Store

/-- A setup on an empty store stages nothing and leaves the custom bundle disabled. -/
theorem Founded.bundleCoherent (h : Founded s) : s.BundleCoherent := by
  obtain ⟨setup, env, sender, response, hrun⟩ := h
  obtain ⟨collections, c, a, -, -, hconfig, -, ha, rfl, -⟩ := Setup.run_eq_ok hrun
  obtain ⟨laid, -, rfl⟩ := Outcome.map_eq_ok_iff.mp ha
  refine ⟨c, _, [], rfl, rfl, rfl, List.nodup_nil, fun t => ?_, fun _ => rfl, fun henabled => ?_⟩
  · refine ⟨nofun, fun hstaged => ?_⟩
    unfold Allocator.standing at hstaged
    split at hstaged
    · obtain ⟨_, hpending⟩ := List.getElem?_eq_some_iff.mp hstaged
      simp at hpending
    · cases hstaged
  · rw [(Setup.config_eq_ok hconfig).2.2.1] at henabled
    cases henabled

/-- The custom bundle of every reachable store holds together. -/
theorem Reachable.bundleCoherent (h : Reachable s) : s.BundleCoherent :=
  h.induct (fun _ => Founded.bundleCoherent)
    fun _ _ _ _ hreachable hcoherent hperform => hreachable.sound.bundleCoherent hcoherent hperform

/-- On every reachable store the list of staged tokens has no token twice and holds exactly those
whose slots are staged; it is empty while the custom bundle is disabled, and once it is enabled, a
bundle has at least one token and is completed exactly when fewer are left. So minting a custom bundle
is never refused as sold out, an open one has enough tokens, and after the shuffle all of them can be
claimed. -/
theorem custom_bundle_coherent (hs : Reachable s) :
    ∃ c a staged, s.config = some c ∧ s.allocator? = some a ∧ s.staged = some staged ∧
      Coherent c a staged ∧
      ∀ call : Call,
        (∀ e t, (Transaction.command call .mintCustomBundle).perform s = (.error e, t) →
          Refused s c call e ∧ e ≠ .rejected .soldOut) ∧
        (∀ count, s.checkMint c call.env.time .customBundle call.sender 1 = .ok count →
          c.customCount ≤ staged.length) ∧
        ∀ shuffled,
          Allocator.ensureShuffled (call.env.entropy call.sender) a = (.ok (), shuffled) →
            ∃ done b, Step.forEach Allocator.claimStaged (staged.take c.customCount) shuffled =
              (.ok done, b) := by
  obtain ⟨c, a, staged, hc, ha, hlisted, hcoherent⟩ := hs.bundleCoherent
  have hconsistent := hs.sound.consistent ha
  refine ⟨c, a, staged, hc, ha, hlisted, hcoherent, fun call => ⟨fun e t hfails => ?_,
    fun count hcount => ?_, fun shuffled hshuffled => ?_⟩⟩
  · have hcommand : call.mintCustomBundle s = (.error e, t) :=
      (CallState.fresh_onStore call.mintCustomBundle s).symm.trans hfails
    have hrefused := CustomBundle.failsOnly_mintCustomBundle_refused hc ha hconsistent hlisted
      hcoherent call e t hcommand
    exact ⟨hrefused, hrefused.ne_soldOut⟩
  · obtain ⟨henabled, hcompleted⟩ :=
      Channel.customBundle_of_active (Store.checkMint_eq_ok_iff.mp hcount).1
    exact hcoherent.count_le_length henabled hcompleted
  · exact hcoherent.exists_claims hconsistent hshuffled

namespace FirstSale

/-- Two of the three tokens are staged for custom bundles of one token each. -/
def staging : Transaction :=
  .command (call "admin" []) (.stageBundle 1 50 false (some [⟨101, 1⟩, ⟨101, 2⟩]))

/-- The store after the staging, once the contract of the collection is there. -/
def restaged : Store :=
  (founded.play [.reply 101 (.succeeded (some [10, 4, 103, 111, 108, 100])), staging]).2

end FirstSale

/-- With two tokens staged, a custom bundle that is not paid for is refused, and not as sold out. -/
theorem custom_bundle_coherent_unpaid :
    Reachable FirstSale.restaged ∧ FirstSale.restaged.staged = some [⟨101, 1⟩, ⟨101, 2⟩] ∧
      ∃ c a e t, FirstSale.restaged.config = some c ∧ Coherent c a [⟨101, 1⟩, ⟨101, 2⟩] ∧
        (Transaction.command (FirstSale.call "buyer" []) .mintCustomBundle).perform
          FirstSale.restaged = (.error e, t) ∧
        Refused FirstSale.restaged c (FirstSale.call "buyer" []) e ∧ e ≠ .rejected .soldOut := by
  have hs : Reachable FirstSale.restaged :=
    ⟨_, _, FirstSale.founded_founded, FirstSale.founded.run_play _⟩
  have hstaged : FirstSale.restaged.staged = some [⟨101, 1⟩, ⟨101, 2⟩] := by decide +kernel
  have hunpaid : ((Transaction.command (FirstSale.call "buyer" []) .mintCustomBundle).perform
      FirstSale.restaged).1 = .error (.rejected (.incorrectPayment ⟨"ustars", 0⟩ ⟨"ustars", 50⟩)) := by
    decide +kernel
  obtain ⟨c, a, staged, hc, -, hlisted, hcoherent, hcall⟩ := custom_bundle_coherent hs
  obtain rfl := Option.some.inj (hstaged.symm.trans hlisted)
  obtain ⟨hrefused, hleft⟩ := (hcall _).1 _ _ (Step.eq_of_outcome hunpaid)
  exact ⟨hs, hstaged, c, a, _, _, hc, hcoherent, Step.eq_of_outcome hunpaid, hrefused, hleft⟩

end ShuffleMint
