import ShuffleMint.Proofs.Run.BundleCoherence
import ShuffleMint.Proofs.Run.Drawing

/-!
# When bundles are completed

A bundle takes a token of every collection, so the channel of bundles is completed by the bundle
that leaves a collection without a pending token. The flag is never taken back, and most of the time
it need not be: what is pending is drawn, claimed, reserved and staged, but only a staging that
purges the custom bundle makes tokens pending again. Where it releases a token of the collection
that was exhausted, the flag outlives its reason.
-/

namespace ShuffleMint

/-- Whether the channel of bundles is completed. -/
def Store.bundleCompleted (s : Store) : Bool := s.config.any Config.bundleCompleted

/-- A collection of the mint has no pending token. -/
def Store.Exhausted (s : Store) (id : Nat) : Prop :=
  ∃ a, s.allocator? = some a ∧ id ∈ a.collectionIds ∧ a.arena.pendingIn id = .ok 0

/-- A staging purges the custom bundle of a token that it does not stage again. -/
def Transaction.Releases (s : Store) (token : Token) : Transaction → Prop
  | .command _ (.stageBundle _ _ purge tokens) =>
    purge = true ∧ token ∈ s.stagedTokens ∧ token ∉ tokens.getD []
  | _ => False

/-- The tokens that are pending afterwards are those that a transaction releases, and others that
were pending before it. -/
def Store.ReleasesOnly (s : Store) (transaction : Transaction) (t : Store) : Prop :=
  ∃ a b tokens, s.allocator? = some a ∧ t.allocator? = some b ∧ a.Moves tokens b ∧
    ∀ token, (transaction.Releases s token → b.standing token = some .pending) ∧
      (b.standing token = some .pending →
        transaction.Releases s token ∨ a.standing token = some .pending)

variable {s t : Store} {r : Response}

namespace Store

/-- The flag of a store is that of its configuration. -/
theorem bundleCompleted_eq {c : Config} (hc : s.config = some c) :
    s.bundleCompleted = c.bundleCompleted := by
  rw [bundleCompleted, hc, Option.any_some]

/-- Stores whose configurations agree on the flag have the same flag. -/
theorem bundleCompleted_congr
    (h : t.config.map Config.bundleCompleted = s.config.map Config.bundleCompleted) :
    t.bundleCompleted = s.bundleCompleted := by
  have hany (u : Store) : u.bundleCompleted = (u.config.map Config.bundleCompleted).any id := by
    simp only [bundleCompleted, Option.any_map, id]
  rw [hany, hany, h]

namespace Sound

/-- A collection is exhausted when none of its tokens is pending. -/
theorem exhausted_iff (hs : s.Sound) {a : Allocator} (ha : s.allocator? = some a) {id : Nat} :
    s.Exhausted id ↔ id ∈ a.collectionIds ∧
      ∀ token : Token, token.collection = id → a.standing token ≠ some .pending := by
  rw [← (hs.consistent ha).pendingIn_eq_zero_iff]
  constructor
  · rintro ⟨a', ha', hexhausted⟩
    obtain rfl := Option.some.inj (ha.symm.trans ha')
    exact hexhausted
  · exact fun hexhausted => ⟨a, ha, hexhausted⟩

/-! ## What each transaction does to the pending tokens -/

/-- Where nothing is released and nothing becomes pending, that is so. -/
theorem releasesOnly_of_none {transaction : Transaction} {a b : Allocator} {tokens : List Token}
    (ha : s.allocator? = some a) (hb : t.allocator? = some b) (hmoves : a.Moves tokens b)
    (hnone : ∀ token, ¬ transaction.Releases s token)
    (hkept : ∀ token, b.standing token = some .pending → a.standing token = some .pending) :
    s.ReleasesOnly transaction t :=
  ⟨a, b, tokens, ha, hb, hmoves, fun token =>
    ⟨fun hreleased => absurd hreleased (hnone token), fun hpending => .inr (hkept token hpending)⟩⟩

/-- What is minted was pending, or was held back; nothing is released. -/
theorem releasesOnly_of_minted {call : Call} {command : Command} {c : Config} {channel : Channel}
    {recipient : Address} {tokens : List Token}
    (h : s.Minted call command c channel recipient tokens r t) :
    s.ReleasesOnly (.command call command) t := by
  obtain ⟨a, b, ha, hb, hissues, -⟩ := h.issued
  have hbooked := h.booked
  refine releasesOnly_of_none ha hb hissues.moves (fun token hreleased => ?_)
    fun token hpending => ?_
  · cases command with
    | stageBundle => cases hbooked
    | _ => exact hreleased
  · rw [hissues.standing] at hpending
    split at hpending
    · cases hpending
    · exact hpending

/-- So it is when the allocator stays as it is. -/
theorem releasesOnly_of_allocator?_eq (hs : s.Sound) {transaction : Transaction}
    (hnone : ∀ token, ¬ transaction.Releases s token) (h : t.allocator? = s.allocator?) :
    s.ReleasesOnly transaction t := by
  obtain ⟨a, ha, -⟩ := hs.allocator
  exact releasesOnly_of_none ha (h.trans ha) .refl hnone fun _ => id

/-- A successful transaction makes pending only what it releases. -/
theorem releasesOnly (hs : s.Sound) (hcoherent : s.BundleCoherent) {transaction : Transaction}
    (h : transaction.perform s = (.ok r, t)) : s.ReleasesOnly transaction t := by
  cases hs.effect h with
  | minted hminted => exact releasesOnly_of_minted hminted
  | sold hminted => exact releasesOnly_of_minted hminted
  | configured | planned | forwarded | migrated =>
    exact hs.releasesOnly_of_allocator?_eq (fun _ => id) rfl
  | cleaned _ _ ha hb hmoves hstanding =>
    refine releasesOnly_of_none ha hb hmoves (fun _ => id) fun token hpending => ?_
    rw [hstanding] at hpending
    split at hpending
    · cases hpending
    · exact hpending
  | shuffled ha hb hmoves hstanding =>
    exact releasesOnly_of_none ha hb hmoves (fun _ => id) fun token hpending => by
      rwa [hstanding] at hpending
  | @paidOut _ _ payee =>
    exact hs.releasesOnly_of_allocator?_eq (fun _ => id)
      ((s.escrowOnly_withPayout payee).view_eq Store.allocator? fun _ _ _ => rfl)
  | @attached _ _ child =>
    exact hs.releasesOnly_of_allocator?_eq (fun _ => id) (by cases child <;> rfl)
  | staged _ _ _ ha hb hmoves _ _ hstanding =>
    obtain ⟨c, a', staged, -, ha', hlisted, hbundle⟩ := hcoherent
    obtain rfl := Option.some.inj (ha.symm.trans ha')
    refine ⟨_, _, _, ha, hb, hmoves, fun token => ?_⟩
    rw [hstanding]
    constructor
    · rintro ⟨hpurge, hstaged, hleft⟩
      have hmem : token ∈ staged := by rwa [stagedTokens, hlisted] at hstaged
      rw [if_neg hleft, if_pos ⟨hpurge, hstaged, (hbundle.mem_iff token).mp hmem⟩]
    · intro hpending
      split at hpending
      · cases hpending
      · next hleft =>
        split at hpending
        · next hreleased => exact .inl ⟨hreleased.1, hreleased.2.1, hleft⟩
        · exact .inr hpending

/-- An exhausted collection stays exhausted until one of its tokens is released. -/
theorem exhausted_of_perform (hs : s.Sound) (hcoherent : s.BundleCoherent)
    {transaction : Transaction} (h : transaction.perform s = (.ok r, t)) {id : Nat}
    (hexhausted : s.Exhausted id) :
    t.Exhausted id ↔ ¬ ∃ token : Token, token.collection = id ∧ transaction.Releases s token := by
  obtain ⟨a, b, tokens, ha, hb, hmoves, hpending⟩ := hs.releasesOnly hcoherent h
  obtain ⟨_, _, hadvance, -⟩ := hs.advances_perform h
  obtain ⟨hlisted, hnone⟩ := (hs.exhausted_iff ha).mp hexhausted
  rw [(hadvance.sound hs).exhausted_iff hb, hmoves.mem_collectionIds_iff (hs.consistent ha),
    and_iff_right hlisted]
  constructor
  · rintro hafter ⟨token, hcollection, hreleased⟩
    exact hafter token hcollection ((hpending token).1 hreleased)
  · intro hkept token hcollection hafter
    rcases (hpending token).2 hafter with hreleased | hbefore
    · exact hkept ⟨token, hcollection, hreleased⟩
    · exact hnone token hcollection hbefore

/-- No bundle is minted while a collection is exhausted. -/
theorem mintBundle_of_exhausted (hs : s.Sound) {id : Nat} (hexhausted : s.Exhausted id)
    (call : Call) : (Transaction.command call .mintBundle).perform s ≠ (.ok r, t) := by
  intro hperform
  obtain ⟨_, a, shuffled, b, tokens, _, -, ha, -, hshuffled, hdraw, -⟩ :=
    hs.draws_mintBundle ((CallState.fresh_onStore call.mintBundle s).symm.trans hperform)
  obtain ⟨hlisted, hnone⟩ := (hs.exhausted_iff ha).mp hexhausted
  have hconsistent := (Allocator.Consistent.ensureShuffled_moves hshuffled).consistent
    (hs.consistent ha)
  obtain ⟨token, hcollection, hpending⟩ :=
    Bundle.exists_pending_of_drawEach hconsistent hdraw id hlisted
  rw [Allocator.Consistent.standing_ensureShuffled hshuffled] at hpending
  exact hnone token hcollection hpending

end Sound

/-! ## What each transaction does to the flag -/

namespace Sound

/-- A bundle leaves the flag or raises it over a collection that it has exhausted. -/
theorem bundleCompleted_mintBundle (hs : s.Sound) {call : Call}
    (h : call.mintBundle s = (.ok r, t)) :
    t.bundleCompleted = s.bundleCompleted ∨
      t.bundleCompleted = true ∧ ∃ id, t.Exhausted id := by
  obtain ⟨c, a, shuffled, b, tokens, exhausted, hc, ha, hb, hshuffled, -, hdrawn, hexhausted,
    hconfig⟩ := hs.draws_mintBundle h
  have hmoves := (Allocator.Consistent.ensureShuffled_moves hshuffled).trans hdrawn.moves
  have hflag := bundleCompleted_eq hconfig
  cases exhausted with
  | true =>
    obtain ⟨id, hid, hnone⟩ := Bundle.exists_of_anyExhausted hexhausted
    exact .inr ⟨hflag, id, b, hb, (hmoves.mem_collectionIds_iff (hs.consistent ha) id).mpr hid,
      hnone⟩
  | false => exact .inl (hflag.trans (bundleCompleted_eq hc).symm)

/-- Of the minting commands that take no staged tokens, only that of the bundle touches the flag. -/
theorem bundleCompleted_of_booked (hs : s.Sound) {call : Call} {command : Command} {c : Config}
    {channel : Channel} (hbooked : command.channel? c call.env.time = some channel)
    (hchannel : channel ≠ .customBundle)
    (h : (Transaction.command call command).perform s = (.ok r, t)) :
    t.bundleCompleted = s.bundleCompleted ∨
      t.bundleCompleted = true ∧ command = .mintBundle ∧ ∃ id, t.Exhausted id := by
  obtain ⟨asked, hexecute⟩ := CallState.fresh_eq_ok_iff.mp h
  cases command with
  | mint promised named =>
    obtain ⟨_, _, _, _, -, -, -, -, -, hconfig⟩ := hs.draws_mint hexecute
    exact .inl (bundleCompleted_congr (congrArg _ hconfig))
  | claimAirdrop limit named =>
    obtain ⟨_, _, _, _, _, _, _, -, -, -, -, -, -, -, -, hconfig⟩ := hs.draws_claimAirdrop hexecute
    exact .inl (bundleCompleted_congr (congrArg _ hconfig))
  | mintBundle =>
    obtain ⟨t', hmint, hstore⟩ := CallState.onStore_eq_ok_iff.mp hexecute
    obtain ⟨rfl, -⟩ := CallState.mk.inj hstore
    exact (hs.bundleCompleted_mintBundle hmint).imp_right fun hraised => ⟨hraised.1, rfl, hraised.2⟩
  | mintCustomBundle => exact absurd (Option.some.inj hbooked).symm hchannel
  | _ => cases hbooked

/-- A successful transaction leaves the flag, or it is a bundle that raises it over a collection
that it has exhausted. -/
theorem bundleCompleted_cases (hs : s.Sound) {transaction : Transaction}
    (h : transaction.perform s = (.ok r, t)) :
    t.bundleCompleted = s.bundleCompleted ∨
      t.bundleCompleted = true ∧ (∃ call, transaction = .command call .mintBundle) ∧
        ∃ id, t.Exhausted id := by
  cases hs.effect h with
  | @minted call command _ _ _ _ _ _ _ hminted hchannel =>
    rcases hs.bundleCompleted_of_booked hminted.booked hchannel h with hkept | ⟨hraised, rfl, hid⟩
    · exact .inl hkept
    · exact .inr ⟨hraised, ⟨call, rfl⟩, hid⟩
  | sold hminted _ _ _ _ hconfig =>
    exact .inl ((bundleCompleted_eq hconfig).trans (bundleCompleted_eq hminted.config).symm)
  | configured hc _ hpatch =>
    have hfixed := (ConfigPatch.keeps_apply _).view_eq hpatch
    simp only [Config.fixedPart, Prod.mk.injEq] at hfixed
    exact .inl (hfixed.2.2.2.1.trans (bundleCompleted_eq hc).symm)
  | planned | forwarded | cleaned | shuffled | migrated => exact .inl rfl
  | @paidOut _ _ payee =>
    have hconfig := (s.escrowOnly_withPayout payee).view_eq Store.config fun _ _ _ => rfl
    exact .inl (bundleCompleted_congr (congrArg _ hconfig))
  | staged hc _ _ _ _ _ _ _ _ _ ht =>
    rw [ht]
    exact .inl (bundleCompleted_eq hc).symm
  | attached =>
    exact .inl (bundleCompleted_congr
      (s.map_config_withChild (fun _ _ => rfl) (fun _ _ => rfl) _ _))

/-- No bundle is minted once the channel is completed. -/
theorem mintBundle_of_bundleCompleted (hflag : s.bundleCompleted = true) (call : Call) :
    (Transaction.command call .mintBundle).perform s ≠ (.ok r, t) := by
  intro hperform
  obtain ⟨c, _, _, _, _, _, _, _, _, _, _, _, hc, hcount, -⟩ :=
    Call.mintBundle_eq_ok ((CallState.fresh_onStore call.mintBundle s).symm.trans hperform)
  have hopen := Channel.bundleState?_bundle_eq_none_iff.mp (window_of_checkMint hcount).2.1
  rw [bundleCompleted_eq hc, hopen.2] at hflag
  cases hflag

end Sound

end Store

/-! ## Over a run -/

/-- A setup completes no channel. -/
theorem Founded.bundleCompleted_eq (h : Founded s) : s.bundleCompleted = false := by
  obtain ⟨setup, env, sender, response, hrun⟩ := h
  obtain ⟨collections, c, a, -, -, hconfig, -, -, rfl, -⟩ := Setup.run_eq_ok hrun
  exact (Setup.config_eq_ok hconfig).2.1

/-- Where the channel of bundles is completed, a collection is exhausted, or one that was has had a
token of it released since. -/
theorem Run.exhausted_or_released {start : Store} {events : List Event} (hstart : Founded start)
    (h : Run start events s) (hflag : s.bundleCompleted = true) :
    (∃ id, s.Exhausted id) ∨ ∃ taken e token, (taken, e) ∈ start.replay events ∧
      taken.bundleCompleted = true ∧ taken.Exhausted token.collection ∧
      e.transaction.Releases taken token := by
  induction h with
  | start =>
    rw [hstart.bundleCompleted_eq] at hflag
    cases hflag
  | @next events m t transaction r hrun hperform ih =>
    have hs : Reachable m := ⟨start, events, hstart, hrun⟩
    rcases hs.sound.bundleCompleted_cases hperform with hkept | ⟨-, -, hraised⟩
    · rw [hkept] at hflag
      rcases ih hflag with ⟨id, hexhausted⟩ | ⟨taken, e, token, hmem, hreleased⟩
      · by_cases hreleased : ∃ token, token.collection = id ∧ transaction.Releases m token
        · obtain ⟨token, rfl, hreleased⟩ := hreleased
          refine .inr ⟨m, ⟨transaction, r⟩, token, ?_, hflag, hexhausted, hreleased⟩
          rw [hrun.replay_next]
          exact List.mem_append_right _ (List.mem_singleton_self _)
        · exact .inl ⟨id, (hs.sound.exhausted_of_perform hs.bundleCoherent hperform hexhausted).mpr
            hreleased⟩
      · refine .inr ⟨taken, e, token, ?_, hreleased⟩
        rw [hrun.replay_next]
        exact List.mem_append_left _ hmem
    · exact .inl hraised

/-- On every run of a mint the channel of bundles is completed only by a bundle that leaves a
collection without a pending token, and from then on it is closed. A collection without a pending
token allows no bundle, and is left without one by everything but a staging that purges the custom
bundle of a token of it. So while the channel is completed, a collection has no pending token,
unless such a staging was taken after the channel was completed, which released a token of a
collection that had none. -/
theorem bundle_completed_until_release {start : Store} {events : List Event}
    (hstart : Founded start) (hrun : Run start events s) :
    (s.bundleCompleted = true →
      (∃ id, s.Exhausted id) ∨ ∃ taken e token, (taken, e) ∈ start.replay events ∧
        taken.bundleCompleted = true ∧ taken.Exhausted token.collection ∧
        e.transaction.Releases taken token) ∧
    ((s.bundleCompleted = true ∨ ∃ id, s.Exhausted id) →
      ∀ call r t, (Transaction.command call .mintBundle).perform s ≠ (.ok r, t)) ∧
    ∀ (transaction : Transaction) (r : Response) (t : Store), transaction.perform s = (.ok r, t) →
      (s.bundleCompleted = true → t.bundleCompleted = true) ∧
      (s.bundleCompleted = false → t.bundleCompleted = true →
        (∃ call, transaction = .command call .mintBundle) ∧ ∃ id, t.Exhausted id) ∧
      ∀ id, s.Exhausted id →
        (t.Exhausted id ↔
          ¬ ∃ token : Token, token.collection = id ∧ transaction.Releases s token) := by
  have hs : Reachable s := ⟨start, events, hstart, hrun⟩
  refine ⟨hrun.exhausted_or_released hstart, fun hclosed call r t => ?_,
    fun transaction r t hperform => ⟨fun hflag => ?_, fun hopen hflag => ?_, fun id hexhausted =>
      hs.sound.exhausted_of_perform hs.bundleCoherent hperform hexhausted⟩⟩
  · rcases hclosed with hflag | ⟨id, hexhausted⟩
    · exact Store.Sound.mintBundle_of_bundleCompleted hflag call
    · exact hs.sound.mintBundle_of_exhausted hexhausted call
  · rcases hs.sound.bundleCompleted_cases hperform with hkept | ⟨hraised, -⟩
    · exact hkept.trans hflag
    · exact hraised
  · rcases hs.sound.bundleCompleted_cases hperform with hkept | ⟨-, hraised⟩
    · rw [hkept, hopen] at hflag
      cases hflag
    · exact hraised

namespace FirstSale

/-- The purchase of a bundle. -/
def bundlePurchase : Transaction := .command (call "buyer" [⟨"ustars", 100⟩]) .mintBundle

/-- A staging that purges the custom bundle and stages nothing. -/
def purging : Transaction := .command (call "admin" []) (.stageBundle 1 50 true none)

/-- The store after two of the three tokens are staged and the third is sold in a bundle. -/
def completed : Store := (restaged.play [bundlePurchase]).2

/-- The store after the two staged tokens are released as well. -/
def purged : Store := (completed.play [purging]).2

end FirstSale

/-- Once the only pending token is sold in a bundle, no further bundle is minted; the purge that
makes two tokens pending again leaves the channel completed. -/
theorem bundle_completed_until_release_purged :
    ∃ events, Founded FirstSale.founded ∧ Run FirstSale.founded events FirstSale.completed ∧
      FirstSale.completed.bundleCompleted = true ∧
      (∀ call r t,
        (Transaction.command call .mintBundle).perform FirstSale.completed ≠ (.ok r, t)) ∧
      ∃ r t, FirstSale.purging.perform FirstSale.completed = (.ok r, t) ∧
        t.bundleCompleted = true ∧ ¬ t.Exhausted 101 := by
  have hrun := (FirstSale.founded.run_play _).append (FirstSale.restaged.run_play
    [FirstSale.bundlePurchase])
  have hflag : FirstSale.completed.bundleCompleted = true := by decide +kernel
  have hnone : (FirstSale.completed.allocator?.any fun a =>
      decide (101 ∈ a.collectionIds ∧ a.arena.pendingIn 101 = .ok 0)) = true := by decide +kernel
  have hstaged : (⟨101, 1⟩ : Token) ∈ FirstSale.completed.stagedTokens := by decide +kernel
  have hok : (FirstSale.purging.perform FirstSale.completed).1.isOk = true := by decide +kernel
  obtain ⟨a, ha, hexhausted⟩ := (Option.any_eq_true _ _).mp hnone
  obtain ⟨r, t, hperform⟩ := Transaction.exists_of_isOk hok
  obtain ⟨-, hclosed, hevery⟩ := bundle_completed_until_release FirstSale.founded_founded hrun
  obtain ⟨hkept, -, hreleased⟩ := hevery _ _ _ hperform
  refine ⟨_, FirstSale.founded_founded, hrun, hflag, hclosed (.inl hflag), r, t, hperform,
    hkept hflag, fun hafter => ?_⟩
  exact (hreleased 101 ⟨a, ha, of_decide_eq_true hexhausted⟩).mp hafter
    ⟨⟨101, 1⟩, rfl, rfl, hstaged, List.not_mem_nil⟩

/-- So it is not true of every reachable store that a collection has no pending token while the
channel of bundles is completed. -/
theorem not_exhausted_of_bundle_completed :
    ¬ ∀ s, Reachable s → s.bundleCompleted = true → ∃ id, s.Exhausted id := by
  intro hclaim
  have hs : Reachable FirstSale.purged :=
    ⟨_, _, FirstSale.founded_founded, ((FirstSale.founded.run_play _).append
      (FirstSale.restaged.run_play _)).append (FirstSale.completed.run_play _)⟩
  have hpending : (FirstSale.purged.allocator?.any fun a =>
      a.collectionIds.all fun id => decide (a.arena.pendingIn id ≠ .ok 0)) = true := by
    decide +kernel
  obtain ⟨id, a, ha, hid, hnone⟩ := hclaim _ hs (by decide +kernel)
  rw [ha, Option.any_some, List.all_eq_true] at hpending
  exact of_decide_eq_true (hpending id hid) hnone

end ShuffleMint
