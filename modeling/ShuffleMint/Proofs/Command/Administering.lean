import ShuffleMint.Proofs.Command.Minting
import ShuffleMint.Proofs.Escrow.Settlement
import ShuffleMint.Proofs.StepFailure

/-!
# What a successful command of administration has done

The commands that mint nothing, the replies of created contracts and the migration, read backwards:
what they read and checked, and the store in which they ended as an explicit change of the store in
which they began.
-/

namespace ShuffleMint

/-- Only those who administer the mint pass the check. -/
theorem Config.requireAdministrator_eq_ok_iff {c : Config} {caller : Address} {u : Unit} :
    c.requireAdministrator caller = .ok u ↔ c.canAdminister caller = true := by
  unfold Config.requireAdministrator
  split <;> simp_all

/-- A fee that is taken is burned and given to the community pool. -/
theorem chargeFee_eq_ok {fee : Nat} {funds : List Coin} {messages : List Message}
    (h : chargeFee fee funds = .ok messages) : messages = fairBurn fee := by
  unfold chargeFee at h
  split at h
  · cases h
  · split at h
    · cases h
    · exact (Except.ok.inj h).symm

/-- The fee of a shuffle is taken of those who do not administer the mint; the others send no coins.
-/
theorem chargeShuffle_eq_ok {c : Config} {sender : Address} {funds : List Coin}
    {messages : List Message} (h : chargeShuffle c sender funds = .ok messages) :
    (c.canAdminister sender = true ∧ funds = [] ∧ messages = []) ∨
      (c.canAdminister sender = false ∧ messages = fairBurn shuffleFee) := by
  unfold chargeShuffle at h
  split at h
  · next hallowed =>
    obtain ⟨_, hfunds, rfl⟩ := Outcome.map_eq_ok_iff.mp h
    exact .inl ⟨hallowed, requireNoFunds_eq_ok_iff.mp hfunds, rfl⟩
  · next hother => exact .inr ⟨Bool.not_eq_true _ ▸ hother, chargeFee_eq_ok h⟩

/-- A forwarded message carries the caller's bytes to the collaborator, and no coins. -/
theorem Collaborator.forward_eq_ok {collaborator : Collaborator} {message : HookMessage}
    {forwarded : Message} (h : collaborator.forward message = .ok forwarded) :
    ∃ contract payload, forwarded = .execute contract (.raw payload) ∧
      contract = collaborator.address ∧ message = .execute contract payload [] := by
  cases message with
  | other => cases h
  | execute contract payload funds =>
    simp only [forward] at h
    split at h
    · next hcontract =>
      split at h
      · next hfunds =>
        rw [List.isEmpty_iff] at hfunds
        exact ⟨contract, payload, (Except.ok.inj h).symm, hcontract, by rw [hfunds]⟩
      · cases h
    · cases h

namespace CustomBundle

/-- Staging tokens releases those staged before, if so asked, and holds the others one by one. -/
theorem restage_eq_ok {purge : Bool} {staged assigned tokens : List Token} {a b : Allocator}
    {result : Nat × List Token} (h : restage purge staged assigned tokens a = (.ok result, b)) :
    ∃ released, (if purge then release staged else pure 0) a = (.ok result.1, released) ∧
      stageEach assigned tokens (if purge then [] else staged) released = (.ok result.2, b) := by
  cases purge with
  | true =>
    simp only [restage, if_true, Step.bind_eq_ok_iff, Step.pure_eq_ok_iff] at h ⊢
    obtain ⟨n, released, hrelease, kept, c, hstage, rfl, rfl⟩ := h
    exact ⟨released, hrelease, hstage⟩
  | false =>
    simp only [restage, Bool.false_eq_true, if_false, Step.bind_eq_ok_iff,
      Step.pure_eq_ok_iff] at h ⊢
    obtain ⟨n, released, ⟨rfl, rfl⟩, kept, c, hstage, rfl, rfl⟩ := h
    exact ⟨_, ⟨rfl, rfl⟩, hstage⟩

end CustomBundle

/-- What no patch changes: who has the administrator's role, the tokens there are, and how far the
bundles are. -/
def Config.fixedPart (c : Config) : AdminRole × Nat × Nat × Bool × Bool × Bool × Nat × Nat :=
  (c.admin, c.totalSupply, c.collectionCode, c.bundleCompleted, c.customEnabled, c.customCompleted,
    c.customPrice, c.customCount)

namespace ConfigPatch

open Step (Keeps)

/-- Changing addresses leaves alone what no patch changes. -/
theorem keeps_applyAddresses (p : ConfigPatch) : Keeps Config.fixedPart p.applyAddresses := by
  refine Keeps.bind Step.keeps_get fun c => ?_
  refine Keeps.bind (Step.keeps_lift _) fun maintainer => Keeps.bind (fun _ => rfl) fun _ => ?_
  refine Keeps.bind (Step.keeps_lift _) fun airdropper => Keeps.bind (fun _ => rfl) fun _ => ?_
  exact Keeps.bind (Step.keeps_lift _) fun whitelist _ => rfl

/-- Changing the opening leaves alone what no patch changes. -/
theorem keeps_applyWindow (p : ConfigPatch) : Keeps Config.fixedPart p.applyWindow := by
  refine Keeps.bind (fun _ => rfl) fun _ => Keeps.bind Step.keeps_get fun c => ?_
  exact Keeps.bind (Step.keeps_lift _) fun endTime _ => rfl

/-- Changing the shares leaves alone what no patch changes. -/
theorem keeps_applyRoyalties (p : ConfigPatch) : Keeps Config.fixedPart p.applyRoyalties := by
  unfold applyRoyalties
  split
  · exact Keeps.bind (Step.keeps_lift _) fun royalties _ => rfl
  · exact Step.keeps_pure ()

/-- Whether a patch applies or not, it leaves alone what no patch changes. -/
theorem keeps_apply (p : ConfigPatch) : Keeps Config.fixedPart p.apply := by
  refine Keeps.bind p.keeps_applyAddresses fun _ => Keeps.bind p.keeps_applyWindow fun _ => ?_
  exact Keeps.bind (fun _ => rfl) fun _ => p.keeps_applyRoyalties

end ConfigPatch

namespace Call

variable {call : Call}

/-- Settings are changed by a patch that applies and leaves a valid configuration. -/
theorem updateConfig_eq_ok_iff {patch : ConfigPatch} {s t : Store} {r : Response} :
    call.updateConfig patch s = (.ok r, t) ↔
      ∃ before after,
        call.funds = [] ∧
        s.config = some before ∧
        before.canAdminister call.sender = true ∧
        ¬ (patch.endTime.value.any (· ≤ call.env.time)) ∧
        patch.apply before = (.ok (), after) ∧
        after.validate = .ok () ∧
        t = s.withConfig after ∧
        r = Response.ofMessages [("action", "update_config"), ("sender", call.sender)]
          (before.maintainerMessages after) := by
  simp only [Call.updateConfig, Config.update, Step.bind_eq_ok_iff, Step.lift_eq_ok_iff,
    requireNoFunds_eq_ok_iff, Store.loadConfig_eq_ok_iff, Config.requireAdministrator_eq_ok_iff,
    Step.pure_eq_ok_iff, and_assoc, exists_and_left, exists_eq_left, exists_const]
  refine and_congr_right fun _ => exists_congr fun before => and_congr_right fun hbefore => ?_
  constructor
  · rintro ⟨after, u, ⟨c, hc, hallowed, hrest⟩, hresponse, rfl⟩
    obtain rfl := Option.some.inj (hbefore.symm.trans hc)
    split at hrest
    · simp at hrest
    · next hahead =>
      simp only [Step.bind_eq_ok_iff, Step.onCopy_eq_ok_pair_iff, Step.lift_eq_ok_iff,
        Store.saveConfig_eq_ok_iff, Step.pure_eq_ok_iff, and_assoc, exists_and_left, exists_eq_left,
        exists_const] at hrest
      obtain ⟨⟨_, changed⟩, hpatch, _, hvalid, rfl, rfl⟩ := hrest
      exact ⟨hallowed, hahead, changed, hpatch, hvalid, rfl, hresponse.symm⟩
  · rintro ⟨hallowed, hahead, after, hpatch, hvalid, rfl, rfl⟩
    refine ⟨after, _, ⟨before, hbefore, hallowed, ?_⟩, rfl, rfl⟩
    rw [if_neg hahead]
    simp only [Step.bind_eq_ok_iff, Step.onCopy_eq_ok_pair_iff, Step.lift_eq_ok_iff,
      Store.saveConfig_eq_ok_iff, Step.pure_eq_ok_iff, and_assoc, exists_and_left, exists_eq_left,
      exists_const]
    exact ⟨⟨(), after⟩, hpatch, (), hvalid, rfl, rfl⟩

/-- A collaborator is asked for, and the store stays as it is. -/
theorem initModule_eq_ok {target : Target} {plan : ModulePlan} {s t : Store} {r : Response}
    (h : call.initModule target plan s = (.ok r, t)) :
    ∃ c id,
      call.funds = [] ∧
      s.config = some c ∧
      c.canAdminister call.sender = true ∧
      target.replyId? = some id ∧
      t = s ∧
      r = ⟨[("action", "init_submodule"), ("sender", call.sender)],
        [⟨some id, plan.message call.env.self⟩]⟩ := by
  simp only [Call.initModule, Step.bind_eq_ok_iff, Step.lift_eq_ok_iff, requireNoFunds_eq_ok_iff,
    Store.loadConfig_eq_ok_iff, Config.requireAdministrator_eq_ok_iff, and_assoc, exists_and_left,
    exists_eq_left, exists_const] at h
  obtain ⟨hfunds, c, hc, hallowed, hrest⟩ := h
  cases hid : target.replyId? with
  | none => simp [hid] at hrest
  | some id =>
    rw [hid] at hrest
    obtain ⟨rfl, rfl⟩ := Step.pure_eq_ok_iff.mp hrest
    exact ⟨c, id, hfunds, hc, hallowed, rfl, rfl, rfl⟩

/-- The tokens assigned by the airdropper are taken out of the draw on a copy, which is stored. -/
theorem cleanAssigned_eq_ok {s t : CallState} {r : Response}
    (h : call.cleanAssigned s = (.ok r, t)) :
    ∃ c contract assigned u a b removed,
      call.funds = [] ∧
      s.store.config = some c ∧
      c.canAdminister call.sender = true ∧
      c.airdropper = some contract ∧
      Airdropper.assignedTokens call.answers contract s = (.ok assigned, u) ∧
      u.store.allocator? = some a ∧
      Allocator.reserveAll assigned a = (.ok removed, b) ∧
      t.store = u.store.withAllocator b ∧
      r = Response.silent
        [("action", "clean_claimed_tokens_from_shuffle"), ("sender", call.sender),
          ("removed", toString removed)] := by
  simp only [Call.cleanAssigned, Step.bind_eq_ok_iff, Step.lift_eq_ok_iff,
    requireNoFunds_eq_ok_iff, CallState.onStore_eq_ok_iff, Store.loadConfig_eq_ok_iff,
    Config.requireAdministrator_eq_ok_iff, and_assoc, exists_and_left, exists_eq_left,
    exists_const] at h
  obtain ⟨hfunds, c, hc, hallowed, hrest⟩ := h
  cases hairdropper : c.airdropper with
  | none => simp [hairdropper] at hrest
  | some contract =>
    rw [hairdropper] at hrest
    simp only [Step.bind_eq_ok_iff, CallState.onStore_eq_ok_iff, Airdrop.reserve,
      Store.loadAllocator_eq_ok_iff, Step.onCopy_eq_ok_pair_iff, Store.saveAllocator_eq_ok_iff,
      Step.pure_eq_ok_iff, and_assoc, exists_and_left, exists_eq_left, exists_const] at hrest
    obtain ⟨assigned, u, hassigned, t', ⟨a, ha, ⟨removed, b⟩, hreserve, hresponse, rfl⟩, rfl⟩ :=
      hrest
    exact ⟨c, contract, assigned, u, a, b, removed, hfunds, hc, hallowed, hairdropper, hassigned,
      ha, hreserve, rfl, hresponse.symm⟩

/-- The order is shuffled on a copy, which is stored, and the fee is taken. -/
theorem shuffle_eq_ok {s t : Store} {r : Response} (h : call.shuffle s = (.ok r, t)) :
    ∃ c a b messages,
      s.config = some c ∧
      s.allocator? = some a ∧
      Allocator.initializeShuffle (call.env.entropy call.sender) a = (.ok (), b) ∧
      chargeShuffle c call.sender call.funds = .ok messages ∧
      t = s.withAllocator b ∧
      r = Response.ofMessages [("action", "shuffle_token_order"), ("sender", call.sender)]
        messages := by
  simp only [Call.shuffle, Step.bind_eq_ok_iff, Step.lift_eq_ok_iff, Store.loadConfig_eq_ok_iff,
    Store.loadAllocator_eq_ok_iff, Step.onCopy_eq_ok_pair_iff, Store.saveAllocator_eq_ok_iff,
    Step.pure_eq_ok_iff, and_assoc, exists_and_left, exists_eq_left, exists_const] at h
  obtain ⟨c, hc, a, ha, ⟨_, b⟩, hshuffle, messages, hmessages, hresponse, rfl⟩ := h
  exact ⟨c, a, b, messages, hc, ha, hshuffle, hmessages, rfl, hresponse.symm⟩

/-- A message is passed on to an attached collaborator, and the store stays as it is. -/
theorem forward_eq_ok {target : Target} {message : HookMessage} {s t : Store} {r : Response}
    (h : call.forward target message s = (.ok r, t)) :
    ∃ c collaborator forwarded,
      call.funds = [] ∧
      s.config = some c ∧
      c.canAdminister call.sender = true ∧
      c.attached target = some collaborator ∧
      collaborator.forward message = .ok forwarded ∧
      t = s ∧
      r = Response.ofMessages
        [("action", "submodule_hook"), ("sender", call.sender), ("target", collaborator.address)]
        [forwarded] := by
  simp only [Call.forward, Step.bind_eq_ok_iff, Step.lift_eq_ok_iff, requireNoFunds_eq_ok_iff,
    Store.loadConfig_eq_ok_iff, Config.requireAdministrator_eq_ok_iff, and_assoc, exists_and_left,
    exists_eq_left, exists_const] at h
  obtain ⟨hfunds, c, hc, hallowed, hrest⟩ := h
  cases hattached : c.attached target with
  | none => simp [hattached] at hrest
  | some collaborator =>
    rw [hattached] at hrest
    simp only [Step.bind_eq_ok_iff, Step.lift_eq_ok_iff, Step.pure_eq_ok_iff, and_assoc,
      exists_and_left, exists_eq_left] at hrest
    obtain ⟨forwarded, hforwarded, hresponse, rfl⟩ := hrest
    exact ⟨c, collaborator, forwarded, hfunds, hc, hallowed, hattached, hforwarded, rfl,
      hresponse.symm⟩

/-- All that is held in escrow for an address is paid out. -/
theorem disburse_eq_ok {address : String} {s t : Store} {r : Response}
    (h : call.disburse address s = (.ok r, t)) :
    ∃ c payee,
      call.funds = [] ∧
      s.config = some c ∧
      c.canAdminister call.sender = true ∧
      validateAddress address = .ok payee ∧
      t = s.withPayout payee ∧
      r = Response.ofMessages
        [("action", "disburse_funds"), ("sender", call.sender), ("recipient", payee),
          ("amount", toString (s.balanceOf payee))]
        (if s.balanceOf payee = 0 then [] else [.send payee [c.price (s.balanceOf payee)]]) := by
  simp only [Call.disburse, Step.bind_eq_ok_iff, Step.lift_eq_ok_iff, requireNoFunds_eq_ok_iff,
    Store.loadConfig_eq_ok_iff, Config.requireAdministrator_eq_ok_iff, Step.pure_eq_ok_iff,
    and_assoc, exists_and_left, exists_eq_left, exists_const] at h
  obtain ⟨hfunds, c, hc, hallowed, payee, hpayee, amount, u, hdisburse, hresponse, rfl⟩ := h
  obtain ⟨rfl, rfl⟩ := Escrow.disburse_eq_ok hdisburse
  exact ⟨c, payee, hfunds, hc, hallowed, hpayee, rfl, hresponse.symm⟩

/-- Tokens are staged on a copy, which is stored with the list of staged tokens and the terms of the
bundle. -/
theorem stageBundle_eq_ok {count price : Nat} {purge : Bool} {tokens : Option (List Token)}
    {s t : CallState} {r : Response}
    (h : call.stageBundle count price purge tokens s = (.ok r, t)) :
    ∃ c a assigned u released staged b,
      call.funds = [] ∧
      s.store.config = some c ∧
      c.canAdminister call.sender = true ∧
      count ≠ 0 ∧
      s.store.allocator? = some a ∧
      CustomBundle.assignedTokens call.answers c (tokens.getD []) s = (.ok assigned, u) ∧
      CustomBundle.restage purge s.store.stagedTokens assigned (tokens.getD []) a =
        (.ok (released, staged), b) ∧
      t.store = ((u.store.withAllocator b).withStaged staged).withConfig
        (CustomBundle.withTerms c count price staged.length) ∧
      r = Response.silent
        [("action", "process_custom_bundle"), ("sender", call.sender),
          ("staged", toString staged.length), ("released", toString released),
          ("content_count", toString count), ("mint_price", toString price)] := by
  simp only [Call.stageBundle, Step.bind_eq_ok_iff, Step.lift_eq_ok_iff, requireNoFunds_eq_ok_iff,
    CallState.onStore_eq_ok_iff, Store.loadConfig_eq_ok_iff, Config.requireAdministrator_eq_ok_iff,
    and_assoc, exists_and_left, exists_eq_left, exists_const] at h
  obtain ⟨hfunds, c, hc, hallowed, hrest⟩ := h
  split at hrest
  · simp at hrest
  · next hcount =>
    simp only [Step.bind_eq_ok_iff, CallState.onStore_eq_ok_iff, Store.loadAllocator_eq_ok_iff,
      Step.get_bind_apply, Step.onCopy_eq_ok_pair_iff, Store.saveAllocator_eq_ok_iff,
      Store.saveStaged_eq_ok_iff, Store.saveConfig_eq_ok_iff, Step.pure_eq_ok_iff, and_assoc,
      exists_and_left, exists_eq_left, exists_const] at hrest
    obtain ⟨a, ha, assigned, u, hassigned, ⟨⟨released, staged⟩, b⟩, hrestage, hresponse, rfl⟩ :=
      hrest
    exact ⟨c, a, assigned, u, released, staged, b, hfunds, hc, hallowed, hcount, ha, hassigned,
      hrestage, rfl, hresponse.symm⟩

end Call

end ShuffleMint
