import ShuffleMint.Proofs.Config.Patch
import ShuffleMint.Proofs.Config.Validity
import ShuffleMint.Proofs.Run.Effect
import ShuffleMint.Proofs.Run.History

/-!
# Settings change as the patch says

Whether a caller who administers a mint can apply a patch depends on the patch, the instant and the
configuration that it leads to, and on nothing else that is stored. A patch that is applied writes
that configuration and no other part of the store. The collaborators that are then attached are told
about the maintainer if it is a new one. The same patch leads from there to the same configuration,
so when it is applied again there is nothing to write and nobody to tell.
-/

namespace ShuffleMint

namespace ConfigPatch

/-- A patch can be applied to a configuration at an instant: its texts name addresses, it does not
remove what it sets, the end that it gives is ahead, and it leads to settings that fit together. -/
structure Applies (p : ConfigPatch) (now : Nat) (c : Config) : Prop where
  named : ∀ text ∈ p.addresses, IsAddress text
  unambiguous : p.Unambiguous
  ahead : ∀ stop, p.endTime.value = some stop → now < stop
  valid : (p.result c).Valid

variable {p : ConfigPatch} {now : Nat} {c : Config}

/-- A patch that has been applied can be applied again. -/
theorem Applies.again (h : p.Applies now c) : p.Applies now (p.result c) :=
  ⟨h.named, h.unambiguous, h.ahead, by rw [p.result_result]; exact h.valid⟩

end ConfigPatch

/-- What the collaborators of a configuration are told: who is the maintainer. -/
def Config.maintainerDispatches (c : Config) : List Dispatch :=
  (c.airdropper.toList ++ c.whitelist.toList).map fun contract =>
    ⟨none, .execute contract (.setMaintainer c.maintainer)⟩

variable {s t : Store} {c : Config} {call : Call} {p : ConfigPatch} {r : Response}

/-- Where the maintainer is another one, every attached collaborator is told, and otherwise none. -/
theorem Config.dispatches_maintainerMessages (attributes : List (String × String))
    (before after : Config) :
    (Response.ofMessages attributes (before.maintainerMessages after)).dispatches =
      if after.maintainer = before.maintainer then [] else after.maintainerDispatches := by
  rw [Response.ofMessages, maintainerMessages]
  split
  · rfl
  · rw [maintainerDispatches, collaborators]
    cases after.airdropper <;> cases after.whitelist <;> rfl

/-- A caller without coins who administers a mint changes its settings exactly when the patch
applies. -/
theorem Call.updateConfig_eq_ok_iff_applies (hc : s.config = some c) (hfunds : call.funds = [])
    (hallowed : c.canAdminister call.sender = true) :
    call.updateConfig p s = (.ok r, t) ↔
      p.Applies call.env.time c ∧ t = s.withConfig (p.result c) ∧
        r = Response.ofMessages [("action", "update_config"), ("sender", call.sender)]
          (c.maintainerMessages (p.result c)) := by
  have hahead : (¬ p.endTime.value.any (· ≤ call.env.time) = true) ↔
      ∀ stop, p.endTime.value = some stop → call.env.time < stop := by
    cases p.endTime.value <;> simp
  simp only [updateConfig_eq_ok_iff, ConfigPatch.apply_eq_ok_iff, Config.validate_eq_ok_iff, hahead]
  constructor
  · rintro ⟨before, _, -, hbefore, -, hstop, ⟨hnamed, hclear, rfl⟩, hvalid, rfl, rfl⟩
    obtain rfl := Option.some.inj (hc.symm.trans hbefore)
    exact ⟨⟨hnamed, hclear, hstop, hvalid⟩, rfl, rfl⟩
  · rintro ⟨h, rfl, rfl⟩
    exact ⟨c, _, hfunds, hc, hallowed, h.ahead, ⟨h.named, h.unambiguous, rfl⟩, h.valid, rfl, rfl⟩

/-- On every reachable store, a caller without coins who administers the mint changes the settings
exactly when the patch applies. Then the settings are what the patch makes of them, which leaves
alone what no patch changes, and nothing else in the store is changed. The collaborators that are
attached afterwards are told of the maintainer, the airdropper first, if it is another one. Anyone
who administers the mint afterwards can apply the patch again at the same instant, with no effect and
no message. -/
theorem settings_change_as_patched (hs : Reachable s) :
    ∃ c, s.config = some c ∧ ∀ (call : Call) (p : ConfigPatch), call.funds = [] →
      c.canAdminister call.sender = true →
        ((∃ r t, (Transaction.command call (.updateConfig p)).perform s = (.ok r, t)) ↔
          p.Applies call.env.time c) ∧
        (p.result c).fixedPart = c.fixedPart ∧
        ∀ r t, (Transaction.command call (.updateConfig p)).perform s = (.ok r, t) →
          t = { s with config := some (p.result c) } ∧
          r.dispatches = (if (p.result c).maintainer = c.maintainer then []
            else (p.result c).maintainerDispatches) ∧
          ∀ again : Call, again.funds = [] → again.env.time = call.env.time →
            (p.result c).canAdminister again.sender = true →
              ∃ r', (Transaction.command again (.updateConfig p)).perform t = (.ok r', t) ∧
                r'.dispatches = [] := by
  obtain ⟨c, hc, -⟩ := hs.sound.config
  have hperform (call : Call) (p : ConfigPatch) (s : Store) :
      (Transaction.command call (.updateConfig p)).perform s = call.updateConfig p s :=
    CallState.fresh_onStore (call.updateConfig p) s
  refine ⟨c, hc, fun call p hfunds hallowed => ⟨?_, rfl, fun r t h => ?_⟩⟩
  · simp only [hperform, Call.updateConfig_eq_ok_iff_applies hc hfunds hallowed]
    exact ⟨fun ⟨_, _, happlies, _⟩ => happlies, fun happlies => ⟨_, _, happlies, rfl, rfl⟩⟩
  · rw [hperform, Call.updateConfig_eq_ok_iff_applies hc hfunds hallowed] at h
    obtain ⟨happlies, rfl, rfl⟩ := h
    refine ⟨rfl, Config.dispatches_maintainerMessages _ _ _, fun again hfunds' htime hallowed' => ?_⟩
    have happlies' : p.Applies again.env.time (p.result c) := htime ▸ happlies.again
    have hsame := p.result_result c
    refine ⟨_, (hperform again p _).trans ((Call.updateConfig_eq_ok_iff_applies rfl hfunds'
      hallowed').mpr ⟨happlies', ?_, rfl⟩), ?_⟩
    · rw [hsame]
      rfl
    · rw [Config.dispatches_maintainerMessages, hsame, if_pos rfl]

namespace FirstSale

/-- A patch that names a maintainer, attaches an airdropper and sets an end. -/
def handover : ConfigPatch where
  maintainer := ⟨some "keeper", false⟩
  airdropper := ⟨some "airdrop", false⟩
  whitelist := ⟨none, true⟩
  startTime := none
  endTime := ⟨some 100, false⟩
  mintCap := some 2
  bundleCap := none
  mintPrice := none
  bundlePrice := none
  denom := none
  escrowFunds := none
  bundleEnabled := none
  royalties := none

end FirstSale

/-- The administrator names a maintainer and attaches an airdropper in one patch, and the airdropper
is told of the maintainer, who can apply the patch again without effect. -/
theorem settings_change_as_patched_handover :
    Reachable FirstSale.founded ∧ ∃ r t,
      (Transaction.command (FirstSale.call "admin" []) (.updateConfig FirstSale.handover)).perform
        FirstSale.founded = (.ok r, t) ∧
      r.dispatches = [⟨none, .execute "airdrop" (.setMaintainer (some "keeper"))⟩] ∧
      ∃ r', (Transaction.command (FirstSale.call "keeper" []) (.updateConfig
        FirstSale.handover)).perform t = (.ok r', t) ∧ r'.dispatches = [] := by
  have hs : Reachable FirstSale.founded := .of_founded FirstSale.founded_founded
  have hsettings : FirstSale.founded.config.map
      (fun c => (c.canAdminister "admin", c.maintainer)) = some (true, none) := by decide +kernel
  have hdone : ((Transaction.command (FirstSale.call "admin" []) (.updateConfig
      FirstSale.handover)).perform FirstSale.founded).1.isOk = true := by decide +kernel
  obtain ⟨c, hc, hpatched⟩ := settings_change_as_patched hs
  rw [hc, Option.map_some, Option.some.injEq, Prod.mk.injEq] at hsettings
  obtain ⟨hallowed, hnobody⟩ := hsettings
  obtain ⟨-, -, hafter⟩ := hpatched (FirstSale.call "admin" []) FirstSale.handover rfl hallowed
  obtain ⟨r, t, h⟩ := Transaction.exists_of_isOk hdone
  obtain ⟨-, hdispatches, hagain⟩ := hafter r t h
  have hnew : (FirstSale.handover.result c).maintainer = some "keeper" := rfl
  rw [hnew, hnobody, if_neg nofun] at hdispatches
  have hkeeper : (FirstSale.handover.result c).canAdminister "keeper" = true := by
    simp [Config.canAdminister, Config.isMaintainer, hnew]
  exact ⟨hs, r, t, h, hdispatches, hagain (FirstSale.call "keeper" []) rfl rfl hkeeper⟩

end ShuffleMint
