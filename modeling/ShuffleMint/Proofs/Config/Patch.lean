import ShuffleMint.Config.Patch
import ShuffleMint.Proofs.StepInversion

/-!
# What a patch makes of a configuration

A patch is applied setting by setting, and stops at the first that it cannot change. It can change
all of them when every text that it gives for an address names one and when it sets no setting that
it also removes. The result is then told at once, whatever the configuration is: each setting has the
value that the patch gives, or none if it is removed, or the one that it had. The same patch makes
nothing more of the result.
-/

namespace ShuffleMint

namespace ShareRequest

/-- The share that is written down, with its text as the address. -/
def share (r : ShareRequest) : Share := ⟨r.address, r.points, r.primary⟩

/-- Shares are accepted exactly when each of them names an address. -/
theorem validateAll_eq_ok_iff {requests : List ShareRequest} {shares : List Share} :
    validateAll requests = .ok shares ↔
      (∀ r ∈ requests, IsAddress r.address) ∧ shares = requests.map share := by
  induction requests generalizing shares with
  | nil => simp [validateAll, eq_comm]
  | cons r rest ih =>
    simp only [validateAll, Outcome.bind_eq_ok_iff, List.forall_mem_cons, List.map_cons]
    constructor
    · rintro ⟨address, haddress, others, hothers, hshares⟩
      obtain ⟨hrest, rfl⟩ := ih.mp hothers
      obtain rfl := eq_of_validateAddress haddress
      exact ⟨⟨⟨_, haddress⟩, hrest⟩, (Except.ok.inj hshares).symm⟩
    · rintro ⟨⟨⟨address, haddress⟩, hrest⟩, rfl⟩
      refine ⟨address, haddress, _, ih.mpr ⟨hrest, rfl⟩, ?_⟩
      rw [eq_of_validateAddress haddress]
      rfl

end ShareRequest

namespace RoyaltiesRequest

/-- The shares that are written down. -/
def royalties (r : RoyaltiesRequest) : Royalties :=
  ⟨r.revenue.map ShareRequest.share, r.secondary.map ShareRequest.share⟩

/-- The texts that name those who share. -/
def addresses (r : RoyaltiesRequest) : List String :=
  (r.revenue ++ r.secondary).map ShareRequest.address

/-- Revenue shares and royalties are accepted exactly when all of them name addresses. -/
theorem validate_eq_ok_iff {r : RoyaltiesRequest} {royalties : Royalties} :
    r.validate = .ok royalties ↔
      (∀ text ∈ r.addresses, IsAddress text) ∧ royalties = r.royalties := by
  simp only [validate, Outcome.bind_eq_ok_iff, ShareRequest.validateAll_eq_ok_iff, addresses,
    List.forall_mem_map, List.forall_mem_append]
  constructor
  · rintro ⟨_, ⟨hrevenue, rfl⟩, _, ⟨hsecondary, rfl⟩, hroyalties⟩
    exact ⟨⟨hrevenue, hsecondary⟩, (Except.ok.inj hroyalties).symm⟩
  · rintro ⟨⟨hrevenue, hsecondary⟩, rfl⟩
    exact ⟨_, ⟨hrevenue, rfl⟩, _, ⟨hsecondary, rfl⟩, rfl⟩

end RoyaltiesRequest

namespace Change

variable {α : Type}

/-- A change that sets and removes at once. -/
def Contradicts (c : Change α) : Prop := c.value.isSome = true ∧ c.remove = true

/-- What an optional setting is after a change that does not contradict itself. -/
def result (c : Change α) (current : Option α) : Option α :=
  if c.remove then none else c.value.or current

/-- A change is made exactly when it does not contradict itself. -/
theorem apply_eq_ok_iff {field : RemovableField} {current value : Option α} {c : Change α} :
    c.apply field current = .ok value ↔ ¬ c.Contradicts ∧ value = c.result current := by
  obtain ⟨given, removed⟩ := c
  cases given <;> cases removed <;> simp [apply, result, Contradicts, eq_comm]

/-- A change of an address is made exactly when its text is one, if it gives a text, and when it does
not contradict itself. -/
theorem applyAddress_eq_ok_iff {field : RemovableField} {current value : Option Address}
    {c : Change String} :
    c.applyAddress field current = .ok value ↔
      (∀ text ∈ c.value, IsAddress text) ∧ ¬ c.Contradicts ∧ value = c.result current := by
  simp only [applyAddress, Outcome.bind_eq_ok_iff, validateAddress?_eq_ok_iff, apply_eq_ok_iff]
  constructor
  · rintro ⟨_, ⟨rfl, hnamed⟩, hmade⟩
    exact ⟨hnamed, hmade⟩
  · rintro ⟨hnamed, hmade⟩
    exact ⟨c.value, ⟨rfl, hnamed⟩, hmade⟩

/-- A change that is made again changes nothing more. -/
theorem result_result (c : Change α) (current : Option α) :
    c.result (c.result current) = c.result current := by
  obtain ⟨given, removed⟩ := c
  cases given <;> cases removed <;> rfl

end Change

namespace ConfigPatch

variable {p : ConfigPatch} {c c' : Config} {u : Unit}

/-- The texts that a patch gives for addresses. -/
def addresses (p : ConfigPatch) : List String :=
  p.maintainer.value.toList ++ p.airdropper.value.toList ++ p.whitelist.value.toList ++
    p.royalties.toList.flatMap RoyaltiesRequest.addresses

/-- No setting of a patch is set and removed at once. -/
structure Unambiguous (p : ConfigPatch) : Prop where
  maintainer : ¬ p.maintainer.Contradicts
  airdropper : ¬ p.airdropper.Contradicts
  whitelist : ¬ p.whitelist.Contradicts
  endTime : ¬ p.endTime.Contradicts

/-- The configuration with every setting that a patch gives, and without those that it removes. -/
def result (p : ConfigPatch) (c : Config) : Config :=
  { c with
    maintainer := p.maintainer.result c.maintainer
    airdropper := p.airdropper.result c.airdropper
    whitelist := p.whitelist.result c.whitelist
    startTime := p.startTime.getD c.startTime
    endTime := p.endTime.result c.endTime
    mintCap := p.mintCap.getD c.mintCap
    bundleCap := p.bundleCap.getD c.bundleCap
    mintPrice := p.mintPrice.getD c.mintPrice
    bundlePrice := p.bundlePrice.getD c.bundlePrice
    denom := p.denom.getD c.denom
    escrowFunds := p.escrowFunds.getD c.escrowFunds
    bundleEnabled := p.bundleEnabled.getD c.bundleEnabled
    royalties := (p.royalties.map RoyaltiesRequest.royalties).getD c.royalties }

/-- A patch that is applied again changes nothing more. -/
theorem result_result (p : ConfigPatch) (c : Config) : p.result (p.result c) = p.result c := by
  have getD_getD {α : Type} (given : Option α) (current : α) :
      given.getD (given.getD current) = given.getD current := by
    cases given <;> rfl
  simp only [result, Change.result_result, getD_getD]

/-- The addresses are changed exactly when each text that is given for one of them names it. -/
theorem applyAddresses_eq_ok_iff :
    p.applyAddresses c = (.ok u, c') ↔
      ((∀ text ∈ p.maintainer.value, IsAddress text) ∧ ¬ p.maintainer.Contradicts) ∧
      ((∀ text ∈ p.airdropper.value, IsAddress text) ∧ ¬ p.airdropper.Contradicts) ∧
      ((∀ text ∈ p.whitelist.value, IsAddress text) ∧ ¬ p.whitelist.Contradicts) ∧
      c' = { c with
        maintainer := p.maintainer.result c.maintainer
        airdropper := p.airdropper.result c.airdropper
        whitelist := p.whitelist.result c.whitelist } := by
  simp only [applyAddresses, Step.get_bind_apply, Step.lift_bind_eq_ok_iff, Step.modify_bind_apply,
    Step.modify_eq_ok_iff, Change.applyAddress_eq_ok_iff]
  constructor
  · rintro ⟨_, ⟨hmaintainer, hsame, rfl⟩, _, ⟨hairdropper, hsame', rfl⟩, _,
      ⟨hwhitelist, hsame'', rfl⟩, rfl⟩
    exact ⟨⟨hmaintainer, hsame⟩, ⟨hairdropper, hsame'⟩, ⟨hwhitelist, hsame''⟩, rfl⟩
  · rintro ⟨⟨hmaintainer, hsame⟩, ⟨hairdropper, hsame'⟩, ⟨hwhitelist, hsame''⟩, rfl⟩
    exact ⟨_, ⟨hmaintainer, hsame, rfl⟩, _, ⟨hairdropper, hsame', rfl⟩, _,
      ⟨hwhitelist, hsame'', rfl⟩, rfl⟩

/-- The instants of the sale are changed exactly when the end is not set and removed at once. -/
theorem applyWindow_eq_ok_iff :
    p.applyWindow c = (.ok u, c') ↔ ¬ p.endTime.Contradicts ∧
      c' = { c with
        startTime := p.startTime.getD c.startTime
        endTime := p.endTime.result c.endTime } := by
  simp only [applyWindow, Step.get_bind_apply, Step.lift_bind_eq_ok_iff, Step.modify_bind_apply,
    Step.modify_eq_ok_iff, Change.apply_eq_ok_iff]
  constructor
  · rintro ⟨_, ⟨hsame, rfl⟩, rfl⟩
    exact ⟨hsame, rfl⟩
  · rintro ⟨hsame, rfl⟩
    exact ⟨_, ⟨hsame, rfl⟩, rfl⟩

/-- The shares are changed exactly when each text that is given for an address names one. -/
theorem applyRoyalties_eq_ok_iff :
    p.applyRoyalties c = (.ok u, c') ↔
      (∀ text ∈ p.royalties.toList.flatMap RoyaltiesRequest.addresses, IsAddress text) ∧
      c' = { c with royalties := (p.royalties.map RoyaltiesRequest.royalties).getD c.royalties } := by
  unfold applyRoyalties
  cases p.royalties with
  | none =>
    constructor
    · intro h
      obtain ⟨-, rfl⟩ := Step.pure_eq_ok_iff.mp h
      exact ⟨by simp, rfl⟩
    · rintro ⟨-, rfl⟩
      rfl
  | some request =>
    simp only [Step.lift_bind_eq_ok_iff, Step.modify_eq_ok_iff, RoyaltiesRequest.validate_eq_ok_iff,
      Option.toList_some, List.flatMap_singleton, Option.map_some, Option.getD_some]
    constructor
    · rintro ⟨_, ⟨hnamed, rfl⟩, rfl⟩
      exact ⟨hnamed, rfl⟩
    · rintro ⟨hnamed, rfl⟩
      exact ⟨_, ⟨hnamed, rfl⟩, rfl⟩

/-- A patch is applied exactly when every text that it gives for an address names one and when it
sets nothing that it removes. The result is as it says. -/
theorem apply_eq_ok_iff :
    p.apply c = (.ok u, c') ↔
      (∀ text ∈ p.addresses, IsAddress text) ∧ p.Unambiguous ∧ c' = p.result c := by
  simp only [apply, Step.bind_eq_ok_iff, Step.modify_bind_apply, applyAddresses_eq_ok_iff,
    applyWindow_eq_ok_iff, applyRoyalties_eq_ok_iff, addresses, List.forall_mem_append,
    Option.mem_toList]
  constructor
  · rintro ⟨_, _, ⟨⟨hmaintainer, hsame⟩, ⟨hairdropper, hsame'⟩, ⟨hwhitelist, hsame''⟩, rfl⟩, _, _,
      ⟨hwindow, rfl⟩, hroyalties, rfl⟩
    exact ⟨⟨⟨⟨hmaintainer, hairdropper⟩, hwhitelist⟩, hroyalties⟩,
      ⟨hsame, hsame', hsame'', hwindow⟩, rfl⟩
  · rintro ⟨⟨⟨⟨hmaintainer, hairdropper⟩, hwhitelist⟩, hroyalties⟩,
      ⟨hsame, hsame', hsame'', hwindow⟩, rfl⟩
    exact ⟨(), _, ⟨⟨hmaintainer, hsame⟩, ⟨hairdropper, hsame'⟩, ⟨hwhitelist, hsame''⟩, rfl⟩, (), _,
      ⟨hwindow, rfl⟩, hroyalties, rfl⟩

end ConfigPatch

end ShuffleMint
