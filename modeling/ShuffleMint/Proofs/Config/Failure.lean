import ShuffleMint.Proofs.Check
import ShuffleMint.Proofs.Config.Patch
import ShuffleMint.Proofs.Config.Validity
import ShuffleMint.Proofs.Lifecycle

/-!
# How settings are refused

A request for a setup or a patch is read text by text, and the configuration that it leads to is
checked as a whole. All of this rejects what it does not accept, with one exception: the points of
the revenue shares and those of the royalties are added up before their total is compared with its
bound, so points that are no count together abort. The supplies of collections are bounded before
they are added up for the layout.
-/

namespace ShuffleMint

open Outcome (FailsAsCheck failsAsCheck_ok failsAsCheck_reject failsAsCheck_abort)
open Step (FailsOnly RejectsUnless)

/-- The points of the revenue shares or those of the royalties add up to no count. -/
def Royalties.Overflows (r : Royalties) : Prop :=
  countBound ≤ Share.sumPoints r.revenue ∨ countBound ≤ Share.sumPoints r.secondary

/-- The points that a caller asks for add up to no count. -/
def RoyaltiesRequest.Overflows (r : RoyaltiesRequest) : Prop :=
  countBound ≤ (r.revenue.map ShareRequest.points).sum ∨
    countBound ≤ (r.secondary.map ShareRequest.points).sum

variable {overflow : Prop}

/-! ## Shares -/

/-- Shares are rejected for the address of one of them. -/
theorem ShareRequest.validateAll_failsAsCheck (requests : List ShareRequest) :
    (validateAll requests).FailsAsCheck overflow := by
  induction requests with
  | nil => exact failsAsCheck_ok _
  | cons request rest ih =>
    refine (validateAddress_failsAsCheck request.address).bind fun address _ => ?_
    exact ih.bind fun shares _ => failsAsCheck_ok _

/-- Shares keep the points that are asked for. -/
theorem ShareRequest.sumPoints_validateAll {requests : List ShareRequest} {shares : List Share}
    (h : validateAll requests = .ok shares) :
    Share.sumPoints shares = (requests.map ShareRequest.points).sum := by
  induction requests generalizing shares with
  | nil =>
    obtain rfl := Except.ok.inj h
    rfl
  | cons request rest ih =>
    obtain ⟨address, -, hothers⟩ := Outcome.bind_eq_ok_iff.mp h
    obtain ⟨others, hrest, hshares⟩ := Outcome.bind_eq_ok_iff.mp hothers
    obtain rfl := Except.ok.inj hshares
    rw [Share.sumPoints, ih hrest, List.map_cons, List.sum_cons]

namespace RoyaltiesRequest

/-- Royalties are rejected for the address of one of the shares. -/
theorem validate_failsAsCheck (r : RoyaltiesRequest) : r.validate.FailsAsCheck overflow := by
  refine (ShareRequest.validateAll_failsAsCheck r.revenue).bind fun revenue _ => ?_
  refine (ShareRequest.validateAll_failsAsCheck r.secondary).bind fun secondary _ => ?_
  exact failsAsCheck_ok _

/-- Royalties overflow when what is asked for does. -/
theorem overflows_iff {r : RoyaltiesRequest} {royalties : Royalties}
    (h : r.validate = .ok royalties) : royalties.Overflows ↔ r.Overflows := by
  obtain ⟨revenue, hrevenue, hrest⟩ := Outcome.bind_eq_ok_iff.mp h
  obtain ⟨secondary, hsecondary, hroyalties⟩ := Outcome.bind_eq_ok_iff.mp hrest
  obtain rfl := Except.ok.inj hroyalties
  rw [Royalties.Overflows, Overflows, ShareRequest.sumPoints_validateAll hrevenue,
    ShareRequest.sumPoints_validateAll hsecondary]

end RoyaltiesRequest

/-! ## The rules of a configuration -/

/-- A text that is no denomination is rejected. -/
theorem Denom.validate_failsAsCheck (denom : String) :
    (Denom.validate denom).FailsAsCheck overflow := by
  unfold Denom.validate
  split
  · exact failsAsCheck_ok _
  · exact failsAsCheck_reject rfl

/-- Points without a total abort. -/
theorem Share.total_failsAsCheck (shares : List Share) :
    (total shares).FailsAsCheck (countBound ≤ sumPoints shares) := by
  unfold total
  split
  · exact failsAsCheck_ok _
  · next hbound => exact failsAsCheck_abort (Nat.not_lt.mp hbound)

/-- Revenue shares are rejected, unless their points have no total. -/
theorem Royalties.validateRevenue_failsAsCheck (shares : List Share) :
    (validateRevenue shares).FailsAsCheck (countBound ≤ Share.sumPoints shares) := by
  refine (Share.total_failsAsCheck shares).bind fun points _ => ?_
  split
  · exact failsAsCheck_reject rfl
  · split
    · exact failsAsCheck_reject rfl
    · exact failsAsCheck_ok _

/-- So are royalties. -/
theorem Royalties.validateSecondary_failsAsCheck (shares : List Share) :
    (validateSecondary shares).FailsAsCheck (countBound ≤ Share.sumPoints shares) := by
  refine (Share.total_failsAsCheck shares).bind fun points _ => ?_
  split
  · exact failsAsCheck_reject rfl
  · split
    · exact failsAsCheck_reject rfl
    · exact failsAsCheck_ok _

namespace Config

/-- A sale that starts after it ends is rejected. -/
theorem validateWindow_failsAsCheck (c : Config) : c.validateWindow.FailsAsCheck overflow := by
  unfold validateWindow
  split
  · split
    · exact failsAsCheck_reject rfl
    · exact failsAsCheck_ok _
  · exact failsAsCheck_ok _

/-- A number of tokens out of its bounds is rejected. -/
theorem validateSupply_failsAsCheck (c : Config) : c.validateSupply.FailsAsCheck overflow := by
  unfold validateSupply
  split
  · exact failsAsCheck_ok _
  · exact failsAsCheck_reject rfl

/-- So is a cap. -/
theorem validateCap_failsAsCheck (c : Config) (field : CapField) (cap : Nat) :
    (c.validateCap field cap).FailsAsCheck overflow := by
  unfold validateCap
  split
  · exact failsAsCheck_reject rfl
  · exact failsAsCheck_ok _

/-- A configuration that is not valid is rejected, unless points of its shares have no total. -/
theorem validate_failsAsCheck (c : Config) : c.validate.FailsAsCheck c.royalties.Overflows := by
  refine c.validateWindow_failsAsCheck.bind fun _ _ => ?_
  refine c.validateSupply_failsAsCheck.bind fun _ _ => ?_
  refine (c.validateCap_failsAsCheck _ _).bind fun _ _ => ?_
  refine (c.validateCap_failsAsCheck _ _).bind fun _ _ => ?_
  refine (Denom.validate_failsAsCheck c.denom).bind fun _ _ => ?_
  refine ((Royalties.validateRevenue_failsAsCheck _).imp .inl).bind fun _ _ => ?_
  exact (Royalties.validateSecondary_failsAsCheck _).imp .inr

/-- The points of a valid configuration have their totals. -/
theorem not_overflows_of_validate {c : Config} (h : c.validate = .ok ()) :
    ¬ c.royalties.Overflows := by
  have hvalid := validate_eq_ok_iff.mp h
  have hrevenue := hvalid.revenue.1
  have hsecondary := hvalid.secondary.1
  have hcount : countBound = 0x100000000 := rfl
  unfold Royalties.Overflows
  omega

end Config

/-! ## Patches -/

/-- A change that sets and removes a setting is rejected. -/
theorem Change.apply_failsAsCheck {α : Type} (field : RemovableField) (current : Option α)
    (change : Change α) : (change.apply field current).FailsAsCheck overflow := by
  unfold apply
  split
  · exact failsAsCheck_reject rfl
  all_goals exact failsAsCheck_ok _

/-- So is one that sets an address to another text. -/
theorem Change.applyAddress_failsAsCheck (field : RemovableField) (current : Option Address)
    (change : Change String) : (change.applyAddress field current).FailsAsCheck overflow :=
  (validateAddress?_failsAsCheck change.value).bind fun _ _ => apply_failsAsCheck _ _ _

namespace ConfigPatch

variable {c c' : Config}

/-- A patch that does not apply is rejected. -/
theorem rejectsUnless_apply (p : ConfigPatch) :
    RejectsUnless overflow p.apply c := by
  have hmodify (f : Config → Config) (c : Config) :
      RejectsUnless overflow (Step.modify f) c := Step.failsOnly_of_ok rfl
  refine FailsOnly.bind ?_ fun _ _ _ => FailsOnly.bind ?_ fun _ _ _ =>
    (hmodify _ _).bind fun _ _ _ => ?_
  · refine Step.failsOnly_get_bind ?_
    refine Step.rejectsUnless_check_bind (Change.applyAddress_failsAsCheck _ _ _) fun _ _ =>
      (hmodify _ _).bind fun _ _ _ => ?_
    refine Step.rejectsUnless_check_bind (Change.applyAddress_failsAsCheck _ _ _) fun _ _ =>
      (hmodify _ _).bind fun _ _ _ => ?_
    exact Step.rejectsUnless_check_bind (Change.applyAddress_failsAsCheck _ _ _) fun _ _ =>
      hmodify _ _
  · refine (hmodify _ _).bind fun _ _ _ => Step.failsOnly_get_bind ?_
    exact Step.rejectsUnless_check_bind (Change.apply_failsAsCheck _ _ _) fun _ _ => hmodify _ _
  · unfold applyRoyalties
    split
    · next request _ =>
      exact Step.rejectsUnless_check_bind request.validate_failsAsCheck fun _ _ => hmodify _ _
    · exact Step.failsOnly_of_ok rfl

/-- A patch sets the shares that it asks for, or leaves them alone. -/
theorem royalties_apply {p : ConfigPatch} (h : p.apply c = (.ok (), c')) :
    (∃ request, p.royalties = some request ∧ request.validate = .ok c'.royalties) ∨
      c'.royalties = c.royalties := by
  obtain ⟨hnamed, -, rfl⟩ := apply_eq_ok_iff.mp h
  cases hset : p.royalties with
  | none =>
    refine .inr ?_
    rw [result, hset]
    rfl
  | some request =>
    refine .inl ⟨request, rfl, RoyaltiesRequest.validate_eq_ok_iff.mpr ⟨fun text htext => ?_, ?_⟩⟩
    · refine hnamed text (List.mem_append_right _ ?_)
      rwa [hset, Option.toList_some, List.flatMap_singleton]
    · rw [result, hset]
      rfl

end ConfigPatch

/-! ## Setups -/

namespace CollectionRequest

/-- A collection that is not valid is rejected. -/
theorem validateEach_failsAsCheck (requests : List CollectionRequest) :
    (validateEach requests).FailsAsCheck overflow := by
  induction requests with
  | nil => exact failsAsCheck_ok _
  | cons request rest ih =>
    refine FailsAsCheck.bind ?_ fun _ _ => ih
    unfold validate
    split
    · exact failsAsCheck_reject rfl
    · split
      · exact failsAsCheck_reject rfl
      · split
        · exact failsAsCheck_reject rfl
        · exact failsAsCheck_ok _

/-- So are collections that have too many tokens together, however many. -/
theorem validateAll_failsAsCheck (requests : List CollectionRequest) :
    (validateAll requests).FailsAsCheck overflow := by
  refine (validateEach_failsAsCheck requests).bind fun _ _ => ?_
  dsimp only
  split
  · exact failsAsCheck_ok _
  · exact failsAsCheck_reject rfl

end CollectionRequest

namespace Setup

variable {m : Setup} {s : Store}

/-- A sale that has started or ended is rejected, and so is a collaborator that comes twice. -/
theorem validateRequest_failsAsCheck (m : Setup) (now : Nat) :
    (m.validateRequest now).FailsAsCheck overflow := by
  unfold validateRequest
  split
  · exact failsAsCheck_reject rfl
  · split
    · exact failsAsCheck_reject rfl
    · split
      · exact failsAsCheck_reject rfl
      · split
        · exact failsAsCheck_reject rfl
        · exact failsAsCheck_ok _

/-- The administrator of a mint is rejected for its address. -/
theorem role_failsAsCheck (choice : AdminChoice) (sender : Address) :
    (choice.role sender).FailsAsCheck overflow := by
  cases choice with
  | address text => exact (validateAddress_failsAsCheck text).map _
  | creator | nobody => exact failsAsCheck_ok _

/-- The first configuration is rejected for one of its addresses. -/
theorem config_failsAsCheck (m : Setup) (sender : Address) (totalSupply : Nat) :
    (m.config sender totalSupply).FailsAsCheck overflow := by
  refine (role_failsAsCheck _ sender).bind fun _ _ => ?_
  refine (validateAddress?_failsAsCheck _).bind fun _ _ => ?_
  refine (validateAddress?_failsAsCheck _).bind fun _ _ => ?_
  refine (validateAddress?_failsAsCheck _).bind fun _ _ => ?_
  exact m.royalties.validate_failsAsCheck.bind fun _ _ => failsAsCheck_ok _

/-- The first configuration has the shares that are asked for. -/
theorem royalties_config {sender : Address} {totalSupply : Nat} {c : Config}
    (h : m.config sender totalSupply = .ok c) : m.royalties.validate = .ok c.royalties := by
  simp only [config, Outcome.bind_eq_ok_iff] at h
  obtain ⟨_, -, _, -, _, -, _, -, royalties, hroyalties, hc⟩ := h
  obtain rfl := Except.ok.inj hc
  exact hroyalties

/-- A setup that fails is rejected, unless the points of its shares add up to no count. -/
theorem rejectsUnless_run (m : Setup) (env : Env) (sender : Address) :
    RejectsUnless m.royalties.Overflows (m.run env sender) s := by
  refine FailsOnly.bind (Step.failsOnly_of_ok rfl) fun _ _ _ => ?_
  refine Step.rejectsUnless_check_bind (m.validateRequest_failsAsCheck _) fun _ _ => ?_
  refine Step.rejectsUnless_check_bind (CollectionRequest.validateAll_failsAsCheck _)
    fun collections hcollections => ?_
  refine Step.rejectsUnless_check_bind (m.config_failsAsCheck _ _) fun c hconfig => ?_
  refine Step.rejectsUnless_check_bind (c.validate_failsAsCheck.imp
    (RoyaltiesRequest.overflows_iff (royalties_config hconfig)).mp) fun _ _ => ?_
  obtain ⟨a, ha, -⟩ := CollectionRequest.exists_ofCollections hcollections
  refine FailsOnly.bind (Step.failsOnly_of_ok rfl) fun _ _ _ => ?_
  refine FailsOnly.bind (Step.failsOnly_of_ok (Step.lift_eq_ok_iff.mpr ⟨ha, rfl⟩)) fun _ _ _ => ?_
  -- What is left of the setup writes to the store.
  refine FailsOnly.bind (Step.failsOnly_of_ok rfl) fun _ _ _ => ?_
  refine FailsOnly.bind (Step.failsOnly_of_ok rfl) fun _ _ _ => ?_
  exact FailsOnly.bind (Step.failsOnly_of_ok rfl) fun _ _ _ => Step.failsOnly_of_ok rfl

end Setup

end ShuffleMint
