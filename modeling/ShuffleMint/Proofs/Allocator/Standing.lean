import ShuffleMint.Proofs.Allocator.Moves

/-!
# How tokens stand with an allocator

A token stands with an allocator as the status of its slot says. Each move changes how one token
stands, or none: the one whose slot is issued, held back or released. Issuing tokens is described by
that alone: which ones they are, how they stood before, and that all others stand as they did.
-/

namespace ShuffleMint

namespace Allocator

variable {a b c : Allocator} {slot : Nat} {t : Token}

/-- What has become of a token, if there is such a token. -/
def standing (a : Allocator) (t : Token) : Option SlotStatus :=
  match a.arena.slotOf t with
  | .ok slot => a.arena.status[slot]?
  | .error _ => none

/-- The slot of a token depends on the layout only. -/
theorem slotOf_congr (hlayout : b.arena.layout = a.arena.layout) :
    b.arena.slotOf = a.arena.slotOf := by
  funext t
  rw [Arena.slotOf, Arena.slotOf, hlayout]

/-- How tokens stand depends on the layout and the statuses only. -/
theorem standing_congr (hlayout : b.arena.layout = a.arena.layout)
    (hstatus : b.arena.status = a.arena.status) (t : Token) : b.standing t = a.standing t := by
  rw [standing, standing, slotOf_congr hlayout, hstatus]

/-- Fixing the order changes nothing in how tokens stand. -/
@[simp] theorem standing_reorder (order : List Nat) (t : Token) :
    (a.reorder order).standing t = a.standing t :=
  standing_congr rfl rfl t

/-- Setting the status of the slot of a token changes how the token stands, and no other. -/
theorem standing_set (h : a.arena.Covered) (hslot : a.arena.slotOf t = .ok slot)
    {status : SlotStatus} (hlayout : b.arena.layout = a.arena.layout)
    (hstatus : b.arena.status = a.arena.status.set slot status) (t' : Token) :
    b.standing t' = if t' = t then some status else a.standing t' := by
  rw [standing, slotOf_congr hlayout, hstatus]
  by_cases hsame : t' = t
  · rw [hsame, hslot, if_pos rfl]
    exact List.getElem?_set_self (h.lt_total_of_slotOf hslot)
  · rw [if_neg hsame, standing]
    cases hslot' : a.arena.slotOf t' with
    | error e => rfl
    | ok slot' =>
      refine List.getElem?_set_ne fun hslots => hsame ?_
      exact h.eq_of_slotOf hslot' (hslots ▸ hslot)

namespace Consistent

/-- A token stands as the status of the slot that stands for it says. -/
theorem standing_eq (h : a.Consistent) (htoken : a.arena.tokenOf slot = .ok t) :
    a.standing t = a.arena.status[slot]? := by
  rw [standing, h.arena.laid.slotOf_eq_ok_iff.mpr htoken]

/-- A token stands in some way exactly when it has a slot, which has that status. -/
theorem standing_eq_some_iff (h : a.Consistent) {status : SlotStatus} :
    a.standing t = some status ↔
      ∃ slot, a.arena.tokenOf slot = .ok t ∧ a.arena.status[slot]? = some status := by
  constructor
  · intro hstanding
    rw [standing] at hstanding
    split at hstanding
    · next slot hslot => exact ⟨slot, h.arena.laid.slotOf_eq_ok_iff.mp hslot, hstanding⟩
    · cases hstanding
  · rintro ⟨slot, htoken, hstatus⟩
    rw [h.standing_eq htoken, hstatus]

/-- A collection has no pending slot exactly when none of its tokens stands as pending. -/
theorem pendingIn_eq_zero_iff (h : a.Consistent) {collection : Nat} :
    a.arena.pendingIn collection = .ok 0 ↔
      ∀ t : Token, t.collection = collection → a.standing t ≠ some .pending := by
  rw [h.arena.pendingIn_eq, Except.ok.injEq, List.countP_eq_zero]
  constructor
  · intro hnone t ht hpending
    obtain ⟨slot, htoken, hstatus⟩ := h.standing_eq_some_iff.mp hpending
    refine hnone slot ((h.arena.pending_iff slot).mpr hstatus) (decide_eq_true ?_)
    rw [h.arena.laid.collection?_of_tokenOf htoken, ht]
  · intro hnone slot hslot hcollection
    have hpending := (h.arena.pending_iff slot).mp hslot
    obtain ⟨t, htoken⟩ := h.arena.exists_tokenOf_of_status hpending
    have hcollection := of_decide_eq_true hcollection
    rw [h.arena.laid.collection?_of_tokenOf htoken, Option.some.injEq] at hcollection
    exact hnone t hcollection ((h.standing_eq htoken).trans hpending)

/-- An issued token stands as issued; the others stand as before. -/
theorem standing_issueSlot (h : a.Consistent) (htoken : a.arena.tokenOf slot = .ok t)
    (t' : Token) :
    (a.issueSlot slot t).standing t' = if t' = t then some .issued else a.standing t' :=
  standing_set (b := a.issueSlot slot t)
    h.arena.laid.covered (h.arena.laid.slotOf_eq_ok_iff.mpr htoken) rfl rfl t'

/-- A token that is held back stands as it is held; the others stand as before. -/
theorem standing_holdSlot (h : a.Consistent) (htoken : a.arena.tokenOf slot = .ok t)
    (held : SlotStatus) (t' : Token) :
    (a.holdSlot slot held).standing t' = if t' = t then some held else a.standing t' :=
  standing_set (b := a.holdSlot slot held)
    h.arena.laid.covered (h.arena.laid.slotOf_eq_ok_iff.mpr htoken) rfl rfl t'

/-- A released token stands as pending; the others stand as before. -/
theorem standing_releaseSlot (h : a.Consistent) (htoken : a.arena.tokenOf slot = .ok t)
    (t' : Token) :
    (a.releaseSlot slot).standing t' = if t' = t then some .pending else a.standing t' :=
  standing_set (b := a.releaseSlot slot)
    h.arena.laid.covered (h.arena.laid.slotOf_eq_ok_iff.mpr htoken) rfl rfl t'

end Consistent

/-- The second allocator is the first after tokens are issued, each of which stood in one of the
given ways. All other tokens stand as before. -/
structure Issues (a : Allocator) (statuses : List SlotStatus) (tokens : List Token)
    (b : Allocator) : Prop where
  moves : a.Moves tokens b
  stood : ∀ t ∈ tokens, ∃ status ∈ statuses, a.standing t = some status
  standing : ∀ t, b.standing t = if t ∈ tokens then some .issued else a.standing t

namespace Issues

variable {statuses : List SlotStatus} {first second tokens : List Token}

/-- Nothing is issued by doing nothing. -/
theorem refl : a.Issues statuses [] a := ⟨.refl, by simp, by simp⟩

/-- Tokens are issued one group after the other; none of the second is one of the first. -/
theorem trans (h : a.Issues statuses first b) (h' : b.Issues statuses second c)
    (hissued : .issued ∉ statuses) : a.Issues statuses (first ++ second) c := by
  refine ⟨h.moves.trans h'.moves, fun t ht => ?_, fun t => ?_⟩
  · rcases List.mem_append.mp ht with ht | ht
    · exact h.stood t ht
    · obtain ⟨status, hstatus, hstood⟩ := h'.stood t ht
      rw [h.standing] at hstood
      split at hstood
      · exact absurd (Option.some.inj hstood ▸ hstatus) hissued
      · exact ⟨status, hstatus, hstood⟩
  · rw [h'.standing, h.standing]
    by_cases hsecond : t ∈ second <;> by_cases hfirst : t ∈ first <;> simp [hfirst, hsecond]

/-- Tokens that stood in one of some ways stood in one of more ways. -/
theorem mono {more : List SlotStatus} (h : a.Issues statuses tokens b) (hmore : statuses ⊆ more) :
    a.Issues more tokens b :=
  ⟨h.moves, fun t ht => (h.stood t ht).imp fun _ => And.imp_left fun hs => hmore hs, h.standing⟩

/-- What is issued after a change that left the standings alone is issued as well. -/
theorem of_standing_eq (h : b.Issues statuses tokens c) (hmoves : a.Moves [] b)
    (hstanding : ∀ t, b.standing t = a.standing t) : a.Issues statuses tokens c :=
  ⟨hmoves.trans h.moves, fun t ht => by simpa only [hstanding] using h.stood t ht,
    fun t => by rw [h.standing, hstanding]⟩

/-- A slot keeps its status or is issued. -/
theorem status_cases (h : a.Issues statuses tokens b) (ha : a.Consistent) (slot : Nat) :
    b.arena.status[slot]? = a.arena.status[slot]? ∨ b.arena.status[slot]? = some .issued := by
  by_cases hslot : slot < a.arena.total
  · obtain ⟨t, htoken⟩ := ha.arena.laid.exists_tokenOf hslot
    have hstanding := h.standing t
    have htoken' := htoken
    rw [← h.moves.tokenOf_eq] at htoken'
    rw [(h.moves.consistent ha).standing_eq htoken', ha.standing_eq htoken] at hstanding
    rw [hstanding]
    split
    · exact .inr rfl
    · exact .inl rfl
  · have htotal := h.moves.layout_total_eq.2
    rw [List.getElem?_eq_none (Nat.le_of_not_lt hslot),
      List.getElem?_eq_none (by rw [← Arena.total, htotal]; exact Nat.le_of_not_lt hslot)]
    exact .inl rfl

end Issues

namespace Consistent

/-- Issuing a slot issues its token. -/
theorem issues_issueSlot (h : a.Consistent) {statuses : List SlotStatus} {status : SlotStatus}
    (htoken : a.arena.tokenOf slot = .ok t) (hstatus : a.arena.status[slot]? = some status)
    (hallowed : status ∈ statuses) (hissued : .issued ∉ statuses) :
    a.Issues statuses [t] (a.issueSlot slot t) := by
  refine ⟨Moves.refl.issue htoken hstatus fun hsame => hissued (hsame ▸ hallowed), fun t' ht' => ?_,
    fun t' => ?_⟩
  · rw [List.mem_singleton.mp ht', h.standing_eq htoken]
    exact ⟨status, hallowed, hstatus⟩
  · rw [h.standing_issueSlot htoken]
    simp

/-- A draw issues a pending token. -/
theorem next_issues (h : a.Consistent) {collection : Option Nat}
    (hok : next collection a = (.ok t, b)) : a.Issues [.pending] [t] b := by
  obtain ⟨slot, -, htoken, hpending, rfl⟩ := h.next_eq_ok hok
  exact h.issues_issueSlot htoken hpending (by simp) (by simp)

/-- A draw from a collection yields a token of the collection. -/
theorem collection_of_next (h : a.Consistent) {collection : Nat}
    (hok : next (some collection) a = (.ok t, b)) : t.collection = collection := by
  obtain ⟨slot, hnext, htoken, -, -⟩ := h.next_eq_ok hok
  have hcollection := Arena.collection?_of_nextSlot? hnext
  rw [h.arena.laid.collection?_of_tokenOf htoken] at hcollection
  exact Option.some.inj hcollection

/-- A claim issues a token that is pending or reserved. -/
theorem claim_issues (h : a.Consistent) (hok : claim t a = (.ok (), b)) :
    a.Issues [.pending, .reserved] [t] b := by
  rcases h.token_cases t with ⟨e, hslot⟩ | ⟨slot, status, htoken, hstatus⟩
  · rw [h.claim_apply_invalid hslot] at hok
    cases hok
  · rw [h.claim_apply htoken hstatus] at hok
    cases status with
    | issued | staged => cases hok
    | pending | reserved =>
      obtain rfl := (Prod.mk.inj hok).2
      exact h.issues_issueSlot htoken hstatus (by simp) (by simp)

/-- A claim from the custom bundle issues a staged token. -/
theorem claimStaged_issues (h : a.Consistent) (hok : claimStaged t a = (.ok (), b)) :
    a.Issues [.staged] [t] b := by
  rcases h.token_cases t with ⟨e, hslot⟩ | ⟨slot, status, htoken, hstatus⟩
  · rw [h.claimStaged_apply_invalid hslot] at hok
    cases hok
  · rw [h.claimStaged_apply htoken hstatus] at hok
    cases status with
    | issued | pending | reserved => cases hok
    | staged =>
      obtain rfl := (Prod.mk.inj hok).2
      exact h.issues_issueSlot htoken hstatus (by simp) (by simp)

/-- A staged token can be claimed from the custom bundle. -/
theorem exists_claimStaged (h : a.Consistent) (hstaged : a.standing t = some .staged) :
    ∃ b, claimStaged t a = (.ok (), b) := by
  obtain ⟨slot, htoken, hstatus⟩ := h.standing_eq_some_iff.mp hstaged
  exact ⟨_, h.claimStaged_apply htoken hstatus⟩

/-- Shuffling leaves the standings alone. -/
theorem standing_initializeShuffle {seed : Seed} (hok : initializeShuffle seed a = (.ok (), b))
    (t : Token) : b.standing t = a.standing t := by
  rw [initializeShuffle_apply] at hok
  split at hok
  · cases hok
  · split at hok
    · cases hok
    · rw [← (Prod.mk.inj hok).2, standing_reorder]

/-- Shuffling unless that is done leaves the standings alone. -/
theorem standing_ensureShuffled {seed : Seed} (hok : ensureShuffled seed a = (.ok (), b))
    (t : Token) : b.standing t = a.standing t := by
  rw [ensureShuffled_apply] at hok
  split at hok
  · rw [(Prod.mk.inj hok).2]
  · exact standing_initializeShuffle hok t

/-- Staging holds a pending token for the custom bundle. -/
theorem stage_standing (h : a.Consistent) (hok : stage t a = (.ok (), b)) :
    a.standing t = some .pending ∧
      ∀ t', b.standing t' = if t' = t then some .staged else a.standing t' := by
  rcases h.token_cases t with ⟨e, hslot⟩ | ⟨slot, status, htoken, hstatus⟩
  · rw [stage, h.hold_apply_invalid hslot] at hok
    cases hok
  · rw [stage, h.hold_apply htoken hstatus] at hok
    cases status with
    | issued | staged | reserved => cases hok
    | pending =>
      obtain rfl := (Prod.mk.inj hok).2
      exact ⟨(h.standing_eq htoken).trans hstatus, h.standing_holdSlot htoken .staged⟩

/-- Releasing a token makes it pending if it was staged. -/
theorem unstage_standing (h : a.Consistent) {wasStaged : Bool}
    (hok : unstage t a = (.ok wasStaged, b)) (t' : Token) :
    b.standing t' =
      if t' = t ∧ a.standing t' = some .staged then some .pending else a.standing t' := by
  rcases h.token_cases t with ⟨e, hslot⟩ | ⟨slot, status, htoken, hstatus⟩
  · rw [h.unstage_apply_invalid hslot] at hok
    cases hok
  · have hstanding := (h.standing_eq htoken).trans hstatus
    rw [h.unstage_apply htoken hstatus] at hok
    cases status with
    | staged =>
      rw [← (Prod.mk.inj hok).2, h.standing_releaseSlot htoken]
      by_cases hsame : t' = t <;> simp [hsame, hstanding]
    | issued | pending | reserved =>
      rw [← (Prod.mk.inj hok).2, if_neg]
      rintro ⟨rfl, hstaged⟩
      rw [hstanding] at hstaged
      cases hstaged

/-- Reserving a token if it is pending holds it for whom it is promised to. -/
theorem reserveIfPending_standing (h : a.Consistent) {reserved : Bool}
    (hok : reserveIfPending t a = (.ok reserved, b)) (t' : Token) :
    b.standing t' =
      if t' = t ∧ a.standing t' = some .pending then some .reserved else a.standing t' := by
  rcases h.token_cases t with ⟨e, hslot⟩ | ⟨slot, status, htoken, hstatus⟩
  · rw [h.reserveIfPending_apply_invalid hslot] at hok
    rw [← (Prod.mk.inj hok).2, if_neg]
    rintro ⟨rfl, hpending⟩
    rw [standing, hslot] at hpending
    cases hpending
  · have hstanding := (h.standing_eq htoken).trans hstatus
    rw [h.reserveIfPending_apply htoken hstatus] at hok
    cases status with
    | pending =>
      rw [← (Prod.mk.inj hok).2, h.standing_holdSlot htoken]
      by_cases hsame : t' = t <;> simp [hsame, hstanding]
    | issued | staged | reserved =>
      rw [← (Prod.mk.inj hok).2, if_neg]
      rintro ⟨rfl, hpending⟩
      rw [hstanding] at hpending
      cases hpending

end Consistent

end Allocator

end ShuffleMint
