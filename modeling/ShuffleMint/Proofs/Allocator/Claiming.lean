import ShuffleMint.Proofs.Allocator.Cleaning
import ShuffleMint.Proofs.Allocator.Histories

/-!
# Claiming tokens that are held back, or directly

A pending token is claimed by bringing its slot to the cursor; one that is reserved or staged is put
there from outside the order. The orders in between are different, but issuing a slot does not look
at them: it takes no notice of whether the slot was held back before, and holding back other slots
can be put off until after it. So it makes no difference in the end whether a list of pending tokens
is reserved first, staged first or claimed as it is.
-/

namespace ShuffleMint

namespace Allocator

variable {a : Allocator} {slot : Nat} {t : Token} {held : SlotStatus}

/-- The allocator with a token issued. -/
def withIssued (a : Allocator) (t : Token) : Allocator :=
  match a.arena.slotOf t with
  | .ok slot => a.issueSlot slot t
  | .error _ => a

/-! ## Issuing what is held back -/

/-- A slot can be held back before another one is issued or after it. -/
theorem issueSlot_withSlotHeld_comm {slot' : Nat} (hne : slot' ≠ slot) (held : SlotStatus)
    (a : Allocator) (t : Token) :
    (a.withSlotHeld held slot').issueSlot slot t = (a.issueSlot slot t).withSlotHeld held slot' := by
  have hstatus : (a.issueSlot slot t).arena.status[slot']? = a.arena.status[slot']? :=
    List.getElem?_set_ne (Ne.symm hne)
  unfold withSlotHeld
  rw [hstatus]
  split
  · exact congrArg (Allocator.mk · _) (Arena.issue_hold_comm slot' slot hne held)
  · rfl

/-- A slot that is listed once and is held back first is issued as if it were not held back. -/
theorem issueSlot_withSlotHeld_self (h : a.arena.pendingSlots.Nodup) (held : SlotStatus)
    (slot : Nat) (t : Token) : (a.withSlotHeld held slot).issueSlot slot t = a.issueSlot slot t := by
  unfold withSlotHeld
  split
  · exact congrArg (Allocator.mk · _) (Arena.issue_hold_self slot h held)
  · rfl

/-- A token can be held back before another one is issued or after it. -/
theorem withIssued_withHeld_comm (h : a.arena.Covered) {t' : Token} (hne : t' ≠ t) :
    (a.withHeld held t').withIssued t = (a.withIssued t).withHeld held t' := by
  have hheld (slot : Nat) : (a.withSlotHeld held slot).arena.slotOf = a.arena.slotOf :=
    slotOf_congr (layout_withSlotHeld held a slot)
  have hissued (slot : Nat) : (a.issueSlot slot t).arena.slotOf = a.arena.slotOf :=
    slotOf_congr rfl
  cases hslot : a.arena.slotOf t with
  | error e =>
    cases hslot' : a.arena.slotOf t' with
    | error e' => simp only [withIssued, withHeld, hslot, hslot']
    | ok slot' => simp only [withIssued, withHeld, hslot, hslot', hheld]
  | ok slot =>
    cases hslot' : a.arena.slotOf t' with
    | error e' => simp only [withIssued, withHeld, hslot, hslot', hissued]
    | ok slot' =>
      have hslots : slot' ≠ slot := fun hsame => hne (h.eq_of_slotOf hslot' (hsame ▸ hslot))
      simp only [withIssued, withHeld, hslot, hslot', hheld, hissued]
      exact issueSlot_withSlotHeld_comm hslots held a t

/-- Tokens can be held back before another one is issued or after it. -/
theorem withIssued_foldl_withHeld (h : a.arena.Searchable) (hheld : held ≠ .pending)
    {tokens : List Token} (ht : t ∉ tokens) :
    (tokens.foldl (withHeld held) a).withIssued t =
      tokens.foldl (withHeld held) (a.withIssued t) := by
  induction tokens generalizing a with
  | nil => rfl
  | cons t' rest ih =>
    obtain ⟨hne, hrest⟩ := not_or.mp (List.mem_cons.not.mp ht)
    rw [List.foldl_cons, List.foldl_cons, ih (h.withHeld hheld t') hrest,
      withIssued_withHeld_comm h.covered (Ne.symm hne)]

namespace Consistent

/-- A token that is held back first is issued as if it were not held back. -/
theorem withIssued_withHeld (h : a.Consistent) (held : SlotStatus) (t : Token) :
    (a.withHeld held t).withIssued t = a.withIssued t := by
  cases hslot : a.arena.slotOf t with
  | error e => simp only [Allocator.withIssued, withHeld, hslot]
  | ok slot =>
    have hkept : (a.withSlotHeld held slot).arena.slotOf = a.arena.slotOf :=
      slotOf_congr (layout_withSlotHeld held a slot)
    simp only [Allocator.withIssued, withHeld, hslot, hkept]
    exact issueSlot_withSlotHeld_self h.arena.pending_nodup held slot t

/-- Issuing a token that is not issued keeps an allocator consistent, and the other tokens stand as
before. -/
theorem withIssued (h : a.Consistent) {status : SlotStatus} (hstood : a.standing t = some status)
    (hfresh : status ≠ .issued) :
    (a.withIssued t).Consistent ∧ ∀ t' ≠ t, (a.withIssued t).standing t' = a.standing t' := by
  obtain ⟨slot, htoken, hstatus⟩ := h.standing_eq_some_iff.mp hstood
  have hissue : a.withIssued t = a.issueSlot slot t := by
    rw [Allocator.withIssued, h.arena.laid.slotOf_eq_ok_iff.mpr htoken]
  rw [hissue]
  exact ⟨h.issueSlot htoken hstatus hfresh, fun t' hne => by
    rw [h.standing_issueSlot htoken, if_neg hne]⟩

/-- Tokens that are all held back and then issued in turn are issued as if they were not held back. -/
theorem foldl_withIssued_withHeld (h : a.Consistent) (hheld : held ≠ .pending)
    {tokens : List Token} (hnodup : tokens.Nodup)
    (hpending : ∀ t ∈ tokens, a.standing t = some .pending) :
    tokens.foldl Allocator.withIssued (tokens.foldl (withHeld held) a) =
      tokens.foldl Allocator.withIssued a := by
  induction tokens generalizing a with
  | nil => rfl
  | cons t rest ih =>
    obtain ⟨ht, hrest⟩ := List.nodup_cons.mp hnodup
    obtain ⟨hissued, hothers⟩ := h.withIssued (hpending t (List.mem_cons_self ..)) (by simp)
    have hstill : ∀ t' ∈ rest, (a.withIssued t).standing t' = some .pending := fun t' ht' => by
      rw [hothers t' fun hsame => ht (hsame ▸ ht')]
      exact hpending t' (List.mem_cons_of_mem _ ht')
    rw [List.foldl_cons, List.foldl_cons, List.foldl_cons,
      withIssued_foldl_withHeld (h.arena.searchable.withHeld hheld t) hheld ht,
      h.withIssued_withHeld, ih hissued hrest hstill]

/-! ## The operations on lists of tokens -/

/-- An operation that succeeds on tokens that stand in some way, and that changes no other token,
succeeds on different ones of them in turn. -/
theorem forEach_apply {operate : Token → Step Allocator Unit} {f : Allocator → Token → Allocator}
    {statuses : List SlotStatus}
    (hone : ∀ (a : Allocator) (t : Token), a.Consistent →
      (∃ status ∈ statuses, a.standing t = some status) → operate t a = (.ok (), f a t) ∧
        (f a t).Consistent ∧ ∀ t' ≠ t, (f a t).standing t' = a.standing t')
    (h : a.Consistent) {tokens : List Token} (hnodup : tokens.Nodup)
    (hstood : ∀ t ∈ tokens, ∃ status ∈ statuses, a.standing t = some status) :
    Step.forEach operate tokens a = (.ok (tokens.map fun _ => ()), tokens.foldl f a) ∧
      (tokens.foldl f a).Consistent := by
  induction tokens generalizing a with
  | nil => exact ⟨rfl, h⟩
  | cons t rest ih =>
    obtain ⟨ht, hrest⟩ := List.nodup_cons.mp hnodup
    obtain ⟨hok, hafter, hothers⟩ := hone a t h (hstood t (List.mem_cons_self ..))
    obtain ⟨hlater, hconsistent⟩ := ih hafter hrest fun t' ht' => by
      rw [hothers t' fun hsame => ht (hsame ▸ ht')]
      exact hstood t' (List.mem_cons_of_mem _ ht')
    refine ⟨?_, hconsistent⟩
    rw [Step.forEach_cons, Step.bind_of_ok hok, Step.bind_of_ok hlater]
    rfl

/-- Tokens that are pending or reserved are claimed in turn. -/
theorem forEach_claim (h : a.Consistent) {tokens : List Token} (hnodup : tokens.Nodup)
    (hstood : ∀ t ∈ tokens, ∃ status ∈ [SlotStatus.pending, .reserved],
      a.standing t = some status) :
    Step.forEach claim tokens a =
      (.ok (tokens.map fun _ => ()), tokens.foldl Allocator.withIssued a) := by
  refine (forEach_apply (fun a t ha hstood => ?_) h hnodup hstood).1
  obtain ⟨status, hallowed, hstanding⟩ := hstood
  obtain ⟨slot, htoken, hstatus⟩ := ha.standing_eq_some_iff.mp hstanding
  have hfresh : status ≠ .issued := by rintro rfl; simp at hallowed
  refine ⟨?_, ha.withIssued hstanding hfresh⟩
  rw [ha.claim_apply htoken hstatus, Allocator.withIssued,
    ha.arena.laid.slotOf_eq_ok_iff.mpr htoken]
  cases status with
  | pending | reserved => rfl
  | issued | staged => simp at hallowed

/-- Staged tokens are claimed in turn. -/
theorem forEach_claimStaged (h : a.Consistent) {tokens : List Token} (hnodup : tokens.Nodup)
    (hstood : ∀ t ∈ tokens, ∃ status ∈ [SlotStatus.staged], a.standing t = some status) :
    Step.forEach claimStaged tokens a =
      (.ok (tokens.map fun _ => ()), tokens.foldl Allocator.withIssued a) := by
  refine (forEach_apply (fun a t ha hstood => ?_) h hnodup hstood).1
  obtain ⟨status, hallowed, hstanding⟩ := hstood
  obtain rfl := List.mem_singleton.mp hallowed
  obtain ⟨slot, htoken, hstatus⟩ := ha.standing_eq_some_iff.mp hstanding
  refine ⟨?_, ha.withIssued hstanding (by simp)⟩
  rw [ha.claimStaged_apply htoken hstatus, Allocator.withIssued,
    ha.arena.laid.slotOf_eq_ok_iff.mpr htoken]

/-- Pending tokens are staged in turn. -/
theorem forEach_stage (h : a.Consistent) {tokens : List Token} (hnodup : tokens.Nodup)
    (hstood : ∀ t ∈ tokens, ∃ status ∈ [SlotStatus.pending], a.standing t = some status) :
    Step.forEach stage tokens a =
        (.ok (tokens.map fun _ => ()), tokens.foldl (withHeld .staged) a) ∧
      (tokens.foldl (withHeld .staged) a).Consistent := by
  refine forEach_apply (fun a t ha hstood => ?_) h hnodup hstood
  obtain ⟨status, hallowed, hstanding⟩ := hstood
  obtain rfl := List.mem_singleton.mp hallowed
  obtain ⟨slot, htoken, hstatus⟩ := ha.standing_eq_some_iff.mp hstanding
  have hhold : a.withHeld .staged t = a.holdSlot slot .staged := by
    simp only [withHeld, ha.arena.laid.slotOf_eq_ok_iff.mpr htoken, withSlotHeld, hstatus, if_true]
  rw [hhold]
  exact ⟨ha.hold_apply htoken hstatus .staged, ha.holdSlot hstatus (.inr rfl), fun t' hne => by
    rw [ha.standing_holdSlot htoken, if_neg hne]⟩

end Consistent

/-- However an allocator of collections was used, different pending tokens can be claimed one after
the other, and it makes no difference whether all of them are reserved first, listed in whatever
order and however often, and then claimed, or whether all of them are staged first and then claimed
as staged ones: each way succeeds and ends in the same allocator. -/
theorem claims_agree (collections : List (Nat × Nat))
    (hdistinct : (collections.map Prod.fst).Nodup)
    (hbounded : (collections.map Prod.snd).sum < countBound) :
    ∃ start, ofCollections collections = .ok start ∧
      ∀ (history : List Operation) (a : Allocator), a = start.after history →
        ∀ tokens : List Token, tokens.Nodup → (∀ t ∈ tokens, a.standing t = some .pending) →
          ∃ b, Step.forEach claim tokens a = (.ok (tokens.map fun _ => ()), b) ∧
            (∀ listed : List Token, (∀ t, t ∈ listed ↔ t ∈ tokens) →
              ∃ c, reserveAll listed a = (.ok tokens.length, c) ∧
                Step.forEach claim tokens c = (.ok (tokens.map fun _ => ()), b)) ∧
            ∀ listed : List Token, listed.Perm tokens →
              ∃ c, Step.forEach stage listed a = (.ok (listed.map fun _ => ()), c) ∧
                Step.forEach claimStaged tokens c = (.ok (tokens.map fun _ => ()), b) := by
  obtain ⟨start, hstart, hconsistent, -⟩ := exists_ofCollections hdistinct hbounded
  refine ⟨start, hstart, fun history a ha tokens hnodup hpending => ?_⟩
  have h : a.Consistent := ha ▸ (hconsistent.after history).1
  have hsearchable := h.arena.searchable
  -- All tokens stand as they are held once all of them are held back.
  have hstanding {held : SlotStatus} (hheld : held ≠ .pending) (t : Token) (ht : t ∈ tokens) :
      (tokens.foldl (withHeld held) a).standing t = some held := by
    rw [(hsearchable.withholds_foldl hheld tokens).standing, if_pos ⟨ht, hpending t ht⟩]
  refine ⟨_, h.forEach_claim hnodup fun t ht => ⟨.pending, by simp, hpending t ht⟩,
    fun listed hsame => ?_, fun listed hperm => ?_⟩
  · have hcount : a.pendingAmong listed = tokens.length := by
      rw [pendingAmong_congr hsame, pendingAmong, Finset.filter_true_of_mem fun t ht =>
        hpending t (List.mem_toFinset.mp ht), List.toFinset_card_of_nodup hnodup]
    have hreserve := hsearchable.reserveAll_eq listed
    rw [hcount, foldl_withHeld_congr (by simp) hsame] at hreserve
    obtain ⟨n, c, hmade, hmoves⟩ := h.reserveAll_cases listed
    obtain rfl := (Prod.mk.inj (hmade.symm.trans hreserve)).2
    refine ⟨_, hreserve, ?_⟩
    rw [(hmoves.consistent h).forEach_claim hnodup fun t ht =>
      ⟨.reserved, by simp, hstanding (by simp) t ht⟩, h.foldl_withIssued_withHeld (by simp) hnodup
        hpending]
  · have hlisted : ∀ t ∈ listed, ∃ status ∈ [SlotStatus.pending], a.standing t = some status :=
      fun t ht => ⟨.pending, by simp, hpending t (hperm.mem_iff.mp ht)⟩
    obtain ⟨hstage, hafter⟩ := h.forEach_stage (hperm.nodup_iff.mpr hnodup) hlisted
    rw [foldl_withHeld_congr (by simp) fun t => hperm.mem_iff] at hstage hafter
    refine ⟨_, hstage, ?_⟩
    rw [hafter.forEach_claimStaged hnodup fun t ht =>
      ⟨.staged, by simp, hstanding (by simp) t ht⟩, h.foldl_withIssued_withHeld (by simp) hnodup
        hpending]

/-- After a draw, two pending tokens of different collections are claimed directly, or after they are
reserved with one of them listed twice, or after they are staged in the other order. -/
theorem claims_agree_two :
    ∃ start b c d, ofCollections [(101, 3), (7, 0), (102, 2)] = .ok start ∧
      Step.forEach claim [⟨102, 2⟩, ⟨101, 3⟩] (start.after [.next none]) = (.ok [(), ()], b) ∧
      reserveAll [⟨101, 3⟩, ⟨102, 2⟩, ⟨101, 3⟩] (start.after [.next none]) = (.ok 2, c) ∧
      Step.forEach claim [⟨102, 2⟩, ⟨101, 3⟩] c = (.ok [(), ()], b) ∧
      Step.forEach stage [⟨101, 3⟩, ⟨102, 2⟩] (start.after [.next none]) = (.ok [(), ()], d) ∧
      Step.forEach claimStaged [⟨102, 2⟩, ⟨101, 3⟩] d = (.ok [(), ()], b) := by
  obtain ⟨start, hstart, hagree⟩ :=
    claims_agree [(101, 3), (7, 0), (102, 2)] (by decide) (by decide)
  have hlaid : ofCollections [(101, 3), (7, 0), (102, 2)] = .ok _ := rfl
  obtain rfl := Except.ok.inj (hlaid.symm.trans hstart)
  obtain ⟨b, hclaim, hreserved, hstaged⟩ :=
    hagree [.next none] _ rfl [⟨102, 2⟩, ⟨101, 3⟩] (by decide) (by decide +kernel)
  obtain ⟨c, hreserve, hthen⟩ := hreserved [⟨101, 3⟩, ⟨102, 2⟩, ⟨101, 3⟩] (by simp)
  obtain ⟨d, hstage, hthen'⟩ := hstaged [⟨101, 3⟩, ⟨102, 2⟩] (List.Perm.swap ..)
  exact ⟨_, b, c, d, rfl, hclaim, hreserve, hthen, hstage, hthen'⟩

end Allocator

end ShuffleMint
