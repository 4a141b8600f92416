import ShuffleMint.Allocator.Operation
import ShuffleMint.Proofs.Allocator.Evaluation

/-!
# Moves of an allocator

All that operations ever do to a consistent allocator is to issue slots, to hold pending ones back,
to release staged ones, and to replace the order while nothing is issued. A sequence of such moves
tells which tokens it issues. It keeps the allocator consistent, keeps its layout, and appends the
tokens it issues to those issued before.
-/

namespace ShuffleMint

namespace Allocator

/-- The moves from an allocator to another, told by the tokens that they issue, the first first. -/
inductive Moves (start : Allocator) : List Token → Allocator → Prop where
  | refl : Moves start [] start
  | issue {tokens : List Token} {a : Allocator} {slot : Nat} {t : Token} {status : SlotStatus} :
    Moves start tokens a → a.arena.tokenOf slot = .ok t → a.arena.status[slot]? = some status →
      status ≠ .issued → Moves start (tokens ++ [t]) (a.issueSlot slot t)
  | hold {tokens : List Token} {a : Allocator} {slot : Nat} {held : SlotStatus} :
    Moves start tokens a → a.arena.status[slot]? = some .pending →
      held = .reserved ∨ held = .staged → Moves start tokens (a.holdSlot slot held)
  | release {tokens : List Token} {a : Allocator} {slot : Nat} :
    Moves start tokens a → a.arena.status[slot]? = some .staged →
      Moves start tokens (a.releaseSlot slot)
  | reorder {tokens : List Token} {a : Allocator} {order : List Nat} :
    Moves start tokens a → a.arena.cursor = 0 → order.Perm a.arena.order →
      Moves start tokens (a.reorder order)

namespace Moves

variable {a b c : Allocator} {first second tokens : List Token}

/-- Moves can be followed by more moves. -/
theorem trans (h : Moves a first b) (h' : Moves b second c) : Moves a (first ++ second) c := by
  induction h' with
  | refl => simpa using h
  | issue _ htoken hstatus hfresh ih =>
    rw [← List.append_assoc]
    exact ih.issue htoken hstatus hfresh
  | hold _ hpending hheld ih => exact ih.hold hpending hheld
  | release _ hstaged ih => exact ih.release hstaged
  | reorder _ hcursor hperm ih => exact ih.reorder hcursor hperm

/-- Moves keep an allocator consistent. -/
theorem consistent (h : Moves a tokens b) (ha : a.Consistent) : b.Consistent := by
  induction h with
  | refl => exact ha
  | issue _ htoken hstatus hfresh ih => exact ih.issueSlot htoken hstatus hfresh
  | hold _ hpending hheld ih => exact ih.holdSlot hpending hheld
  | release _ hstaged ih => exact ih.releaseSlot (.inr hstaged)
  | reorder _ hcursor hperm ih => exact ih.reorder hcursor hperm

/-- Moves keep the layout and the number of slots. -/
theorem layout_total_eq (h : Moves a tokens b) :
    b.arena.layout = a.arena.layout ∧ b.arena.total = a.arena.total := by
  induction h with
  | refl => exact ⟨rfl, rfl⟩
  | issue _ _ _ _ ih => exact ⟨ih.1, (List.length_set ..).trans ih.2⟩
  | hold _ _ _ ih => exact ⟨ih.1, (List.length_set ..).trans ih.2⟩
  | release _ _ ih => exact ⟨ih.1, (List.length_set ..).trans ih.2⟩
  | reorder _ _ _ ih => exact ih

/-- What slots stand for does not change by moves. -/
theorem tokenOf_eq (h : Moves a tokens b) : b.arena.tokenOf = a.arena.tokenOf := by
  funext slot
  rw [Arena.tokenOf, Arena.tokenOf, h.layout_total_eq.1]

/-- Moves append the slots of the tokens that they issue to the issued slots. -/
theorem exists_issuedSlots_eq (h : Moves a tokens b) (ha : a.Consistent) :
    ∃ slots, b.arena.issuedSlots = a.arena.issuedSlots ++ slots ∧
      slots.map a.arena.tokenOf = tokens.map Except.ok := by
  induction h with
  | refl => exact ⟨[], by simp, rfl⟩
  | @issue tokens c slot t status hmoves htoken hstatus hfresh ih =>
    obtain ⟨slots, hslots, htokens⟩ := ih
    have hissued := Arena.issuedSlots_issue (a := c.arena) slot
    refine ⟨slots ++ [slot], ?_, ?_⟩
    · rw [Allocator.issueSlot, hissued, hslots, List.append_assoc]
    · rw [hmoves.tokenOf_eq] at htoken
      simp [htokens, htoken]
  | @hold tokens c slot held hmoves hpending hheld ih =>
    have hissued := Arena.issuedSlots_hold (a := c.arena) slot held
    rwa [Allocator.holdSlot, hissued]
  | @release tokens c slot hmoves hstaged ih =>
    have hissued := Arena.issuedSlots_release slot (hmoves.consistent ha).arena.cursor_le
    rwa [Allocator.releaseSlot, hissued]
  | @reorder tokens c order hmoves hcursor hperm ih =>
    have hissued : (c.reorder order).arena.issuedSlots = c.arena.issuedSlots := by
      simp [Allocator.reorder, Arena.reorder, Arena.issuedSlots, hcursor]
    rwa [hissued]

/-- Moves keep the collections whose supplies are kept. -/
theorem get?_isSome_iff (h : Moves a tokens b) (ha : a.Consistent) (collection : Nat) :
    (b.supplies.get? collection).isSome ↔ (a.supplies.get? collection).isSome := by
  simp only [Option.isSome_iff_exists, (h.consistent ha).supplied, ha.supplied,
    h.layout_total_eq.1]
  constructor
  · rintro ⟨_, r, hr, hcollection, _⟩
    exact ⟨_, r, hr, hcollection, rfl⟩
  · rintro ⟨_, r, hr, hcollection, _⟩
    exact ⟨_, r, hr, hcollection, rfl⟩

/-- Moves keep the ids of the collections. -/
theorem mem_collectionIds_iff (h : Moves a tokens b) (ha : a.Consistent) (collection : Nat) :
    collection ∈ b.collectionIds ↔ collection ∈ a.collectionIds := by
  simp only [collectionIds, SortedMap.mem_keys_iff, ← Option.isSome_iff_exists]
  exact h.get?_isSome_iff ha collection

end Moves

namespace Consistent

variable {a b : Allocator} {t : Token}

/-- A token has no slot, or one of which the status is known. -/
theorem token_cases (h : a.Consistent) (t : Token) :
    (∃ e, a.arena.slotOf t = .error e) ∨
      ∃ slot status, a.arena.tokenOf slot = .ok t ∧ a.arena.status[slot]? = some status := by
  rcases h.arena.laid.covered.token_cases t with hnone | ⟨slot, status, hslot, hstatus⟩
  · exact .inl hnone
  · exact .inr ⟨slot, status, h.arena.laid.slotOf_eq_ok_iff.mp hslot, hstatus⟩

/-- A draw fails and changes nothing, or issues the token that it yields. -/
theorem next_cases (h : a.Consistent) (collection : Option Nat) :
    (∃ e, next collection a = (.error e, a)) ∨
      ∃ t b, next collection a = (.ok t, b) ∧ Moves a [t] b := by
  rcases h.next_apply_cases collection with ⟨-, happly⟩ | ⟨slot, t, -, htoken, hpending, happly⟩
  · exact .inl ⟨_, happly⟩
  · exact .inr ⟨t, _, happly, Moves.refl.issue htoken hpending (by simp)⟩

/-- A claim fails and changes nothing, or issues the token. -/
theorem claim_cases (h : a.Consistent) (t : Token) :
    (∃ e, claim t a = (.error e, a)) ∨ ∃ b, claim t a = (.ok (), b) ∧ Moves a [t] b := by
  rcases h.token_cases t with ⟨e, hslot⟩ | ⟨slot, status, htoken, hstatus⟩
  · exact .inl ⟨_, h.claim_apply_invalid hslot⟩
  · have hclaim := h.claim_apply htoken hstatus
    cases status with
    | issued => exact .inl ⟨_, hclaim⟩
    | staged => exact .inl ⟨_, hclaim⟩
    | pending => exact .inr ⟨_, hclaim, Moves.refl.issue htoken hstatus (by simp)⟩
    | reserved => exact .inr ⟨_, hclaim, Moves.refl.issue htoken hstatus (by simp)⟩

/-- A claim of a staged token fails and changes nothing, or issues the token. -/
theorem claimStaged_cases (h : a.Consistent) (t : Token) :
    (∃ e, claimStaged t a = (.error e, a)) ∨
      ∃ b, claimStaged t a = (.ok (), b) ∧ Moves a [t] b := by
  rcases h.token_cases t with ⟨e, hslot⟩ | ⟨slot, status, htoken, hstatus⟩
  · exact .inl ⟨_, h.claimStaged_apply_invalid hslot⟩
  · have hclaim := h.claimStaged_apply htoken hstatus
    cases status with
    | issued => exact .inl ⟨_, hclaim⟩
    | pending => exact .inl ⟨_, hclaim⟩
    | reserved => exact .inl ⟨_, hclaim⟩
    | staged => exact .inr ⟨_, hclaim, Moves.refl.issue htoken hstatus (by simp)⟩

/-- Holding a token back fails and changes nothing, or issues nothing. -/
theorem hold_cases (h : a.Consistent) (t : Token) {held : SlotStatus}
    (hheld : held = .reserved ∨ held = .staged) :
    (∃ e, Allocator.hold held t a = (.error e, a)) ∨
      ∃ b, Allocator.hold held t a = (.ok (), b) ∧ Moves a [] b := by
  rcases h.token_cases t with ⟨e, hslot⟩ | ⟨slot, status, htoken, hstatus⟩
  · exact .inl ⟨_, h.hold_apply_invalid hslot held⟩
  · have hhold := h.hold_apply htoken hstatus held
    cases status with
    | issued => exact .inl ⟨_, hhold⟩
    | staged => exact .inl ⟨_, hhold⟩
    | reserved => exact .inl ⟨_, hhold⟩
    | pending => exact .inr ⟨_, hhold, Moves.refl.hold hstatus hheld⟩

/-- Releasing a token fails and changes nothing, or issues nothing. -/
theorem unstage_cases (h : a.Consistent) (t : Token) :
    (∃ e, unstage t a = (.error e, a)) ∨
      ∃ wasStaged b, unstage t a = (.ok wasStaged, b) ∧ Moves a [] b := by
  rcases h.token_cases t with ⟨e, hslot⟩ | ⟨slot, status, htoken, hstatus⟩
  · exact .inl ⟨_, h.unstage_apply_invalid hslot⟩
  · have hunstage := h.unstage_apply htoken hstatus
    cases status with
    | issued => exact .inr ⟨_, _, hunstage, .refl⟩
    | pending => exact .inr ⟨_, _, hunstage, .refl⟩
    | reserved => exact .inr ⟨_, _, hunstage, .refl⟩
    | staged => exact .inr ⟨_, _, hunstage, Moves.refl.release hstatus⟩

/-- Reserving a token if it is pending always succeeds and issues nothing. -/
theorem reserveIfPending_cases (h : a.Consistent) (t : Token) :
    ∃ reserved b, reserveIfPending t a = (.ok reserved, b) ∧ Moves a [] b := by
  rcases h.token_cases t with ⟨e, hslot⟩ | ⟨slot, status, htoken, hstatus⟩
  · exact ⟨_, _, h.reserveIfPending_apply_invalid hslot, .refl⟩
  · have hreserve := h.reserveIfPending_apply htoken hstatus
    cases status with
    | issued => exact ⟨_, _, hreserve, .refl⟩
    | staged => exact ⟨_, _, hreserve, .refl⟩
    | reserved => exact ⟨_, _, hreserve, .refl⟩
    | pending => exact ⟨_, _, hreserve, Moves.refl.hold hstatus (.inl rfl)⟩

/-- Reserving tokens as far as they are pending always succeeds and issues nothing. -/
theorem reserveAll_cases (h : a.Consistent) (tokens : List Token) :
    ∃ n b, reserveAll tokens a = (.ok n, b) ∧ Moves a [] b := by
  induction tokens generalizing a with
  | nil => exact ⟨_, _, rfl, .refl⟩
  | cons t rest ih =>
    obtain ⟨reserved, b, hreserve, hfirst⟩ := h.reserveIfPending_cases t
    obtain ⟨n, c, hrest, hsecond⟩ := ih (hfirst.consistent h)
    refine ⟨if reserved then n + 1 else n, c, ?_, by simpa using hfirst.trans hsecond⟩
    rw [reserveAll, Step.bind_of_ok hreserve, Step.bind_of_ok hrest]
    rfl

/-- Shuffling fails and changes nothing, or issues nothing. -/
theorem initializeShuffle_cases (seed : Seed) (a : Allocator) :
    (∃ e, initializeShuffle seed a = (.error e, a)) ∨
      ∃ b, initializeShuffle seed a = (.ok (), b) ∧ Moves a [] b := by
  rw [initializeShuffle_apply]
  by_cases hcursor : 0 < a.arena.cursor
  · exact .inl ⟨_, if_pos hcursor⟩
  · rw [if_neg hcursor]
    by_cases hshuffled : a.arena.shuffled
    · exact .inl ⟨_, if_pos hshuffled⟩
    · rw [if_neg hshuffled]
      exact .inr ⟨_, rfl, Moves.refl.reorder (by omega) (shuffle_perm seed a.arena.order)⟩

/-- Shuffling unless that is done fails and changes nothing, or issues nothing. -/
theorem ensureShuffled_cases (seed : Seed) (a : Allocator) :
    (∃ e, ensureShuffled seed a = (.error e, a)) ∨
      ∃ b, ensureShuffled seed a = (.ok (), b) ∧ Moves a [] b := by
  rw [ensureShuffled_apply]
  split
  · exact .inr ⟨_, rfl, .refl⟩
  · exact initializeShuffle_cases seed a

end Consistent

end Allocator

end ShuffleMint
