import ShuffleMint.Proofs.Allocator.Consistency
import ShuffleMint.Proofs.Arena.Positions
import ShuffleMint.Proofs.Random.Reordering
import ShuffleMint.Proofs.StepInversion

/-!
# What the operations do to a consistent allocator

On a consistent allocator every operation either fails and changes nothing, or makes the moves it is
about: it issues a slot, holds it back or releases it. The lemmas evaluate the operations to those
moves, so that later proofs never open an operation again.
-/

namespace ShuffleMint

namespace Arena

open Allocator

variable {a : Allocator} {slot : Nat} {t : Token}

/-- Where the slots are covered, a token without a slot is not reserved, and that is no failure. -/
theorem Covered.reserveIfPending_apply (h : a.arena.Covered) {e : Failure}
    (hslot : a.arena.slotOf t = .error e) : reserveIfPending t a = (.ok false, a) := by
  unfold reserveIfPending
  rw [Step.get_bind_apply]
  simp only [hslot, h.slotOf_eq_error hslot]
  rfl

/-- Where the window can be searched, a pending token is held back; any other one is refused. -/
theorem Searchable.hold_apply (h : a.arena.Searchable) (hslot : a.arena.slotOf t = .ok slot)
    {status : SlotStatus} (hstatus : a.arena.status[slot]? = some status) (held : SlotStatus) :
    Allocator.hold held t a =
      match status with
      | .pending => (.ok (), a.holdSlot slot held)
      | _ => (.error (.rejected (.invalidConfig (.tokenUnavailable t))), a) := by
  unfold Allocator.hold
  rw [Step.get_bind_apply, Step.lift_bind_ok hslot,
    Step.lift_bind_ok (statusOf_of_getElem? hstatus)]
  cases status with
  | issued => rfl
  | staged => rfl
  | reserved => rfl
  | pending =>
    obtain ⟨position, hposition, -, hfirst⟩ := h.pendingPosition_eq hstatus
    simp only [onArena]
    rw [Step.lift_bind_ok hposition, Step.modify_bind_apply, Step.modify_apply,
      mark_takeOut h.cursor_le hfirst, holdSlot]

/-- Where the window can be searched, a token is reserved if it is pending and is left alone if it is
not. -/
theorem Searchable.reserveIfPending_apply (h : a.arena.Searchable)
    (hslot : a.arena.slotOf t = .ok slot) {status : SlotStatus}
    (hstatus : a.arena.status[slot]? = some status) :
    reserveIfPending t a =
      match status with
      | .pending => (.ok true, a.holdSlot slot .reserved)
      | _ => (.ok false, a) := by
  unfold reserveIfPending
  rw [Step.get_bind_apply]
  simp only [hslot]
  rw [Step.lift_bind_ok (statusOf_of_getElem? hstatus)]
  cases status with
  | issued => rfl
  | staged => rfl
  | reserved => rfl
  | pending => simp [Step.succeeds, reserve, h.hold_apply hslot hstatus]

end Arena

namespace Allocator

/-- A slot that stands for a token, and whose collection has one left, is issued. -/
theorem issue_apply {a : Allocator} {slot : Nat} {t : Token} {supply : Supply}
    (htoken : a.arena.tokenOf slot = .ok t) (hsupply : a.supplies.get? t.collection = some supply)
    (hroom : supply.issued < supply.total) (hslot : slot < a.arena.total) :
    issue slot a = (.ok t,
      { arena := (a.arena.mark slot .issued).advance
        supplies := Supply.countIssue t.collection a.supplies }) := by
  obtain ⟨status, hstatus⟩ := (a.arena.exists_status_iff slot).mpr hslot
  unfold issue
  rw [Step.get_bind_apply, Step.lift_bind_ok htoken]
  simp only [hsupply, Nat.not_le.mpr hroom, if_false, Step.put_bind_apply]
  simp [mark, onArena, Step.bind_apply, Arena.statusOf_of_getElem? hstatus, Supply.countIssue,
    hsupply, Except.map]

/-- The order is locked once a token is issued. -/
theorem ensureUnlocked_apply (a : Allocator) :
    ensureUnlocked a =
      if 0 < a.arena.cursor then (.error (.rejected .orderLocked), a) else (.ok (), a) := by
  rw [ensureUnlocked, Step.get_bind_apply]
  split <;> rfl

/-- Shuffling is refused once a token is issued, and once the order is shuffled. Otherwise it puts
the pending slots into the order that the seed determines. -/
theorem initializeShuffle_apply (seed : Seed) (a : Allocator) :
    initializeShuffle seed a =
      if 0 < a.arena.cursor then (.error (.rejected .orderLocked), a)
      else if a.arena.shuffled then (.error (.rejected .alreadyShuffled), a)
      else (.ok (), a.reorder (shuffle seed a.arena.order)) := by
  rw [initializeShuffle, Step.bind_apply, ensureUnlocked_apply]
  by_cases hcursor : 0 < a.arena.cursor
  · simp [hcursor]
  · by_cases hshuffled : a.arena.shuffled <;>
      simp [hcursor, hshuffled, onArena, reorder, Arena.reorder]

/-- An order that is shuffled stays as it is; any other one is shuffled. -/
theorem ensureShuffled_apply (seed : Seed) (a : Allocator) :
    ensureShuffled seed a =
      if a.arena.shuffled then (.ok (), a) else initializeShuffle seed a := by
  unfold ensureShuffled
  rw [Step.get_bind_apply]
  split <;> simp

namespace Consistent

variable {a : Allocator} {slot : Nat} {t : Token}

/-- Issuing the slot at a position of the window makes the move. -/
theorem issueAt_apply (h : a.Consistent) {position : Nat}
    (hslot : a.arena.pendingSlots[position]? = some slot) (htoken : a.arena.tokenOf slot = .ok t) :
    issueAt position a = (.ok t, a.issueSlot slot t) := by
  have hmem : slot ∈ a.arena.pendingSlots := List.mem_of_getElem? hslot
  have hpending := (h.arena.pending_iff slot).mp hmem
  have hfresh : slot ∉ a.arena.issuedSlots := by
    rw [h.arena.issued_iff, hpending]
    simp
  obtain ⟨supply, hsupply, hroom⟩ := h.exists_room htoken hfresh
  have hforward : a.arena.bringForward position =
      { a.arena with
        order := a.arena.issuedSlots ++ slot :: a.arena.pendingSlots.eraseIdx position } := by
    simp [Arena.bringForward, hslot]
  have hat := Arena.order_bringForward h.arena.cursor_le hslot
  have htoken' : (a.arena.bringForward position).tokenOf slot = .ok t := by
    rw [hforward]
    exact htoken
  have hissue := issue_apply (a := { a with arena := a.arena.bringForward position })
    htoken' hsupply hroom (by rw [hforward]; exact h.arena.laid.lt_total_of_tokenOf htoken)
  unfold issueAt onArena
  rw [Step.modify_bind_apply, Step.get_bind_apply]
  simp only [Arena.cursor_bringForward, hat, hissue]
  rw [Allocator.issueSlot, h.arena.advance_bringForward hslot]

/-- Issuing a slot that is held back makes the move. -/
theorem issueHeld_apply (h : a.Consistent) (htoken : a.arena.tokenOf slot = .ok t)
    (hheld : a.arena.status[slot]? = some .reserved ∨ a.arena.status[slot]? = some .staged) :
    issueHeld slot a = (.ok t, a.issueSlot slot t) := by
  have hlt := h.arena.laid.lt_total_of_tokenOf htoken
  have hout := (h.arena.not_mem_order_iff hlt).mpr hheld
  rw [← Arena.issuedSlots_append_pendingSlots, List.mem_append, not_or] at hout
  obtain ⟨supply, hsupply, hroom⟩ := h.exists_room htoken hout.1
  have hissue := issue_apply (a := { a with arena := a.arena.putAtCursor slot })
    htoken hsupply hroom hlt
  unfold issueHeld onArena
  rw [Step.get_bind_apply, Step.lift_bind_ok (Arena.window_eq h.arena.cursor_le),
    Step.modify_bind_apply, hissue, Allocator.issueSlot,
    Arena.Consistent.advance_putAtCursor hout.2]

/-- Without a slot to draw the draw is refused. -/
theorem next_apply_none (h : a.Consistent) {collection : Option Nat}
    (hnext : a.arena.nextSlot? collection = none) :
    next collection a = (.error (.rejected .soldOut), a) := by
  unfold next
  rw [Step.get_bind_apply, Step.lift_bind_ok (h.arena.nextPosition_eq_none hnext)]
  rfl

/-- A draw issues the next slot to draw. -/
theorem next_apply_some (h : a.Consistent) {collection : Option Nat}
    (hnext : a.arena.nextSlot? collection = some slot) (htoken : a.arena.tokenOf slot = .ok t) :
    next collection a = (.ok t, a.issueSlot slot t) := by
  obtain ⟨position, hposition, hslot⟩ := h.arena.nextPosition_eq_some hnext
  unfold next
  rw [Step.get_bind_apply, Step.lift_bind_ok hposition]
  exact h.issueAt_apply hslot htoken

/-- A draw is refused for want of a slot, or issues the next one. -/
theorem next_apply_cases (h : a.Consistent) (collection : Option Nat) :
    (a.arena.nextSlot? collection = none ∧
        next collection a = (.error (.rejected .soldOut), a)) ∨
      ∃ slot t, a.arena.nextSlot? collection = some slot ∧ a.arena.tokenOf slot = .ok t ∧
        a.arena.status[slot]? = some .pending ∧
        next collection a = (.ok t, a.issueSlot slot t) := by
  cases hnext : a.arena.nextSlot? collection with
  | none => exact .inl ⟨rfl, h.next_apply_none hnext⟩
  | some slot =>
    obtain ⟨t, htoken, hpending⟩ := h.arena.exists_of_nextSlot? hnext
    exact .inr ⟨slot, t, rfl, htoken, hpending, h.next_apply_some hnext htoken⟩

/-- A draw that succeeds has issued the next slot. -/
theorem next_eq_ok (h : a.Consistent) {collection : Option Nat} {b : Allocator}
    (hok : next collection a = (.ok t, b)) :
    ∃ slot, a.arena.nextSlot? collection = some slot ∧ a.arena.tokenOf slot = .ok t ∧
      a.arena.status[slot]? = some .pending ∧ b = a.issueSlot slot t := by
  rcases h.next_apply_cases collection with ⟨-, happly⟩ |
    ⟨slot, t', hnext, htoken, hpending, happly⟩
  · rw [happly] at hok
    cases hok
  · rw [happly] at hok
    cases hok
    exact ⟨slot, hnext, htoken, hpending, rfl⟩

/-- A token without a slot cannot be claimed. -/
theorem claim_apply_invalid (h : a.Consistent) {e : Failure} (hslot : a.arena.slotOf t = .error e) :
    claim t a = (.error (.rejected (.invalidToken t)), a) := by
  unfold claim
  rw [Step.get_bind_apply, Step.lift_bind_error hslot, h.arena.laid.covered.slotOf_eq_error hslot]

/-- A pending or reserved token is claimed by issuing its slot; any other one is refused. -/
theorem claim_apply (h : a.Consistent) (htoken : a.arena.tokenOf slot = .ok t)
    {status : SlotStatus} (hstatus : a.arena.status[slot]? = some status) :
    claim t a =
      match status with
      | .issued => (.error (.rejected (.notEligible (.alreadyMinted t))), a)
      | .staged => (.error (.rejected (.notEligible (.staged t))), a)
      | _ => (.ok (), a.issueSlot slot t) := by
  unfold claim
  rw [Step.get_bind_apply, Step.lift_bind_ok (h.arena.laid.slotOf_eq_ok_iff.mpr htoken),
    Step.lift_bind_ok (Arena.statusOf_of_getElem? hstatus)]
  cases status with
  | issued => rfl
  | staged => rfl
  | reserved =>
    simp only [bind_pure_comp, Step.map_apply, h.issueHeld_apply htoken (.inl hstatus)]
    rfl
  | pending =>
    obtain ⟨position, hposition, hslot, -⟩ := h.arena.searchable.pendingPosition_eq hstatus
    have hissueAt := h.issueAt_apply hslot htoken
    have hat := Arena.order_bringForward h.arena.cursor_le hslot
    have hissue : issue slot { a with arena := a.arena.bringForward position } =
        (.ok t, a.issueSlot slot t) := by
      rw [← hissueAt, issueAt, onArena, Step.modify_bind_apply, Step.get_bind_apply]
      simp only [Arena.cursor_bringForward, hat]
    simp only [bind_pure_comp]
    rw [Step.lift_bind_ok hposition, onArena, Step.modify_bind_apply, Step.map_apply, hissue]
    rfl

/-- A token without a slot is not staged. -/
theorem claimStaged_apply_invalid (h : a.Consistent) {e : Failure}
    (hslot : a.arena.slotOf t = .error e) :
    claimStaged t a = (.error (.rejected (.invalidToken t)), a) := by
  unfold claimStaged
  rw [Step.get_bind_apply, Step.lift_bind_error hslot, h.arena.laid.covered.slotOf_eq_error hslot]

/-- A staged token is claimed by issuing its slot; any other one is refused. -/
theorem claimStaged_apply (h : a.Consistent) (htoken : a.arena.tokenOf slot = .ok t)
    {status : SlotStatus} (hstatus : a.arena.status[slot]? = some status) :
    claimStaged t a =
      match status with
      | .staged => (.ok (), a.issueSlot slot t)
      | .issued => (.error (.rejected (.notEligible (.alreadyMinted t))), a)
      | _ => (.error (.rejected (.notEligible (.notStaged t))), a) := by
  unfold claimStaged
  rw [Step.get_bind_apply, Step.lift_bind_ok (h.arena.laid.slotOf_eq_ok_iff.mpr htoken),
    Step.lift_bind_ok (Arena.statusOf_of_getElem? hstatus)]
  cases status with
  | issued => rfl
  | pending => rfl
  | reserved => rfl
  | staged =>
    simp only [bind_pure_comp, Step.map_apply, h.issueHeld_apply htoken (.inr hstatus)]
    rfl

/-- A token without a slot cannot be held back. -/
theorem hold_apply_invalid (h : a.Consistent) {e : Failure} (hslot : a.arena.slotOf t = .error e)
    (status : SlotStatus) :
    Allocator.hold status t a = (.error (.rejected (.invalidToken t)), a) := by
  unfold hold
  rw [Step.get_bind_apply, Step.lift_bind_error hslot, h.arena.laid.covered.slotOf_eq_error hslot]

/-- A pending token is held back; any other one is refused. -/
theorem hold_apply (h : a.Consistent) (htoken : a.arena.tokenOf slot = .ok t)
    {status : SlotStatus} (hstatus : a.arena.status[slot]? = some status) (held : SlotStatus) :
    Allocator.hold held t a =
      match status with
      | .pending => (.ok (), a.holdSlot slot held)
      | _ => (.error (.rejected (.invalidConfig (.tokenUnavailable t))), a) :=
  h.arena.searchable.hold_apply (h.arena.laid.slotOf_eq_ok_iff.mpr htoken) hstatus held

/-- A token without a slot cannot be released. -/
theorem unstage_apply_invalid (h : a.Consistent) {e : Failure}
    (hslot : a.arena.slotOf t = .error e) :
    unstage t a = (.error (.rejected (.invalidToken t)), a) := by
  unfold unstage
  rw [Step.get_bind_apply, Step.lift_bind_error hslot, h.arena.laid.covered.slotOf_eq_error hslot]

/-- A staged token is released; any other one is left alone. -/
theorem unstage_apply (h : a.Consistent) (htoken : a.arena.tokenOf slot = .ok t)
    {status : SlotStatus} (hstatus : a.arena.status[slot]? = some status) :
    unstage t a =
      match status with
      | .staged => (.ok true, a.releaseSlot slot)
      | _ => (.ok false, a) := by
  unfold unstage
  rw [Step.get_bind_apply, Step.lift_bind_ok (h.arena.laid.slotOf_eq_ok_iff.mpr htoken),
    Step.lift_bind_ok (Arena.statusOf_of_getElem? hstatus)]
  cases status <;> rfl

/-- A token without a slot is not reserved, and that is no failure. -/
theorem reserveIfPending_apply_invalid (h : a.Consistent) {e : Failure}
    (hslot : a.arena.slotOf t = .error e) : reserveIfPending t a = (.ok false, a) :=
  h.arena.laid.covered.reserveIfPending_apply hslot

/-- A pending token is reserved if it is listed; any other one is left alone. -/
theorem reserveIfPending_apply (h : a.Consistent) (htoken : a.arena.tokenOf slot = .ok t)
    {status : SlotStatus} (hstatus : a.arena.status[slot]? = some status) :
    reserveIfPending t a =
      match status with
      | .pending => (.ok true, a.holdSlot slot .reserved)
      | _ => (.ok false, a) :=
  h.arena.searchable.reserveIfPending_apply (h.arena.laid.slotOf_eq_ok_iff.mpr htoken) hstatus

end Consistent

end Allocator

end ShuffleMint
