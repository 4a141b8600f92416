import ShuffleMint.Allocator.Operation
import ShuffleMint.Proofs.Allocator.Evaluation

/-!
# Pending slots can be found whatever the collections are

When two collections have the same id, the parts of an allocator need not fit together: an operation
may fail after it has moved a slot, a slot that is held back may come back into the order, and one
may be listed twice. What is left is that every slot that is marked pending is in the window. That
much is true of an allocator from the start, and no operation, whether it succeeds or fails, makes
it false.
-/

namespace ShuffleMint

namespace Arena

variable {a : Arena} {slot : Nat}

/-- A slot whose status was set has the status that was set. -/
theorem of_getElem?_set {statuses : List SlotStatus} {other : Nat} {status found : SlotStatus}
    (h : (statuses.set slot status)[other]? = some found) :
    other = slot ∧ found = status ∨ other ≠ slot ∧ statuses[other]? = some found := by
  by_cases hsame : other = slot
  · rw [hsame, List.getElem?_set_self'] at h
    obtain ⟨_, -, rfl⟩ := Option.map_eq_some_iff.mp h
    exact .inl ⟨hsame, rfl⟩
  · rw [List.getElem?_set_ne (Ne.symm hsame)] at h
    exact .inr ⟨hsame, h⟩

namespace Searchable

/-- Bringing a slot of the window forward keeps the pending slots in the window. -/
theorem bringForward (h : a.Searchable) (position : Nat) :
    (a.bringForward position).Searchable := by
  unfold Arena.bringForward
  split
  · next slot hslot =>
    obtain ⟨hlt, rfl⟩ := List.getElem?_eq_some_iff.mp hslot
    have hperm := List.getElem_cons_eraseIdx_perm hlt
    have hwindow : (a.issuedSlots ++
        a.pendingSlots[position] :: a.pendingSlots.eraseIdx position).drop a.cursor =
          a.pendingSlots[position] :: a.pendingSlots.eraseIdx position :=
      List.drop_left' (length_issuedSlots h.cursor_le)
    refine ⟨h.covered.congr rfl rfl, ?_, fun other hother => ?_⟩
    · rw [List.length_append, length_issuedSlots h.cursor_le]
      exact Nat.le_add_right ..
    · rw [pendingSlots, hwindow]
      exact hperm.mem_iff.mpr (h.listed other hother)
  · exact h

/-- Putting a slot into the window keeps the pending slots in the window. -/
theorem putAtCursor (h : a.Searchable) (slot : Nat) : (a.putAtCursor slot).Searchable := by
  have hwindow : (a.issuedSlots ++ slot :: a.pendingSlots).drop a.cursor =
      slot :: a.pendingSlots :=
    List.drop_left' (length_issuedSlots h.cursor_le)
  refine ⟨h.covered.congr rfl rfl, ?_, fun other hother => ?_⟩
  · rw [Arena.putAtCursor, List.length_append, length_issuedSlots h.cursor_le]
    exact Nat.le_add_right ..
  · rw [pendingSlots, Arena.putAtCursor, hwindow]
    exact List.mem_cons_of_mem _ (h.listed other hother)

/-- Moving the cursor past a slot that is marked issued keeps the pending slots in the window. -/
theorem advance_mark (h : a.Searchable) (hslot : a.order[a.cursor]? = some slot) :
    ((a.mark slot .issued).advance).Searchable := by
  obtain ⟨hlt, hat⟩ := List.getElem?_eq_some_iff.mp hslot
  refine ⟨h.covered.congr rfl (List.length_set ..), hlt, fun other hother => ?_⟩
  rcases of_getElem?_set hother with ⟨-, hissued⟩ | ⟨hne, hpending⟩
  · cases hissued
  · have hmem := h.listed other hpending
    rw [pendingSlots, List.drop_eq_getElem_cons hlt, hat] at hmem
    exact (List.mem_cons.mp hmem).resolve_left hne

/-- Holding a slot back keeps the other pending slots in the window. -/
theorem hold (h : a.Searchable) (slot : Nat) {status : SlotStatus} (hstatus : status ≠ .pending) :
    (a.hold slot status).Searchable := by
  refine ⟨h.covered.congr rfl (List.length_set ..), ?_, fun other hother => ?_⟩
  · rw [Arena.hold, List.length_append, length_issuedSlots h.cursor_le]
    exact Nat.le_add_right ..
  · rw [pendingSlots_hold]
    rcases of_getElem?_set hother with ⟨-, hsame⟩ | ⟨hne, hpending⟩
    · exact absurd hsame.symm hstatus
    · exact (List.mem_erase_of_ne hne).mpr (h.listed other hpending)

/-- Releasing a slot puts it into the window, where the other pending slots stay. -/
theorem release (h : a.Searchable) (slot : Nat) : (a.release slot).Searchable := by
  refine ⟨h.covered.congr rfl (List.length_set ..), ?_, fun other hother => ?_⟩
  · rw [Arena.release, List.length_append]
    exact Nat.le_trans h.cursor_le (Nat.le_add_right ..)
  · rw [pendingSlots_release slot h.cursor_le, List.mem_append, List.mem_singleton]
    rcases of_getElem?_set hother with ⟨hsame, -⟩ | ⟨-, hpending⟩
    · exact .inr hsame
    · exact .inl (h.listed other hpending)

/-- While nothing is issued, the pending slots are in the window in whatever order. -/
theorem reorder (h : a.Searchable) (hcursor : a.cursor = 0) {order : List Nat}
    (hperm : order.Perm a.order) : (a.reorder order).Searchable := by
  refine ⟨h.covered.congr rfl rfl, ?_, fun other hother => ?_⟩
  · rw [Arena.reorder, hcursor]
    exact Nat.zero_le _
  · have hmem := h.listed other hother
    rw [pendingSlots, hcursor, List.drop_zero] at hmem
    rw [pendingSlots, Arena.reorder, hcursor, List.drop_zero]
    exact hperm.mem_iff.mpr hmem

end Searchable

end Arena

namespace Allocator

variable {a : Allocator} {slot : Nat} {t : Token}

/-- Issuing a slot marks it and moves the cursor, or fails before that. -/
theorem arena_issue (slot : Nat) (a : Allocator) :
    (issue slot a).2.arena = a.arena ∨
      (issue slot a).2.arena = (a.arena.mark slot .issued).advance := by
  unfold issue
  rw [Step.get_bind_apply]
  cases htoken : a.arena.tokenOf slot with
  | error e =>
    rw [Step.lift_bind_error rfl]
    exact .inl rfl
  | ok token =>
    rw [Step.lift_bind_ok rfl]
    cases a.supplies.get? token.collection with
    | none => exact .inl rfl
    | some supply =>
      by_cases hroom : supply.total ≤ supply.issued
      · simp [hroom]
      · simp only [hroom, if_false]
        rw [Step.put_bind_apply, mark, bind_assoc, Step.get_bind_apply, bind_assoc]
        cases a.arena.statusOf slot with
        | error e => exact .inl rfl
        | ok status => exact .inr rfl

end Allocator

namespace Arena.Searchable

open Allocator

variable {a : Allocator} {slot : Nat} {t : Token}

/-- Issuing the slot at the cursor keeps the pending slots in the window. -/
theorem issue (h : a.arena.Searchable) (hslot : a.arena.order[a.arena.cursor]? = some slot) :
    (Allocator.issue slot a).2.arena.Searchable := by
  rcases arena_issue slot a with hsame | hissued
  · rwa [hsame]
  · rw [hissued]
    exact h.advance_mark hslot

/-- Issuing from a position of the window keeps the pending slots in the window. -/
theorem issueAt (h : a.arena.Searchable) (position : Nat) :
    (Allocator.issueAt position a).2.arena.Searchable := by
  unfold Allocator.issueAt onArena
  rw [Step.modify_bind_apply, Step.get_bind_apply]
  dsimp only
  cases hslot :
      (a.arena.bringForward position).order[(a.arena.bringForward position).cursor]? with
  | none => exact h.bringForward position
  | some slot => exact (h.bringForward position).issue hslot

/-- Issuing a slot that is held back keeps the pending slots in the window. -/
theorem issueHeld (h : a.arena.Searchable) (slot : Nat) :
    (Allocator.issueHeld slot a).2.arena.Searchable := by
  have hat : (a.arena.putAtCursor slot).order[(a.arena.putAtCursor slot).cursor]? = some slot := by
    simp [Arena.putAtCursor, length_issuedSlots h.cursor_le]
  unfold Allocator.issueHeld onArena
  rw [Step.get_bind_apply, Step.lift_bind_ok (window_eq h.cursor_le), Step.modify_bind_apply]
  exact (h.putAtCursor slot).issue hat

/-- A draw keeps the pending slots in the window. -/
theorem next (h : a.arena.Searchable) (collection : Option Nat) :
    (Allocator.next collection a).2.arena.Searchable := by
  unfold Allocator.next
  rw [Step.get_bind_apply]
  cases hposition : a.arena.nextPosition collection with
  | error e => exact h
  | ok position =>
    rw [Step.lift_bind_ok rfl]
    cases position with
    | none => exact h
    | some position => exact h.issueAt position

/-- A claim keeps the pending slots in the window. -/
theorem claim (h : a.arena.Searchable) (t : Token) :
    (Allocator.claim t a).2.arena.Searchable := by
  unfold Allocator.claim
  rw [Step.get_bind_apply]
  rcases h.covered.token_cases t with ⟨e, hslot⟩ | ⟨slot, status, hslot, hstatus⟩
  · rwa [Step.lift_bind_error hslot]
  · rw [Step.lift_bind_ok hslot, Step.lift_bind_ok (statusOf_of_getElem? hstatus)]
    cases status with
    | issued | staged => exact h
    | pending =>
      obtain ⟨position, hposition, hfound, -⟩ := h.pendingPosition_eq hstatus
      have hat := order_bringForward h.cursor_le hfound
      rw [← cursor_bringForward a.arena position] at hat
      simp only [bind_pure_comp]
      rw [Step.lift_bind_ok hposition, onArena, Step.modify_bind_apply, Step.map_apply]
      exact (h.bringForward position).issue hat
    | reserved =>
      simp only [bind_pure_comp, Step.map_apply]
      exact h.issueHeld slot

/-- A claim of a staged token keeps the pending slots in the window. -/
theorem claimStaged (h : a.arena.Searchable) (t : Token) :
    (Allocator.claimStaged t a).2.arena.Searchable := by
  unfold Allocator.claimStaged
  rw [Step.get_bind_apply]
  rcases h.covered.token_cases t with ⟨e, hslot⟩ | ⟨slot, status, hslot, hstatus⟩
  · rwa [Step.lift_bind_error hslot]
  · rw [Step.lift_bind_ok hslot, Step.lift_bind_ok (statusOf_of_getElem? hstatus)]
    cases status with
    | issued | pending | reserved => exact h
    | staged =>
      simp only [bind_pure_comp, Step.map_apply]
      exact h.issueHeld slot

/-- Holding a token back keeps the other pending slots in the window. -/
theorem holdToken (h : a.arena.Searchable) (t : Token) {held : SlotStatus}
    (hheld : held ≠ .pending) : (Allocator.hold held t a).2.arena.Searchable := by
  rcases h.covered.token_cases t with ⟨e, hslot⟩ | ⟨slot, status, hslot, hstatus⟩
  · unfold Allocator.hold
    rwa [Step.get_bind_apply, Step.lift_bind_error hslot]
  · rw [h.hold_apply hslot hstatus]
    cases status with
    | issued | reserved | staged => exact h
    | pending => exact h.hold slot hheld

/-- Releasing a token keeps the pending slots in the window. -/
theorem unstage (h : a.arena.Searchable) (t : Token) :
    (Allocator.unstage t a).2.arena.Searchable := by
  unfold Allocator.unstage
  rw [Step.get_bind_apply]
  rcases h.covered.token_cases t with ⟨e, hslot⟩ | ⟨slot, status, hslot, hstatus⟩
  · rwa [Step.lift_bind_error hslot]
  · rw [Step.lift_bind_ok hslot, Step.lift_bind_ok (statusOf_of_getElem? hstatus)]
    cases status with
    | issued | pending | reserved => exact h
    | staged => exact h.release slot

/-- Reserving a token if it is pending keeps the other pending slots in the window. -/
theorem reserveIfPending (h : a.arena.Searchable) (t : Token) :
    (Allocator.reserveIfPending t a).2.arena.Searchable := by
  rcases h.covered.token_cases t with ⟨e, hslot⟩ | ⟨slot, status, hslot, hstatus⟩
  · rwa [h.covered.reserveIfPending_apply hslot]
  · rw [h.reserveIfPending_apply hslot hstatus]
    cases status with
    | issued | reserved | staged => exact h
    | pending => exact h.hold slot (by simp)

/-- Shuffling keeps the pending slots in the window. -/
theorem initializeShuffle (h : a.arena.Searchable) (seed : Seed) :
    (Allocator.initializeShuffle seed a).2.arena.Searchable := by
  rw [initializeShuffle_apply]
  split
  · exact h
  · next hcursor =>
    split
    · exact h
    · exact h.reorder (Nat.eq_zero_of_not_pos hcursor) (shuffle_perm seed a.arena.order)

/-- Shuffling unless that is done keeps the pending slots in the window. -/
theorem ensureShuffled (h : a.arena.Searchable) (seed : Seed) :
    (Allocator.ensureShuffled seed a).2.arena.Searchable := by
  rw [ensureShuffled_apply]
  split
  · exact h
  · exact h.initializeShuffle seed

/-- Reserving tokens as far as they are pending keeps the other pending slots in the window. -/
theorem reserveAll (h : a.arena.Searchable) (tokens : List Token) :
    (Allocator.reserveAll tokens a).2.arena.Searchable := by
  induction tokens generalizing a with
  | nil => exact h
  | cons t rest ih =>
    have hfirst := h.reserveIfPending t
    rw [Allocator.reserveAll, Step.bind_apply]
    cases hrun : Allocator.reserveIfPending t a with
    | mk outcome b =>
      rw [hrun] at hfirst
      cases outcome with
      | error e => exact hfirst
      | ok reserved =>
        simp only [bind_pure_comp, Step.map_apply]
        exact ih hfirst

/-- No operation takes a pending slot out of the window, whether it succeeds or fails. -/
theorem perform (h : a.arena.Searchable) (operation : Operation) :
    (operation.perform a).2.arena.Searchable := by
  cases operation <;> simp only [Operation.perform, bind_pure_comp, Step.map_apply]
  case initializeShuffle seed => exact h.initializeShuffle seed
  case ensureShuffled seed => exact h.ensureShuffled seed
  case ensureUnlocked =>
    rw [ensureUnlocked_apply]
    split <;> exact h
  case next collection => exact h.next collection
  case claim t => exact h.claim t
  case claimStaged t => exact h.claimStaged t
  case reserve t => exact h.holdToken t (by simp)
  case stage t => exact h.holdToken t (by simp)
  case unstage t => exact h.unstage t
  case reserveAll tokens => exact h.reserveAll tokens

/-- However an allocator is used, its pending slots stay in the window. -/
theorem after (h : a.arena.Searchable) (operations : List Operation) :
    (a.after operations).arena.Searchable := by
  induction operations generalizing a with
  | nil => exact h
  | cons operation rest ih =>
    rw [after_cons]
    exact ih (h.perform operation)

end Arena.Searchable

namespace Allocator

/-- Collections that are laid out from a count end at a count. -/
theorem lt_countBound_of_layOut {collections : List (Nat × Nat)} {start stop : Nat}
    {runs : List SlotRun} (h : layOut collections start = .ok (runs, stop))
    (hstart : start < countBound) : stop < countBound := by
  induction collections generalizing start runs with
  | nil =>
    simp only [layOut, Except.ok.injEq, Prod.mk.injEq] at h
    exact h.2 ▸ hstart
  | cons c rest ih =>
    obtain ⟨id, supply⟩ := c
    simp only [layOut, addCounts] at h
    by_cases hnext : start + supply < countBound
    · rw [if_pos hnext] at h
      cases hrest : layOut rest (start + supply) with
      | error e =>
        simp only [hrest] at h
        cases h
      | ok laid =>
        obtain ⟨later, stop'⟩ := laid
        simp only [hrest] at h
        cases h
        exact ih hrest hnext
    · rw [if_neg hnext] at h
      cases h

/-- In a new allocator every slot is pending and in the window, whatever its collections are. -/
theorem searchable_of_ofCollections {collections : List (Nat × Nat)} {a : Allocator}
    (h : ofCollections collections = .ok a) : a.arena.Searchable := by
  obtain ⟨⟨layout, total⟩, hlayout, rfl⟩ := Outcome.map_eq_ok_iff.mp h
  refine ⟨⟨?_, ?_⟩, Nat.zero_le _, fun slot hslot => ?_⟩
  · rw [Arena.total, List.length_replicate]
    exact SlotRun.abut_layOut hlayout
  · rw [Arena.total, List.length_replicate]
    exact lt_countBound_of_layOut hlayout (by decide)
  · simpa [Arena.pendingSlots, List.getElem?_replicate] using hslot

end Allocator

end ShuffleMint
