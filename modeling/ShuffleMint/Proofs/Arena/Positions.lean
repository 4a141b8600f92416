import ShuffleMint.Proofs.Arena.Consistency

/-!
# Finding slots in the window

In a consistent arena the searches of the window answer what they are meant to: the first pending
slot, of one collection or of any, the place of a slot that is marked pending, and how many pending
slots a collection has. Taking the slot at such a place out of the window is one of the moves. To
find a slot that is marked pending and to hold it back it is enough that such slots are in the
window.
-/

namespace ShuffleMint

namespace Arena

/-- The slot that the next draw takes, of one collection or of any. -/
def nextSlot? (a : Arena) : Option Nat → Option Nat
  | none => a.pendingSlots.head?
  | some collection => a.pendingSlots.find? fun slot => a.collection? slot = some collection

/-- The next slot to draw is a pending one. -/
theorem mem_pendingSlots_of_nextSlot? {a : Arena} {collection : Option Nat} {slot : Nat}
    (h : a.nextSlot? collection = some slot) : slot ∈ a.pendingSlots := by
  cases collection with
  | none => exact List.mem_of_mem_head? h
  | some collection => exact List.mem_of_find?_eq_some h

/-- The next slot to draw of a collection is one of its slots. -/
theorem collection?_of_nextSlot? {a : Arena} {collection slot : Nat}
    (h : a.nextSlot? (some collection) = some slot) : a.collection? slot = some collection := by
  simpa using List.find?_some h

/-- The next slot to draw is marked pending and stands for a token. -/
theorem Consistent.exists_of_nextSlot? {a : Arena} (h : a.Consistent) {collection : Option Nat}
    {slot : Nat} (hnext : a.nextSlot? collection = some slot) :
    ∃ t, a.tokenOf slot = .ok t ∧ a.status[slot]? = some .pending := by
  have hpending := (h.pending_iff slot).mp (mem_pendingSlots_of_nextSlot? hnext)
  obtain ⟨t, htoken⟩ := h.exists_tokenOf_of_status hpending
  exact ⟨t, htoken, hpending⟩

/-- In a list without repetition, taking out a position takes out the slot that stands there. -/
theorem eraseIdx_eq_erase {slots : List Nat} (h : slots.Nodup) {position slot : Nat}
    (hslot : slots[position]? = some slot) : slots.eraseIdx position = slots.erase slot := by
  obtain ⟨hlt, rfl⟩ := List.getElem?_eq_some_iff.mp hslot
  exact (List.erase_eq_eraseIdx_of_idxOf (h.idxOf_getElem position hlt)).symm

namespace WellLaid

variable {a : Arena}

/-- Searching a list of slots for a collection finds the first slot of the collection. -/
theorem positionOf_eq (h : a.WellLaid) (collection : Nat) (slots : List Nat) (n : Nat) :
    a.positionOf collection slots n =
      .ok ((slots.findIdx? fun slot => a.collection? slot = some collection).map (· + n)) := by
  induction slots generalizing n with
  | nil => rfl
  | cons slot rest ih =>
    simp only [positionOf, h.collectionOf_eq, ih, List.findIdx?_cons]
    by_cases hslot : a.collection? slot = some collection
    · simp [hslot]
    · simp [hslot, Option.map_map, Function.comp_def, Nat.add_comm, Nat.add_left_comm]

/-- Counting a list of slots for a collection counts its slots. -/
theorem countOf_eq (h : a.WellLaid) (collection : Nat) (slots : List Nat) (n : Nat) :
    a.countOf collection slots n =
      .ok (n + slots.countP fun slot => a.collection? slot = some collection) := by
  induction slots generalizing n with
  | nil => rfl
  | cons slot rest ih =>
    simp only [countOf, h.collectionOf_eq, ih, List.countP_cons]
    by_cases hslot : a.collection? slot = some collection
    · simp [hslot, Nat.add_assoc, Nat.add_comm]
    · simp [hslot]

end WellLaid

/-- Every slot that is marked pending is in the window, and the slots are covered. The window may have
other slots as well, and some of them twice. -/
structure Searchable (a : Arena) : Prop where
  covered : a.Covered
  cursor_le : a.cursor ≤ a.order.length
  listed : ∀ slot, a.status[slot]? = some .pending → slot ∈ a.pendingSlots

/-- Bringing a slot of the window forward leaves the cursor alone. -/
@[simp] theorem cursor_bringForward (a : Arena) (position : Nat) :
    (a.bringForward position).cursor = a.cursor := by
  unfold bringForward
  split <;> rfl

/-- A slot of the window that is brought forward stands at the cursor. -/
theorem order_bringForward {a : Arena} (h : a.cursor ≤ a.order.length) {position slot : Nat}
    (hslot : a.pendingSlots[position]? = some slot) :
    (a.bringForward position).order[a.cursor]? = some slot := by
  simp only [bringForward, hslot]
  rw [← length_issuedSlots h]
  simp

/-- Taking a slot out of the window where it first stands and marking it holds it back. -/
theorem mark_takeOut {a : Arena} (h : a.cursor ≤ a.order.length) {position slot : Nat}
    (hfirst : a.pendingSlots.eraseIdx position = a.pendingSlots.erase slot) (status : SlotStatus) :
    (a.takeOut position).mark slot status = a.hold slot status := by
  have horder : a.order.eraseIdx (a.cursor + position) =
      a.issuedSlots ++ a.pendingSlots.erase slot := by
    rw [← issuedSlots_append_pendingSlots, ← length_issuedSlots h,
      List.eraseIdx_append_of_length_le (Nat.le_add_right _ _), Nat.add_sub_cancel_left, hfirst]
  simp [takeOut, mark, hold, horder]

/-- A slot that is marked pending has a position in the window, where it first stands. -/
theorem Searchable.pendingPosition_eq {a : Arena} (h : a.Searchable) {slot : Nat}
    (hslot : a.status[slot]? = some .pending) :
    ∃ position, a.pendingPosition slot = .ok position ∧ a.pendingSlots[position]? = some slot ∧
      a.pendingSlots.eraseIdx position = a.pendingSlots.erase slot := by
  have hmem := h.listed slot hslot
  cases hfound : a.pendingSlots.idxOf? slot with
  | none => exact absurd hmem (List.idxOf?_eq_none_iff.mp hfound)
  | some position =>
    obtain ⟨hlt, hslot, -⟩ := List.idxOf?_eq_some_iff.mp hfound
    have hindex : a.pendingSlots.idxOf slot = position := by
      rw [List.idxOf_eq_getD_idxOf?, hfound, Option.getD_some]
    exact ⟨position, by simp [pendingPosition, window_eq h.cursor_le, hfound],
      List.getElem?_eq_some_iff.mpr ⟨hlt, by simpa using hslot⟩,
      (List.erase_eq_eraseIdx_of_idxOf hindex).symm⟩

namespace Consistent

variable {a : Arena} {slot : Nat}

/-- The number of pending slots of a collection can always be told. -/
theorem pendingIn_eq (h : a.Consistent) (collection : Nat) :
    a.pendingIn collection =
      .ok (a.pendingSlots.countP fun slot => a.collection? slot = some collection) := by
  simp [pendingIn, window_eq h.cursor_le, h.laid.countOf_eq]

/-- Without a slot to draw there is no position to draw from. -/
theorem nextPosition_eq_none (h : a.Consistent) {collection : Option Nat}
    (hnext : a.nextSlot? collection = none) : a.nextPosition collection = .ok none := by
  cases collection with
  | none =>
    have hlength : a.order.length ≤ a.cursor := by
      simpa [nextSlot?, pendingSlots, List.drop_eq_nil_iff] using hnext
    simp [nextPosition, Nat.not_lt.mpr hlength]
  | some collection =>
    have hnone :
        a.pendingSlots.findIdx? (fun slot => a.collection? slot = some collection) = none :=
      List.findIdx?_eq_none_iff.mpr fun slot hslot => by
        simpa using List.find?_eq_none.mp hnext slot hslot
    simp [nextPosition, window_eq h.cursor_le, h.laid.positionOf_eq, hnone]

/-- The position to draw from is that of the next slot to draw. -/
theorem nextPosition_eq_some (h : a.Consistent) {collection : Option Nat}
    (hnext : a.nextSlot? collection = some slot) :
    ∃ position, a.nextPosition collection = .ok (some position) ∧
      a.pendingSlots[position]? = some slot := by
  cases collection with
  | none =>
    have hslot : a.pendingSlots[0]? = some slot := by
      simpa [nextSlot?, List.head?_eq_getElem?] using hnext
    obtain ⟨hlt, -⟩ := List.getElem?_eq_some_iff.mp hslot
    have hlt : a.cursor < a.order.length := by
      simp only [pendingSlots, List.length_drop] at hlt
      omega
    exact ⟨0, by simp [nextPosition, hlt], hslot⟩
  | some collection =>
    obtain ⟨hcollection, position, hlt, hslot, hfirst⟩ := List.find?_eq_some_iff_getElem.mp hnext
    have hfound : a.pendingSlots.findIdx? (fun slot => a.collection? slot = some collection) =
        some position :=
      List.findIdx?_eq_some_iff_getElem.mpr ⟨hlt, by rw [hslot]; exact hcollection, fun j hj => by
        simpa using hfirst j hj⟩
    refine ⟨position, ?_, List.getElem?_eq_some_iff.mpr ⟨hlt, hslot⟩⟩
    simp [nextPosition, window_eq h.cursor_le, h.laid.positionOf_eq, hfound]

/-- A consistent arena can be searched. -/
theorem searchable (h : a.Consistent) : a.Searchable :=
  ⟨h.laid.covered, h.cursor_le, fun slot => (h.pending_iff slot).mpr⟩

/-- Bringing a pending slot to the cursor, marking it and moving the cursor past it issues it. -/
theorem advance_bringForward (h : a.Consistent) {position : Nat}
    (hslot : a.pendingSlots[position]? = some slot) :
    ((a.bringForward position).mark slot .issued).advance = a.issue slot := by
  simp [bringForward, hslot, mark, advance, Arena.issue, eraseIdx_eq_erase h.pending_nodup hslot]

/-- Putting a slot that is held back to the cursor, marking it and moving the cursor past it issues
it. -/
theorem advance_putAtCursor (hslot : slot ∉ a.pendingSlots) :
    ((a.putAtCursor slot).mark slot .issued).advance = a.issue slot := by
  simp [putAtCursor, mark, advance, Arena.issue, List.erase_of_not_mem hslot]

end Consistent

end Arena

end ShuffleMint
