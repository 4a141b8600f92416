import ShuffleMint.Proofs.Arena.Layout

/-!
# Arenas whose parts fit together

In a consistent arena the order lists no slot twice, its part before the cursor lists the issued
slots and the part after it the pending ones. A slot changes hands in three ways: it is issued, it
is held back, or it is released; the order as a whole may be replaced while nothing is issued. Each
of these keeps an arena consistent, and what it does to the two parts is said by a lemma of its own.
-/

namespace ShuffleMint

namespace Arena

/-- Makes a slot the last issued one, wherever it was before. -/
def issue (a : Arena) (slot : Nat) : Arena :=
  { a with
    order := a.issuedSlots ++ slot :: a.pendingSlots.erase slot
    cursor := a.cursor + 1
    status := a.status.set slot .issued }

/-- Holds a pending slot back. -/
def hold (a : Arena) (slot : Nat) (status : SlotStatus) : Arena :=
  { a with
    order := a.issuedSlots ++ a.pendingSlots.erase slot
    status := a.status.set slot status }

/-- Makes a slot that is held back the last pending one. -/
def release (a : Arena) (slot : Nat) : Arena :=
  { a with order := a.order ++ [slot], status := a.status.set slot .pending }

/-- Fixes the order in which slots are drawn. -/
def reorder (a : Arena) (order : List Nat) : Arena := { a with order := order, shuffled := true }

/-- The order lists no slot twice, the issued ones before the cursor and the pending ones after it.
-/
structure Consistent (a : Arena) : Prop where
  laid : a.WellLaid
  nodup : a.order.Nodup
  cursor_le : a.cursor ≤ a.order.length
  issued_iff : ∀ slot, slot ∈ a.issuedSlots ↔ a.status[slot]? = some .issued
  pending_iff : ∀ slot, slot ∈ a.pendingSlots ↔ a.status[slot]? = some .pending

/-- The order is the issued slots and then the pending ones. -/
theorem issuedSlots_append_pendingSlots (a : Arena) : a.issuedSlots ++ a.pendingSlots = a.order :=
  List.take_append_drop a.cursor a.order

/-- A slot has a status exactly when it is one of the slots of the arena. -/
theorem exists_status_iff (a : Arena) (slot : Nat) :
    (∃ status, a.status[slot]? = some status) ↔ slot < a.total := by
  rw [total, ← Option.isSome_iff_exists]
  simp

/-- The status of a slot is read off the list. -/
theorem statusOf_of_getElem? {a : Arena} {slot : Nat} {status : SlotStatus}
    (h : a.status[slot]? = some status) : a.statusOf slot = .ok status := by
  simp [statusOf, h]

/-- A token has no slot, or one of which the status is known. -/
theorem Covered.token_cases {a : Arena} (h : a.Covered) (t : Token) :
    (∃ e, a.slotOf t = .error e) ∨
      ∃ slot status, a.slotOf t = .ok slot ∧ a.status[slot]? = some status := by
  cases hslot : a.slotOf t with
  | error e => exact .inl ⟨e, rfl⟩
  | ok slot =>
    obtain ⟨status, hstatus⟩ := (a.exists_status_iff slot).mpr (h.lt_total_of_slotOf hslot)
    exact .inr ⟨slot, status, rfl, hstatus⟩

/-- The window can be read while the cursor is within the order. -/
theorem window_eq {a : Arena} (h : a.cursor ≤ a.order.length) : a.window = .ok a.pendingSlots := by
  simp [window, h]

namespace Consistent

variable {a : Arena} {slot : Nat}

/-- No slot is issued twice, pending twice, or both. -/
theorem parts_nodup (h : a.Consistent) : (a.issuedSlots ++ a.pendingSlots).Nodup := by
  rw [issuedSlots_append_pendingSlots]
  exact h.nodup

/-- No slot is issued twice. -/
theorem issued_nodup (h : a.Consistent) : a.issuedSlots.Nodup :=
  (List.nodup_append.mp h.parts_nodup).1

/-- No slot is pending twice. -/
theorem pending_nodup (h : a.Consistent) : a.pendingSlots.Nodup :=
  (List.nodup_append.mp h.parts_nodup).2.1

/-- Every slot of the order is one of the slots of the arena. -/
theorem lt_total_of_mem (h : a.Consistent) (hslot : slot ∈ a.order) : slot < a.total := by
  rw [← issuedSlots_append_pendingSlots, List.mem_append, h.issued_iff, h.pending_iff] at hslot
  rcases hslot with hslot | hslot
  · exact (a.exists_status_iff slot).mp ⟨_, hslot⟩
  · exact (a.exists_status_iff slot).mp ⟨_, hslot⟩

/-- A slot that has a status stands for a token. -/
theorem exists_tokenOf_of_status (h : a.Consistent) {status : SlotStatus}
    (hstatus : a.status[slot]? = some status) : ∃ t, a.tokenOf slot = .ok t :=
  h.laid.exists_tokenOf ((a.exists_status_iff slot).mp ⟨_, hstatus⟩)

/-- A slot is outside the order exactly when it is reserved or staged. -/
theorem not_mem_order_iff (h : a.Consistent) (hslot : slot < a.total) :
    slot ∉ a.order ↔ a.status[slot]? = some .reserved ∨ a.status[slot]? = some .staged := by
  obtain ⟨status, hstatus⟩ := (a.exists_status_iff slot).mpr hslot
  rw [← issuedSlots_append_pendingSlots, List.mem_append, h.issued_iff, h.pending_iff, hstatus]
  cases status <;> simp

end Consistent

/-! ## What the moves do to the two parts -/

section Views

variable {a : Arena} (slot : Nat)

/-- As many slots are issued as the cursor says. -/
theorem length_issuedSlots (h : a.cursor ≤ a.order.length) : a.issuedSlots.length = a.cursor := by
  simp [issuedSlots, h]

/-- The cursor is at the end of the issued slots, or nothing is pending. -/
theorem length_issuedSlots_or (a : Arena) :
    a.issuedSlots.length = a.cursor ∨ a.pendingSlots = [] := by
  by_cases h : a.cursor ≤ a.order.length
  · exact .inl (length_issuedSlots h)
  · exact .inr (List.drop_eq_nil_of_le (by omega))

/-- The issued slots and one more do not go beyond the slot at the cursor. -/
theorem length_issuedSlots_concat_le : (a.issuedSlots ++ [slot]).length ≤ a.cursor + 1 := by
  rw [List.length_append, List.length_singleton]
  exact Nat.succ_le_succ (List.length_take_le ..)

/-- An issued slot comes last among those issued. -/
theorem issuedSlots_issue : (a.issue slot).issuedSlots = a.issuedSlots ++ [slot] := by
  change (a.issuedSlots ++ slot :: a.pendingSlots.erase slot).take (a.cursor + 1) = _
  rw [List.append_cons]
  rcases a.length_issuedSlots_or with hlength | hnone
  · exact List.take_left' (by simp [hlength])
  · rw [hnone, List.erase_nil, List.append_nil]
    exact List.take_of_length_le (length_issuedSlots_concat_le slot)

/-- An issued slot is no longer pending; the others keep their order. -/
theorem pendingSlots_issue : (a.issue slot).pendingSlots = a.pendingSlots.erase slot := by
  change (a.issuedSlots ++ slot :: a.pendingSlots.erase slot).drop (a.cursor + 1) = _
  rw [List.append_cons]
  rcases a.length_issuedSlots_or with hlength | hnone
  · exact List.drop_left' (by simp [hlength])
  · rw [hnone, List.erase_nil, List.append_nil]
    exact List.drop_eq_nil_of_le (length_issuedSlots_concat_le slot)

/-- Holding a slot back leaves the issued ones alone. -/
theorem issuedSlots_hold (status : SlotStatus) :
    (a.hold slot status).issuedSlots = a.issuedSlots := by
  change (a.issuedSlots ++ a.pendingSlots.erase slot).take a.cursor = a.issuedSlots
  rcases a.length_issuedSlots_or with hlength | hnone
  · exact List.take_left' hlength
  · simp [hnone, issuedSlots, List.take_take]

/-- A slot that is held back is no longer pending; the others keep their order. -/
theorem pendingSlots_hold (status : SlotStatus) :
    (a.hold slot status).pendingSlots = a.pendingSlots.erase slot := by
  change (a.issuedSlots ++ a.pendingSlots.erase slot).drop a.cursor = a.pendingSlots.erase slot
  rcases a.length_issuedSlots_or with hlength | hnone
  · exact List.drop_left' hlength
  · simp [hnone, issuedSlots]

/-- Two slots can be held back in either order. -/
theorem hold_comm (slot' : Nat) (hne : slot ≠ slot') (status status' : SlotStatus) :
    (a.hold slot status).hold slot' status' = (a.hold slot' status').hold slot status := by
  have htwice (slot slot' : Nat) (status status' : SlotStatus) :
      (a.hold slot status).hold slot' status' =
        { a with
          order := a.issuedSlots ++ (a.pendingSlots.erase slot).erase slot'
          status := (a.status.set slot status).set slot' status' } := by
    rw [hold, issuedSlots_hold, pendingSlots_hold]
    rfl
  rw [htwice, htwice, List.erase_comm, List.set_comm _ _ hne]

/-- What issuing a slot makes of an arena in which a slot is held back. -/
theorem issue_hold (slot' : Nat) (status : SlotStatus) :
    (a.hold slot status).issue slot' =
      { a with
        order := a.issuedSlots ++ slot' :: (a.pendingSlots.erase slot).erase slot'
        cursor := a.cursor + 1
        status := (a.status.set slot status).set slot' .issued } := by
  rw [issue, issuedSlots_hold, pendingSlots_hold]
  rfl

/-- A slot can be held back before another one is issued or after it. -/
theorem issue_hold_comm (slot' : Nat) (hne : slot ≠ slot') (status : SlotStatus) :
    (a.hold slot status).issue slot' = (a.issue slot').hold slot status := by
  have hhold : (a.issue slot').hold slot status =
      { a with
        order := (a.issuedSlots ++ [slot']) ++ (a.pendingSlots.erase slot').erase slot
        cursor := a.cursor + 1
        status := (a.status.set slot' .issued).set slot status } := by
    rw [hold, issuedSlots_issue, pendingSlots_issue]
    rfl
  rw [issue_hold, hhold, List.append_assoc, List.singleton_append, List.erase_comm,
    List.set_comm _ _ hne]

/-- A slot that is listed once and is held back first is issued as if it were not held back. -/
theorem issue_hold_self (hnodup : a.pendingSlots.Nodup) (status : SlotStatus) :
    (a.hold slot status).issue slot = a.issue slot := by
  rw [issue_hold, List.erase_of_not_mem hnodup.not_mem_erase, List.set_set]
  rfl

/-- Releasing a slot leaves the issued ones alone. -/
theorem issuedSlots_release (h : a.cursor ≤ a.order.length) :
    (a.release slot).issuedSlots = a.issuedSlots :=
  List.take_append_of_le_length h

/-- A released slot is the last pending one. -/
theorem pendingSlots_release (h : a.cursor ≤ a.order.length) :
    (a.release slot).pendingSlots = a.pendingSlots ++ [slot] :=
  List.drop_append_of_le_length h

end Views

/-! ## The moves keep an arena consistent -/

namespace Consistent

variable {a : Arena} {slot : Nat}

/-- A slot that is not issued can be issued. -/
theorem issue (h : a.Consistent) {status : SlotStatus} (hstatus : a.status[slot]? = some status)
    (hfresh : status ≠ .issued) : (a.issue slot).Consistent := by
  have hnew : slot ∉ a.issuedSlots := by
    rw [h.issued_iff, hstatus]
    simpa using hfresh
  have hslot : slot < a.status.length := (a.exists_status_iff slot).mp ⟨_, hstatus⟩
  have hparts := List.nodup_append.mp h.parts_nodup
  have hrest : (slot :: a.pendingSlots.erase slot).Nodup :=
    List.nodup_cons.mpr ⟨h.pending_nodup.not_mem_erase, h.pending_nodup.erase slot⟩
  refine ⟨h.laid.congr rfl (List.length_set ..), ?_, ?_, fun slot' => ?_, fun slot' => ?_⟩
  · refine List.nodup_append.mpr ⟨h.issued_nodup, hrest, fun x hx y hy => ?_⟩
    rcases List.mem_cons.mp hy with rfl | hy
    · exact fun hxy => hnew (hxy ▸ hx)
    · exact hparts.2.2 x hx y (List.mem_of_mem_erase hy)
  · have := length_issuedSlots h.cursor_le
    simp only [Arena.issue, List.length_append, List.length_cons]
    omega
  · rw [issuedSlots_issue slot, List.mem_append, List.mem_singleton, h.issued_iff]
    by_cases hsame : slot' = slot
    · simp [Arena.issue, hsame, hslot]
    · simp [Arena.issue, hsame, List.getElem?_set_ne (Ne.symm hsame)]
  · rw [pendingSlots_issue slot, h.pending_nodup.mem_erase_iff, h.pending_iff]
    by_cases hsame : slot' = slot
    · simp [Arena.issue, hsame, hslot]
    · simp [Arena.issue, hsame, List.getElem?_set_ne (Ne.symm hsame)]

/-- A pending slot can be held back. -/
theorem hold (h : a.Consistent) (hpending : a.status[slot]? = some .pending) {status : SlotStatus}
    (hstatus : status = .reserved ∨ status = .staged) : (a.hold slot status).Consistent := by
  have hslot : slot < a.status.length := (a.exists_status_iff slot).mp ⟨_, hpending⟩
  have hparts := List.nodup_append.mp h.parts_nodup
  refine ⟨h.laid.congr rfl (List.length_set ..), ?_, ?_, fun slot' => ?_, fun slot' => ?_⟩
  · exact List.nodup_append.mpr ⟨h.issued_nodup, h.pending_nodup.erase slot, fun x hx y hy =>
      hparts.2.2 x hx y (List.mem_of_mem_erase hy)⟩
  · have := length_issuedSlots h.cursor_le
    simp only [Arena.hold, List.length_append]
    omega
  · rw [issuedSlots_hold slot status, h.issued_iff]
    by_cases hsame : slot' = slot
    · rw [hsame, hpending]
      rcases hstatus with rfl | rfl <;> simp [Arena.hold, hslot]
    · simp [Arena.hold, List.getElem?_set_ne (Ne.symm hsame)]
  · rw [pendingSlots_hold slot status, h.pending_nodup.mem_erase_iff, h.pending_iff]
    by_cases hsame : slot' = slot
    · rcases hstatus with rfl | rfl <;> simp [Arena.hold, hsame, hslot]
    · simp [Arena.hold, hsame, List.getElem?_set_ne (Ne.symm hsame)]

/-- A slot that is held back can be released. -/
theorem release (h : a.Consistent)
    (hheld : a.status[slot]? = some .reserved ∨ a.status[slot]? = some .staged) :
    (a.release slot).Consistent := by
  have hslot : slot < a.total := by
    rcases hheld with hheld | hheld <;> exact (a.exists_status_iff slot).mp ⟨_, hheld⟩
  have hnew : slot ∉ a.order := (h.not_mem_order_iff hslot).mpr hheld
  refine ⟨h.laid.congr rfl (List.length_set ..), ?_, ?_, fun slot' => ?_, fun slot' => ?_⟩
  · refine List.nodup_append.mpr ⟨h.nodup, by simp, fun x hx y hy hxy => hnew ?_⟩
    rwa [← List.mem_singleton.mp hy, ← hxy]
  · have := h.cursor_le
    simp only [Arena.release, List.length_append]
    omega
  · rw [issuedSlots_release slot h.cursor_le, h.issued_iff]
    by_cases hsame : slot' = slot
    · rcases hheld with hheld | hheld <;> simp_all [Arena.release, total]
    · simp [Arena.release, List.getElem?_set_ne (Ne.symm hsame)]
  · rw [pendingSlots_release slot h.cursor_le, List.mem_append, List.mem_singleton, h.pending_iff]
    by_cases hsame : slot' = slot
    · simp_all [Arena.release, total]
    · simp [Arena.release, hsame, List.getElem?_set_ne (Ne.symm hsame)]

/-- While nothing is issued the order can be replaced by another one of the same slots. -/
theorem reorder (h : a.Consistent) (hcursor : a.cursor = 0) {order : List Nat}
    (hperm : order.Perm a.order) : (a.reorder order).Consistent := by
  have hissued : a.issuedSlots = [] := by simp [issuedSlots, hcursor]
  have hpending : a.pendingSlots = a.order := by simp [pendingSlots, hcursor]
  refine ⟨h.laid.congr rfl rfl, hperm.nodup_iff.mpr h.nodup, ?_, fun slot => ?_, fun slot => ?_⟩
  · simp [Arena.reorder, hcursor]
  · have := h.issued_iff slot
    rw [hissued] at this
    simpa [Arena.reorder, issuedSlots, hcursor] using this
  · have := h.pending_iff slot
    rw [hpending, ← hperm.mem_iff] at this
    simpa [Arena.reorder, pendingSlots, hcursor] using this

end Consistent

end Arena

end ShuffleMint
