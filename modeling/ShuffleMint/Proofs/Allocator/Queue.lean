import ShuffleMint.Proofs.Allocator.Histories
import ShuffleMint.Proofs.Allocator.Standing
import ShuffleMint.Proofs.Allocator.TokenQueue

/-!
# The queue of an allocator

An allocator is seen as a queue of tokens by reading its slots as the tokens that they stand for. In
a consistent allocator a token is in the part of the queue that its standing tells, so every token
is in exactly one part, and a move of slots is a move of the queue.
-/

namespace ShuffleMint

/-- The token that a slot stands for, if it stands for one. -/
def Arena.token? (a : Arena) (slot : Nat) : Option Token := (a.tokenOf slot).toOption

namespace Allocator

/-- The tokens whose slots have a status. -/
def tokensIn (a : Allocator) (status : SlotStatus) : Finset Token :=
  (((List.range a.arena.total).filter fun slot => a.arena.status[slot]? = some status).filterMap
    a.arena.token?).toFinset

/-- The tokens of an allocator by what has become of them. -/
def queue (a : Allocator) : TokenQueue where
  issued := a.arena.issuedSlots.filterMap a.arena.token?
  pending := a.arena.pendingSlots.filterMap a.arena.token?
  reserved := a.tokensIn .reserved
  staged := a.tokensIn .staged

end Allocator

/-- A slot stands for a token when it has one. -/
theorem Arena.token?_eq_some_iff {a : Arena} {slot : Nat} {t : Token} :
    a.token? slot = some t ↔ a.tokenOf slot = .ok t := by
  rw [token?]
  cases a.tokenOf slot <;> simp [Except.toOption]

/-- The token of a slot is of the collection of the slot. -/
theorem Arena.WellLaid.map_collection_token? {a : Arena} (h : a.WellLaid) (slot : Nat) :
    (a.token? slot).map Token.collection = a.collection? slot := by
  rw [token?, tokenOf, collection?, h.covered.at?_eq]
  cases a.layout.find? (SlotRun.holds slot) <;> rfl

/-- Taking out the only entry with an image takes the image out of the images. -/
theorem filterMap_erase_of_unique {α β : Type} [DecidableEq α] [DecidableEq β]
    {f : α → Option β} {x : α} {y : β} (hx : f x = some y) (hunique : ∀ z, f z = some y → z = x)
    (xs : List α) : (xs.erase x).filterMap f = (xs.filterMap f).erase y := by
  induction xs with
  | nil => rfl
  | cons z rest ih =>
    by_cases hz : z = x
    · rw [hz, List.erase_cons_head, List.filterMap_cons_some hx, List.erase_cons_head]
    · rw [List.erase_cons_tail (by simpa using hz)]
      cases himage : f z with
      | none => rw [List.filterMap_cons_none himage, List.filterMap_cons_none himage, ih]
      | some w =>
        have hw : w ≠ y := fun hsame => hz (hunique z (hsame ▸ himage))
        rw [List.filterMap_cons_some himage, List.filterMap_cons_some himage,
          List.erase_cons_tail (by simpa using hw), ih]

namespace Allocator

namespace Consistent

variable {a b : Allocator} {slot : Nat} {t : Token}

/-- The tokens of some slots are those that stand for the slots. -/
theorem mem_filterMap_token? {slots : List Nat} :
    t ∈ slots.filterMap a.arena.token? ↔ ∃ slot ∈ slots, a.arena.tokenOf slot = .ok t := by
  simp only [List.mem_filterMap, Arena.token?_eq_some_iff]

/-- A token is issued when it stands so. -/
theorem mem_queue_issued (h : a.Consistent) :
    t ∈ a.queue.issued ↔ a.standing t = some .issued := by
  simp only [queue, mem_filterMap_token?, h.standing_eq_some_iff, h.arena.issued_iff, and_comm]

/-- A token is pending when it stands so. -/
theorem mem_queue_pending (h : a.Consistent) :
    t ∈ a.queue.pending ↔ a.standing t = some .pending := by
  simp only [queue, mem_filterMap_token?, h.standing_eq_some_iff, h.arena.pending_iff, and_comm]

/-- The tokens with a status are those that stand so. -/
theorem mem_tokensIn (h : a.Consistent) {status : SlotStatus} :
    t ∈ a.tokensIn status ↔ a.standing t = some status := by
  simp only [tokensIn, List.mem_toFinset, mem_filterMap_token?, List.mem_filter, List.mem_range,
    decide_eq_true_eq, h.standing_eq_some_iff]
  constructor
  · rintro ⟨slot, ⟨-, hstatus⟩, htoken⟩
    exact ⟨slot, htoken, hstatus⟩
  · rintro ⟨slot, htoken, hstatus⟩
    exact ⟨slot, ⟨h.arena.laid.lt_total_of_tokenOf htoken, hstatus⟩, htoken⟩

/-- A token is reserved when it stands so. -/
theorem mem_queue_reserved (h : a.Consistent) :
    t ∈ a.queue.reserved ↔ a.standing t = some .reserved :=
  h.mem_tokensIn

/-- A token is staged when it stands so. -/
theorem mem_queue_staged (h : a.Consistent) :
    t ∈ a.queue.staged ↔ a.standing t = some .staged :=
  h.mem_tokensIn

/-- A token is in the part of the queue that the status of its slot tells. -/
theorem mem_queue_iff (h : a.Consistent) (htoken : a.arena.tokenOf slot = .ok t)
    {status : SlotStatus} (hstatus : a.arena.status[slot]? = some status) :
    (t ∈ a.queue.issued ↔ status = .issued) ∧ (t ∈ a.queue.pending ↔ status = .pending) ∧
      (t ∈ a.queue.reserved ↔ status = .reserved) ∧ (t ∈ a.queue.staged ↔ status = .staged) := by
  rw [h.mem_queue_issued, h.mem_queue_pending, h.mem_queue_reserved, h.mem_queue_staged,
    h.standing_eq htoken, hstatus]
  simp only [Option.some.injEq, and_self]

/-- The queue holds the tokens that have a slot. -/
theorem queue_holds_iff (h : a.Consistent) : a.queue.Holds t ↔ ∃ slot, a.arena.slotOf t = .ok slot := by
  rw [TokenQueue.Holds, h.mem_queue_issued, h.mem_queue_pending, h.mem_queue_reserved,
    h.mem_queue_staged]
  constructor
  · have hslot {status : SlotStatus} (hstanding : a.standing t = some status) :
        ∃ slot, a.arena.slotOf t = .ok slot := by
      obtain ⟨slot, htoken, -⟩ := h.standing_eq_some_iff.mp hstanding
      exact ⟨slot, h.arena.laid.slotOf_eq_ok_iff.mpr htoken⟩
    rintro (hstanding | hstanding | hstanding | hstanding) <;> exact hslot hstanding
  · rintro ⟨slot, hslot⟩
    have htoken := h.arena.laid.slotOf_eq_ok_iff.mp hslot
    obtain ⟨status, hstatus⟩ :=
      (a.arena.exists_status_iff slot).mpr (h.arena.laid.lt_total_of_tokenOf htoken)
    rw [h.standing_eq htoken, hstatus]
    cases status <;> simp

/-- A token without a slot is in no part of the queue. -/
theorem notMem_queue (h : a.Consistent) {e : Failure} (hslot : a.arena.slotOf t = .error e) :
    ¬ a.queue.Holds t := by
  rw [h.queue_holds_iff, hslot]
  simp

/-- Nothing is issued from the queue exactly when the cursor has not moved. -/
theorem queue_issued_eq_nil_iff (h : a.Consistent) :
    a.queue.issued = [] ↔ a.arena.cursor = 0 := by
  rw [← Arena.length_issuedSlots h.arena.cursor_le, List.length_eq_zero_iff]
  constructor
  · intro hnone
    refine List.eq_nil_iff_forall_not_mem.mpr fun slot hslot => ?_
    have hissued := (h.arena.issued_iff slot).mp hslot
    obtain ⟨t, htoken⟩ := h.arena.exists_tokenOf_of_status hissued
    have ht := (h.mem_queue_iff htoken hissued).1.mpr rfl
    rw [hnone] at ht
    cases ht
  · intro hnone
    rw [queue, hnone, List.filterMap_nil]

/-- Slots without repetition stand for tokens without repetition. -/
theorem nodup_filterMap_token? (h : a.Consistent) {slots : List Nat} (hslots : slots.Nodup) :
    (slots.filterMap a.arena.token?).Nodup := by
  refine hslots.filterMap fun slot slot' t ht ht' => ?_
  rw [Option.mem_def, Arena.token?_eq_some_iff] at ht ht'
  exact h.arena.laid.eq_of_tokenOf ht ht'

/-- A token is one of the collections of the layout, and its number is within the supply there,
exactly when it has a slot. -/
theorem exists_slotOf_iff (h : a.Consistent) {collections : List (Nat × Nat)}
    (hcollections : a.arena.layout.map (fun r => (r.collection, r.supply)) = collections) :
    (∃ slot, a.arena.slotOf t = .ok slot) ↔
      ∃ c ∈ collections, c.1 = t.collection ∧ 1 ≤ t.number ∧ t.number ≤ c.2 := by
  simp only [h.arena.laid.slotOf_eq_ok_iff, h.arena.laid.tokenOf_eq_ok_iff, ← hcollections,
    List.mem_map, SlotRun.holds_iff]
  constructor
  · rintro ⟨slot, r, hr, hslot, rfl⟩
    exact ⟨_, ⟨r, hr, rfl⟩, rfl, by simp only; omega⟩
  · rintro ⟨_, ⟨r, hr, rfl⟩, hcollection, hnumber⟩
    refine ⟨r.offset + t.number - 1, r, hr, by omega, ?_⟩
    obtain ⟨collection, number⟩ := t
    simp only [Token.mk.injEq] at hcollection hnumber ⊢
    exact ⟨hcollection.symm, by omega⟩

/-- The queue of an allocator of collections holds their tokens, each of them once. -/
theorem queue_partitions (h : a.Consistent) {collections : List (Nat × Nat)}
    (hcollections : a.arena.layout.map (fun r => (r.collection, r.supply)) = collections) :
    a.queue.Partitions collections where
  issued_nodup := h.nodup_filterMap_token? h.arena.issued_nodup
  pending_nodup := h.nodup_filterMap_token? h.arena.pending_nodup
  disjoint := fun t => by
    simp only [h.mem_queue_issued, h.mem_queue_pending, h.mem_queue_reserved, h.mem_queue_staged]
    cases hstanding : a.standing t with
    | none => simp
    | some status => cases status <;> simp
  holds_iff := fun t => h.queue_holds_iff.trans (h.exists_slotOf_iff hcollections)

/-- Taking a slot out of a list takes its token out of the tokens of the list. -/
theorem filterMap_token?_erase (h : a.Consistent) (htoken : a.arena.tokenOf slot = .ok t)
    (slots : List Nat) :
    (slots.erase slot).filterMap a.arena.token? = (slots.filterMap a.arena.token?).erase t :=
  filterMap_erase_of_unique (Arena.token?_eq_some_iff.mpr htoken)
    (fun _ hother => h.arena.laid.eq_of_tokenOf (Arena.token?_eq_some_iff.mp hother) htoken) slots

/-! ## The moves of the queue -/

/-- Issuing a slot makes its token the last issued one and takes it out of the other parts. -/
theorem queue_issueSlot (h : a.Consistent) (htoken : a.arena.tokenOf slot = .ok t)
    {status : SlotStatus} (hstatus : a.arena.status[slot]? = some status)
    (hfresh : status ≠ .issued) :
    (a.issueSlot slot t).queue =
      ⟨a.queue.issued ++ [t], a.queue.pending.erase t, a.queue.reserved.erase t,
        a.queue.staged.erase t⟩ := by
  have hafter := h.issueSlot htoken hstatus hfresh
  have hstanding := h.standing_issueSlot htoken
  have hheld {held : SlotStatus} (hheld : held ≠ .issued) :
      (a.issueSlot slot t).tokensIn held = (a.tokensIn held).erase t := by
    ext t'
    rw [hafter.mem_tokensIn, hstanding, Finset.mem_erase, h.mem_tokensIn]
    by_cases hsame : t' = t <;> simp [hsame, hheld.symm]
  have hissued : (a.issueSlot slot t).queue.issued = a.queue.issued ++ [t] := by
    change (a.arena.issue slot).issuedSlots.filterMap a.arena.token? = _
    rw [Arena.issuedSlots_issue slot, List.filterMap_append,
      List.filterMap_cons_some (Arena.token?_eq_some_iff.mpr htoken)]
    rfl
  have hpending : (a.issueSlot slot t).queue.pending = a.queue.pending.erase t := by
    change (a.arena.issue slot).pendingSlots.filterMap a.arena.token? = _
    rw [Arena.pendingSlots_issue slot, h.filterMap_token?_erase htoken]
    rfl
  rw [← hissued, ← hpending]
  simp only [queue, hheld (by simp : SlotStatus.reserved ≠ .issued),
    hheld (by simp : SlotStatus.staged ≠ .issued)]

/-- Issuing the slot of a pending token issues the token. -/
theorem queue_issueSlot_pending (h : a.Consistent) (htoken : a.arena.tokenOf slot = .ok t)
    (hstatus : a.arena.status[slot]? = some .pending) :
    (a.issueSlot slot t).queue = a.queue.issuePending t := by
  obtain ⟨-, -, hreserved, hstaged⟩ := h.mem_queue_iff htoken hstatus
  have hreserved : t ∉ a.queue.reserved := by simp [hreserved]
  have hstaged : t ∉ a.queue.staged := by simp [hstaged]
  rw [h.queue_issueSlot htoken hstatus (by simp), TokenQueue.issuePending,
    Finset.erase_eq_of_notMem hreserved, Finset.erase_eq_of_notMem hstaged]

/-- Issuing the slot of a reserved token issues the token. -/
theorem queue_issueSlot_reserved (h : a.Consistent) (htoken : a.arena.tokenOf slot = .ok t)
    (hstatus : a.arena.status[slot]? = some .reserved) :
    (a.issueSlot slot t).queue = a.queue.issueReserved t := by
  obtain ⟨-, hpending, -, hstaged⟩ := h.mem_queue_iff htoken hstatus
  have hpending : t ∉ a.queue.pending := by simp [hpending]
  have hstaged : t ∉ a.queue.staged := by simp [hstaged]
  rw [h.queue_issueSlot htoken hstatus (by simp), TokenQueue.issueReserved,
    List.erase_of_not_mem hpending, Finset.erase_eq_of_notMem hstaged]

/-- Issuing the slot of a staged token issues the token. -/
theorem queue_issueSlot_staged (h : a.Consistent) (htoken : a.arena.tokenOf slot = .ok t)
    (hstatus : a.arena.status[slot]? = some .staged) :
    (a.issueSlot slot t).queue = a.queue.issueStaged t := by
  obtain ⟨-, hpending, hreserved, -⟩ := h.mem_queue_iff htoken hstatus
  have hpending : t ∉ a.queue.pending := by simp [hpending]
  have hreserved : t ∉ a.queue.reserved := by simp [hreserved]
  rw [h.queue_issueSlot htoken hstatus (by simp), TokenQueue.issueStaged,
    List.erase_of_not_mem hpending, Finset.erase_eq_of_notMem hreserved]

/-- Holding a slot back takes its token out of the pending ones and puts it where it is held. -/
theorem queue_holdSlot (h : a.Consistent) (htoken : a.arena.tokenOf slot = .ok t)
    (hpending : a.arena.status[slot]? = some .pending) {held : SlotStatus}
    (hheld : held = .reserved ∨ held = .staged) :
    (a.holdSlot slot held).queue =
      ⟨a.queue.issued, a.queue.pending.erase t,
        if held = .reserved then insert t a.queue.reserved else a.queue.reserved,
        if held = .staged then insert t a.queue.staged else a.queue.staged⟩ := by
  have hafter := h.holdSlot hpending hheld
  have hbefore := (h.standing_eq htoken).trans hpending
  have hsets {status : SlotStatus} (hstatus : status ≠ .pending) :
      (a.holdSlot slot held).tokensIn status =
        if held = status then insert t (a.tokensIn status) else a.tokensIn status := by
    ext t'
    rw [hafter.mem_tokensIn, h.standing_holdSlot htoken]
    by_cases hsame : t' = t
    · rw [hsame, if_pos rfl]
      by_cases hwhere : held = status <;> simp [hwhere, h.mem_tokensIn, hbefore, hstatus.symm]
    · by_cases hwhere : held = status <;> simp [hwhere, h.mem_tokensIn, hsame]
  have hissued : (a.holdSlot slot held).queue.issued = a.queue.issued := by
    change (a.arena.hold slot held).issuedSlots.filterMap a.arena.token? = _
    rw [Arena.issuedSlots_hold slot held]
    rfl
  have hdrawn : (a.holdSlot slot held).queue.pending = a.queue.pending.erase t := by
    change (a.arena.hold slot held).pendingSlots.filterMap a.arena.token? = _
    rw [Arena.pendingSlots_hold slot held, h.filterMap_token?_erase htoken]
    rfl
  rw [← hissued, ← hdrawn]
  simp only [queue, hsets (by simp : SlotStatus.reserved ≠ .pending),
    hsets (by simp : SlotStatus.staged ≠ .pending)]

/-- Holding a slot back as reserved reserves its token. -/
theorem queue_holdSlot_reserved (h : a.Consistent) (htoken : a.arena.tokenOf slot = .ok t)
    (hpending : a.arena.status[slot]? = some .pending) :
    (a.holdSlot slot .reserved).queue = a.queue.reserve t := by
  rw [h.queue_holdSlot htoken hpending (.inl rfl)]
  rfl

/-- Holding a slot back as staged stages its token. -/
theorem queue_holdSlot_staged (h : a.Consistent) (htoken : a.arena.tokenOf slot = .ok t)
    (hpending : a.arena.status[slot]? = some .pending) :
    (a.holdSlot slot .staged).queue = a.queue.stage t := by
  rw [h.queue_holdSlot htoken hpending (.inr rfl)]
  rfl

/-- Releasing the slot of a staged token makes the token the last pending one. -/
theorem queue_releaseSlot (h : a.Consistent) (htoken : a.arena.tokenOf slot = .ok t)
    (hstaged : a.arena.status[slot]? = some .staged) :
    (a.releaseSlot slot).queue = a.queue.unstage t := by
  have hafter := h.releaseSlot (.inr hstaged)
  have hbefore := (h.standing_eq htoken).trans hstaged
  have hstanding := h.standing_releaseSlot htoken
  have hissued : (a.releaseSlot slot).queue.issued = a.queue.issued := by
    change (a.arena.release slot).issuedSlots.filterMap a.arena.token? = _
    rw [Arena.issuedSlots_release slot h.arena.cursor_le]
    rfl
  have hdrawn : (a.releaseSlot slot).queue.pending = a.queue.pending ++ [t] := by
    change (a.arena.release slot).pendingSlots.filterMap a.arena.token? = _
    rw [Arena.pendingSlots_release slot h.arena.cursor_le, List.filterMap_append,
      List.filterMap_cons_some (Arena.token?_eq_some_iff.mpr htoken)]
    rfl
  have hreserved : (a.releaseSlot slot).tokensIn .reserved = a.tokensIn .reserved := by
    ext t'
    rw [hafter.mem_tokensIn, hstanding, h.mem_tokensIn]
    by_cases hsame : t' = t <;> simp [hsame, hbefore]
  have hleft : (a.releaseSlot slot).tokensIn .staged = (a.tokensIn .staged).erase t := by
    ext t'
    rw [hafter.mem_tokensIn, hstanding, Finset.mem_erase, h.mem_tokensIn]
    by_cases hsame : t' = t <;> simp [hsame]
  rw [TokenQueue.unstage, ← hissued, ← hdrawn]
  simp only [queue, hreserved, hleft]

/-- The next token of the queue is that of the next slot to draw. -/
theorem queue_next? (h : a.Consistent) (collection : Option Nat) :
    a.queue.next? collection = (a.arena.nextSlot? collection).bind a.arena.token? := by
  cases collection with
  | none =>
    cases hslots : a.arena.pendingSlots with
    | nil => simp [TokenQueue.next?, queue, Arena.nextSlot?, hslots]
    | cons slot rest =>
      have hpending := (h.arena.pending_iff slot).mp (by simp [hslots])
      obtain ⟨t, htoken⟩ := h.arena.exists_tokenOf_of_status hpending
      have hsome := Arena.token?_eq_some_iff.mpr htoken
      simp [TokenQueue.next?, queue, Arena.nextSlot?, hslots, hsome]
  | some collection =>
    have hsame (slot : Nat) :
        ((a.arena.token? slot).any fun t => t.collection = collection) =
          decide (a.arena.collection? slot = some collection) := by
      rw [← h.arena.laid.map_collection_token? slot]
      cases a.arena.token? slot <;> simp
    simp only [TokenQueue.next?, queue, Arena.nextSlot?, List.find?_filterMap, hsame]

end Consistent

end Allocator

end ShuffleMint
