import Mathlib.Data.List.Count
import ShuffleMint.Proofs.Allocator.Shuffling
import ShuffleMint.Proofs.Allocator.Standing

/-!
# How many tokens of a collection can be drawn

A draw from a collection succeeds as long as the collection has a pending slot. It leaves the
collection with one less, and every other collection with as many as before. So a token of each
collection can be drawn as often as the scarcest of them has pending slots.
-/

namespace ShuffleMint

namespace Arena

variable {a : Arena} {collection : Nat}

/-- How many pending slots belong to a collection. -/
def pendingOf (a : Arena) (collection : Nat) : Nat :=
  a.pendingSlots.countP fun slot => a.collection? slot = some collection

/-- There is a slot to draw from a collection exactly when one of its slots is pending. -/
theorem isSome_nextSlot?_iff :
    (a.nextSlot? (some collection)).isSome ↔ 0 < a.pendingOf collection := by
  rw [nextSlot?, pendingOf, List.find?_isSome, List.countP_pos_iff]

/-- Issuing a pending slot takes one from its collection and none from the others. -/
theorem pendingOf_issue {slot : Nat} (hslot : slot ∈ a.pendingSlots)
    (hcollection : a.collection? slot = some collection) (other : Nat) :
    (a.issue slot).pendingOf other + (if other = collection then 1 else 0) =
      a.pendingOf other := by
  have hcount : (a.issue slot).pendingOf other =
      a.pendingOf other - if slot ∈ a.pendingSlots ∧
        decide (a.collection? slot = some other) = true then 1 else 0 := by
    rw [pendingOf, pendingSlots_issue slot]
    exact List.countP_erase _ _ _
  by_cases hsame : other = collection
  · have hpositive : 0 < a.pendingOf other :=
      List.countP_pos_iff.mpr ⟨slot, hslot, decide_eq_true (hsame ▸ hcollection)⟩
    rw [if_pos ⟨hslot, decide_eq_true (hsame ▸ hcollection)⟩] at hcount
    rw [if_pos hsame]
    omega
  · have hother : a.collection? slot ≠ some other := by
      rw [hcollection]
      exact fun heq => hsame (Option.some.inj heq).symm
    rw [if_neg fun hboth => hother (of_decide_eq_true hboth.2)] at hcount
    rw [if_neg hsame, hcount]
    rfl

/-- The number that a search of the window yields is that of the pending slots. -/
theorem Consistent.pendingIn_eq_pendingOf (h : a.Consistent) (collection : Nat) :
    a.pendingIn collection = .ok (a.pendingOf collection) :=
  h.pendingIn_eq collection

/-- How many tokens are not yet issued can always be told. -/
theorem Consistent.remaining_eq (h : a.Consistent) : a.remaining = .ok (a.total - a.cursor) := by
  have hslots : a.order ⊆ List.range a.total := fun slot hslot =>
    List.mem_range.mpr (h.lt_total_of_mem hslot)
  have hlength := (List.subperm_of_subset h.nodup hslots).length_le
  rw [List.length_range] at hlength
  exact if_pos (Nat.le_trans h.cursor_le hlength)

end Arena

namespace Allocator

variable {a b : Allocator}

/-- How often a token of each collection can be drawn: as often as the scarcest of them allows. -/
def bundlesLeft (a : Allocator) : Nat := ((a.collectionIds.map a.arena.pendingOf).min?).getD 0

/-- Where there is a collection, a number of bundles is left when each collection has so many pending
slots. -/
theorem le_bundlesLeft_iff (hsome : a.collectionIds ≠ []) {n : Nat} :
    n ≤ a.bundlesLeft ↔ ∀ id ∈ a.collectionIds, n ≤ a.arena.pendingOf id := by
  cases hmin : (a.collectionIds.map a.arena.pendingOf).min? with
  | none => exact absurd (List.map_eq_nil_iff.mp (List.min?_eq_none_iff.mp hmin)) hsome
  | some least =>
    rw [bundlesLeft, hmin, Option.getD_some, List.le_min?_iff hmin, List.forall_mem_map]

/-- None is left when some collection is exhausted. -/
theorem bundlesLeft_eq_zero_iff (hsome : a.collectionIds ≠ []) :
    a.bundlesLeft = 0 ↔ ∃ id ∈ a.collectionIds, a.arena.pendingOf id = 0 := by
  have hpositive := le_bundlesLeft_iff (n := 1) hsome
  constructor
  · intro hzero
    by_contra hnone
    push Not at hnone
    have := hpositive.mpr fun id hid => Nat.one_le_iff_ne_zero.mpr (hnone id hid)
    omega
  · rintro ⟨id, hid, hzero⟩
    refine Nat.eq_zero_of_not_pos fun hleft => ?_
    have := hpositive.mp hleft id hid
    omega

namespace Consistent

variable {collection : Nat} {t : Token}

/-- From a collection with a pending slot a token can be drawn. -/
theorem exists_next (h : a.Consistent) (hpending : 0 < a.arena.pendingOf collection) :
    ∃ t b, next (some collection) a = (.ok t, b) := by
  obtain ⟨slot, hslot⟩ := Option.isSome_iff_exists.mp (Arena.isSome_nextSlot?_iff.mpr hpending)
  obtain ⟨t, htoken, -⟩ := h.arena.exists_of_nextSlot? hslot
  exact ⟨t, _, h.next_apply_some hslot htoken⟩

/-- A draw from a collection takes one pending slot of it and none of the others. -/
theorem pendingOf_next (h : a.Consistent) (hok : next (some collection) a = (.ok t, b))
    (other : Nat) :
    b.arena.pendingOf other + (if other = collection then 1 else 0) = a.arena.pendingOf other := by
  obtain ⟨slot, hnext, -, -, rfl⟩ := h.next_eq_ok hok
  exact Arena.pendingOf_issue (Arena.mem_pendingSlots_of_nextSlot? hnext)
    (Arena.collection?_of_nextSlot? hnext) other

end Consistent

/-- Shuffling unless that is done leaves every collection with as many pending slots. -/
theorem pendingOf_ensureShuffled {seed : Seed} (hok : ensureShuffled seed a = (.ok (), b))
    (collection : Nat) : b.arena.pendingOf collection = a.arena.pendingOf collection := by
  rw [ensureShuffled_apply] at hok
  split at hok
  · rw [(Prod.mk.inj hok).2]
  · obtain ⟨-, hreshuffles⟩ := reshuffles_of_initializeShuffle hok
    rw [Arena.pendingOf, Arena.pendingOf, hreshuffles.pending.countP_eq]
    have hcollection : b.arena.collection? = a.arena.collection? := by
      funext slot
      rw [Arena.collection?, Arena.collection?, hreshuffles.layout]
    rw [hcollection]

end Allocator

end ShuffleMint
