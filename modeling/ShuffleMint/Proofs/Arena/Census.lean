import ShuffleMint.Proofs.Arena.Consistency

/-!
# How many slots there are of each status

Every slot has one status, so the slots of each status add up to all slots. In a consistent arena
the order lists as many slots before the cursor as are issued, and as many from it on as are
pending. What the order leaves out is held back, and a count of it is what is left of all slots when
these two are taken away.
-/

namespace ShuffleMint

/-- The places at which a list has a value. -/
def placesOf {α : Type} [DecidableEq α] (xs : List α) (x : α) : List Nat :=
  (List.range xs.length).filter fun i => xs[i]? = some x

section

variable {α : Type} [DecidableEq α] {xs : List α} {x : α}

theorem mem_placesOf {i : Nat} : i ∈ placesOf xs x ↔ xs[i]? = some x := by
  rw [placesOf, List.mem_filter, List.mem_range, decide_eq_true_eq]
  exact ⟨And.right, fun hi => ⟨(List.getElem?_eq_some_iff.mp hi).1, hi⟩⟩

theorem nodup_placesOf : (placesOf xs x).Nodup := List.nodup_range.filter _

/-- A list has a value at as many places as it has the value. -/
theorem length_placesOf : (placesOf xs x).length = xs.count x := by
  have hvalues : (List.range xs.length).map (fun i => xs[i]?) = xs.map some := by
    refine List.ext_getElem? fun i => ?_
    by_cases hi : i < xs.length <;> simp [hi]
  calc (placesOf xs x).length
      = (List.range xs.length).countP (fun i => xs[i]? = some x) := by
        rw [placesOf, List.countP_eq_length_filter]
    _ = (xs.map some).countP (fun value => value = some x) := by
        rw [← hvalues, List.countP_map]
        rfl
    _ = xs.count x := by
        rw [List.countP_map, List.count]
        exact List.countP_congr fun value _ => by simp

/-- Any list of those places without repetition is as long. -/
theorem length_eq_count_of_mem_iff {places : List Nat} (hnodup : places.Nodup)
    (h : ∀ i, i ∈ places ↔ xs[i]? = some x) : places.length = xs.count x := by
  have hperm : places.Perm (placesOf xs x) :=
    (List.perm_ext_iff_of_nodup hnodup nodup_placesOf).mpr fun i => (h i).trans mem_placesOf.symm
  rw [hperm.length_eq, length_placesOf]

end

namespace Arena

variable {a : Arena}

/-- How many slots have a status. -/
def statusCount (a : Arena) (status : SlotStatus) : Nat := a.status.count status

/-- Every slot is issued, pending, reserved or staged. -/
theorem sum_statusCount (a : Arena) :
    a.statusCount .issued + a.statusCount .pending +
      (a.statusCount .reserved + a.statusCount .staged) = a.total := by
  simp only [statusCount, total]
  induction a.status with
  | nil => rfl
  | cons status rest ih =>
    cases status <;> simp <;> omega

namespace Consistent

variable (h : a.Consistent)

include h

/-- As many slots are issued as the cursor says. -/
theorem cursor_eq_statusCount : a.cursor = a.statusCount .issued := by
  rw [← length_issuedSlots h.cursor_le]
  exact length_eq_count_of_mem_iff h.issued_nodup h.issued_iff

/-- As many slots are pending as the order lists from the cursor on. -/
theorem pending_eq : a.pending = .ok (a.statusCount .pending) := by
  have hlength : a.order.length - a.cursor = a.statusCount .pending := by
    rw [← List.length_drop]
    exact length_eq_count_of_mem_iff h.pending_nodup h.pending_iff
  rw [← hlength]
  exact if_pos h.cursor_le

end Consistent

end Arena

end ShuffleMint
