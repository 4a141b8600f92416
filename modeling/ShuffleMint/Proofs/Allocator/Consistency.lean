import Mathlib.Data.List.Perm.Subperm
import ShuffleMint.Proofs.Arena.Consistency
import ShuffleMint.Proofs.SortedMap.Insertion

/-!
# Allocators whose parts fit together

An allocator is consistent if its arena is and if the supplies tell, for every collection of the
layout and for no other, how many slots it has and how many of them are issued. Issuing a slot
counts it for its collection; the other moves leave the supplies alone. So every move keeps an
allocator consistent, and no move asks for more tokens than a collection has.
-/

namespace ShuffleMint

namespace Arena

/-- How many slots of a run are issued. -/
def issuedIn (a : Arena) (r : SlotRun) : Nat := a.issuedSlots.countP fun slot => r.holds slot

/-- Issuing a slot counts for the run that holds it. -/
theorem issuedIn_issue (a : Arena) (slot : Nat) (r : SlotRun) :
    (a.issue slot).issuedIn r = a.issuedIn r + if r.holds slot then 1 else 0 := by
  simp [issuedIn, issuedSlots_issue slot]

namespace Consistent

variable {a : Arena} {r : SlotRun}

/-- A run with a slot that is not issued has not issued all its slots. -/
theorem issuedIn_lt (h : a.Consistent) {slot : Nat} (hholds : r.holds slot = true)
    (hfresh : slot ∉ a.issuedSlots) : a.issuedIn r < r.supply := by
  have hnodup : (slot :: a.issuedSlots.filter fun slot => r.holds slot).Nodup :=
    List.nodup_cons.mpr ⟨fun hmem => hfresh (List.mem_filter.mp hmem).1, h.issued_nodup.filter _⟩
  have hsubset : (slot :: a.issuedSlots.filter fun slot => r.holds slot) ⊆
      List.range' r.offset r.supply := by
    intro x hx
    have hx : r.holds x = true := by
      rcases List.mem_cons.mp hx with rfl | hx
      · exact hholds
      · exact (List.mem_filter.mp hx).2
    rw [SlotRun.holds_iff] at hx
    exact List.mem_range'_1.mpr hx
  have hlength := (List.subperm_of_subset hnodup hsubset).length_le
  simp only [List.length_cons, List.length_range'] at hlength
  rw [issuedIn, List.countP_eq_length_filter]
  omega

/-- How many slots of a run are issued can be read off their statuses. -/
theorem issuedIn_eq_countP (h : a.Consistent) (r : SlotRun) :
    a.issuedIn r =
      (List.range' r.offset r.supply).countP fun slot => a.status[slot]? = some .issued := by
  rw [issuedIn, List.countP_eq_length_filter, List.countP_eq_length_filter]
  refine List.Perm.length_eq ((List.perm_ext_iff_of_nodup (h.issued_nodup.filter _)
    ((List.nodup_range' ..).filter _)).mpr fun slot => ?_)
  simp only [List.mem_filter, List.mem_range'_1, h.issued_iff, SlotRun.holds_iff,
    decide_eq_true_eq]
  exact and_comm

end Consistent

end Arena

namespace SlotRun

/-- Exactly one run of a row holds a slot of the row. -/
theorem Abut.countP_holds {runs : List SlotRun} {start stop : Nat} (h : Abut runs start stop)
    {slot : Nat} (hstart : start ≤ slot) (hstop : slot < stop) : runs.countP (holds slot) = 1 := by
  induction runs generalizing start with
  | nil =>
    simp only [Abut] at h
    omega
  | cons r rest ih =>
    obtain ⟨hoffset, hrest⟩ := h
    rw [List.countP_cons]
    by_cases hslot : slot < start + r.supply
    · have hlater : rest.countP (holds slot) = 0 := by
        refine List.countP_eq_zero.mpr fun r' hr' => ?_
        have := hrest.bounds.2 r' hr'
        rw [holds_iff]
        omega
      rw [hlater, if_pos (holds_iff.mpr (by omega))]
    · rw [ih hrest (by omega), if_neg (by rw [holds_iff]; omega)]

/-- Slots of a row are counted once each when they are counted run by run. -/
theorem Abut.sum_countP {runs : List SlotRun} {stop : Nat} (h : Abut runs 0 stop)
    {slots : List Nat} (hslots : ∀ slot ∈ slots, slot < stop) :
    (runs.map fun r => slots.countP fun slot => r.holds slot).sum = slots.length := by
  induction slots with
  | nil => simp
  | cons slot rest ih =>
    have hone := h.countP_holds (Nat.zero_le slot) (hslots slot (by simp))
    have hsplit (rs : List SlotRun) :
        (rs.map fun r => (slot :: rest).countP fun slot => r.holds slot).sum =
          (rs.map fun r => rest.countP fun slot => r.holds slot).sum + rs.countP (holds slot) := by
      induction rs with
      | nil => rfl
      | cons r rs ih =>
        simp only [List.map_cons, List.sum_cons, List.countP_cons] at ih ⊢
        omega
    rw [hsplit, ih fun s hs => hslots s (List.mem_cons_of_mem _ hs), hone, List.length_cons]

end SlotRun

namespace Supply

/-- The supplies with one more issued token of a collection. -/
def countIssue (collection : Nat) (supplies : SortedMap Nat Supply) : SortedMap Nat Supply :=
  match supplies.get? collection with
  | some s => supplies.insert collection { s with issued := s.issued + 1 }
  | none => supplies

end Supply

namespace Allocator

/-- Issues a slot, which stands for a token, and counts it for the token's collection. -/
def issueSlot (a : Allocator) (slot : Nat) (t : Token) : Allocator :=
  { arena := a.arena.issue slot, supplies := Supply.countIssue t.collection a.supplies }

/-- Holds a pending slot back. -/
def holdSlot (a : Allocator) (slot : Nat) (status : SlotStatus) : Allocator :=
  { a with arena := a.arena.hold slot status }

/-- Makes a slot that is held back the last pending one. -/
def releaseSlot (a : Allocator) (slot : Nat) : Allocator :=
  { a with arena := a.arena.release slot }

/-- Fixes the order in which slots are drawn. -/
def reorder (a : Allocator) (order : List Nat) : Allocator :=
  { a with arena := a.arena.reorder order }

/-- The arena is consistent, and the supplies tell of every collection of the layout, and of no
other, how many slots it has and how many of them are issued. -/
structure Consistent (a : Allocator) : Prop where
  arena : a.arena.Consistent
  supplied : ∀ collection supply, a.supplies.get? collection = some supply ↔
    ∃ r ∈ a.arena.layout, r.collection = collection ∧ supply = ⟨r.supply, a.arena.issuedIn r⟩

namespace Consistent

variable {a : Allocator} {slot : Nat} {t : Token}

/-- The supply of the collection of a run. -/
theorem get?_supply (h : a.Consistent) {r : SlotRun} (hr : r ∈ a.arena.layout) :
    a.supplies.get? r.collection = some ⟨r.supply, a.arena.issuedIn r⟩ :=
  (h.supplied _ _).mpr ⟨r, hr, rfl, rfl⟩

/-- A collection has a token left to issue as long as one of its slots is not issued. -/
theorem exists_room (h : a.Consistent) (htoken : a.arena.tokenOf slot = .ok t)
    (hfresh : slot ∉ a.arena.issuedSlots) :
    ∃ supply, a.supplies.get? t.collection = some supply ∧ supply.issued < supply.total := by
  obtain ⟨r, hr, hholds, rfl⟩ := h.arena.laid.tokenOf_eq_ok_iff.mp htoken
  exact ⟨_, h.get?_supply hr, h.arena.issuedIn_lt hholds hfresh⟩

/-- Moves that leave layout and issued slots alone keep the supplies right. -/
theorem of_arena (h : a.Consistent) {arena : Arena} (harena : arena.Consistent)
    (hlayout : arena.layout = a.arena.layout) (hissued : arena.issuedSlots = a.arena.issuedSlots) :
    Consistent { a with arena := arena } := by
  refine ⟨harena, fun collection supply => ?_⟩
  simpa only [Arena.issuedIn, hlayout, hissued] using h.supplied collection supply

/-- Issuing a slot keeps an allocator consistent. -/
theorem issueSlot (h : a.Consistent) (htoken : a.arena.tokenOf slot = .ok t)
    {status : SlotStatus} (hstatus : a.arena.status[slot]? = some status)
    (hfresh : status ≠ .issued) : (a.issueSlot slot t).Consistent := by
  obtain ⟨r, hr, hholds, rfl⟩ := h.arena.laid.tokenOf_eq_ok_iff.mp htoken
  refine ⟨h.arena.issue hstatus hfresh, fun collection supply => ?_⟩
  have hcount (r' : SlotRun) (hr' : r' ∈ a.arena.layout) :
      (a.arena.issue slot).issuedIn r' =
        a.arena.issuedIn r' + if r'.collection = r.collection then 1 else 0 := by
    rw [Arena.issuedIn_issue]
    by_cases hsame : r'.collection = r.collection
    · rw [h.arena.laid.eq_of_collection hr' hr hsame, if_pos hholds, if_pos rfl]
    · have hother : ¬ r'.holds slot = true := fun hholds' =>
        hsame (congrArg _ (h.arena.laid.covered.eq_of_holds hr' hr hholds' hholds))
      rw [if_neg hother, if_neg hsame]
  simp only [Allocator.issueSlot, Supply.countIssue, h.get?_supply hr, SortedMap.get?_insert]
  change _ ↔ ∃ r' ∈ a.arena.layout, _
  by_cases hsame : collection = r.collection
  · rw [if_pos hsame, Option.some.injEq]
    constructor
    · rintro rfl
      exact ⟨r, hr, hsame.symm, by rw [hcount r hr, if_pos rfl]⟩
    · rintro ⟨r', hr', hcollection, rfl⟩
      obtain rfl := h.arena.laid.eq_of_collection hr' hr (hcollection.trans hsame)
      rw [hcount r' hr', if_pos rfl]
  · rw [if_neg hsame, h.supplied]
    refine exists_congr fun r' => and_congr_right fun hr' => and_congr_right fun hcollection => ?_
    rw [hcount r' hr', if_neg (by rw [hcollection]; exact hsame), Nat.add_zero]

/-- Holding a pending slot back keeps an allocator consistent. -/
theorem holdSlot (h : a.Consistent) (hpending : a.arena.status[slot]? = some .pending)
    {status : SlotStatus} (hstatus : status = .reserved ∨ status = .staged) :
    (a.holdSlot slot status).Consistent :=
  h.of_arena (h.arena.hold hpending hstatus) rfl
    (Arena.issuedSlots_hold slot status)

/-- Releasing a slot that is held back keeps an allocator consistent. -/
theorem releaseSlot (h : a.Consistent)
    (hheld : a.arena.status[slot]? = some .reserved ∨ a.arena.status[slot]? = some .staged) :
    (a.releaseSlot slot).Consistent :=
  h.of_arena (h.arena.release hheld) rfl (Arena.issuedSlots_release slot h.arena.cursor_le)

/-- Replacing the order while nothing is issued keeps an allocator consistent. -/
theorem reorder (h : a.Consistent) (hcursor : a.arena.cursor = 0) {order : List Nat}
    (hperm : order.Perm a.arena.order) : (a.reorder order).Consistent :=
  h.of_arena (h.arena.reorder hcursor hperm) rfl
    (by simp [Arena.reorder, Arena.issuedSlots, hcursor])

/-- What is summed up over the supplies of the collections is summed up over the runs. -/
theorem sum_supplies (h : a.Consistent) (f : Supply → Nat) :
    (a.supplies.entries.map fun e => f e.2).sum =
      (a.arena.layout.map fun r => f ⟨r.supply, a.arena.issuedIn r⟩).sum := by
  have hdistinct : ((a.arena.layout.map fun r =>
      (r.collection, f ⟨r.supply, a.arena.issuedIn r⟩)).map Prod.fst).Nodup := by
    rw [List.map_map]
    exact h.arena.laid.distinct
  rw [SortedMap.sum_map_entries f hdistinct, List.map_map]
  · rfl
  · intro collection n
    simp only [h.supplied, List.mem_map, Prod.mk.injEq]
    constructor
    · rintro ⟨_, ⟨r, hr, hcollection, rfl⟩, hn⟩
      exact ⟨r, hr, hcollection, hn⟩
    · rintro ⟨r, hr, hcollection, hn⟩
      exact ⟨_, ⟨r, hr, hcollection, rfl⟩, hn⟩

/-- The issued tokens of all collections together are as many as the cursor says. -/
theorem sum_issued (h : a.Consistent) :
    (a.supplies.entries.map fun e => e.2.issued).sum = a.arena.cursor := by
  have hslots : ∀ slot ∈ a.arena.issuedSlots, slot < a.arena.total := fun slot hslot =>
    h.arena.lt_total_of_mem (List.mem_of_mem_take hslot)
  calc (a.supplies.entries.map fun e => e.2.issued).sum
      = (a.arena.layout.map a.arena.issuedIn).sum := h.sum_supplies Supply.issued
    _ = a.arena.issuedSlots.length := h.arena.laid.abut.sum_countP hslots
    _ = a.arena.cursor := Arena.length_issuedSlots h.arena.cursor_le

/-- The tokens of all collections together are as many as there are slots. -/
theorem sum_total (h : a.Consistent) :
    (a.supplies.entries.map fun e => e.2.total).sum = a.arena.total := by
  have hslots := h.arena.laid.abut.sum_supply
  rw [Nat.zero_add] at hslots
  exact (h.sum_supplies Supply.total).trans hslots

end Consistent

end Allocator

end ShuffleMint
