import Mathlib.Algebra.GroupWithZero.Nat
import Mathlib.Data.List.Nodup
import ShuffleMint.Allocator

/-!
# Slots and tokens of a layout

Runs that lie side by side cover every slot up to their stop exactly once, also when some of them
are empty. When the stop is a count, no look-up aborts and the slot of a token stands for it. With
one run for each collection besides, a slot and the token it stands for determine each other.
-/

namespace ShuffleMint

namespace SlotRun

/-- Runs lie side by side from a start up to a stop. -/
def Abut : List SlotRun → Nat → Nat → Prop
  | [], start, stop => start = stop
  | r :: rest, start, stop => r.offset = start ∧ Abut rest (start + r.supply) stop

/-- A run holds the slots from its offset up to its end. -/
theorem holds_iff {slot : Nat} {r : SlotRun} :
    r.holds slot = true ↔ r.offset ≤ slot ∧ slot < r.offset + r.supply := by
  simp [holds]

/-- Every run of a row lies between its ends. -/
theorem Abut.bounds {runs : List SlotRun} {start stop : Nat} (h : Abut runs start stop) :
    start ≤ stop ∧ ∀ r ∈ runs, start ≤ r.offset ∧ r.offset + r.supply ≤ stop := by
  induction runs generalizing start with
  | nil => exact ⟨Nat.le_of_eq h, by simp⟩
  | cons r rest ih =>
    obtain ⟨hoffset, hrest⟩ := h
    obtain ⟨hle, hbounds⟩ := ih hrest
    refine ⟨by omega, fun r' hr' => ?_⟩
    rcases List.mem_cons.mp hr' with rfl | hr'
    · omega
    · have := hbounds r' hr'
      omega

/-- The runs of a row have together the slots between its ends. -/
theorem Abut.sum_supply {runs : List SlotRun} {start stop : Nat} (h : Abut runs start stop) :
    start + (runs.map supply).sum = stop := by
  induction runs generalizing start with
  | nil => exact h
  | cons r rest ih =>
    obtain ⟨-, hrest⟩ := h
    rw [List.map_cons, List.sum_cons, ← Nat.add_assoc, ih hrest]

/-- Every slot of a row is held by one of its runs. -/
theorem Abut.exists_holds {runs : List SlotRun} {start stop : Nat} (h : Abut runs start stop)
    {slot : Nat} (hstart : start ≤ slot) (hstop : slot < stop) :
    ∃ r ∈ runs, r.holds slot = true := by
  induction runs generalizing start with
  | nil =>
    simp only [Abut] at h
    omega
  | cons r rest ih =>
    obtain ⟨hoffset, hrest⟩ := h
    by_cases hslot : slot < start + r.supply
    · exact ⟨r, by simp, holds_iff.mpr (by omega)⟩
    · obtain ⟨r', hr', hholds⟩ := ih hrest (by omega)
      exact ⟨r', List.mem_cons_of_mem _ hr', hholds⟩

/-- The first run that holds a slot is the only one that does. -/
theorem Abut.find?_holds {runs : List SlotRun} {start stop : Nat} (h : Abut runs start stop)
    {r : SlotRun} (hr : r ∈ runs) {slot : Nat} (hslot : r.holds slot = true) :
    runs.find? (holds slot) = some r := by
  induction runs generalizing start with
  | nil => simp at hr
  | cons first rest ih =>
    obtain ⟨hoffset, hrest⟩ := h
    rcases List.mem_cons.mp hr with rfl | hr
    · simp [hslot]
    · have hlater := (hrest.bounds).2 r hr
      have hfirst : first.holds slot = false := by
        rw [Bool.eq_false_iff, ne_eq, holds_iff]
        rw [holds_iff] at hslot
        omega
      simp [hfirst, ih hrest hr]

/-- Runs that are laid out side by side from an offset. -/
theorem abut_layOut {collections : List (Nat × Nat)} {start stop : Nat} {runs : List SlotRun}
    (h : Allocator.layOut collections start = .ok (runs, stop)) : Abut runs start stop := by
  induction collections generalizing start runs with
  | nil =>
    simp only [Allocator.layOut, Except.ok.injEq, Prod.mk.injEq] at h
    obtain ⟨rfl, rfl⟩ := h
    rfl
  | cons c rest ih =>
    obtain ⟨id, supply⟩ := c
    simp only [Allocator.layOut, addCounts] at h
    split at h
    · next next hnext =>
      split at hnext
      · cases hnext
        split at h
        · next later stop' hlater =>
          cases h
          exact ⟨rfl, ih hlater⟩
        · cases h
      · cases hnext
    · cases h

/-- Collections whose supplies add up to a count are laid out, one run for each in their order. -/
theorem layOut_eq_ok {collections : List (Nat × Nat)} {start : Nat}
    (h : start + (collections.map Prod.snd).sum < countBound) :
    ∃ runs,
      Allocator.layOut collections start = .ok (runs, start + (collections.map Prod.snd).sum) ∧
      runs.map (fun r => (r.collection, r.supply)) = collections := by
  induction collections generalizing start with
  | nil => exact ⟨[], by simp [Allocator.layOut], rfl⟩
  | cons c rest ih =>
    obtain ⟨id, supply⟩ := c
    simp only [List.map_cons, List.sum_cons] at h
    obtain ⟨runs, hruns, hmap⟩ := @ih (start + supply) (by omega)
    have hnext : addCounts start supply = .ok (start + supply) := if_pos (by omega)
    refine ⟨⟨id, start, supply⟩ :: runs, ?_, by simp [hmap]⟩
    simp only [Allocator.layOut, hnext, hruns, List.map_cons, List.sum_cons, Nat.add_assoc]

end SlotRun

namespace Arena

/-- The runs of an arena cover its slots side by side, and there are no more slots than a count can
tell. A collection may have several runs. -/
structure Covered (a : Arena) : Prop where
  abut : SlotRun.Abut a.layout 0 a.total
  bounded : a.total < countBound

/-- The runs of an arena cover its slots side by side, one run for each collection, and there are
no more slots than a count can tell. -/
structure WellLaid (a : Arena) : Prop where
  abut : SlotRun.Abut a.layout 0 a.total
  distinct : (a.layout.map SlotRun.collection).Nodup
  bounded : a.total < countBound

/-- The collection of a slot, if a run holds it. -/
def collection? (a : Arena) (slot : Nat) : Option Nat :=
  (a.layout.find? (SlotRun.holds slot)).map SlotRun.collection

namespace Covered

variable {a : Arena}

/-- Whether the slots of an arena are covered depends on its layout and on how many there are. -/
theorem congr {b : Arena} (h : a.Covered) (hlayout : b.layout = a.layout)
    (htotal : b.total = a.total) : b.Covered :=
  ⟨by rw [hlayout, htotal]; exact h.abut, by rw [htotal]; exact h.bounded⟩

/-- Two runs that hold one slot are the same run. -/
theorem eq_of_holds (h : a.Covered) {r r' : SlotRun} (hr : r ∈ a.layout) (hr' : r' ∈ a.layout)
    {slot : Nat} (hslot : r.holds slot = true) (hslot' : r'.holds slot = true) : r = r' :=
  Option.some.inj ((h.abut.find?_holds hr hslot).symm.trans (h.abut.find?_holds hr' hslot'))

/-- A slot that a run holds is one of the slots of the arena. -/
theorem lt_total (h : a.Covered) {r : SlotRun} (hr : r ∈ a.layout) {slot : Nat}
    (hslot : r.holds slot = true) : slot < a.total := by
  have := h.abut.bounds.2 r hr
  rw [SlotRun.holds_iff] at hslot
  omega

/-- Looking for the run of a slot never aborts. -/
theorem at?_eq (h : a.Covered) (slot : Nat) :
    SlotRun.at? slot a.layout = .ok (a.layout.find? (SlotRun.holds slot)) := by
  unfold SlotRun.at?
  split
  · next r hr =>
    have hend := (h.abut.bounds.2 r (List.mem_of_find?_eq_some hr)).2
    have := h.bounded
    rw [if_pos (by omega), hr]
  · next hnone => rw [hnone]

/-- A slot stands for a token exactly when a run of the token's collection holds it at the place
that the number of the token says. -/
theorem tokenOf_eq_ok_iff (h : a.Covered) {slot : Nat} {t : Token} :
    a.tokenOf slot = .ok t ↔
      ∃ r ∈ a.layout, r.holds slot = true ∧ t = ⟨r.collection, slot - r.offset + 1⟩ := by
  rw [tokenOf, h.at?_eq]
  constructor
  · intro htoken
    split at htoken
    · next r hr =>
      obtain hfound := Except.ok.inj hr
      exact ⟨r, List.mem_of_find?_eq_some hfound, List.find?_some hfound,
        (Except.ok.inj htoken).symm⟩
    · cases htoken
    · cases htoken
  · rintro ⟨r, hr, hholds, rfl⟩
    simp [h.abut.find?_holds hr hholds]

/-- A slot that stands for a token is one of the slots of the arena. -/
theorem lt_total_of_tokenOf (h : a.Covered) {slot : Nat} {t : Token}
    (htoken : a.tokenOf slot = .ok t) : slot < a.total := by
  obtain ⟨r, hr, hholds, -⟩ := h.tokenOf_eq_ok_iff.mp htoken
  exact h.lt_total hr hholds

/-- The slot of a token stands for it. -/
theorem tokenOf_of_slotOf (h : a.Covered) {slot : Nat} {t : Token} (hslot : a.slotOf t = .ok slot) :
    a.tokenOf slot = .ok t := by
  rw [slotOf] at hslot
  split at hslot
  · next r hr =>
    have hmem := List.mem_of_find?_eq_some hr
    have hcollection : r.collection = t.collection := by simpa using List.find?_some hr
    have hbound := h.bounded
    have hend := (h.abut.bounds.2 r hmem).2
    split at hslot
    · next hnumber =>
      rw [addCounts, if_pos (by omega)] at hslot
      obtain rfl : r.offset + t.number - 1 = slot := Except.ok.inj hslot
      refine h.tokenOf_eq_ok_iff.mpr ⟨r, hmem, SlotRun.holds_iff.mpr (by omega), ?_⟩
      obtain ⟨collection, number⟩ := t
      simp only [Token.mk.injEq] at hcollection hnumber ⊢
      exact ⟨hcollection.symm, by omega⟩
    · cases hslot
  · cases hslot

/-- A token without a slot is refused as invalid. -/
theorem slotOf_eq_error (h : a.Covered) {t : Token} {e : Failure} (hslot : a.slotOf t = .error e) :
    e = .rejected (.invalidToken t) := by
  unfold slotOf at hslot
  split at hslot
  · next r hr =>
    split at hslot
    · next hnumber =>
      have hbound := h.bounded
      have hend := (h.abut.bounds.2 r (List.mem_of_find?_eq_some hr)).2
      rw [addCounts, if_pos (by omega)] at hslot
      cases hslot
    · exact (Except.error.inj hslot).symm
  · exact (Except.error.inj hslot).symm

/-- The slot of a token is one of the slots of the arena. -/
theorem lt_total_of_slotOf (h : a.Covered) {slot : Nat} {t : Token}
    (hslot : a.slotOf t = .ok slot) : slot < a.total :=
  h.lt_total_of_tokenOf (h.tokenOf_of_slotOf hslot)

/-- Tokens that have the same slot are the same. -/
theorem eq_of_slotOf (h : a.Covered) {slot : Nat} {t t' : Token} (hslot : a.slotOf t = .ok slot)
    (hslot' : a.slotOf t' = .ok slot) : t = t' :=
  Except.ok.inj ((h.tokenOf_of_slotOf hslot).symm.trans (h.tokenOf_of_slotOf hslot'))

end Covered

namespace WellLaid

variable {a : Arena}

/-- The slots of a well laid arena are covered. -/
theorem covered (h : a.WellLaid) : a.Covered := ⟨h.abut, h.bounded⟩

/-- Whether an arena is well laid depends on its layout and on how many slots it has. -/
theorem congr {b : Arena} (h : a.WellLaid) (hlayout : b.layout = a.layout)
    (htotal : b.total = a.total) : b.WellLaid :=
  ⟨by rw [hlayout, htotal]; exact h.abut, by rw [hlayout]; exact h.distinct,
    by rw [htotal]; exact h.bounded⟩

/-- Two runs of one collection are the same run. -/
theorem eq_of_collection (h : a.WellLaid) {r r' : SlotRun} (hr : r ∈ a.layout) (hr' : r' ∈ a.layout)
    (hcollection : r.collection = r'.collection) : r = r' :=
  List.inj_on_of_nodup_map h.distinct hr hr' hcollection

/-- The collection of a slot is that of the run that holds it. -/
theorem collectionOf_eq (h : a.WellLaid) (slot : Nat) :
    a.collectionOf slot = .ok (a.collection? slot) := by
  simp [collectionOf, collection?, h.covered.at?_eq, Except.map]

/-- A slot stands for a token exactly when a run of the token's collection holds it at the place
that the number of the token says. -/
theorem tokenOf_eq_ok_iff (h : a.WellLaid) {slot : Nat} {t : Token} :
    a.tokenOf slot = .ok t ↔
      ∃ r ∈ a.layout, r.holds slot = true ∧ t = ⟨r.collection, slot - r.offset + 1⟩ :=
  h.covered.tokenOf_eq_ok_iff

/-- The collection of a slot is that of the token that the slot stands for. -/
theorem collection?_of_tokenOf (h : a.WellLaid) {slot : Nat} {t : Token}
    (htoken : a.tokenOf slot = .ok t) : a.collection? slot = some t.collection := by
  obtain ⟨r, hr, hholds, rfl⟩ := h.tokenOf_eq_ok_iff.mp htoken
  rw [collection?, h.abut.find?_holds hr hholds, Option.map_some]

/-- Every slot of the arena stands for a token. -/
theorem exists_tokenOf (h : a.WellLaid) {slot : Nat} (hslot : slot < a.total) :
    ∃ t, a.tokenOf slot = .ok t := by
  obtain ⟨r, hr, hholds⟩ := h.abut.exists_holds (Nat.zero_le slot) hslot
  exact ⟨_, h.tokenOf_eq_ok_iff.mpr ⟨r, hr, hholds, rfl⟩⟩

/-- A token has a slot exactly when that slot stands for it. -/
theorem slotOf_eq_ok_iff (h : a.WellLaid) {slot : Nat} {t : Token} :
    a.slotOf t = .ok slot ↔ a.tokenOf slot = .ok t := by
  refine ⟨h.covered.tokenOf_of_slotOf, fun htoken => ?_⟩
  obtain ⟨r, hr, hholds, rfl⟩ := h.tokenOf_eq_ok_iff.mp htoken
  have hfind : a.layout.find? (fun r' => r'.collection == r.collection) = some r := by
    cases hfound : a.layout.find? (fun r' => r'.collection == r.collection) with
    | none => exact absurd (beq_self_eq_true _) (List.find?_eq_none.mp hfound r hr)
    | some r' =>
      have hr' : r'.collection = r.collection := by simpa using List.find?_some hfound
      rw [h.eq_of_collection (List.mem_of_find?_eq_some hfound) hr hr']
  have hbound := h.bounded
  have hend := (h.abut.bounds.2 r hr).2
  rw [SlotRun.holds_iff] at hholds
  simp only [slotOf, hfind]
  rw [if_pos (by omega), addCounts, if_pos (by omega)]
  simp only [Except.map, Except.ok.injEq]
  omega

/-- A slot that stands for a token is one of the slots of the arena. -/
theorem lt_total_of_tokenOf (h : a.WellLaid) {slot : Nat} {t : Token}
    (htoken : a.tokenOf slot = .ok t) : slot < a.total :=
  h.covered.lt_total_of_tokenOf htoken

/-- Slots that stand for the same token are the same. -/
theorem eq_of_tokenOf (h : a.WellLaid) {slot slot' : Nat} {t : Token}
    (htoken : a.tokenOf slot = .ok t) (htoken' : a.tokenOf slot' = .ok t) : slot = slot' :=
  Except.ok.inj ((h.slotOf_eq_ok_iff.mpr htoken).symm.trans (h.slotOf_eq_ok_iff.mpr htoken'))

end WellLaid

end Arena

end ShuffleMint
