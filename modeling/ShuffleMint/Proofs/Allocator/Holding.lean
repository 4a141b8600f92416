import Mathlib.Data.List.Dedup
import ShuffleMint.Proofs.Allocator.Searching
import ShuffleMint.Proofs.Allocator.Standing

/-!
# Holding back a list of tokens holds back a set of tokens

Tokens that are pending are held back one after the other, and each is taken out of the window at a
place that depends on what was taken out before. Still neither the order in which they are listed
nor how often matters, and unknown tokens do not matter at all: holding tokens back commutes, and
one that is held back again is left alone. This asks for no more than that pending slots are found,
so it holds whatever the collections are.
-/

namespace ShuffleMint

section Folds

variable {α β : Type} {f : β → α → β}

/-- Among steps that commute, one that is taken again later on need not be taken at first. -/
theorem foldl_absorb (hcomm : ∀ z x y, f (f z x) y = f (f z y) x)
    (hidem : ∀ z x, f (f z x) x = f z x) {x : α} {xs : List α} (hx : x ∈ xs) (z : β) :
    xs.foldl f (f z x) = xs.foldl f z := by
  induction xs generalizing z with
  | nil => cases hx
  | cons y rest ih =>
    rw [List.foldl_cons, List.foldl_cons]
    rcases List.mem_cons.mp hx with rfl | hx
    · rw [hidem]
    · rw [hcomm, ih hx]

variable [DecidableEq α]

/-- Commuting steps that change nothing when they are taken again need not be repeated. -/
theorem foldl_dedup (hcomm : ∀ z x y, f (f z x) y = f (f z y) x)
    (hidem : ∀ z x, f (f z x) x = f z x) (xs : List α) (z : β) :
    xs.dedup.foldl f z = xs.foldl f z := by
  induction xs generalizing z with
  | nil => rfl
  | cons x rest ih =>
    by_cases hx : x ∈ rest
    · rw [List.dedup_cons_of_mem hx, ih, List.foldl_cons, foldl_absorb hcomm hidem hx]
    · rw [List.dedup_cons_of_notMem hx, List.foldl_cons, List.foldl_cons, ih]

/-- Of commuting steps that change nothing when they are taken again it matters only which they are.
-/
theorem foldl_eq_of_mem_iff (hcomm : ∀ z x y, f (f z x) y = f (f z y) x)
    (hidem : ∀ z x, f (f z x) x = f z x) {xs ys : List α} (h : ∀ x, x ∈ ys ↔ x ∈ xs) (z : β) :
    ys.foldl f z = xs.foldl f z := by
  have hperm : ys.dedup.Perm xs.dedup :=
    (List.perm_ext_iff_of_nodup (List.nodup_dedup ys) (List.nodup_dedup xs)).mpr
      fun x => by rw [List.mem_dedup, List.mem_dedup, h]
  rw [← foldl_dedup hcomm hidem ys, ← foldl_dedup hcomm hidem xs]
  exact hperm.foldl_eq' (fun x _ y _ z => hcomm z x y) z

end Folds

/-- Taking out an entry that is filtered out anyway leaves the filtered list alone. -/
theorem filter_erase_of_not {α : Type} [DecidableEq α] {p : α → Bool} {x : α} (hx : p x = false)
    (xs : List α) : (xs.erase x).filter p = xs.filter p := by
  induction xs with
  | nil => rfl
  | cons y rest ih =>
    by_cases hy : y = x
    · rw [hy, List.erase_cons_head, List.filter_cons_of_neg (by simp [hx])]
    · rw [List.erase_cons_tail (by simpa using hy), List.filter_cons, List.filter_cons, ih]

namespace Allocator

variable {a b c : Allocator} {slot : Nat} {t : Token} {held : SlotStatus}

/-! ## One token -/

/-- The allocator with a slot held back if it is pending. -/
def withSlotHeld (held : SlotStatus) (a : Allocator) (slot : Nat) : Allocator :=
  if a.arena.status[slot]? = some .pending then a.holdSlot slot held else a

/-- The allocator with a token held back if it is pending. -/
def withHeld (held : SlotStatus) (a : Allocator) (t : Token) : Allocator :=
  match a.arena.slotOf t with
  | .ok slot => a.withSlotHeld held slot
  | .error _ => a

/-- Holding a slot back leaves the layout alone. -/
theorem layout_withSlotHeld (held : SlotStatus) (a : Allocator) (slot : Nat) :
    (a.withSlotHeld held slot).arena.layout = a.arena.layout := by
  unfold withSlotHeld
  split <;> rfl

/-- A slot that is held back is not pending, and holding it back again changes nothing. -/
theorem withSlotHeld_idem (hheld : held ≠ .pending) (a : Allocator) (slot : Nat) :
    (a.withSlotHeld held slot).withSlotHeld held slot = a.withSlotHeld held slot := by
  by_cases hpending : a.arena.status[slot]? = some .pending
  · have hslot : slot < a.arena.status.length := (a.arena.exists_status_iff slot).mp ⟨_, hpending⟩
    have hstatus : (a.holdSlot slot held).arena.status[slot]? = some held :=
      List.getElem?_set_self hslot
    have honce : a.withSlotHeld held slot = a.holdSlot slot held := if_pos hpending
    rw [honce, withSlotHeld, hstatus, if_neg (by simpa using hheld)]
  · have hsame : a.withSlotHeld held slot = a := if_neg hpending
    rw [hsame, hsame]

/-- Two slots can be held back in either order. -/
theorem withSlotHeld_comm (held : SlotStatus) (a : Allocator) (slot slot' : Nat) :
    (a.withSlotHeld held slot).withSlotHeld held slot' =
      (a.withSlotHeld held slot').withSlotHeld held slot := by
  by_cases hsame : slot = slot'
  · rw [hsame]
  · have hother {x y : Nat} (hne : x ≠ y) :
        (a.holdSlot x held).arena.status[y]? = a.arena.status[y]? :=
      List.getElem?_set_ne hne
    have hboth : (a.holdSlot slot held).holdSlot slot' held =
        (a.holdSlot slot' held).holdSlot slot held :=
      congrArg (Allocator.mk · a.supplies) (Arena.hold_comm slot slot' hsame held held)
    by_cases h : a.arena.status[slot]? = some .pending <;>
      by_cases h' : a.arena.status[slot']? = some .pending <;>
      simp [withSlotHeld, h, h', hother hsame, hother (Ne.symm hsame), hboth]

/-- Holding back a token that is pending no more changes nothing. -/
theorem withHeld_idem (hheld : held ≠ .pending) (a : Allocator) (t : Token) :
    (a.withHeld held t).withHeld held t = a.withHeld held t := by
  cases hslot : a.arena.slotOf t with
  | error e => simp only [withHeld, hslot]
  | ok slot =>
    simp only [withHeld, hslot]
    rw [slotOf_congr (layout_withSlotHeld held a slot), hslot]
    exact withSlotHeld_idem hheld a slot

/-- Two tokens can be held back in either order. -/
theorem withHeld_comm (held : SlotStatus) (a : Allocator) (t t' : Token) :
    (a.withHeld held t).withHeld held t' = (a.withHeld held t').withHeld held t := by
  have hkept (slot : Nat) : (a.withSlotHeld held slot).arena.slotOf = a.arena.slotOf :=
    slotOf_congr (layout_withSlotHeld held a slot)
  cases hslot : a.arena.slotOf t with
  | error e =>
    cases hslot' : a.arena.slotOf t' with
    | error e' => simp only [withHeld, hslot, hslot']
    | ok slot' => simp only [withHeld, hslot, hslot', hkept]
  | ok slot =>
    cases hslot' : a.arena.slotOf t' with
    | error e' => simp only [withHeld, hslot, hslot', hkept]
    | ok slot' =>
      simp only [withHeld, hslot, hslot', hkept]
      exact withSlotHeld_comm held a slot slot'

/-- Holding tokens back depends on the set of them only. -/
theorem foldl_withHeld_congr (hheld : held ≠ .pending) {tokens tokens' : List Token}
    (h : ∀ t, t ∈ tokens' ↔ t ∈ tokens) (a : Allocator) :
    tokens'.foldl (withHeld held) a = tokens.foldl (withHeld held) a :=
  foldl_eq_of_mem_iff (withHeld_comm held) (withHeld_idem hheld) h a

/-! ## What is changed -/

/-- The second allocator is the first after those of some tokens that were pending are held back. All
other tokens stand as before, a slot that is the slot of none of these tokens keeps its status, and
the slots that are still pending keep their order. Nothing else is changed. -/
structure Withholds (a : Allocator) (held : SlotStatus) (tokens : List Token) (b : Allocator) :
    Prop where
  layout : b.arena.layout = a.arena.layout
  cursor : b.arena.cursor = a.arena.cursor
  shuffled : b.arena.shuffled = a.arena.shuffled
  supplies : b.supplies = a.supplies
  issued : b.arena.issuedSlots = a.arena.issuedSlots
  standing : ∀ t, b.standing t =
    if t ∈ tokens ∧ a.standing t = some .pending then some held else a.standing t
  untouched : ∀ slot, (∀ t ∈ tokens, a.arena.slotOf t ≠ .ok slot) →
    b.arena.status[slot]? = a.arena.status[slot]?
  sublist : b.arena.pendingSlots.Sublist a.arena.pendingSlots
  kept : b.arena.pendingSlots.filter (fun slot => b.arena.status[slot]? = some .pending) =
    a.arena.pendingSlots.filter (fun slot => b.arena.status[slot]? = some .pending)

namespace Withholds

variable {first second tokens : List Token}

/-- Nothing is changed for tokens of which none is pending. -/
theorem refl (h : ∀ t ∈ tokens, a.standing t ≠ some .pending) : a.Withholds held tokens a where
  layout := rfl
  cursor := rfl
  shuffled := rfl
  supplies := rfl
  issued := rfl
  standing := fun t => by rw [if_neg fun hboth => h t hboth.1 hboth.2]
  untouched := fun _ _ => rfl
  sublist := List.Sublist.refl _
  kept := rfl

/-- A slot that is pending afterwards was pending before. -/
theorem pending_of_pending (h : a.Withholds held tokens b) (hheld : held ≠ .pending)
    (hpending : b.arena.status[slot]? = some .pending) :
    a.arena.status[slot]? = some .pending := by
  by_cases hnamed : ∃ t ∈ tokens, a.arena.slotOf t = .ok slot
  · obtain ⟨t, ht, hslot⟩ := hnamed
    have hstatus : b.standing t = some .pending := by
      rw [Allocator.standing, slotOf_congr h.layout, hslot]
      exact hpending
    rw [h.standing] at hstatus
    split at hstatus
    · exact absurd (Option.some.inj hstatus) hheld
    · next hnot => exact absurd ⟨ht, hstatus⟩ hnot
  · rw [← h.untouched slot fun t ht hslot => hnamed ⟨t, ht, hslot⟩]
    exact hpending

/-- Tokens can be held back one group after the other. -/
theorem trans (hheld : held ≠ .pending) (h : a.Withholds held first b)
    (h' : b.Withholds held second c) : a.Withholds held (first ++ second) c where
  layout := h'.layout.trans h.layout
  cursor := h'.cursor.trans h.cursor
  shuffled := h'.shuffled.trans h.shuffled
  supplies := h'.supplies.trans h.supplies
  issued := h'.issued.trans h.issued
  standing := fun t => by
    rw [h'.standing, h.standing]
    by_cases hfirst : t ∈ first <;> by_cases hsecond : t ∈ second <;>
      by_cases hpending : a.standing t = some .pending <;> simp [hfirst, hsecond, hpending]
  untouched := fun slot hother => by
    have hsecond := h'.untouched slot fun t ht => by
      rw [slotOf_congr h.layout]
      exact hother t (List.mem_append_right _ ht)
    rw [hsecond, h.untouched slot fun t ht => hother t (List.mem_append_left _ ht)]
  sublist := h'.sublist.trans h.sublist
  kept := by
    -- What is pending at the end was pending in between, so it can be filtered there first.
    have hrefine (slots : List Nat) :
        slots.filter (fun slot => c.arena.status[slot]? = some .pending) =
          (slots.filter fun slot => b.arena.status[slot]? = some .pending).filter
            fun slot => c.arena.status[slot]? = some .pending := by
      rw [List.filter_filter]
      refine List.filter_congr fun slot _ => ?_
      by_cases hpending : c.arena.status[slot]? = some .pending
      · simp [hpending, h'.pending_of_pending hheld hpending]
      · simp [hpending]
    rw [h'.kept, hrefine b.arena.pendingSlots, h.kept, ← hrefine]

end Withholds

end Allocator

namespace Arena.Searchable

open Allocator

variable {a : Allocator} {held : SlotStatus}

/-- Holding a token back keeps the other pending slots in the window. -/
theorem withHeld (h : a.arena.Searchable) (hheld : held ≠ .pending) (t : Token) :
    (a.withHeld held t).arena.Searchable := by
  cases hslot : a.arena.slotOf t with
  | error e => simpa only [Allocator.withHeld, hslot] using h
  | ok slot =>
    simp only [Allocator.withHeld, hslot, withSlotHeld]
    split
    · exact h.hold slot hheld
    · exact h

/-- What holding one token back changes. -/
theorem withholds_withHeld (h : a.arena.Searchable) (hheld : held ≠ .pending) (t : Token) :
    a.Withholds held [t] (a.withHeld held t) := by
  rcases h.covered.token_cases t with ⟨e, hslot⟩ | ⟨slot, status, hslot, hstatus⟩
  · have hsame : a.withHeld held t = a := by simp only [Allocator.withHeld, hslot]
    rw [hsame]
    exact .refl fun t' ht' => by simp [List.mem_singleton.mp ht', standing, hslot]
  · by_cases hpending : status = .pending
    · have honce : a.withHeld held t = a.holdSlot slot held := by
        simp only [Allocator.withHeld, hslot, withSlotHeld, hstatus, hpending, if_true]
      have hstanding : a.standing t = some .pending := by
        simp only [standing, hslot, hstatus, hpending]
      have hafter : (a.holdSlot slot held).arena.status[slot]? = some held :=
        List.getElem?_set_self (h.covered.lt_total_of_slotOf hslot)
      have hwindow : (a.holdSlot slot held).arena.pendingSlots =
          a.arena.pendingSlots.erase slot := pendingSlots_hold slot held
      rw [honce]
      exact {
        layout := rfl
        cursor := rfl
        shuffled := rfl
        supplies := rfl
        issued := issuedSlots_hold slot held
        standing := fun t' => by
          rw [standing_set (b := a.holdSlot slot held) h.covered hslot rfl rfl t']
          by_cases hsame : t' = t <;> simp [hsame, hstanding]
        untouched := fun other hother => List.getElem?_set_ne fun hsame =>
          hother t (List.mem_singleton_self t) (hslot.trans (congrArg Except.ok hsame))
        sublist := by
          rw [hwindow]
          exact List.erase_sublist
        kept := by
          rw [hwindow]
          exact filter_erase_of_not (by simp [hafter, hheld]) _ }
    · have hsame : a.withHeld held t = a := by
        simp [Allocator.withHeld, hslot, withSlotHeld, hstatus, hpending]
      rw [hsame]
      exact .refl fun t' ht' => by
        simp [List.mem_singleton.mp ht', standing, hslot, hstatus, hpending]

/-- What holding tokens back changes. -/
theorem withholds_foldl (h : a.arena.Searchable) (hheld : held ≠ .pending) (tokens : List Token) :
    a.Withholds held tokens (tokens.foldl (Allocator.withHeld held) a) := by
  induction tokens generalizing a with
  | nil => exact .refl fun t ht => by cases ht
  | cons t rest ih =>
    exact (h.withholds_withHeld hheld t).trans hheld (ih (h.withHeld hheld t))

end Arena.Searchable

end ShuffleMint
