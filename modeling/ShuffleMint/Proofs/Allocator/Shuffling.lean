import ShuffleMint.Proofs.Command.Allocation
import ShuffleMint.Proofs.StepFailure

/-!
# When the order is shuffled

The order is shuffled at most once and while nothing is issued: the pending slots come in another
order, and all else but the flag stays. Holding slots back and releasing them leave the flag alone,
and no move lowers it. So an allocator that has issued tokens from a shuffled order only can always
be shuffled where that is still to be done.
-/

namespace ShuffleMint

open Step (Keeps FailsOnly)

namespace Allocator

variable {a b : Allocator} {seed : Seed}

/-- The pending slots come in another order, and the order counts as shuffled. All else stays. -/
structure Reshuffles (a b : Allocator) : Prop where
  unshuffled : a.arena.shuffled = false
  shuffled : b.arena.shuffled = true
  pending : b.arena.pendingSlots.Perm a.arena.pendingSlots
  issued : b.arena.issuedSlots = a.arena.issuedSlots
  cursor : b.arena.cursor = a.arena.cursor
  layout : b.arena.layout = a.arena.layout
  status : b.arena.status = a.arena.status
  supplies : b.supplies = a.supplies

/-- Tokens are issued from a shuffled order only. -/
def DrawsShuffled (a : Allocator) : Prop := 0 < a.arena.cursor → a.arena.shuffled = true

/-! ## Shuffling -/

/-- A shuffle that is not refused puts the pending slots into another order, while nothing is
issued. -/
theorem reshuffles_of_initializeShuffle (h : initializeShuffle seed a = (.ok (), b)) :
    a.arena.cursor = 0 ∧ a.Reshuffles b := by
  rw [initializeShuffle_apply] at h
  split at h
  · cases h
  · next hcursor =>
    split at h
    · cases h
    · next hunshuffled =>
      have hzero : a.arena.cursor = 0 := Nat.eq_zero_of_not_pos hcursor
      obtain rfl := (Prod.mk.inj h).2
      refine ⟨hzero, Bool.not_eq_true _ ▸ hunshuffled, rfl, ?_, ?_, rfl, rfl, rfl, rfl⟩
      · simpa [reorder, Arena.reorder, Arena.pendingSlots, hzero] using
          shuffle_perm seed a.arena.order
      · simp [reorder, Arena.reorder, Arena.issuedSlots, hzero]

/-- Unless tokens are issued from it already, an order that is not shuffled can be, with every seed.
-/
theorem DrawsShuffled.exists_initializeShuffle (h : a.DrawsShuffled)
    (hunshuffled : a.arena.shuffled = false) (seed : Seed) :
    ∃ b, initializeShuffle seed a = (.ok (), b) ∧ a.Reshuffles b := by
  have hcursor : ¬ 0 < a.arena.cursor := fun hissued => by
    rw [h hissued] at hunshuffled
    cases hunshuffled
  have hok : initializeShuffle seed a = (.ok (), a.reorder (shuffle seed a.arena.order)) := by
    rw [initializeShuffle_apply, if_neg hcursor, if_neg (by simp [hunshuffled])]
  exact ⟨_, hok, (reshuffles_of_initializeShuffle hok).2⟩

/-- Shuffling unless that is done does not fail when tokens are issued from a shuffled order only.
-/
theorem DrawsShuffled.exists_ensureShuffled (h : a.DrawsShuffled) (seed : Seed) :
    ∃ b, ensureShuffled seed a = (.ok (), b) := by
  rw [ensureShuffled_apply]
  cases hflag : a.arena.shuffled with
  | true => exact ⟨a, rfl⟩
  | false =>
    obtain ⟨b, hok, -⟩ := h.exists_initializeShuffle hflag seed
    exact ⟨b, hok⟩

/-- A shuffled order is refused another shuffle, as locked once a token is issued. -/
theorem initializeShuffle_of_shuffled (h : a.arena.shuffled = true) (seed : Seed) :
    initializeShuffle seed a =
      (.error (.rejected (if 0 < a.arena.cursor then .orderLocked else .alreadyShuffled)), a) := by
  rw [initializeShuffle_apply, if_pos h]
  split <;> rfl

/-- After shuffling unless that is done, the order is shuffled. -/
theorem shuffled_of_ensureShuffled (h : ensureShuffled seed a = (.ok (), b)) :
    b.arena.shuffled = true := by
  rw [ensureShuffled_apply] at h
  split at h
  · next hflag => rwa [← (Prod.mk.inj h).2]
  · exact (reshuffles_of_initializeShuffle h).2.shuffled

/-! ## The flag through moves -/

/-- No move lowers the flag. -/
theorem Moves.shuffled {tokens : List Token} (h : a.Moves tokens b)
    (hflag : a.arena.shuffled = true) : b.arena.shuffled = true := by
  induction h with
  | refl => exact hflag
  | issue _ _ _ _ ih => exact ih
  | hold _ _ _ ih => exact ih
  | release _ _ ih => exact ih
  | reorder => rfl

/-- Moves that issue nothing and leave the flag alone keep it true that tokens are issued from a
shuffled order only. -/
theorem DrawsShuffled.moves (h : a.DrawsShuffled) (ha : a.Consistent) (hmoves : a.Moves [] b)
    (hflag : b.arena.shuffled = a.arena.shuffled) : b.DrawsShuffled := by
  obtain ⟨slots, hslots, htokens⟩ := hmoves.exists_issuedSlots_eq ha
  obtain rfl := List.map_eq_nil_iff.mp htokens
  have hcursor : b.arena.cursor = a.arena.cursor := by
    rw [← Arena.length_issuedSlots (hmoves.consistent ha).arena.cursor_le, hslots, List.append_nil,
      Arena.length_issuedSlots ha.arena.cursor_le]
  rw [DrawsShuffled, hcursor, hflag]
  exact h

/-! ## Operations that leave the flag alone -/

/-- Whether the order of an allocator is shuffled. -/
def isShuffled (a : Allocator) : Bool := a.arena.shuffled

/-- A change of the arena that leaves the flag alone. -/
theorem keeps_onArena {f : Arena → Arena} (h : ∀ arena, (f arena).shuffled = arena.shuffled) :
    Keeps isShuffled (onArena f) :=
  fun a => h a.arena

/-- Holding a token back leaves the flag alone. -/
theorem keeps_hold (status : SlotStatus) (t : Token) : Keeps isShuffled (hold status t) := by
  refine Step.keeps_get.bind fun a => (Step.keeps_lift _).bind fun slot => ?_
  refine (Step.keeps_lift _).bind fun found => ?_
  cases found with
  | pending =>
    exact (Step.keeps_lift _).bind fun position =>
      (keeps_onArena fun _ => rfl).bind fun _ => keeps_onArena fun _ => rfl
  | issued | staged | reserved => exact Step.keeps_reject _

/-- Releasing a token leaves the flag alone. -/
theorem keeps_unstage (t : Token) : Keeps isShuffled (unstage t) := by
  refine Step.keeps_get.bind fun a => (Step.keeps_lift _).bind fun slot => ?_
  refine (Step.keeps_lift _).bind fun found => ?_
  cases found with
  | staged =>
    exact (keeps_onArena fun _ => rfl).bind fun _ =>
      (keeps_onArena fun _ => rfl).bind fun _ => Step.keeps_pure true
  | issued | pending | reserved => exact Step.keeps_pure false

/-- Reserving a token if it is pending leaves the flag alone. -/
theorem keeps_reserveIfPending (t : Token) : Keeps isShuffled (reserveIfPending t) := by
  refine Step.keeps_get.bind fun a => ?_
  split
  · exact Step.keeps_pure false
  · exact Step.keeps_fail _
  · refine (Step.keeps_lift _).bind fun found => ?_
    cases found with
    | pending => exact Keeps.succeeds (keeps_hold .reserved t)
    | issued | staged | reserved => exact Step.keeps_pure false

/-- Reserving tokens leaves the flag alone. -/
theorem keeps_reserveAll (tokens : List Token) : Keeps isShuffled (reserveAll tokens) := by
  induction tokens with
  | nil => exact Step.keeps_pure 0
  | cons t rest ih =>
    exact (keeps_reserveIfPending t).bind fun _ => ih.bind fun _ => Step.keeps_pure _

end Allocator

namespace CustomBundle

open Allocator (isShuffled)

/-- Releasing the staged tokens leaves the flag alone. -/
theorem keeps_release (tokens : List Token) : Keeps isShuffled (release tokens) := by
  induction tokens with
  | nil => exact Step.keeps_pure 0
  | cons t rest ih =>
    exact (Allocator.keeps_unstage t).bind fun _ => ih.bind fun _ => Step.keeps_pure _

/-- Staging tokens leaves the flag alone. -/
theorem keeps_stageEach (assigned tokens staged : List Token) :
    Keeps isShuffled (stageEach assigned tokens staged) := by
  induction tokens generalizing staged with
  | nil => exact Step.keeps_pure staged
  | cons t rest ih =>
    rw [stageEach]
    split
    · exact Step.keeps_reject _
    · split
      · exact Step.keeps_reject _
      · exact (Allocator.keeps_hold .staged t).bind fun _ => ih _

/-- Restaging leaves the flag alone. -/
theorem keeps_restage (purge : Bool) (staged assigned tokens : List Token) :
    Keeps isShuffled (restage purge staged assigned tokens) := by
  have hafter (kept : List Token) (released : Nat) :
      Keeps isShuffled (stageEach assigned tokens kept >>= fun all => pure (released, all)) :=
    (keeps_stageEach assigned tokens kept).bind fun all => Step.keeps_pure (released, all)
  cases purge with
  | true => exact (keeps_release staged).bind fun released => hafter [] released
  | false => exact (Step.keeps_pure 0).bind fun released => hafter staged released

end CustomBundle

end ShuffleMint
