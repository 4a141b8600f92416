import Mathlib.Data.List.Perm.Basic
import ShuffleMint.Random.Shuffle

/-!
# A shuffle is a reordering

Whatever the seed is, every step of a shuffle swaps two entries of the list, so nothing is lost and
nothing is doubled.
-/

namespace ShuffleMint

variable {α : Type}

/-- A swap inside an array reorders it, and one outside changes nothing. -/
theorem swapIfInBounds_perm (xs : Array α) (i j : Nat) : (xs.swapIfInBounds i j).Perm xs := by
  unfold Array.swapIfInBounds
  split
  · split
    · exact Array.swap_perm _ _
    · exact Array.Perm.refl xs
  · exact Array.Perm.refl xs

/-- Swapping downwards from a position reorders the array. -/
theorem swapDown_perm (i : Nat) (g : Generator) (xs : Array α) : (swapDown i g xs).Perm xs := by
  induction i generalizing g xs with
  | zero => exact Array.Perm.refl xs
  | succ i ih =>
    rw [swapDown]
    exact (ih _ _).trans (swapIfInBounds_perm xs _ _)

/-- A shuffled list has the entries of the list, each as often. -/
theorem shuffle_perm (seed : Seed) (xs : List α) : (shuffle seed xs).Perm xs := by
  have h := swapDown_perm (xs.length - 1) (Generator.ofSeed seed) xs.toArray
  rwa [Array.perm_iff_toList_perm] at h

end ShuffleMint
