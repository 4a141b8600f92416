import ShuffleMint.Random.Generator

/-!
# Shuffling a list

The shuffle goes from the last position down to the second and swaps each entry with one drawn from
the positions up to its own. Every step is a swap inside the list, so the result is a reordering.
-/

namespace ShuffleMint

/-- Swaps the entries at positions `i`, `i - 1`, …, `1` with drawn ones at or before them. -/
def swapDown {α : Type} : Nat → Generator → Array α → Array α
  | 0, _, xs => xs
  | i + 1, g, xs =>
    let draw := g.below (i + 2)
    swapDown i draw.2 (xs.swapIfInBounds (i + 1) draw.1)

/-- The list in the order that a seed determines. -/
def shuffle {α : Type} (seed : Seed) (xs : List α) : List α :=
  (swapDown (xs.length - 1) (Generator.ofSeed seed) xs.toArray).toList

end ShuffleMint
