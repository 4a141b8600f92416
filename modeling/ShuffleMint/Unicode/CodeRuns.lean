/-!
# Properties of characters as runs of code points

A property of characters is a list of runs of code points in ascending order. A search ends at the
first run that starts past the code point, so that it is short where code points are small.
-/

namespace ShuffleMint

namespace CodeRuns

/-- Whether a code point is in a run, given by its first and its last code point. -/
def cover : List (Nat × Nat) → Nat → Bool
  | [], _ => false
  | (first, last) :: runs, n => if n < first then false else n ≤ last || cover runs n

/-- The value of the run that a code point is in. -/
def valueAt? {α : Type} : List (Nat × Nat × α) → Nat → Option α
  | [], _ => none
  | (first, last, value) :: runs, n =>
    if n < first then none else if n ≤ last then some value else valueAt? runs n

/-- The value of a code point, where each run gives its first code point and a value for every one
of its code points. -/
def entryAt? {α : Type} : List (Nat × List α) → Nat → Option α
  | [], _ => none
  | (first, values) :: runs, n =>
    if n < first then none
    else
      match values[n - first]? with
      | some value => some value
      | none => entryAt? runs n

end CodeRuns

end ShuffleMint
