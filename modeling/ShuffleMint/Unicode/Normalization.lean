import ShuffleMint.Unicode.CombiningClass
import ShuffleMint.Unicode.Composite

/-!
# Composed form of a text

Texts that look the same may differ in how they are written: a letter with a mark is one character
or two, and marks that attach to different places come in any order. The composed form is the same
for all of them. Composites are taken apart, marks are put in the order of their combining classes,
and then everything is put together that can be.
-/

namespace ShuffleMint

namespace Normalization

/-- The characters that a composite is made of, in order. The first argument bounds how often a
first part is taken apart in turn; no composite nests deeper than two. -/
def decompose : Nat → Char → List Char
  | 0, c => [c]
  | depth + 1, c =>
    match Composite.parts? c with
    | some (first, second) => decompose depth first ++ [second]
    | none => [c]

/-- Puts a character with its class before ordered ones, past the marks of lower classes. -/
def insert (c : Char × Nat) : List (Char × Nat) → List (Char × Nat)
  | [] => [c]
  | d :: ds => if 0 < d.2 ∧ d.2 < c.2 then d :: insert c ds else c :: d :: ds

/-- Characters with their classes, every stretch of marks in the order of its classes. Marks of one
class keep their order. -/
def ordered (cs : List Char) : List (Char × Nat) :=
  cs.foldr (fun c ds => insert (c, CombiningClass.ofChar c) ds) []

/-- Puts a character of class zero together with those after it. The marks kept apart so far come
last first, and `last` is the class of the last of them: a mark of this class stays apart, too. -/
def joinFrom (start : Char) (kept : List Char) (last : Nat) : List (Char × Nat) → List Char
  | [] => start :: kept.reverse
  | (c, k) :: rest =>
    let whole := if last ≠ 0 ∧ k ≤ last then none else Composite.ofParts? start c
    match whole with
    | some joined => joinFrom joined kept last rest
    | none =>
      if k = 0 then start :: (kept.reverse ++ joinFrom c [] 0 rest)
      else joinFrom start (c :: kept) k rest

/-- Puts ordered characters together. Marks before the first character of class zero stay. -/
def join : List (Char × Nat) → List Char
  | [] => []
  | (c, k) :: rest => if k = 0 then joinFrom c [] 0 rest else c :: join rest

/-- The composed form of a text. -/
def composed (cs : List Char) : List Char := join (ordered (cs.flatMap (decompose 2)))

end Normalization

end ShuffleMint
