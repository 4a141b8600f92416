import ShuffleMint.Unicode.CodeRuns
import ShuffleMint.Uri.DomainCharacter.Expanded
import ShuffleMint.Uri.DomainCharacter.Ideograph
import ShuffleMint.Uri.DomainCharacter.Refused
import ShuffleMint.Uri.DomainCharacter.Replaced

/-!
# Characters of domain names

A domain name may hold characters that are not ASCII. Some of them stand for other characters, some
for nothing at all, and some are refused; a character in none of the tables stands for itself. In
ASCII a capital letter stands for the small one.
-/

namespace ShuffleMint

namespace DomainCharacter

/-- What a code point of a shifted run stands for. -/
def shifted? : List (Nat × Nat × Nat × Nat) → Nat → Option Nat
  | [], _ => none
  | (first, last, step, target) :: runs, n =>
    if n < first then none
    else if n ≤ last ∧ (n - first) % step = 0 then some (target + (n - first))
    else shifted? runs n

/-- The code points that a code point stands for, if not for itself. -/
def replacement? (n : Nat) : Option (List Nat) :=
  match shifted? shiftedRuns n with
  | some code => some [code]
  | none =>
    match CodeRuns.entryAt? replacedRuns n with
    | some code => some [code]
    | none =>
      match CodeRuns.entryAt? ideographRuns n with
      | some code => some [code]
      | none => CodeRuns.entryAt? expandedRuns n

/-- An ASCII letter in lower case; any other character as it is. -/
def lower (c : Char) : Char := if 'A' ≤ c ∧ c ≤ 'Z' then Char.ofNat (c.toNat + 32) else c

/-- What a character stands for in a domain name; none for a character that is refused. -/
def meaning? (c : Char) : Option (List Char) :=
  if c.toNat < 128 then some [lower c]
  else if CodeRuns.cover refusedRuns c.toNat then none
  else if CodeRuns.cover droppedRuns c.toNat then some []
  else
    match replacement? c.toNat with
    | some codes => some (codes.map Char.ofNat)
    | none => some [c]

end DomainCharacter

end ShuffleMint
