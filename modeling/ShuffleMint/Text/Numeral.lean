/-!
# Decimal numerals

A numeral is one or more decimal digits. Leading zeros are allowed, and so is one plus sign, but no
minus sign and nothing else.
-/

namespace ShuffleMint

namespace Numeral

/-- The value of a decimal digit. -/
def digit? (c : Char) : Option Nat :=
  if '0' ≤ c ∧ c ≤ '9' then some (c.toNat - 48) else none

/-- The number that digits continue. -/
def digits? : List Char → Nat → Option Nat
  | [], n => some n
  | c :: cs, n =>
    match digit? c with
    | some d => digits? cs (10 * n + d)
    | none => none

/-- The number of one or more digits. -/
def unsigned? : List Char → Option Nat
  | [] => none
  | cs => digits? cs 0

/-- The number below a bound that a numeral names. -/
def below? (bound : Nat) (s : String) : Option Nat :=
  let value :=
    match s.toList with
    | '+' :: cs => unsigned? cs
    | cs => unsigned? cs
  value.filter (· < bound)

end Numeral

end ShuffleMint
