/-!
# Punycode

A label of a domain name in ASCII may stand for one with other characters. What precedes its last
hyphen are the ASCII characters; what follows says, in numbers of base 36 with moving thresholds,
which characters to put in and where.
-/

namespace ShuffleMint

namespace Punycode

/-- The value of a digit of base 36. -/
def digit? (c : Char) : Option Nat :=
  if 'a' ≤ c ∧ c ≤ 'z' then some (c.toNat - 97)
  else if 'A' ≤ c ∧ c ≤ 'Z' then some (c.toNat - 65)
  else if '0' ≤ c ∧ c ≤ '9' then some (c.toNat - 22)
  else none

/-- The threshold of a position under a bias: a digit below it is the last of its number. -/
def threshold (position bias : Nat) : Nat := min 26 (max 1 (position - bias))

/-- The thirty-second power of two. -/
@[noinline] def limit : Nat := 0x100000000

/-- A number, its weight and position growing digit by digit, added to a start value; and the
characters after it. Neither the sum nor a weight may reach the thirty-second power of two. -/
def number? (bias : Nat) : List Char → Nat → Nat → Nat → Option (Nat × List Char)
  | [], _, _, _ => none
  | c :: cs, weight, position, start => do
    let d ← digit? c
    let t := threshold position bias
    let value := start + d * weight
    if limit ≤ value then none
    else if d < t then some (value, cs)
    else if limit ≤ weight * (36 - t) then none
    else number? bias cs (weight * (36 - t)) (position + 36) value

/-- Divides a distance until it is small, and counts the divisions. The first argument is a bound on
their number. -/
def shrink : Nat → Nat → Nat × Nat
  | 0, delta => (delta, 0)
  | steps + 1, delta =>
    if 455 < delta then
      let (delta, n) := shrink steps (delta / 35)
      (delta, n + 1)
    else (delta, 0)

/-- The bias after a character was put in at a distance from the one before it. -/
def adapt (delta count : Nat) (first : Bool) : Nat :=
  let delta := if first then delta / 700 else delta / 2
  let (delta, divisions) := shrink 32 (delta + delta / count)
  36 * divisions + 36 * delta / (delta + 38)

/-- Puts characters into a label as the digits say. The first argument bounds how many. -/
def insertAll : Nat → List Char → List Char → Nat → Nat → Nat → Option (List Char)
  | _, [], label, _, _, _ => some label
  | 0, _ :: _, _, _, _, _ => none
  | steps + 1, c :: cs, label, code, position, bias => do
    let (total, rest) ← number? bias (c :: cs) 1 36 position
    let count := label.length + 1
    let code := code + total / count
    let place := total % count
    if 0x10ffff < code ∨ (0xd800 ≤ code ∧ code < 0xe000) then none
    else
      let label := label.take place ++ Char.ofNat code :: label.drop place
      insertAll steps rest label code (place + 1) (adapt (total - position) count (position == 0))

/-- The label that characters of ASCII stand for. A hyphen that nothing precedes is no cut, but a
digit that does not exist. -/
def decode? (cs : List Char) : Option (List Char) :=
  let digits := (cs.reverse.takeWhile (· != '-')).reverse
  let basic := cs.take (cs.length - digits.length - 1)
  let digits := if basic.isEmpty then cs else digits
  insertAll digits.length digits basic 128 0 72

end Punycode

end ShuffleMint
