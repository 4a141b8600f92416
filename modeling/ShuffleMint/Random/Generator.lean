/-!
# A pseudorandom generator

The generator is xoshiro128++: four words of state, a sum and two rotations per output. A seed of
sixteen bytes determines every draw.
-/

namespace ShuffleMint

/-- Sixteen bytes that determine a shuffle. -/
abbrev Seed := Vector UInt8 16

/-- Bytes read four at a time, the lowest byte first. -/
def littleEndianWords : List UInt8 → List UInt32
  | a :: b :: c :: d :: rest =>
    (a.toUInt32 ||| (b.toUInt32 <<< 8) ||| (c.toUInt32 <<< 16) ||| (d.toUInt32 <<< 24))
      :: littleEndianWords rest
  | _ => []

/-- The state of the generator. -/
structure Generator where
  s0 : UInt32
  s1 : UInt32
  s2 : UInt32
  s3 : UInt32

namespace Generator

/-- The state that stands in for a seed of zeros, from which the generator would never leave. -/
def nonzero : Generator := ⟨0x7B1DCDAF, 0xE220A839, 0xA1B965F4, 0x6E789E6A⟩

/-- The state that a seed determines. -/
def ofSeed (seed : Seed) : Generator :=
  match littleEndianWords seed.toList with
  | [s0, s1, s2, s3] =>
    if s0 = 0 ∧ s1 = 0 ∧ s2 = 0 ∧ s3 = 0 then nonzero else ⟨s0, s1, s2, s3⟩
  | _ => nonzero

/-- A word rotated to the left by fewer than its thirty-two bits. -/
def rotateLeft (x k : UInt32) : UInt32 := (x <<< k) ||| (x >>> (32 - k))

/-- The next word and the state after it. -/
def nextWord (g : Generator) : UInt32 × Generator :=
  let result := rotateLeft (g.s0 + g.s3) 7 + g.s0
  let t := g.s1 <<< 9
  let s2 := g.s2 ^^^ g.s0
  let s3 := g.s3 ^^^ g.s1
  let s1 := g.s1 ^^^ s2
  let s0 := g.s0 ^^^ s3
  (result, ⟨s0, s1, s2 ^^^ t, rotateLeft s3 11⟩)

/-- How many values a word has. -/
def wordSpan : Nat := 0x100000000

/-- How many values two words have. -/
def longSpan : Nat := 0x10000000000000000

/-- The next two words as one number, the first word being the low half. -/
def nextLong (g : Generator) : Nat × Generator :=
  let (low, g) := g.nextWord
  let (high, g) := g.nextWord
  (low.toNat + high.toNat * wordSpan, g)

/-- How many draws in a row may be refused before one is taken as it is. -/
def patience : Nat := 4096

/-- A number below `range`. A draw is multiplied by the range; the high half of the product is the
result, unless the low half lies past the largest multiple of the range that fits. -/
def belowFrom (range : Nat) : Nat → Generator → Nat × Generator
  | 0, g =>
    let (v, g) := g.nextLong
    (v * range / longSpan, g)
  | tries + 1, g =>
    let (v, g) := g.nextLong
    if v * range % longSpan ≤ range <<< (63 - range.log2) - 1 then (v * range / longSpan, g)
    else belowFrom range tries g

/-- A number below a positive range, each with the same chance. -/
def below (range : Nat) (g : Generator) : Nat × Generator := belowFrom range patience g

end Generator

end ShuffleMint
