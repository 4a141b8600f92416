/-!
# Base64 text

Three bytes are four symbols of the standard alphabet. A last group of one or two bytes has two or
three symbols, after which padding may fill the group, or part of it, or be left out. The bits that
such a group does not use are zero.
-/

namespace ShuffleMint

namespace Base64

/-- The value of a symbol. -/
def symbol? (c : Char) : Option Nat :=
  if 'A' ≤ c ∧ c ≤ 'Z' then some (c.toNat - 65)
  else if 'a' ≤ c ∧ c ≤ 'z' then some (c.toNat - 71)
  else if '0' ≤ c ∧ c ≤ '9' then some (c.toNat + 4)
  else if c = '+' then some 62
  else if c = '/' then some 63
  else none

/-- The symbol of a value below sixty-four. -/
def symbol (n : Nat) : Char :=
  if n < 26 then Char.ofNat (n + 65)
  else if n < 52 then Char.ofNat (n + 71)
  else if n < 62 then Char.ofNat (n - 4)
  else if n = 62 then '+'
  else '/'

/-- The byte of a last group of two symbols. -/
def lastOne (a b : Nat) : Option (List UInt8) :=
  if b % 16 = 0 then some [UInt8.ofNat (a * 4 + b / 16)] else none

/-- The bytes of a last group of three symbols. -/
def lastTwo (a b c : Nat) : Option (List UInt8) :=
  if c % 4 = 0 then some [UInt8.ofNat (a * 4 + b / 16), UInt8.ofNat (b * 16 + c / 4)] else none

/-- The bytes of symbols, group by group. -/
def decodeChars : List Char → Option (List UInt8)
  | [] => some []
  | [a, b] | [a, b, '='] | [a, b, '=', '='] => do lastOne (← symbol? a) (← symbol? b)
  | [a, b, c] | [a, b, c, '='] => do lastTwo (← symbol? a) (← symbol? b) (← symbol? c)
  | a :: b :: c :: d :: rest => do
    let a ← symbol? a
    let b ← symbol? b
    let c ← symbol? c
    let d ← symbol? d
    let bytes ← decodeChars rest
    return UInt8.ofNat (a * 4 + b / 16) :: UInt8.ofNat (b * 16 + c / 4)
      :: UInt8.ofNat (c * 64 + d) :: bytes
  | _ => none

/-- The bytes of a base64 text. -/
def decode? (s : String) : Option (List UInt8) := decodeChars s.toList

/-- The symbols of bytes, with full padding. -/
def encodeBytes : List UInt8 → List Char
  | [] => []
  | [a] => [symbol (a.toNat / 4), symbol (a.toNat % 4 * 16), '=', '=']
  | [a, b] =>
    [symbol (a.toNat / 4), symbol (a.toNat % 4 * 16 + b.toNat / 16), symbol (b.toNat % 16 * 4), '=']
  | a :: b :: c :: rest =>
    symbol (a.toNat / 4) :: symbol (a.toNat % 4 * 16 + b.toNat / 16)
      :: symbol (b.toNat % 16 * 4 + c.toNat / 64) :: symbol (c.toNat % 64) :: encodeBytes rest

/-- The base64 text of bytes, with full padding. -/
def encode (bytes : List UInt8) : String := String.ofList (encodeBytes bytes)

end Base64

end ShuffleMint
