import ShuffleMint.Token

/-!
# The data of a reply

A contract that was created reports its address as the first of two length-delimited fields. A field
is a tag, a length in base 128 with the lowest digit first, and as many bytes. Nothing at all reads
as an empty field, and what comes after the second field is not looked at.
-/

namespace ShuffleMint

namespace ReplyData

/-- A length and the bytes after it. It has at most as many digits as are left. -/
def length? : Nat → List UInt8 → Option (Nat × List UInt8)
  | 0, _ => none
  | _ + 1, [] => none
  | digits + 1, b :: rest =>
    if b.toNat < 128 then some (b.toNat, rest)
    else do
      let (high, rest) ← length? digits rest
      return (b.toNat - 128 + 128 * high, rest)

/-- The most digits of a length. -/
def maxDigits : Nat := 9

/-- The content of the field with a number, and the bytes after it. The lower two bits of a tag tell
that a length follows; the third is not looked at. -/
def field? (number : Nat) : List UInt8 → Option (List UInt8 × List UInt8)
  | [] => some ([], [])
  | tag :: rest => do
    if tag.toNat / 8 ≠ number ∨ tag.toNat % 4 ≠ 2 then none
    else
      let (length, rest) ← length? maxDigits rest
      if rest.length < length then none
      else return (rest.take length, rest.drop length)

/-- The address text that the data of a reply reports. -/
def address? (data : List UInt8) : Option String := do
  let (address, rest) ← field? 1 data
  let text ← String.fromUTF8? (ByteArray.mk address.toArray)
  let _ ← field? 2 rest
  return text

end ReplyData

end ShuffleMint
