import ShuffleMint.Uri.DomainLabel

/-!
# Domain names as hosts

A host of a web scheme is a domain name. Percent-encoded bytes are decoded first; what results must
be text in UTF-8, whose characters are then read for what they stand for, in composed form. Points
cut the name into labels, each of which has to be fit to be shown.
-/

namespace ShuffleMint

namespace DomainName

/-- The value of a hexadecimal digit in ASCII. -/
def hexValue? (b : UInt8) : Option UInt8 :=
  if 48 ≤ b ∧ b ≤ 57 then some (b - 48)
  else if 97 ≤ b ∧ b ≤ 102 then some (b - 87)
  else if 65 ≤ b ∧ b ≤ 70 then some (b - 55)
  else none

/-- Bytes with every percent sign and its two digits replaced by the byte they name. A percent sign
without two digits stays. -/
def percentDecode : List UInt8 → List UInt8
  | [] => []
  | [b] => [b]
  | [b, c] => [b, c]
  | b :: high :: low :: rest =>
    match b == 37, hexValue? high, hexValue? low with
    | true, some h, some l => (16 * h + l) :: percentDecode rest
    | _, _, _ => b :: percentDecode (high :: low :: rest)

/-- An ASCII character that stands in no domain name. -/
def isForbidden (c : Char) : Bool :=
  c.toNat ≤ 32 || c.toNat == 127 || "%#/:<>?@[\\]^|".toList.contains c

/-- Cuts a name into its labels at every point. -/
def labels : List Char → List (List Char)
  | [] => [[]]
  | '.' :: cs => [] :: labels cs
  | c :: cs =>
    match labels cs with
    | label :: rest => (c :: label) :: rest
    | [] => [[c]]

/-- The characters of the domain name that a host text stands for, in composed form and with labels
that may be shown side by side. -/
def ofHost? (host : String) : Option (List Char) := do
  let bytes := percentDecode host.toUTF8.toList
  let text ← String.fromUTF8? (ByteArray.mk bytes.toArray)
  let meanings ← text.toList.mapM DomainCharacter.meaning?
  let name := Normalization.composed meanings.flatten
  if name.any isForbidden then none
  else
    let shown ← (labels name).mapM DomainLabel.shown?
    if shown.all DomainLabel.isFit && DomainLabel.readTogether shown then some name else none

end DomainName

end ShuffleMint
