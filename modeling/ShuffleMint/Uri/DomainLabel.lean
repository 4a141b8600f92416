import ShuffleMint.Unicode.Direction
import ShuffleMint.Unicode.Joining
import ShuffleMint.Unicode.Normalization
import ShuffleMint.Uri.DomainCharacter
import ShuffleMint.Uri.Punycode

/-!
# Labels of domain names

A label that begins with `xn--` is in Punycode and shown with other characters; any other label is
shown as it is. What is shown must not begin with a mark, has joiners only where they change how
letters are written, and is not too long. Where a name has characters that are written from the
right, each of its labels must read in one direction.
-/

namespace ShuffleMint

namespace DomainLabel

/-- Whether every character of a label stands for itself and the label is in composed form. -/
def isSettled (label : List Char) : Bool :=
  (label.all fun c => DomainCharacter.meaning? c == some [c]) &&
    Normalization.composed label == label

/-- The label that Punycode stands for, if it is one of at most 2000 characters of ASCII and stands
for a settled label that needs it. -/
def decoded? (encoded : List Char) : Option (List Char) :=
  if encoded.isEmpty || encoded.getLast? == some '-' || 2000 < encoded.length ||
      encoded.any (fun c => 128 ≤ c.toNat) then none
  else (Punycode.decode? encoded).filter isSettled

/-- The label that is shown for a label. -/
def shown? : List Char → Option (List Char)
  | 'x' :: 'n' :: '-' :: '-' :: encoded => decoded? encoded
  | label => some label

/-- Whether the first character that is not transparent is joined on one of some sides. -/
def meets (sides : List Joining) : List Char → Bool
  | [] => false
  | c :: cs =>
    let joining := Joining.ofChar c
    sides.contains joining || (joining == .transparent && meets sides cs)

/-- Whether a character joins or separates letters: one of the two joiners of zero width. -/
def isJoiner (c : Char) : Bool := c.toNat == 0x200c || c.toNat == 0x200d

/-- Whether a joiner may stand between two texts, the first given last character first. Either may
stand after a virama; the one that separates may also stand between two letters that would join. -/
def mayStand (joiner : Char) (before after : List Char) : Bool :=
  match before with
  | [] => false
  | previous :: _ =>
    CombiningClass.ofChar previous == CombiningClass.virama ||
      (joiner.toNat == 0x200c && meets [.left, .dual] before && meets [.right, .dual] after)

/-- Whether every joiner of a text may stand where it does. The characters before the text come last
first. -/
def joinersStand (before : List Char) : List Char → Bool
  | [] => true
  | c :: after =>
    (!isJoiner c || mayStand c before after) && joinersStand (c :: before) after

/-- Whether a label may be shown: it begins with no mark, its joiners may stand where they do, and
it is in ASCII or has at most 1000 characters. -/
def isFit (label : List Char) : Bool :=
  !(label.head?.any Mark.isMark) && joinersStand [] label &&
    (label.length ≤ 1000 || label.all fun c => c.toNat < 128)

/-- Whether a direction makes a name one that has characters written from the right. -/
def isFromRight (d : Direction) : Bool := d == .rightToLeft || d == .arabicNumber

/-- Whether the directions after the first one suit a label written from the left: none is from the
right, and the last that is no mark is of a letter or a number. -/
def suitsLeft (directions : List Direction) : Bool :=
  match directions.reverse.dropWhile (· == .mark) with
  | [] => true
  | last :: inner =>
    (last == .leftToRight || last == .europeanNumber) && inner.all fun d => !isFromRight d

/-- Whether the directions after the first one suit a label written from the right: no letter is
from the left, the last that is no mark is of a letter or a number, and all numbers are of one
kind. -/
def suitsRight (directions : List Direction) : Bool :=
  match directions.reverse.dropWhile (· == .mark) with
  | [] => true
  | last :: inner =>
    (last == .rightToLeft || last == .europeanNumber || last == .arabicNumber) &&
      (inner.all fun d => d != .leftToRight) &&
      !((last :: inner).contains .europeanNumber && (last :: inner).contains .arabicNumber)

/-- Whether a label reads in one direction, which its first character gives. -/
def readsOneWay (label : List Char) : Bool :=
  match label.map Direction.ofChar with
  | [] => true
  | .leftToRight :: directions => suitsLeft directions
  | .rightToLeft :: directions => suitsRight directions
  | _ :: _ => false

/-- Whether the labels of a name read in one direction each, if any of its characters is written
from the right. -/
def readTogether (labels : List (List Char)) : Bool :=
  !(labels.any fun label => label.any fun c => isFromRight (Direction.ofChar c)) ||
    labels.all readsOneWay

end DomainLabel

end ShuffleMint
