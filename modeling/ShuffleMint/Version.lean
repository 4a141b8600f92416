import ShuffleMint.Text.Numeral
import ShuffleMint.Token

/-!
# Semantic versions

A version is three numbers, then perhaps the identifiers of a pre-release after a hyphen, then
perhaps those of a build after a plus sign. Versions have a total order in which a pre-release comes
before its release, and a build after the version that it is a build of.
-/

namespace ShuffleMint

/-- A part of a pre-release or a build: a run of digits, by value and length, or another word. -/
inductive VersionPart where
  | digits (value length : Nat)
  | word (s : String)
  deriving DecidableEq

/-- A semantic version. -/
structure Version where
  major : Nat
  minor : Nat
  patch : Nat
  preRelease : List VersionPart
  build : List VersionPart
  deriving DecidableEq

namespace VersionPart

/-- Runs of digits come first, by value, then by length. Words are ordered by their characters. -/
def order : VersionPart → VersionPart → Ordering
  | digits v l, digits v' l' => (compare v v').then (compare l l')
  | digits _ _, word _ => .lt
  | word _, digits _ _ => .gt
  | word s, word s' => compare s s'

/-- Lists of parts in the order of the dictionary. -/
def orderList : List VersionPart → List VersionPart → Ordering
  | [], [] => .eq
  | [], _ :: _ => .lt
  | _ :: _, [] => .gt
  | p :: ps, q :: qs => (p.order q).then (orderList ps qs)

/-- Pre-releases in the order of the dictionary, and none after all of them. -/
def orderPreRelease : List VersionPart → List VersionPart → Ordering
  | [], [] => .eq
  | [], _ :: _ => .gt
  | _ :: _, [] => .lt
  | p :: ps, q :: qs => orderList (p :: ps) (q :: qs)

/-- The part that characters form; none when there are no characters. -/
def ofChars? : List Char → Option VersionPart
  | [] => none
  | cs =>
    match Numeral.unsigned? cs with
    | some value => some (.digits value cs.length)
    | none => some (.word (String.ofList cs))

/-- Whether a part is a run of digits with a zero in front. -/
def hasLeadingZero (cs : List Char) : Bool :=
  match cs with
  | '0' :: _ :: _ => (Numeral.unsigned? cs).isSome
  | _ => false

end VersionPart

namespace Version

/-- The total order of versions. -/
def order (a b : Version) : Ordering :=
  ((((compare a.major b.major).then (compare a.minor b.minor)).then
    (compare a.patch b.patch)).then
    (VersionPart.orderPreRelease a.preRelease b.preRelease)).then
    (VersionPart.orderList a.build b.build)

/-- A character of a part. -/
def isPartChar (c : Char) : Bool :=
  ('0' ≤ c && c ≤ '9') || ('a' ≤ c && c ≤ 'z') || ('A' ≤ c && c ≤ 'Z') || c == '-'

/-- Cuts characters at every dot. -/
def splitAtDots : List Char → List (List Char)
  | [] => [[]]
  | '.' :: cs => [] :: splitAtDots cs
  | c :: cs =>
    match splitAtDots cs with
    | segment :: rest => (c :: segment) :: rest
    | [] => [[c]]

/-- The number that characters begin with, without a zero in front of it, and what follows. -/
def number? (cs : List Char) : Option (Nat × List Char) := do
  let digits := cs.takeWhile fun c => (Numeral.digit? c).isSome
  let value ← Numeral.unsigned? digits
  if VersionPart.hasLeadingZero digits ∨ wordBound ≤ value then none
  else some (value, cs.drop digits.length)

/-- What follows a dot. -/
def afterDot? : List Char → Option (List Char)
  | '.' :: cs => some cs
  | _ => none

/-- The parts of a pre-release or a build that characters begin with, and what follows. -/
def parts? (leadingZeros : Bool) (cs : List Char) : Option (List VersionPart × List Char) := do
  let text := cs.takeWhile fun c => isPartChar c || c == '.'
  let segments := splitAtDots text
  if !leadingZeros && segments.any VersionPart.hasLeadingZero then none
  else
    let parts ← segments.mapM VersionPart.ofChars?
    some (parts, cs.drop text.length)

/-- The parts after a mark; none where the mark is missing. -/
def partsAfter? (mark : Char) (leadingZeros : Bool) (cs : List Char) :
    Option (List VersionPart × List Char) :=
  match cs with
  | [] => some ([], [])
  | c :: rest => if c = mark then parts? leadingZeros rest else some ([], cs)

/-- The version that a text names. -/
def ofString? (s : String) : Option Version := do
  let (major, cs) ← number? s.toList
  let (minor, cs) ← number? (← afterDot? cs)
  let (patch, cs) ← number? (← afterDot? cs)
  let (preRelease, cs) ← partsAfter? '-' false cs
  let (build, cs) ← partsAfter? '+' true cs
  if cs.isEmpty then some ⟨major, minor, patch, preRelease, build⟩ else none

end Version

end ShuffleMint
