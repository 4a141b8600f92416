/-!
# IPv4 addresses as hosts

A host whose last label is a number has to be an IPv4 address of one to four numbers, of which the
last fills the bytes that the others leave. A number is octal after a zero and hexadecimal after
`0x`.
-/

namespace ShuffleMint

namespace Ipv4

/-- The value of a digit in a base of at most sixteen. -/
def digit? (base : Nat) (c : Char) : Option Nat :=
  let value :=
    if '0' ≤ c ∧ c ≤ '9' then some (c.toNat - 48)
    else if 'a' ≤ c ∧ c ≤ 'f' then some (c.toNat - 87)
    else if 'A' ≤ c ∧ c ≤ 'F' then some (c.toNat - 55)
    else none
  value.filter (· < base)

/-- The number that digits continue. -/
def digits? (base : Nat) : List Char → Nat → Option Nat
  | [], n => some n
  | c :: cs, n =>
    match digit? base c with
    | some d => digits? base cs (base * n + d)
    | none => none

/-- The number that a label names. -/
def number? : List Char → Option Nat
  | [] => none
  | '0' :: 'x' :: cs => digits? 16 cs 0
  | '0' :: 'X' :: cs => digits? 16 cs 0
  | '0' :: c :: cs => digits? 8 (c :: cs) 0
  | cs => digits? 10 cs 0

/-- Whether a label counts as a number, be it one with digits that its base does not have. -/
def looksNumeric (label : List Char) : Bool :=
  (!label.isEmpty && label.all fun c => (digit? 10 c).isSome) || (number? label).isSome

/-- Labels without an empty one at the end. -/
def dropLastEmpty (labels : List (List Char)) : List (List Char) :=
  if labels.getLast? = some [] then labels.dropLast else labels

/-- Whether a host has to be an IPv4 address, as the last of its labels that is not an empty one at
the end decides. -/
def isCandidate (labels : List (List Char)) : Bool :=
  match (dropLastEmpty labels).getLast? with
  | some label => looksNumeric label
  | none => false

/-- Whether labels are an IPv4 address. -/
def isAddress (labels : List (List Char)) : Bool :=
  let labels := dropLastEmpty labels
  if 4 < labels.length then false
  else
    match labels.mapM number? with
    | none => false
    | some numbers =>
      match numbers.getLast? with
      | none => false
      | some last =>
        numbers.dropLast.all (· ≤ 255) && last < Nat.pow 256 (5 - numbers.length)

end Ipv4

end ShuffleMint
