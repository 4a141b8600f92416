/-!
# IPv6 addresses as hosts

Eight pieces of one to four hexadecimal digits, of which one run may be left out at a double colon
and the last two may be written as four decimal numbers.
-/

namespace ShuffleMint

namespace Ipv6

/-- A decimal digit. -/
def isDecimal (c : Char) : Bool := '0' ≤ c && c ≤ '9'

/-- A hexadecimal digit. -/
def isHex (c : Char) : Bool := isDecimal c || ('a' ≤ c && c ≤ 'f') || ('A' ≤ c && c ≤ 'F')

/-- A number up to 255 without a zero in front of it. -/
def isByte (cs : List Char) : Bool :=
  match cs with
  | [] => false
  | ['0'] => true
  | '0' :: _ => false
  | cs =>
    cs.length ≤ 3 && cs.all isDecimal && cs.foldl (fun n c => 10 * n + (c.toNat - 48)) 0 ≤ 255

/-- So many decimal numbers with points between them and nothing after them. -/
def isDotted : Nat → List Char → Bool
  | 0, _ => false
  | 1, cs => isByte cs
  | n + 1, cs =>
    let number := cs.takeWhile isDecimal
    match cs.drop number.length with
    | '.' :: rest => isByte number && isDotted n rest
    | _ => false

/-- Whether pieces are complete: all eight, or fewer with some left out. -/
def complete (pieces : Nat) (shortened : Bool) : Bool := shortened || pieces == 8

/-- Whether characters continue so many pieces to an address. The first argument bounds the steps;
each takes a character. -/
def continues : Nat → Nat → Bool → List Char → Bool
  | _, pieces, shortened, [] => complete pieces shortened
  | 0, _, _, _ :: _ => false
  | steps + 1, pieces, shortened, c :: cs =>
    if pieces = 8 then false
    else if c = ':' then !shortened && continues steps (pieces + 1) true cs
    else
      let hex := ((c :: cs).take 4).takeWhile isHex
      match (c :: cs).drop hex.length with
      | [] => complete (pieces + 1) shortened
      | '.' :: _ =>
        !hex.isEmpty && pieces ≤ 6 && isDotted 4 (c :: cs) && complete (pieces + 2) shortened
      | ':' :: rest =>
        !rest.isEmpty && !hex.isEmpty && continues steps (pieces + 1) shortened rest
      | _ => false

/-- Whether characters are an IPv6 address. -/
def isAddress (cs : List Char) : Bool :=
  match cs with
  | ':' :: ':' :: rest => continues rest.length 1 true rest
  | ':' :: _ => false
  | _ => 2 ≤ cs.length && continues cs.length 0 false cs

end Ipv6

end ShuffleMint
