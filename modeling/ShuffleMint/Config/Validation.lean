import ShuffleMint.Config

/-!
# Valid configurations

A configuration is checked as a whole after every change that a caller asks for. The checks come in
a fixed order and the first that fails is reported. Totals of basis points that are no count abort
instead, since they cannot be formed.
-/

namespace ShuffleMint

/-- The most tokens that a mint has. -/
def maxSupply : Nat := 50000

/-- The highest per-address cap. -/
def maxCap : Nat := 50000

/-- A whole, in basis points. -/
def wholePoints : Nat := 10000

/-- The most that royalties of later sales may add up to, in basis points. -/
def maxSecondaryPoints : Nat := 5000

namespace Denom

/-- An ASCII letter. -/
def isLetter (c : Char) : Bool := ('a' ≤ c && c ≤ 'z') || ('A' ≤ c && c ≤ 'Z')

/-- A character that may stand after the first letter of a denomination. -/
def isTail (c : Char) : Bool :=
  isLetter c || ('0' ≤ c && c ≤ '9') || c == '/' || c == ':' || c == '.' || c == '_' || c == '-'

/-- Why a text is no denomination: its length in bytes, its first character or a later one. -/
def fault? (denom : String) : Option ConfigFault :=
  if denom.utf8ByteSize < 3 ∨ 128 < denom.utf8ByteSize then
    some (.denomLength denom.utf8ByteSize)
  else
    match denom.toList with
    | [] => some .denomStart
    | first :: rest =>
      if isLetter first then (rest.find? fun c => !isTail c).map .denomCharacter
      else some .denomStart

/-- Refuses a text that is no denomination. -/
def validate (denom : String) : Outcome Unit :=
  match fault? denom with
  | none => .ok ()
  | some fault => .error (.rejected (.invalidConfig fault))

end Denom

namespace Share

/-- The sum of the basis points of shares. -/
def sumPoints : List Share → Nat
  | [] => 0
  | share :: rest => share.points + sumPoints rest

/-- The sum of the basis points of shares, aborted when it is no count. -/
def total (shares : List Share) : Outcome Nat :=
  if sumPoints shares < countBound then .ok (sumPoints shares) else .error .aborted

/-- How many of the shares are primary. -/
def primaries (shares : List Share) : Nat := shares.countP Share.primary

end Share

namespace Royalties

/-- Revenue is shared by at most a whole and has exactly one primary share. -/
def validateRevenue (shares : List Share) : Outcome Unit := do
  let points ← Share.total shares
  if wholePoints < points then
    .error (.rejected (.invalidConfig (.revenueTotal points wholePoints)))
  else if Share.primaries shares ≠ 1 then
    .error (.rejected (.invalidConfig .revenuePrimary))
  else .ok ()

/-- Royalties of later sales are at most half of a whole and have at most one primary share. -/
def validateSecondary (shares : List Share) : Outcome Unit := do
  let points ← Share.total shares
  if maxSecondaryPoints < points then
    .error (.rejected (.invalidConfig (.royaltyTotal points maxSecondaryPoints)))
  else if 1 < Share.primaries shares then
    .error (.rejected (.invalidConfig .royaltyPrimary))
  else .ok ()

end Royalties

namespace Config

/-- The sale does not start after it ends. -/
def validateWindow (c : Config) : Outcome Unit :=
  match c.endTime with
  | some stop =>
    if stop < c.startTime then .error (.rejected (.invalidConfig .startAfterEnd)) else .ok ()
  | none => .ok ()

/-- There is a token, and no more than a mint may have. -/
def validateSupply (c : Config) : Outcome Unit :=
  if 1 ≤ c.totalSupply ∧ c.totalSupply ≤ maxSupply then .ok ()
  else .error (.rejected (.invalidConfig (.totalSupply maxSupply)))

/-- A cap admits a mint and no more mints than there are tokens. -/
def validateCap (c : Config) (field : CapField) (cap : Nat) : Outcome Unit :=
  if cap < 1 ∨ maxCap < cap ∨ c.totalSupply < cap then
    .error (.rejected (.invalidConfig (.cap field (min maxCap c.totalSupply) cap)))
  else .ok ()

/-- All rules that relate the settings of a configuration. -/
def validate (c : Config) : Outcome Unit := do
  c.validateWindow
  c.validateSupply
  c.validateCap .mint c.mintCap
  c.validateCap .bundleMint c.bundleCap
  Denom.validate c.denom
  Royalties.validateRevenue c.royalties.revenue
  Royalties.validateSecondary c.royalties.secondary

end Config

end ShuffleMint
