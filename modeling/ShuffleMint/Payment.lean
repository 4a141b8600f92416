import ShuffleMint.Failure
import ShuffleMint.Message

/-!
# Coins sent with a call

A call takes no coins, or at most one coin of the denomination of the mint, or a fee of which half
is burned and the rest goes to the community pool.
-/

namespace ShuffleMint

/-- Refuses any coin. -/
def requireNoFunds (funds : List Coin) : Outcome Unit :=
  match funds with
  | [] => .ok ()
  | _ :: _ => .error (.rejected (.payment .notPayable))

/-- What was paid in a denomination, where nothing else may be sent. Several coins that are all of
the denomination abort. -/
def mayPay (denom : String) (funds : List Coin) : Outcome Nat :=
  match funds with
  | [] => .ok 0
  | [coin] =>
    if coin.denom = denom then .ok coin.amount
    else .error (.rejected (.payment (.otherDenom coin.denom)))
  | coins =>
    match coins.find? fun coin => coin.denom != denom with
    | some coin => .error (.rejected (.payment (.otherDenom coin.denom)))
    | none => .error .aborted

/-- Why coins are no payment in a denomination, or what they pay. -/
def mustPay (denom : String) (funds : List Coin) : Except PaymentFault Nat :=
  match funds with
  | [] => .error .noFunds
  | [coin] =>
    if coin.amount = 0 then .error .noFunds
    else if coin.denom = denom then .ok coin.amount
    else .error (.missingDenom denom)
  | _ => .error .severalDenoms

/-- The denomination in which fees are paid. -/
def feeDenom : String := "ustars"

/-- What happens to a fee: half of it is burned, the rest funds the community pool. -/
def fairBurn (fee : Nat) : List Message :=
  [.burn [⟨feeDenom, fee / 2⟩], .fundPool [⟨feeDenom, fee - fee / 2⟩]]

/-- The messages that take a fee, refused when less is paid. What is paid above the fee is kept. -/
def chargeFee (fee : Nat) (funds : List Coin) : Outcome (List Message) :=
  match mustPay feeDenom funds with
  | .error fault => .error (.rejected (.fee (.payment fault)))
  | .ok paid =>
    if paid < fee then .error (.rejected (.fee (.insufficient fee paid)))
    else .ok (fairBurn fee)

end ShuffleMint
