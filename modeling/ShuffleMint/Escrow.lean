import ShuffleMint.Config.Validation
import ShuffleMint.Message
import ShuffleMint.Store

/-!
# Revenue and escrow

The revenue of a mint is split among the revenue shares. It is sent at once, or held in escrow as a
balance per address until it is paid out. A deposit writes the balance before the total, so a total
that cannot grow leaves the balance already raised.
-/

namespace ShuffleMint

namespace Share

/-- The part of an amount that basis points give, rounded down; aborted when it is no amount. -/
def portion (amount points : Nat) : Outcome Nat :=
  let part := amount * points / wholePoints
  if part < amountBound then .ok part else .error .aborted

/-- The part of an amount that a share receives when so much of the amount is left. A primary share
takes all that is left. -/
def part (amount left : Nat) (s : Share) : Outcome Nat :=
  if s.primary then .ok left else portion amount s.points

/-- The parts of an amount that shares receive in turn. -/
def portions (amount : Nat) : Nat → List Share → Outcome (List (Address × Nat))
  | _, [] => .ok []
  | left, s :: rest => do
    let own ← part amount left s
    let others ← portions amount (left - own) rest
    return (s.address, own) :: others

/-- Shares with the primary ones last, each group in its own order. -/
def primaryLast (shares : List Share) : List Share :=
  shares.filter (fun s => !s.primary) ++ shares.filter fun s => s.primary

end Share

/-- What each share receives of an amount, the primary one last, without those that receive
nothing. -/
def splitRevenue (c : Config) (amount : Nat) : Outcome (List (Address × Nat)) := do
  let parts ← Share.portions amount amount (Share.primaryLast c.royalties.revenue)
  return parts.filter fun part => part.2 ≠ 0

/-- The sum of two amounts of money, refused when it is no amount. -/
def addAmounts (a b : Nat) : Outcome Nat :=
  if a + b < amountBound then .ok (a + b) else .error (.rejected (.sumOverflow a b))

namespace Store

/-- What is held in escrow for an address. -/
def balanceOf (s : Store) (address : Address) : Nat := (s.balances.get? address).getD 0

/-- What was ever paid into and out of escrow. -/
def totals (s : Store) : EscrowTotals := s.escrowTotals.getD ⟨0, 0⟩

/-- Replaces what is held for an address. -/
def withBalance (s : Store) (address : Address) (amount : Nat) : Store :=
  { s with balances := s.balances.insert address amount }

end Store

namespace Escrow

/-- Holds an amount for an address. Nothing is written for an amount of zero. -/
def deposit (address : Address) (amount : Nat) : Step Store Unit := do
  if amount = 0 then pure ()
  else
    let s ← Step.get
    let balance ← addAmounts (s.balanceOf address) amount
    Step.put (s.withBalance address balance)
    let s ← Step.get
    let deposited ← addAmounts s.totals.deposited amount
    Step.put { s with escrowTotals := some { s.totals with deposited := deposited } }

/-- Releases all that is held for an address and yields how much. The address keeps an entry. -/
def disburse (address : Address) : Step Store Nat := do
  let s ← Step.get
  let amount := s.balanceOf address
  if amount = 0 then pure 0
  else
    Step.put (s.withBalance address 0)
    let s ← Step.get
    let disbursed ← addAmounts s.totals.disbursed amount
    Step.put { s with escrowTotals := some { s.totals with disbursed := disbursed } }
    pure amount

/-- Passes parts of a revenue on: into escrow, or as messages that send them. -/
def settle (c : Config) : List (Address × Nat) → Step Store (List Message)
  | [] => pure []
  | (address, amount) :: rest =>
    if c.escrowFunds then do
      deposit address amount
      settle c rest
    else do
      let messages ← settle c rest
      pure (.send address [c.price amount] :: messages)

/-- Splits a revenue and passes its parts on. -/
def settleRevenue (c : Config) (amount : Nat) : Step Store (List Message) := do
  let parts ← splitRevenue c amount
  settle c parts

end Escrow

end ShuffleMint
