import ShuffleMint.Escrow
import ShuffleMint.Proofs.SortedMap.Insertion

/-!
# The escrow as a ledger

A deposit raises one balance and the total of deposits, a payout clears one balance and raises the
total of payouts, and nothing else in the store moves. So the balances together are what was
deposited and not paid out, and no payout can leave the bound of amounts.
-/

namespace ShuffleMint

/-- What an address receives of the parts of a revenue. -/
def received (payee : Address) (parts : List (Address × Nat)) : Nat :=
  ((parts.filter fun part => part.1 == payee).map Prod.snd).sum

/-- The part of another address leaves what an address receives alone; its own part adds to it. -/
theorem received_cons (payee : Address) (part : Address × Nat) (rest : List (Address × Nat)) :
    received payee (part :: rest) =
      (if part.1 = payee then part.2 else 0) + received payee rest := by
  by_cases h : part.1 = payee <;> simp [received, h]

/-- The order of the parts has no part in what an address receives. -/
theorem received_perm {parts parts' : List (Address × Nat)} (h : parts'.Perm parts)
    (payee : Address) : received payee parts' = received payee parts :=
  ((h.filter _).map _).sum_nat

namespace Store

variable {s : Store}

/-- The store with an amount deposited for an address. -/
def withDeposit (s : Store) (payee : Address) (amount : Nat) : Store :=
  if amount = 0 then s
  else
    { s with
      balances := s.balances.insert payee (s.balanceOf payee + amount)
      escrowTotals := some { s.totals with deposited := s.totals.deposited + amount } }

/-- The store with the parts of a revenue deposited. -/
def withDeposits (s : Store) (parts : List (Address × Nat)) : Store :=
  parts.foldl (fun s part => s.withDeposit part.1 part.2) s

/-- The store with all that is held for an address paid out. -/
def withPayout (s : Store) (payee : Address) : Store :=
  if s.balanceOf payee = 0 then s
  else
    { s with
      balances := s.balances.insert payee 0
      escrowTotals := some { s.totals with disbursed := s.totals.disbursed + s.balanceOf payee } }

/-- The second store differs from the first in its escrow at most. -/
def EscrowOnly (s t : Store) : Prop :=
  t = { s with balances := t.balances, escrowTotals := t.escrowTotals }

/-- Differences in the escrow add up to differences in the escrow. -/
theorem EscrowOnly.trans {t u : Store} (h : s.EscrowOnly t) (h' : t.EscrowOnly u) :
    s.EscrowOnly u := by
  unfold EscrowOnly at h h' ⊢
  rw [h', h]

/-- What does not look at the escrow does not see a difference in it. -/
theorem EscrowOnly.view_eq {α : Type} {t : Store} (h : s.EscrowOnly t) (view : Store → α)
    (hview : ∀ (s : Store) (balances : SortedMap Address Nat) (totals : Option EscrowTotals),
      view { s with balances := balances, escrowTotals := totals } = view s) : view t = view s := by
  unfold EscrowOnly at h
  rw [h]
  exact hview s t.balances t.escrowTotals

/-- A deposit changes the escrow only. -/
theorem escrowOnly_withDeposit (s : Store) (payee : Address) (amount : Nat) :
    s.EscrowOnly (s.withDeposit payee amount) := by
  unfold withDeposit
  split <;> rfl

/-- Deposits change the escrow only. -/
theorem escrowOnly_withDeposits (s : Store) (parts : List (Address × Nat)) :
    s.EscrowOnly (s.withDeposits parts) := by
  induction parts generalizing s with
  | nil => rfl
  | cons part rest ih => exact (s.escrowOnly_withDeposit part.1 part.2).trans (ih _)

/-- A payout changes the escrow only. -/
theorem escrowOnly_withPayout (s : Store) (payee : Address) :
    s.EscrowOnly (s.withPayout payee) := by
  unfold withPayout
  split <;> rfl

/-- A replaced balance is what is held from then on; the others stay. -/
theorem getD_insert_balance (balances : SortedMap Address Nat) (payee other : Address)
    (amount : Nat) : ((balances.insert payee amount).get? other).getD 0 =
      if other = payee then amount else (balances.get? other).getD 0 := by
  rw [SortedMap.get?_insert]
  split <;> rfl

/-- A deposit adds to the balance of its address only. -/
theorem balanceOf_withDeposit (s : Store) (payee other : Address) (amount : Nat) :
    (s.withDeposit payee amount).balanceOf other =
      s.balanceOf other + if payee = other then amount else 0 := by
  unfold withDeposit
  split
  · next hzero => simp [hzero]
  · show ((s.balances.insert payee _).get? other).getD 0 = _
    rw [getD_insert_balance]
    by_cases h : other = payee
    · simp [h]
    · simp [h, Ne.symm h, balanceOf]

/-- Deposits add to every balance what its address receives. -/
theorem balanceOf_withDeposits (s : Store) (parts : List (Address × Nat)) (payee : Address) :
    (s.withDeposits parts).balanceOf payee = s.balanceOf payee + received payee parts := by
  induction parts generalizing s with
  | nil => rfl
  | cons part rest ih =>
    have hrest := ih (s.withDeposit part.1 part.2)
    rw [balanceOf_withDeposit] at hrest
    rw [received_cons, ← Nat.add_assoc, ← hrest]
    rfl

/-- A deposit lowers no balance that is kept. -/
theorem get?_withDeposit_of_some (s : Store) (payee : Address) (amount : Nat) {other : Address}
    {held : Nat} (h : s.balances.get? other = some held) :
    ∃ more, (s.withDeposit payee amount).balances.get? other = some more ∧ held ≤ more := by
  unfold withDeposit
  split
  · exact ⟨held, h, Nat.le_refl _⟩
  · by_cases hsame : other = payee
    · refine ⟨s.balanceOf payee + amount, ?_, ?_⟩
      · rw [hsame]
        exact SortedMap.get?_insert_self ..
      · rw [balanceOf, ← hsame, h]
        exact Nat.le_add_right ..
    · exact ⟨held, (SortedMap.get?_insert_of_ne _ hsame _).trans h, Nat.le_refl _⟩

/-- Deposits lower no balance that is kept. -/
theorem get?_withDeposits_of_some (s : Store) (parts : List (Address × Nat)) {payee : Address}
    {held : Nat} (h : s.balances.get? payee = some held) :
    ∃ more, (s.withDeposits parts).balances.get? payee = some more ∧ held ≤ more := by
  induction parts generalizing s held with
  | nil => exact ⟨held, h, Nat.le_refl _⟩
  | cons part rest ih =>
    obtain ⟨first, hfirst, hle⟩ := s.get?_withDeposit_of_some part.1 part.2 h
    obtain ⟨more, hmore, hle'⟩ := ih (s.withDeposit part.1 part.2) hfirst
    exact ⟨more, hmore, Nat.le_trans hle hle'⟩

/-- A deposit adds to all that is held. -/
theorem sum_withDeposit (s : Store) (payee : Address) (amount : Nat) :
    (s.withDeposit payee amount).balances.sum = s.balances.sum + amount := by
  unfold withDeposit
  split
  · next hzero => rw [hzero, Nat.add_zero]
  · have hsum := s.balances.sum_insert payee (s.balanceOf payee + amount)
    rw [← balanceOf] at hsum
    show (s.balances.insert payee (s.balanceOf payee + amount)).sum = _
    omega

/-- Deposits add their sum to all that is held. -/
theorem sum_withDeposits (s : Store) (parts : List (Address × Nat)) :
    (s.withDeposits parts).balances.sum = s.balances.sum + (parts.map Prod.snd).sum := by
  induction parts generalizing s with
  | nil => rfl
  | cons part rest ih =>
    have hrest := ih (s.withDeposit part.1 part.2)
    rw [sum_withDeposit, Nat.add_assoc] at hrest
    rw [List.map_cons, List.sum_cons]
    exact hrest

/-- A deposit adds to all that was ever deposited, and pays nothing out. -/
theorem totals_withDeposit (s : Store) (payee : Address) (amount : Nat) :
    (s.withDeposit payee amount).totals = ⟨s.totals.deposited + amount, s.totals.disbursed⟩ := by
  unfold withDeposit
  split
  · next hzero => rw [hzero, Nat.add_zero]
  · rfl

/-- A deposit adds to all that was ever deposited. -/
theorem deposited_withDeposit (s : Store) (payee : Address) (amount : Nat) :
    (s.withDeposit payee amount).totals.deposited = s.totals.deposited + amount :=
  congrArg EscrowTotals.deposited (s.totals_withDeposit payee amount)

/-- Deposits pay nothing out. -/
theorem disbursed_withDeposits (s : Store) (parts : List (Address × Nat)) :
    (s.withDeposits parts).totals.disbursed = s.totals.disbursed := by
  induction parts generalizing s with
  | nil => rfl
  | cons part rest ih =>
    refine (ih (s.withDeposit part.1 part.2)).trans ?_
    rw [totals_withDeposit]

/-- A payout takes what its address has from all that is held. -/
theorem sum_withPayout (s : Store) (payee : Address) :
    (s.withPayout payee).balances.sum + s.balanceOf payee = s.balances.sum := by
  unfold withPayout
  split
  · next hzero => rw [hzero, Nat.add_zero]
  · exact s.balances.sum_insert payee 0

/-- A payout clears the balance of its address only. -/
theorem balanceOf_withPayout (s : Store) (payee other : Address) :
    (s.withPayout payee).balanceOf other = if other = payee then 0 else s.balanceOf other := by
  unfold withPayout
  split
  · next hzero =>
    split
    · next hsame => rw [hsame, hzero]
    · rfl
  · exact getD_insert_balance ..

/-- What is held in escrow is what was deposited and not paid out, and what was deposited is an
amount. -/
structure EscrowBalanced (s : Store) : Prop where
  total : s.balances.sum + s.totals.disbursed = s.totals.deposited
  bounded : s.totals.deposited < amountBound

/-- Settling an amount overflows nothing: it is not held in escrow, or it is an amount together with
all that was ever deposited. -/
def HasRoom (s : Store) (c : Config) (amount : Nat) : Prop :=
  c.escrowFunds = true → s.totals.deposited + amount < amountBound

/-- There is as much room where as much was deposited. -/
theorem HasRoom.congr {c c' : Config} {amount : Nat} (h : s.HasRoom c amount) {t : Store}
    (hescrow : c'.escrowFunds = c.escrowFunds) (htotals : t.escrowTotals = s.escrowTotals) :
    t.HasRoom c' amount := by
  rw [HasRoom, hescrow, totals, htotals]
  exact h

namespace EscrowBalanced

/-- A store with the same escrow is balanced as well. -/
theorem congr (h : s.EscrowBalanced) {t : Store} (hbalances : t.balances = s.balances)
    (htotals : t.escrowTotals = s.escrowTotals) : t.EscrowBalanced := by
  have hsame : t.totals = s.totals := by rw [totals, totals, htotals]
  constructor
  · rw [hbalances, hsame]
    exact h.total
  · rw [hsame]
    exact h.bounded

/-- A deposit that is an amount together with all earlier ones keeps the escrow balanced. -/
theorem withDeposit (h : s.EscrowBalanced) (payee : Address) {amount : Nat}
    (hbound : amount = 0 ∨ s.totals.deposited + amount < amountBound) :
    (s.withDeposit payee amount).EscrowBalanced := by
  unfold Store.withDeposit
  split
  · exact h
  · next hpositive =>
    have htotal := h.total
    have hsum := s.balances.sum_insert payee (s.balanceOf payee + amount)
    constructor
    · show (s.balances.insert payee (s.balanceOf payee + amount)).sum + s.totals.disbursed =
        s.totals.deposited + amount
      rw [← balanceOf] at hsum
      omega
    · exact hbound.resolve_left hpositive

/-- What is held for an address is part of what was deposited and not paid out. -/
theorem balance_le (h : s.EscrowBalanced) (payee : Address) :
    s.totals.disbursed + s.balanceOf payee ≤ s.totals.deposited := by
  have hpart := s.balances.le_sum payee
  have htotal := h.total
  rw [← balanceOf] at hpart
  omega

/-- A payout keeps the escrow balanced. -/
theorem withPayout (h : s.EscrowBalanced) (payee : Address) :
    (s.withPayout payee).EscrowBalanced := by
  unfold Store.withPayout
  split
  · exact h
  · have htotal := h.total
    have hsum := s.balances.sum_insert payee 0
    constructor
    · show (s.balances.insert payee 0).sum + (s.totals.disbursed + s.balanceOf payee) =
        s.totals.deposited
      rw [← balanceOf] at hsum
      omega
    · exact h.bounded

end EscrowBalanced

end Store

end ShuffleMint
