import ShuffleMint.Proofs.Escrow.Ledger
import ShuffleMint.Proofs.StepInversion

/-!
# Deposits, payouts and settlements

When a deposit or a payout succeeds, and what it does to the ledger of the escrow. Settling a
revenue sends its parts or deposits them one after the other, as the configuration says.
-/

namespace ShuffleMint

namespace Escrow

variable {s t : Store}

/-- Amounts add up when their sum is an amount. -/
theorem addAmounts_eq_ok_iff {a b n : Nat} :
    addAmounts a b = .ok n ↔ a + b < amountBound ∧ n = a + b := by
  unfold addAmounts
  split
  · next hbound => simp [hbound, eq_comm]
  · next hbound => simp [hbound]

/-- A deposit of something succeeds when the balance and the total stay amounts. -/
theorem deposit_eq_ok_iff {payee : Address} {amount : Nat} {u : Unit} :
    deposit payee amount s = (.ok u, t) ↔
      (amount = 0 ∨ s.balanceOf payee + amount < amountBound ∧
        s.totals.deposited + amount < amountBound) ∧ t = s.withDeposit payee amount := by
  unfold deposit Store.withDeposit
  by_cases hzero : amount = 0
  · simp [hzero, eq_comm]
  · simp only [hzero, if_false, Step.get_bind_apply, Step.bind_eq_ok_iff, Step.lift_eq_ok_iff,
      Step.put_bind_apply, Step.put_eq_ok_iff, addAmounts_eq_ok_iff, false_or]
    constructor
    · rintro ⟨_, _, ⟨⟨hbalance, rfl⟩, rfl⟩, _, _, ⟨⟨htotal, rfl⟩, rfl⟩, rfl⟩
      exact ⟨⟨hbalance, htotal⟩, rfl⟩
    · rintro ⟨⟨hbalance, htotal⟩, rfl⟩
      exact ⟨_, _, ⟨⟨hbalance, rfl⟩, rfl⟩, _, _, ⟨⟨htotal, rfl⟩, rfl⟩, rfl⟩

/-- A successful payout yields the balance and clears it. -/
theorem disburse_eq_ok {payee : Address} {amount : Nat}
    (h : disburse payee s = (.ok amount, t)) :
    amount = s.balanceOf payee ∧ t = s.withPayout payee := by
  simp only [disburse, Step.get_bind_apply] at h
  unfold Store.withPayout
  split at h
  · next hzero =>
    obtain ⟨rfl, rfl⟩ := Step.pure_eq_ok_iff.mp h
    exact ⟨hzero.symm, (if_pos hzero).symm⟩
  · next hpositive =>
    simp only [Step.put_bind_apply, Step.get_bind_apply, Step.bind_eq_ok_iff, Step.lift_eq_ok_iff,
      addAmounts_eq_ok_iff, Step.pure_eq_ok_iff] at h
    obtain ⟨_, _, ⟨⟨-, rfl⟩, rfl⟩, rfl, rfl⟩ := h
    exact ⟨rfl, (if_neg hpositive).symm⟩

/-- A payout from a balanced escrow always succeeds. -/
theorem disburse_apply (h : s.EscrowBalanced) (payee : Address) :
    disburse payee s = (.ok (s.balanceOf payee), s.withPayout payee) := by
  simp only [disburse, Step.get_bind_apply]
  unfold Store.withPayout
  split
  · next hzero => rw [hzero, Step.pure_apply]
  · have hbound : addAmounts (s.withBalance payee 0).totals.disbursed (s.balanceOf payee) =
        .ok (s.totals.disbursed + s.balanceOf payee) :=
      addAmounts_eq_ok_iff.mpr ⟨Nat.lt_of_le_of_lt (h.balance_le payee) h.bounded, rfl⟩
    rw [Step.put_bind_apply, Step.get_bind_apply, Step.lift_bind_ok hbound]
    rfl

/-- Without escrow the parts of a revenue are sent, and the store stays as it is. -/
theorem settle_apply_send {c : Config} (hescrow : c.escrowFunds = false)
    (parts : List (Address × Nat)) (s : Store) :
    settle c parts s = (.ok (parts.map fun part => .send part.1 [c.price part.2]), s) := by
  induction parts with
  | nil => rfl
  | cons part rest ih =>
    simp only [settle, hescrow, Bool.false_eq_true, if_false]
    rw [Step.bind_of_ok ih]
    rfl

/-- With escrow the parts of a revenue are deposited, and nothing is sent. -/
theorem settle_eq_ok_hold {c : Config} (hescrow : c.escrowFunds = true)
    {parts : List (Address × Nat)} {messages : List Message}
    (h : settle c parts s = (.ok messages, t)) :
    messages = [] ∧ t = s.withDeposits parts ∧ (s.EscrowBalanced → t.EscrowBalanced) := by
  induction parts generalizing s with
  | nil =>
    obtain ⟨rfl, rfl⟩ := Step.pure_eq_ok_iff.mp h
    exact ⟨rfl, rfl, id⟩
  | cons part rest ih =>
    simp only [settle, hescrow, if_true, Step.bind_eq_ok_iff, deposit_eq_ok_iff] at h
    obtain ⟨_, _, ⟨hbound, rfl⟩, hrest⟩ := h
    obtain ⟨hmessages, ht, hbalanced⟩ := ih hrest
    refine ⟨hmessages, ht, fun hs => hbalanced (hs.withDeposit part.1 ?_)⟩
    exact hbound.imp_right And.right

/-- With escrow the parts of a revenue are deposited as long as they stay an amount together with all
earlier deposits. -/
theorem exists_settle_hold {c : Config} (hescrow : c.escrowFunds = true) (hs : s.EscrowBalanced)
    {parts : List (Address × Nat)}
    (hroom : s.totals.deposited + (parts.map Prod.snd).sum < amountBound) :
    ∃ messages t, settle c parts s = (.ok messages, t) := by
  induction parts generalizing s with
  | nil => exact ⟨[], s, rfl⟩
  | cons part rest ih =>
    rw [List.map_cons, List.sum_cons] at hroom
    have hbalance := hs.balance_le part.1
    have htotal : s.totals.deposited + part.2 < amountBound := by omega
    have hdeposit : deposit part.1 part.2 s = (.ok (), s.withDeposit part.1 part.2) :=
      deposit_eq_ok_iff.mpr ⟨.inr ⟨by omega, htotal⟩, rfl⟩
    rw [← Nat.add_assoc, ← s.deposited_withDeposit part.1] at hroom
    obtain ⟨messages, t, hrest⟩ := ih (hs.withDeposit part.1 (.inr htotal)) hroom
    refine ⟨messages, t, ?_⟩
    rw [settle, if_pos hescrow, Step.bind_of_ok hdeposit, hrest]

/-- Settling a revenue changes the escrow only, and keeps it balanced. -/
theorem settleRevenue_eq_ok {c : Config} {amount : Nat} {messages : List Message}
    (h : settleRevenue c amount s = (.ok messages, t)) :
    s.EscrowOnly t ∧ (s.EscrowBalanced → t.EscrowBalanced) ∧
      ∃ parts, splitRevenue c amount = .ok parts ∧
        if c.escrowFunds then messages = [] ∧ t = s.withDeposits parts
        else messages = (parts.map fun part => .send part.1 [c.price part.2]) ∧ t = s := by
  simp only [settleRevenue, Step.bind_eq_ok_iff, Step.lift_eq_ok_iff, and_assoc, exists_and_left,
    exists_eq_left] at h
  obtain ⟨parts, hparts, hsettle⟩ := h
  cases hescrow : c.escrowFunds with
  | true =>
    obtain ⟨hmessages, ht, hbalanced⟩ := settle_eq_ok_hold hescrow hsettle
    have honly := s.escrowOnly_withDeposits parts
    rw [← ht] at honly
    exact ⟨honly, hbalanced, parts, hparts, hmessages, ht⟩
  | false =>
    rw [settle_apply_send hescrow] at hsettle
    obtain ⟨hmessages, rfl⟩ := Prod.mk.inj hsettle
    exact ⟨rfl, id, parts, hparts, (Except.ok.inj hmessages).symm, rfl⟩

end Escrow

end ShuffleMint
