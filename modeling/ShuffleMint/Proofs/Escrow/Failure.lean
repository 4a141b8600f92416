import ShuffleMint.Proofs.Escrow.Settlement
import ShuffleMint.Proofs.Escrow.Split
import ShuffleMint.Proofs.StepFailure

/-!
# How the escrow fails

A payout from a balanced escrow never fails. Settling a revenue fails only where a deposit does, and
a deposit fails only because a sum is no amount; it may have raised the balance by then.
-/

namespace ShuffleMint

namespace Escrow

/-- A failure is one that a deposit ends with, in the store in which it ends. -/
def FailedDeposit (e : Failure) (t : Store) : Prop :=
  ∃ payee amount s, deposit payee amount s = (.error e, t)

/-- A deposit fails only because a sum is no amount. -/
theorem FailedDeposit.overflow {e : Failure} {t : Store} (h : FailedDeposit e t) :
    ∃ a b, e = .rejected (.sumOverflow a b) ∧ amountBound ≤ a + b := by
  have hsum {a b : Nat} {e : Failure} (hadd : addAmounts a b = .error e) :
      e = .rejected (.sumOverflow a b) ∧ amountBound ≤ a + b := by
    unfold addAmounts at hadd
    split at hadd
    · cases hadd
    · next hbound => exact ⟨(Except.error.inj hadd).symm, Nat.not_lt.mp hbound⟩
  obtain ⟨payee, amount, s, hdeposit⟩ := h
  unfold deposit at hdeposit
  split at hdeposit
  · cases hdeposit
  · rw [Step.get_bind_apply] at hdeposit
    rcases Step.bind_eq_error_iff.mp hdeposit with hbalance | ⟨n, s', -, hrest⟩
    · exact ⟨_, _, hsum (Prod.mk.inj hbalance).1⟩
    · rw [Step.put_bind_apply, Step.get_bind_apply] at hrest
      rcases Step.bind_eq_error_iff.mp hrest with htotal | ⟨m, s'', -, hput⟩
      · exact ⟨_, _, hsum (Prod.mk.inj htotal).1⟩
      · cases hput

/-- Passing parts of a revenue on fails only where a deposit does, and never without escrow. -/
theorem failsOnly_settle (c : Config) (parts : List (Address × Nat)) (s : Store) :
    Step.FailsOnly (fun e t => c.escrowFunds = true ∧ FailedDeposit e t) (settle c parts) s := by
  cases hescrow : c.escrowFunds with
  | false => exact Step.failsOnly_of_ok (settle_apply_send hescrow parts s)
  | true =>
    induction parts generalizing s with
    | nil => exact Step.failsOnly_of_ok rfl
    | cons part rest ih =>
      rw [settle, if_pos hescrow]
      exact Step.FailsOnly.bind (fun e t hdeposit => ⟨rfl, part.1, part.2, s, hdeposit⟩)
        fun _ s' _ => ih s'

/-- Settling an amount of money by a valid configuration fails only where a deposit does, and never
without escrow. -/
theorem failsOnly_settleRevenue {c : Config} (hvalid : c.validate = .ok ()) {amount : Nat}
    (hamount : amount < amountBound) (s : Store) :
    Step.FailsOnly (fun e t => c.escrowFunds = true ∧ FailedDeposit e t)
      (settleRevenue c amount) s := by
  obtain ⟨parts, hparts⟩ := exists_splitRevenue hvalid hamount
  rw [settleRevenue, hparts]
  exact Step.FailsOnly.bind (Step.failsOnly_of_ok rfl) fun parts' s' _ =>
    failsOnly_settle c parts' s'

end Escrow

end ShuffleMint
