import ShuffleMint.Proofs.Escrow.Failure

/-!
# Deposits that fail half way

A deposit raises the balance of its address before it adds to the total of all deposits. The total
counts what was paid out long ago as well and never falls, so it may be out of room where the balance
is not. The deposit then fails with the amount held for its address and booked nowhere: it is
stranded. Every other failure changes nothing, and while the escrow is balanced a payout does not
fail. So the balances stay what was deposited and not paid out exactly until a deposit is stranded;
where failures are undone, they always do.
-/

namespace ShuffleMint

namespace Store

/-- The balance of an address has room for an amount, and the total of all deposits has none. -/
def Strands (s : Store) (payee : Address) (amount : Nat) : Prop :=
  s.balanceOf payee + amount < amountBound ∧ amountBound ≤ s.totals.deposited + amount

end Store

namespace Escrow

/-- What an escrow is asked to do. -/
inductive Move where
  | deposit (payee : Address) (amount : Nat)
  | payout (payee : Address)

namespace Move

/-- Carries a move out. -/
def perform : Move → Step Store Unit
  | deposit payee amount => Escrow.deposit payee amount
  | payout payee => (fun _ => ()) <$> Escrow.disburse payee

/-- The store after a move, with what was written before a failure. -/
def leave (s : Store) (m : Move) : Store := (m.perform s).2

/-- The store after a move whose failure is undone. -/
def commit (s : Store) (m : Move) : Store :=
  match m.perform s with
  | (.ok _, t) => t
  | (.error _, _) => s

/-- A move is a deposit that is stranded. -/
def Stranded (s : Store) : Move → Prop
  | deposit payee amount => s.Strands payee amount
  | payout _ => False

end Move

variable {s : Store}

/-! ## One deposit -/

/-- A sum that is no amount is refused. -/
theorem addAmounts_eq_error {a b : Nat} (h : amountBound ≤ a + b) :
    addAmounts a b = .error (.rejected (.sumOverflow a b)) :=
  if_neg (Nat.not_lt.mpr h)

/-- A deposit that the total of all deposits has room for succeeds. -/
theorem deposit_apply_ok (h : s.EscrowBalanced) {payee : Address} {amount : Nat}
    (hroom : s.totals.deposited + amount < amountBound) :
    deposit payee amount s = (.ok (), s.withDeposit payee amount) := by
  have hbalance := h.balance_le payee
  exact deposit_eq_ok_iff.mpr ⟨.inr ⟨by omega, hroom⟩, rfl⟩

/-- A deposit for which the balance has no room fails before it writes. -/
theorem deposit_apply_full {payee : Address} {amount : Nat} (hpositive : amount ≠ 0)
    (hfull : amountBound ≤ s.balanceOf payee + amount) :
    deposit payee amount s =
      (.error (.rejected (.sumOverflow (s.balanceOf payee) amount)), s) := by
  rw [deposit, if_neg hpositive, Step.get_bind_apply,
    Step.lift_bind_error (addAmounts_eq_error hfull)]

/-- A stranded deposit fails after it has raised the balance. -/
theorem deposit_apply_stranded {payee : Address} {amount : Nat} (hpositive : amount ≠ 0)
    (hstrands : s.Strands payee amount) :
    deposit payee amount s =
      (.error (.rejected (.sumOverflow s.totals.deposited amount)),
        s.withBalance payee (s.balanceOf payee + amount)) := by
  obtain ⟨hbalance, htotal⟩ := hstrands
  have hraised : addAmounts (s.balanceOf payee) amount = .ok (s.balanceOf payee + amount) :=
    if_pos hbalance
  rw [deposit, if_neg hpositive, Step.get_bind_apply, Step.lift_bind_ok hraised,
    Step.put_bind_apply, Step.get_bind_apply]
  exact Step.lift_bind_error (addAmounts_eq_error htotal) _ _

/-- A deposit into a balanced escrow for which the total has no room is a deposit of something. -/
theorem ne_zero_of_full (h : s.EscrowBalanced) {amount : Nat}
    (hfull : amountBound ≤ s.totals.deposited + amount) : amount ≠ 0 := by
  have hbounded := h.bounded
  omega

/-- A raised balance without an entry in the total unbalances the escrow by the amount. -/
theorem sum_withBalance_raised (h : s.EscrowBalanced) (payee : Address) (amount : Nat) :
    (s.withBalance payee (s.balanceOf payee + amount)).balances.sum + s.totals.disbursed =
      s.totals.deposited + amount := by
  have htotal := h.total
  have hsum := s.balances.sum_insert payee (s.balanceOf payee + amount)
  rw [← Store.balanceOf] at hsum
  show (s.balances.insert payee (s.balanceOf payee + amount)).sum + _ = _
  omega

/-! ## One move -/

namespace Move

/-- A payout from a balanced escrow succeeds. -/
theorem perform_payout (h : s.EscrowBalanced) (payee : Address) :
    (payout payee).perform s = (.ok (), s.withPayout payee) := by
  rw [perform, Step.map_apply, disburse_apply h]
  rfl

/-- A move in a balanced escrow leaves it balanced exactly when it is not stranded. -/
theorem balanced_leave_iff (h : s.EscrowBalanced) (m : Move) :
    (leave s m).EscrowBalanced ↔ ¬ m.Stranded s := by
  cases m with
  | payout payee =>
    refine iff_of_true ?_ id
    rw [leave, perform_payout h]
    exact h.withPayout payee
  | deposit payee amount =>
    by_cases hroom : s.totals.deposited + amount < amountBound
    · refine iff_of_true ?_ fun hstrands => Nat.not_lt.mpr hstrands.2 hroom
      rw [leave, perform, deposit_apply_ok h hroom]
      exact h.withDeposit payee (.inr hroom)
    · have hpositive := ne_zero_of_full h (Nat.not_lt.mp hroom)
      by_cases hbalance : s.balanceOf payee + amount < amountBound
      · -- The raised balance is booked nowhere.
        have hstrands : s.Strands payee amount := ⟨hbalance, Nat.not_lt.mp hroom⟩
        refine iff_of_false (fun hkept => ?_) (not_not.mpr hstrands)
        rw [leave, perform, deposit_apply_stranded hpositive hstrands] at hkept
        have hraised := sum_withBalance_raised h payee amount
        have htotal : (s.withBalance payee (s.balanceOf payee + amount)).balances.sum +
          s.totals.disbursed = s.totals.deposited := hkept.total
        omega
      · refine iff_of_true ?_ fun hstrands => hbalance hstrands.1
        rw [leave, perform, deposit_apply_full hpositive (Nat.not_lt.mp hbalance)]
        exact h

/-- A move that succeeds is not stranded. -/
theorem not_stranded_of_ok (h : s.EscrowBalanced) {m : Move} {u : Unit} {t : Store}
    (hmade : m.perform s = (.ok u, t)) : ¬ m.Stranded s := by
  cases m with
  | payout payee => exact id
  | deposit payee amount =>
    intro hstrands
    rw [perform, deposit_apply_stranded (ne_zero_of_full h hstrands.2) hstrands] at hmade
    cases hmade

/-- A move whose failure is undone keeps the escrow balanced. -/
theorem balanced_commit (h : s.EscrowBalanced) (m : Move) : (commit s m).EscrowBalanced := by
  unfold commit
  split
  · next u t hmade =>
    have hkept := (balanced_leave_iff h m).mpr (not_stranded_of_ok h hmade)
    rwa [leave, hmade] at hkept
  · exact h

end Move

/-! ## Moves one after the other -/

/-- Moves whose failures are undone keep the escrow balanced. -/
theorem balanced_foldl_commit (h : s.EscrowBalanced) (moves : List Move) :
    (moves.foldl Move.commit s).EscrowBalanced := by
  induction moves generalizing s with
  | nil => exact h
  | cons m rest ih => exact ih (m.balanced_commit h)

/-- Moves that keep what they wrote before a failure leave the escrow balanced all along exactly when
none of them is stranded. -/
theorem balanced_foldl_leave_iff (h : s.EscrowBalanced) (moves : List Move) :
    (∀ n, ((moves.take n).foldl Move.leave s).EscrowBalanced) ↔
      ∀ (n : Nat) (m : Move), moves[n]? = some m → ¬ m.Stranded ((moves.take n).foldl Move.leave s) := by
  induction moves generalizing s with
  | nil => simp [h]
  | cons m rest ih =>
    constructor
    · intro hall
      have hfirst : (Move.leave s m).EscrowBalanced := hall 1
      intro n
      cases n with
      | zero =>
        rintro m' ⟨⟩
        exact (m.balanced_leave_iff h).mp hfirst
      | succ n => exact (ih hfirst).mp (fun n => hall (n + 1)) n
    · intro hnone n
      have hfirst := (m.balanced_leave_iff h).mpr (hnone 0 m rfl)
      cases n with
      | zero => exact h
      | succ n => exact (ih hfirst).mpr (fun n => hnone (n + 1)) n

/-- A deposit into a balanced escrow succeeds exactly when the total of all deposits has room for it,
and adds to one balance and to that total. Where it fails, a sum is no amount; then everything is as
before, but for a stranded deposit, which has raised the balance. So over any deposits and payouts
the balances are what was deposited and not paid out as long as no deposit is stranded, and no
longer; and they always are where failures are undone. -/
theorem deposit_atomic_unless_stranded (h : s.EscrowBalanced) :
    (∀ payee amount, s.totals.deposited + amount < amountBound →
      ∃ t, deposit payee amount s = (.ok (), t) ∧ s.EscrowOnly t ∧
        (∀ other, t.balanceOf other = s.balanceOf other + if payee = other then amount else 0) ∧
        t.totals = ⟨s.totals.deposited + amount, s.totals.disbursed⟩) ∧
    (∀ payee amount, amountBound ≤ s.totals.deposited + amount →
      ∃ a b t, deposit payee amount s = (.error (.rejected (.sumOverflow a b)), t) ∧
        (¬ s.Strands payee amount → t = s) ∧
        (s.Strands payee amount → t = s.withBalance payee (s.balanceOf payee + amount))) ∧
    ∀ moves : List Move,
      ((∀ n, ((moves.take n).foldl Move.leave s).EscrowBalanced) ↔
        ∀ (n : Nat) (m : Move), moves[n]? = some m → ¬ m.Stranded ((moves.take n).foldl Move.leave s)) ∧
      (moves.foldl Move.commit s).EscrowBalanced := by
  refine ⟨fun payee amount hroom => ?_, fun payee amount hfull => ?_, fun moves =>
    ⟨balanced_foldl_leave_iff h moves, balanced_foldl_commit h moves⟩⟩
  · refine ⟨_, deposit_apply_ok h hroom, s.escrowOnly_withDeposit payee amount,
      fun other => s.balanceOf_withDeposit payee other amount, ?_⟩
    exact s.totals_withDeposit payee amount
  · have hpositive := ne_zero_of_full h hfull
    by_cases hbalance : s.balanceOf payee + amount < amountBound
    · have hstrands : s.Strands payee amount := ⟨hbalance, hfull⟩
      exact ⟨_, _, _, deposit_apply_stranded hpositive hstrands,
        fun hnot => absurd hstrands hnot, fun _ => rfl⟩
    · exact ⟨_, _, _, deposit_apply_full hpositive (Nat.not_lt.mp hbalance), fun _ => rfl,
        fun hstrands => absurd hstrands.1 hbalance⟩

/-- The store of an escrow into which all that an amount can be was deposited and paid out again. -/
def spent : Store :=
  [Move.deposit "ann" (amountBound - 1), .payout "ann"].foldl Move.leave Store.empty

/-- The escrow from which all was paid out is balanced. Of two more deposits the one of nothing
succeeds, and the one of something is stranded. -/
theorem deposit_atomic_unless_stranded_spent :
    spent.EscrowBalanced ∧ (∃ t, deposit "bob" 0 spent = (.ok (), t) ∧ spent.EscrowOnly t) ∧
      ∃ a b, deposit "bob" 1 spent =
        (.error (.rejected (.sumOverflow a b)), spent.withBalance "bob" 1) := by
  have hspent : spent.EscrowBalanced := ⟨by decide +kernel, by decide +kernel⟩
  have hstrands : spent.Strands "bob" 1 := ⟨by decide +kernel, by decide +kernel⟩
  obtain ⟨hroom, hfull, -⟩ := deposit_atomic_unless_stranded hspent
  obtain ⟨t, hdeposit, honly, -⟩ := hroom "bob" 0 (by decide +kernel)
  obtain ⟨a, b, u, hfails, -, hraised⟩ := hfull "bob" 1 hstrands.2
  have hnothing : spent.balanceOf "bob" = 0 := by decide +kernel
  have hu := hraised hstrands
  rw [hnothing] at hu
  exact ⟨hspent, ⟨t, hdeposit, honly⟩, a, b, by rw [hfails, hu]⟩

/-- A failed deposit into a balanced escrow does not always leave it as it was: once all that an
amount can be was deposited and paid out, a deposit of one fails with one more held. -/
theorem not_deposit_atomic :
    ¬ ∀ (s : Store) (payee : Address) (amount : Nat), s.EscrowBalanced → amount < amountBound →
      (∃ t, deposit payee amount s = (.ok (), t)) ∨
        ∃ a b, deposit payee amount s = (.error (.rejected (.sumOverflow a b)), s) := by
  intro hatomic
  have hspent : spent.EscrowBalanced := ⟨by decide +kernel, by decide +kernel⟩
  have hafter : ((deposit "bob" 1 spent).1.isOk, (deposit "bob" 1 spent).2.balanceOf "bob",
    spent.balanceOf "bob") = (false, 1, 0) := by decide +kernel
  simp only [Prod.mk.injEq] at hafter
  rcases hatomic spent "bob" 1 hspent (by decide) with ⟨t, hdone⟩ | ⟨a, b, hkept⟩
  · rw [hdone] at hafter
    cases hafter.1
  · rw [hkept] at hafter
    exact absurd (hafter.2.1.symm.trans hafter.2.2) (by decide)

end Escrow

end ShuffleMint
