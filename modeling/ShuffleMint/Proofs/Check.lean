import ShuffleMint.Address
import ShuffleMint.Proofs.StepFailure

/-!
# How checks fail

A check fails as a rejection that is about what it looks at, and aborts only where a sum that it
forms is no count. Which sum that is stands beside each check as the condition under which it may
abort; the rules here carry these conditions through the checks that are made of others. A rejection
that is about the order of the tokens comes from the allocator alone.
-/

namespace ShuffleMint

namespace Failure

/-- Whether a failure is about the order: no token is left to draw, or it can not be shuffled. -/
def isOfOrder : Failure → Bool
  | .rejected .soldOut => true
  | .rejected .orderLocked => true
  | .rejected .alreadyShuffled => true
  | _ => false

/-- A failure is a rejection, or an abort under a condition. -/
inductive RejectedUnless (overflow : Prop) : Failure → Prop where
  | rejected (cause : Rejection) : RejectedUnless overflow (.rejected cause)
  | aborted (h : overflow) : RejectedUnless overflow .aborted

/-- A failure is a rejection that is not about the order, or an abort under a condition. -/
inductive OfCheck (overflow : Prop) : Failure → Prop where
  | rejected {cause : Rejection} (h : (Failure.rejected cause).isOfOrder = false) :
    OfCheck overflow (.rejected cause)
  | aborted (h : overflow) : OfCheck overflow .aborted

variable {overflow wider : Prop} {e : Failure}

/-- A failure of a check is not about the order. -/
theorem OfCheck.isOfOrder_eq (h : e.OfCheck overflow) : e.isOfOrder = false := by
  cases h with
  | rejected h => exact h
  | aborted => rfl

/-- A failure of a check is a rejection but for its condition. -/
theorem OfCheck.rejectedUnless (h : e.OfCheck overflow) : e.RejectedUnless overflow := by
  cases h with
  | rejected => exact .rejected _
  | aborted h => exact .aborted h

/-- A wider condition allows more. -/
theorem OfCheck.imp (h : e.OfCheck overflow) (hwider : overflow → wider) : e.OfCheck wider := by
  cases h with
  | rejected h => exact .rejected h
  | aborted h => exact .aborted (hwider h)

/-- A wider condition allows more aborts. -/
theorem RejectedUnless.imp (h : e.RejectedUnless overflow) (hwider : overflow → wider) :
    e.RejectedUnless wider := by
  cases h with
  | rejected cause => exact .rejected cause
  | aborted h => exact .aborted (hwider h)

end Failure

namespace Outcome

variable {α β : Type} {overflow wider : Prop} {o : Outcome α}

/-- A calculation fails only as a check does. -/
def FailsAsCheck (overflow : Prop) (o : Outcome α) : Prop := ∀ e, o = .error e → e.OfCheck overflow

/-- What is yielded does not fail. -/
theorem failsAsCheck_ok (a : α) : FailsAsCheck overflow (.ok a : Outcome α) := nofun

/-- A rejection that is not about the order is one of a check. -/
theorem failsAsCheck_reject {cause : Rejection} (h : (Failure.rejected cause).isOfOrder = false) :
    FailsAsCheck overflow (.error (.rejected cause) : Outcome α) := by
  rintro e ⟨⟩
  exact .rejected h

/-- A calculation that aborts does so under its condition. -/
theorem failsAsCheck_abort (h : overflow) : FailsAsCheck overflow (.error .aborted : Outcome α) := by
  rintro e ⟨⟩
  exact .aborted h

/-- A calculation fails as a check under every wider condition. -/
theorem FailsAsCheck.imp (h : FailsAsCheck overflow o) (hwider : overflow → wider) :
    FailsAsCheck wider o := fun e he => (h e he).imp hwider

/-- Calculations one after the other fail as checks when each of them does. -/
theorem FailsAsCheck.bind {next : α → Outcome β} (h : FailsAsCheck overflow o)
    (hnext : ∀ a, o = .ok a → FailsAsCheck overflow (next a)) :
    FailsAsCheck overflow (o >>= next) := by
  intro e he
  rcases bind_eq_error_iff.mp he with hfirst | ⟨a, ha, hlater⟩
  · exact h e hfirst
  · exact hnext a ha e hlater

/-- A calculation whose value is changed afterwards fails as it does. -/
theorem FailsAsCheck.map (h : FailsAsCheck overflow o) (f : α → β) :
    FailsAsCheck overflow (Except.map f o) := by
  intro e he
  cases o with
  | ok a => cases he
  | error e' => exact h e (congrArg Except.error (Except.error.inj he))

end Outcome

namespace Step

variable {σ τ α β : Type} {overflow : Prop} {o : Outcome α} {s : σ}

/-- Every failure of the step from a state is a rejection, or an abort under a condition. -/
abbrev RejectsUnless (overflow : Prop) (step : Step σ α) (s : σ) : Prop :=
  FailsOnly (fun e _ => e.RejectedUnless overflow) step s

/-- A step with the outcome of a check is rejected but for its condition. -/
theorem rejectsUnless_of_outcome {step : Step σ α} (h : (step s).1.FailsAsCheck overflow) :
    RejectsUnless overflow step s := by
  intro e t hrun
  exact (h e (by rw [hrun])).rejectedUnless

/-- So is a check as a step. -/
theorem rejectsUnless_check (h : o.FailsAsCheck overflow) :
    RejectsUnless overflow (liftM o : Step σ α) s :=
  rejectsUnless_of_outcome h

/-- After a check the next step is taken from the same state. -/
theorem rejectsUnless_check_bind (h : o.FailsAsCheck overflow) {next : α → Step σ β}
    (hnext : ∀ a, o = .ok a → RejectsUnless overflow (next a) s) :
    RejectsUnless overflow (liftM o >>= next) s := by
  refine (rejectsUnless_check h).bind fun a t hmade => ?_
  obtain ⟨ha, rfl⟩ := lift_eq_ok_iff.mp hmade
  exact hnext a ha

/-- So it is after a step on a copy. -/
theorem rejectsUnless_onCopy_bind {step : Step τ α} {copy : τ}
    (h : RejectsUnless overflow step copy) {next : α × τ → Step σ β}
    (hnext : ∀ a after, step copy = (.ok a, after) → RejectsUnless overflow (next (a, after)) s) :
    RejectsUnless overflow (onCopy step copy >>= next) s := by
  refine FailsOnly.bind (failsOnly_onCopy fun e he => h e _ (eq_of_outcome he)) fun made t hmade => ?_
  obtain ⟨hstep, rfl⟩ := onCopy_eq_ok_pair_iff.mp hmade
  exact hnext made.1 made.2 hstep

/-- A rejecting step is rejected. -/
theorem rejectsUnless_reject (cause : Rejection) :
    RejectsUnless overflow (reject cause : Step σ α) s := by
  rintro e t ⟨⟩
  exact .rejected cause

end Step

/-- A text that is no address is rejected. -/
theorem validateAddress_failsAsCheck {overflow : Prop} (text : String) :
    (validateAddress text).FailsAsCheck overflow := by
  unfold validateAddress
  split
  · exact Outcome.failsAsCheck_ok _
  · exact Outcome.failsAsCheck_reject rfl

/-- So is one that need not be there. -/
theorem validateAddress?_failsAsCheck {overflow : Prop} (text : Option String) :
    (validateAddress? text).FailsAsCheck overflow := by
  cases text with
  | none => exact Outcome.failsAsCheck_ok _
  | some text => exact (validateAddress_failsAsCheck text).map some

/-- The sum of two counts aborts where it is no count. -/
theorem addCounts_failsAsCheck (a b : Nat) :
    (addCounts a b).FailsAsCheck (countBound ≤ a + b) := by
  unfold addCounts
  split
  · exact Outcome.failsAsCheck_ok _
  · next hbound => exact Outcome.failsAsCheck_abort (Nat.not_lt.mp hbound)

end ShuffleMint
