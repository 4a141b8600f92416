import ShuffleMint.Step.Lemmas

/-!
# Taking steps apart

A step that succeeds is read back as what each of its parts yielded and where it ended. The
equivalences below are the simplification rules for that reading: rewriting with them turns a
successful run of a long step into the list of facts that made it succeed.
-/

namespace ShuffleMint

namespace Outcome

variable {α β : Type}

/-- A calculation made of two succeeds exactly when both do. -/
theorem bind_eq_ok_iff {first : Outcome α} {next : α → Outcome β} {b : β} :
    (first >>= next) = .ok b ↔ ∃ a, first = .ok a ∧ next a = .ok b := by
  cases first <;> simp [bind, Except.bind]

/-- Calculations one after the other fail where the first fails, or where the second does. -/
theorem bind_eq_error_iff {first : Outcome α} {next : α → Outcome β} {e : Failure} :
    (first >>= next) = .error e ↔
      first = .error e ∨ ∃ a, first = .ok a ∧ next a = .error e := by
  cases first <;> simp [bind, Except.bind]

/-- A calculation whose value is changed afterwards succeeds exactly when it does. -/
theorem map_eq_ok_iff {f : α → β} {first : Outcome α} {b : β} :
    Except.map f first = .ok b ↔ ∃ a, first = .ok a ∧ f a = b := by
  cases first <;> simp [Except.map]

end Outcome

namespace Step

variable {σ τ α β : Type}

/-- A run is its outcome with the state in which it ends. -/
theorem eq_of_outcome {step : Step σ α} {s : σ} {o : Outcome α} (h : (step s).1 = o) :
    step s = (o, (step s).2) := by
  rw [← h]

/-- A calculation taken as a step yields its outcome and keeps the state. -/
@[simp] theorem lift_apply (o : Outcome α) (s : σ) : (liftM o : Step σ α) s = (o, s) := rfl

/-- A pure step succeeds with its value and keeps the state. -/
@[simp] theorem pure_eq_ok_iff {a b : α} {s t : σ} :
    (pure a : Step σ α) s = (.ok b, t) ↔ a = b ∧ t = s := by
  simp [eq_comm]

/-- A calculation taken as a step succeeds exactly when the calculation does. -/
@[simp] theorem lift_eq_ok_iff {o : Outcome α} {a : α} {s t : σ} :
    (liftM o : Step σ α) s = (.ok a, t) ↔ o = .ok a ∧ t = s := by
  simp [eq_comm]

/-- A step whose value is changed afterwards ends where it ends. -/
@[simp] theorem map_apply (f : α → β) (step : Step σ α) (s : σ) :
    (f <$> step) s = ((step s).1.map f, (step s).2) := by
  rw [map_eq_pure_bind, bind_apply]
  cases step s with
  | mk outcome s' => cases outcome <;> rfl

/-- A rejecting step never succeeds. -/
@[simp] theorem reject_eq_ok_iff {cause : Rejection} {a : α} {s t : σ} :
    (reject cause : Step σ α) s = (.ok a, t) ↔ False := by
  simp

/-- Replacing the state ends in the replacement. -/
@[simp] theorem put_eq_ok_iff {u : Unit} {s t new : σ} :
    (put new : Step σ Unit) s = (.ok u, t) ↔ t = new := by
  simp [eq_comm]

/-- Changing the state ends in the changed state. -/
@[simp] theorem modify_eq_ok_iff {u : Unit} {f : σ → σ} {s t : σ} :
    (modify f : Step σ Unit) s = (.ok u, t) ↔ t = f s := by
  simp [eq_comm]

/-- A step on a copy succeeds exactly when the step does, yields the changed copy and keeps the
state. -/
@[simp] theorem onCopy_eq_ok_pair_iff {step : Step τ α} {copy : τ} {result : α × τ} {s t : σ} :
    (onCopy step copy : Step σ (α × τ)) s = (.ok result, t) ↔
      step copy = (.ok result.1, result.2) ∧ t = s :=
  onCopy_eq_ok_iff

/-- A step after a lifted calculation that succeeds is the step on its value. -/
theorem lift_bind_ok {o : Outcome α} {a : α} (ho : o = .ok a) (next : α → Step σ β) (s : σ) :
    ((liftM o : Step σ α) >>= next) s = next a s := by
  rw [bind_apply, lift_apply, ho]

/-- A step after a lifted calculation that fails fails in the same way and changes nothing. -/
theorem lift_bind_error {o : Outcome α} {e : Failure} (ho : o = .error e) (next : α → Step σ β)
    (s : σ) : ((liftM o : Step σ α) >>= next) s = (.error e, s) := by
  rw [bind_apply, lift_apply, ho]

/-- A step after a lifted calculation succeeds exactly when it does on a value of the calculation. -/
theorem lift_bind_eq_ok_iff {o : Outcome α} {next : α → Step σ β} {b : β} {s t : σ} :
    ((liftM o : Step σ α) >>= next) s = (.ok b, t) ↔ ∃ a, o = .ok a ∧ next a s = (.ok b, t) := by
  rw [bind_apply, lift_apply]
  cases o <;> simp

/-- A step after a read sees the state. -/
@[simp] theorem get_bind_apply (next : σ → Step σ β) (s : σ) : (get >>= next) s = next s s := rfl

/-- A step after a change starts in the changed state. -/
@[simp] theorem modify_bind_apply (f : σ → σ) (next : Unit → Step σ β) (s : σ) :
    (modify f >>= next) s = next () (f s) := rfl

/-- A step after a replacement starts in the replacement. -/
@[simp] theorem put_bind_apply (new : σ) (next : Unit → Step σ β) (s : σ) :
    (put new >>= next) s = next () new := rfl

/-- A step after one that succeeds starts where that one ends. -/
theorem bind_of_ok {first : Step σ α} {s t : σ} {a : α} (h : first s = (.ok a, t))
    (next : α → Step σ β) : (first >>= next) s = next a t := by
  rw [bind_apply, h]

/-- A step after one that fails is not taken. -/
theorem bind_of_error {first : Step σ α} {s t : σ} {e : Failure} (h : first s = (.error e, t))
    (next : α → Step σ β) : (first >>= next) s = (.error e, t) := by
  rw [bind_apply, h]

/-- A step taken for every entry of a list is taken for the first and then for the rest. -/
theorem forEach_cons (f : α → Step σ β) (x : α) (xs : List α) :
    forEach f (x :: xs) = f x >>= fun y => forEach f xs >>= fun ys => pure (y :: ys) := rfl

end Step

end ShuffleMint
