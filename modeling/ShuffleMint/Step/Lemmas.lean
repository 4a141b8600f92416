import ShuffleMint.Step

/-!
# How steps run

A step made of others succeeds exactly when each of them does, and it ends where the last of them
ends. It fails exactly when one of them fails, and it ends where that one does.
-/

namespace ShuffleMint

namespace Step

variable {σ τ α β : Type}

theorem andThen_done (step : Step σ α) : andThen step done = step := by
  funext s
  unfold andThen
  split <;> simp_all [done]

theorem andThen_assoc (first : Step σ α) (next : α → Step σ β) {γ : Type} (last : β → Step σ γ) :
    andThen (andThen first next) last = andThen first fun a => andThen (next a) last := by
  funext s
  unfold andThen
  cases first s with
  | mk outcome s' => cases outcome <;> rfl

instance : LawfulMonad (Step σ) :=
  LawfulMonad.mk' (Step σ) andThen_done (fun _ _ => rfl) (fun first next last =>
    andThen_assoc first next last)

@[simp]
theorem pure_apply (a : α) (s : σ) : (pure a : Step σ α) s = (.ok a, s) := rfl

theorem bind_apply (first : Step σ α) (next : α → Step σ β) (s : σ) :
    (first >>= next) s =
      match first s with
      | (.ok a, s') => next a s'
      | (.error e, s') => (.error e, s') := rfl

theorem bind_eq_ok_iff {first : Step σ α} {next : α → Step σ β} {s t : σ} {b : β} :
    (first >>= next) s = (.ok b, t) ↔
      ∃ a s', first s = (.ok a, s') ∧ next a s' = (.ok b, t) := by
  rw [bind_apply]
  cases h : first s with
  | mk outcome s' => cases outcome <;> simp [and_assoc]

theorem bind_eq_error_iff {first : Step σ α} {next : α → Step σ β} {s t : σ} {e : Failure} :
    (first >>= next) s = (.error e, t) ↔
      first s = (.error e, t) ∨ ∃ a s', first s = (.ok a, s') ∧ next a s' = (.error e, t) := by
  rw [bind_apply]
  cases h : first s with
  | mk outcome s' => cases outcome <;> simp [and_assoc]

@[simp]
theorem fail_apply (e : Failure) (s : σ) : (fail e : Step σ α) s = (.error e, s) := rfl

@[simp]
theorem reject_apply (cause : Rejection) (s : σ) :
    (reject cause : Step σ α) s = (.error (.rejected cause), s) := rfl

@[simp]
theorem ofOutcome_apply (o : Outcome α) (s : σ) : (ofOutcome o : Step σ α) s = (o, s) := rfl

@[simp]
theorem get_apply (s : σ) : (get : Step σ σ) s = (.ok s, s) := rfl

@[simp]
theorem put_apply (s t : σ) : (put t : Step σ Unit) s = (.ok (), t) := rfl

@[simp]
theorem modify_apply (f : σ → σ) (s : σ) : (modify f : Step σ Unit) s = (.ok (), f s) := rfl

theorem onCopy_eq_ok_iff {step : Step τ α} {copy copy' : τ} {s t : σ} {a : α} :
    (onCopy step copy : Step σ (α × τ)) s = (.ok (a, copy'), t) ↔
      step copy = (.ok a, copy') ∧ t = s := by
  unfold onCopy
  cases h : step copy with
  | mk outcome after => cases outcome <;> simp [eq_comm]

/-- A step on a copy never changes the state, not even when it fails. -/
theorem onCopy_apply_snd (step : Step τ α) (copy : τ) (s : σ) :
    ((onCopy step copy : Step σ (α × τ)) s).2 = s := by
  unfold onCopy
  split <;> rfl

end Step

end ShuffleMint
