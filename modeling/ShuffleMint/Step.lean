import ShuffleMint.Failure

/-!
# Steps that keep their writes

A call reads and changes a state and may fail on the way. Nothing undoes the changes made before a
failure, so a step yields its outcome together with the state in which it ended, whichever outcome
it is.
-/

namespace ShuffleMint

/-- A computation over a state that may fail. The state it ends in counts also when it fails. -/
def Step (σ α : Type) : Type := σ → Outcome α × σ

namespace Step

variable {σ τ α β : Type}

/-- The outcome of a step started in a state, and the state it ends in. -/
def run (step : Step σ α) (s : σ) : Outcome α × σ := step s

/-- The step that yields a value and changes nothing. -/
def done (a : α) : Step σ α := fun s => (.ok a, s)

/-- The second step starts where the first ends, and is not taken when the first fails. -/
def andThen (first : Step σ α) (next : α → Step σ β) : Step σ β := fun s =>
  match first s with
  | (.ok a, s') => next a s'
  | (.error e, s') => (.error e, s')

instance : Monad (Step σ) where
  pure := done
  bind := andThen

/-- The step that fails and changes nothing. -/
def fail (e : Failure) : Step σ α := fun s => (.error e, s)

/-- The step that a rule rejects. -/
def reject (cause : Rejection) : Step σ α := fail (.rejected cause)

/-- A calculation as a step that changes nothing. -/
def ofOutcome (o : Outcome α) : Step σ α := fun s => (o, s)

instance : MonadLift (Except Failure) (Step σ) where
  monadLift := ofOutcome

/-- The step that yields the state. -/
def get : Step σ σ := fun s => (.ok s, s)

/-- The step that yields a part of the state. -/
def gets (f : σ → α) : Step σ α := fun s => (.ok (f s), s)

/-- The step that replaces the state. -/
def put (s : σ) : Step σ Unit := fun _ => (.ok (), s)

/-- The step that changes the state. -/
def modify (f : σ → σ) : Step σ Unit := fun s => (.ok (), f s)

/-- A step on a part of the state; the rest stays as it is. -/
def focus (view : σ → τ) (update : τ → σ → σ) (step : Step τ α) : Step σ α := fun s =>
  let (outcome, part) := step (view s)
  (outcome, update part s)

/-- A step on a value outside the state, which it yields changed. A failure loses that value. -/
def onCopy (step : Step τ α) (copy : τ) : Step σ (α × τ) := fun s =>
  match step copy with
  | (.ok a, copy') => (.ok (a, copy'), s)
  | (.error e, _) => (.error e, s)

/-- Takes a step and says whether it succeeds. Only a rejection counts as an answer; any other failure
goes on. -/
def succeeds (step : Step σ α) : Step σ Bool := fun s =>
  match step s with
  | (.ok _, s') => (.ok true, s')
  | (.error (.rejected _), s') => (.ok false, s')
  | (.error e, s') => (.error e, s')

/-- Takes a step for every entry of a list, in order, and collects what they yield. -/
def forEach (f : α → Step σ β) : List α → Step σ (List β)
  | [] => done []
  | x :: xs => andThen (f x) fun y => andThen (forEach f xs) fun ys => done (y :: ys)

end Step

end ShuffleMint
