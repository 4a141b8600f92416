import Mathlib.Data.Finset.Basic
import ShuffleMint.Allocator.Operation

/-!
# A queue of tokens

The tokens of a mint in four parts: the issued ones in the order of issue, the pending ones in the
order of the draw, and two sets of tokens that are held back. The operations of an allocator have a
move each, which takes a token from one part to another and knows nothing of slots, cursors or
supplies. What a shuffle makes of the pending tokens is no move of the queue and is left out.
-/

namespace ShuffleMint

/-- The tokens of an allocator by what has become of them: the issued ones in the order of issue,
the pending ones in the order of the draw, and those that are held back. -/
structure TokenQueue where
  issued : List Token
  pending : List Token
  reserved : Finset Token
  staged : Finset Token
  deriving DecidableEq

namespace TokenQueue

/-- The next token to draw, of one collection or of any. -/
def next? (q : TokenQueue) : Option Nat → Option Token
  | none => q.pending.head?
  | some collection => q.pending.find? fun t => t.collection = collection

/-- Makes a pending token the last issued one. -/
def issuePending (q : TokenQueue) (t : Token) : TokenQueue :=
  { q with issued := q.issued ++ [t], pending := q.pending.erase t }

/-- Makes a reserved token the last issued one. -/
def issueReserved (q : TokenQueue) (t : Token) : TokenQueue :=
  { q with issued := q.issued ++ [t], reserved := q.reserved.erase t }

/-- Makes a staged token the last issued one. -/
def issueStaged (q : TokenQueue) (t : Token) : TokenQueue :=
  { q with issued := q.issued ++ [t], staged := q.staged.erase t }

/-- Moves a pending token to those reserved. -/
def reserve (q : TokenQueue) (t : Token) : TokenQueue :=
  { q with pending := q.pending.erase t, reserved := insert t q.reserved }

/-- Moves a pending token to those staged. -/
def stage (q : TokenQueue) (t : Token) : TokenQueue :=
  { q with pending := q.pending.erase t, staged := insert t q.staged }

/-- Makes a staged token the last pending one. -/
def unstage (q : TokenQueue) (t : Token) : TokenQueue :=
  { q with pending := q.pending ++ [t], staged := q.staged.erase t }

/-- Reserves those of the tokens that are pending, and counts them. -/
def reserveAll (q : TokenQueue) : List Token → Nat × TokenQueue
  | [] => (0, q)
  | t :: ts =>
    if t ∈ q.pending then
      let (n, q) := (q.reserve t).reserveAll ts
      (n + 1, q)
    else q.reserveAll ts

/-- A token is in one of the four parts. -/
def Holds (q : TokenQueue) (t : Token) : Prop :=
  t ∈ q.issued ∨ t ∈ q.pending ∨ t ∈ q.reserved ∨ t ∈ q.staged

instance (q : TokenQueue) (t : Token) : Decidable (q.Holds t) :=
  inferInstanceAs (Decidable (_ ∨ _ ∨ _ ∨ _))

/-- What an operation yields and the queue after it, if its move is possible. A shuffle that is still
asked for when there is nothing left to shuffle does nothing, or is refused. -/
def perform (q : TokenQueue) : Operation → Option (Yield × TokenQueue)
  | .initializeShuffle _ => none
  | .ensureShuffled _ => some (.nothing, q)
  | .ensureUnlocked => if q.issued = [] then some (.nothing, q) else none
  | .next collection => (q.next? collection).map fun t => (.token t, q.issuePending t)
  | .claim t =>
    if t ∈ q.pending then some (.nothing, q.issuePending t)
    else if t ∈ q.reserved then some (.nothing, q.issueReserved t)
    else none
  | .claimStaged t => if t ∈ q.staged then some (.nothing, q.issueStaged t) else none
  | .reserve t => if t ∈ q.pending then some (.nothing, q.reserve t) else none
  | .stage t => if t ∈ q.pending then some (.nothing, q.stage t) else none
  | .unstage t =>
    if t ∈ q.staged then some (.flag true, q.unstage t)
    else if q.Holds t then some (.flag false, q)
    else none
  | .reserveAll ts => some (.count (q.reserveAll ts).1, (q.reserveAll ts).2)

/-- The queue after operations, the first of the list first; one that is not possible leaves it as
it is. -/
def after (q : TokenQueue) (operations : List Operation) : TokenQueue :=
  operations.foldl (fun q operation => ((q.perform operation).map Prod.snd).getD q) q

/-- The four parts hold the tokens of collections, given by id and supply, and each of them once. -/
structure Partitions (q : TokenQueue) (collections : List (Nat × Nat)) : Prop where
  issued_nodup : q.issued.Nodup
  pending_nodup : q.pending.Nodup
  disjoint : ∀ t, (t ∈ q.issued → t ∉ q.pending ∧ t ∉ q.reserved ∧ t ∉ q.staged) ∧
    (t ∈ q.pending → t ∉ q.reserved ∧ t ∉ q.staged) ∧ (t ∈ q.reserved → t ∉ q.staged)
  holds_iff : ∀ t, q.Holds t ↔
    ∃ c ∈ collections, c.1 = t.collection ∧ 1 ≤ t.number ∧ t.number ≤ c.2

/-- Reserving tokens leaves the issued ones alone and takes pending ones out. -/
theorem reserveAll_keeps (q : TokenQueue) (tokens : List Token) :
    (q.reserveAll tokens).2.issued = q.issued ∧
      (q.reserveAll tokens).2.pending.Sublist q.pending := by
  induction tokens generalizing q with
  | nil => exact ⟨rfl, List.Sublist.refl _⟩
  | cons t rest ih =>
    rw [reserveAll]
    split
    · obtain ⟨hissued, hpending⟩ := ih (q.reserve t)
      exact ⟨hissued, hpending.trans List.erase_sublist⟩
    · exact ih q

/-- A move of the queue never rewrites what is issued, and the tokens that stay pending keep their
order: the pending ones are as before with some of them taken out, or with one put last. -/
theorem perform_keeps {q q' : TokenQueue} {operation : Operation} {result : Yield}
    (h : q.perform operation = some (result, q')) :
    q.issued <+: q'.issued ∧
      (q'.pending.Sublist q.pending ∨ ∃ t, q'.pending = q.pending ++ [t]) := by
  cases operation with
  | initializeShuffle seed => cases h
  | ensureShuffled seed =>
    obtain ⟨-, rfl⟩ := Prod.mk.inj (Option.some.inj h)
    exact ⟨List.prefix_rfl, .inl (List.Sublist.refl _)⟩
  | ensureUnlocked =>
    rw [perform, Option.ite_none_right_eq_some] at h
    obtain ⟨-, rfl⟩ := Prod.mk.inj (Option.some.inj h.2)
    exact ⟨List.prefix_rfl, .inl (List.Sublist.refl _)⟩
  | next collection =>
    obtain ⟨t, -, hmove⟩ := Option.map_eq_some_iff.mp h
    obtain ⟨-, rfl⟩ := Prod.mk.inj hmove
    exact ⟨List.prefix_append .., .inl List.erase_sublist⟩
  | claim t =>
    rw [perform] at h
    split at h
    · obtain ⟨-, rfl⟩ := Prod.mk.inj (Option.some.inj h)
      exact ⟨List.prefix_append .., .inl List.erase_sublist⟩
    · rw [Option.ite_none_right_eq_some] at h
      obtain ⟨-, rfl⟩ := Prod.mk.inj (Option.some.inj h.2)
      exact ⟨List.prefix_append .., .inl (List.Sublist.refl _)⟩
  | claimStaged t =>
    rw [perform, Option.ite_none_right_eq_some] at h
    obtain ⟨-, rfl⟩ := Prod.mk.inj (Option.some.inj h.2)
    exact ⟨List.prefix_append .., .inl (List.Sublist.refl _)⟩
  | reserve t | stage t =>
    rw [perform, Option.ite_none_right_eq_some] at h
    obtain ⟨-, rfl⟩ := Prod.mk.inj (Option.some.inj h.2)
    exact ⟨List.prefix_rfl, .inl List.erase_sublist⟩
  | unstage t =>
    rw [perform] at h
    split at h
    · obtain ⟨-, rfl⟩ := Prod.mk.inj (Option.some.inj h)
      exact ⟨List.prefix_rfl, .inr ⟨t, rfl⟩⟩
    · rw [Option.ite_none_right_eq_some] at h
      obtain ⟨-, rfl⟩ := Prod.mk.inj (Option.some.inj h.2)
      exact ⟨List.prefix_rfl, .inl (List.Sublist.refl _)⟩
  | reserveAll tokens =>
    obtain ⟨-, rfl⟩ := Prod.mk.inj (Option.some.inj h)
    obtain ⟨hissued, hpending⟩ := q.reserveAll_keeps tokens
    exact ⟨hissued ▸ List.prefix_rfl, .inl hpending⟩

end TokenQueue

end ShuffleMint
