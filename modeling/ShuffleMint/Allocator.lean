import ShuffleMint.Arena
import ShuffleMint.Random.Shuffle
import ShuffleMint.SortedMap
import ShuffleMint.Step

/-!
# The allocator

The allocator hands out tokens: at random, by drawing from a shuffled order, or by name, to those
who are promised a token and from the custom bundle. It keeps the arena of slots and, for every
collection, how many of its tokens are issued.

An operation that fails leaves the changes it made before it failed. On an allocator whose parts fit
together there are none.
-/

namespace ShuffleMint

/-- How many tokens a collection has and how many of them are issued. -/
structure Supply where
  total : Nat
  issued : Nat
  deriving DecidableEq

namespace Supply

/-- How many tokens of a collection are not yet issued. -/
def remaining (s : Supply) : Outcome Nat := subtractCounts s.total s.issued

end Supply

/-- The arena of slots and the supply of every collection. -/
structure Allocator where
  arena : Arena
  supplies : SortedMap Nat Supply
  deriving DecidableEq

namespace Allocator

/-- Lays collections out one after the other, the first at the given offset, and yields the runs and
the offset after the last. -/
def layOut : List (Nat × Nat) → Nat → Outcome (List SlotRun × Nat)
  | [], offset => .ok ([], offset)
  | (id, supply) :: rest, offset =>
    match addCounts offset supply with
    | .ok next =>
      match layOut rest next with
      | .ok (runs, stop) => .ok (⟨id, offset, supply⟩ :: runs, stop)
      | .error e => .error e
    | .error e => .error e

/-- The allocator of unissued collections, given by id and supply, in their own order. -/
def ofCollections (collections : List (Nat × Nat)) : Outcome Allocator :=
  (layOut collections 0).map fun (layout, total) =>
    { arena :=
        { layout, order := List.range total, cursor := 0,
          status := List.replicate total .pending, shuffled := false }
      supplies := SortedMap.ofList (collections.map fun (id, supply) => (id, ⟨supply, 0⟩)) }

/-- The ids of the collections, ascending. -/
def collectionIds (a : Allocator) : List Nat := a.supplies.keys

/-- Changes the arena. -/
def onArena (f : Arena → Arena) : Step Allocator Unit :=
  Step.modify fun a => { a with arena := f a.arena }

/-- Notes what has become of a slot, aborted for a slot that the arena does not have. -/
def mark (slot : Nat) (status : SlotStatus) : Step Allocator Unit := do
  let a ← Step.get
  let _ ← a.arena.statusOf slot
  onArena (·.mark slot status)

/-- Refuses once a token is issued. -/
def ensureUnlocked : Step Allocator Unit := do
  let a ← Step.get
  if a.arena.cursor > 0 then Step.reject .orderLocked else pure ()

/-- Shuffles the order, which is done once and before anything is issued. -/
def initializeShuffle (seed : Seed) : Step Allocator Unit := do
  ensureUnlocked
  let a ← Step.get
  if a.arena.shuffled then Step.reject .alreadyShuffled
  else onArena fun arena => { arena with order := shuffle seed arena.order, shuffled := true }

/-- Shuffles the order unless that is done. -/
def ensureShuffled (seed : Seed) : Step Allocator Unit := do
  let a ← Step.get
  if a.arena.shuffled then pure () else initializeShuffle seed

/-- Issues the slot at the cursor: counts it for its collection, marks it and moves the cursor past
it. -/
def issue (slot : Nat) : Step Allocator Token := do
  let a ← Step.get
  let token ← a.arena.tokenOf slot
  match a.supplies.get? token.collection with
  | none => Step.reject .soldOut
  | some supply =>
    if supply.total ≤ supply.issued then Step.reject .soldOut
    else
      Step.put { a with
        supplies := a.supplies.insert token.collection { supply with issued := supply.issued + 1 } }
      mark slot .issued
      onArena Arena.advance
      pure token

/-- Issues the slot at a position of the window. -/
def issueAt (position : Nat) : Step Allocator Token := do
  onArena (·.bringForward position)
  let a ← Step.get
  match a.arena.order[a.arena.cursor]? with
  | some slot => issue slot
  | none => Step.fail .aborted

/-- Issues a slot that is in no part of the order. -/
def issueHeld (slot : Nat) : Step Allocator Token := do
  let a ← Step.get
  let _ ← a.arena.window
  onArena (·.putAtCursor slot)
  issue slot

/-- Draws the next pending token, of one collection or of any. -/
def next (collection : Option Nat) : Step Allocator Token := do
  let a ← Step.get
  match ← a.arena.nextPosition collection with
  | none => Step.reject .soldOut
  | some position => issueAt position

/-- Issues a pending or reserved token by name. -/
def claim (t : Token) : Step Allocator Unit := do
  let a ← Step.get
  let slot ← a.arena.slotOf t
  match ← a.arena.statusOf slot with
  | .issued => Step.reject (.notEligible (.alreadyMinted t))
  | .staged => Step.reject (.notEligible (.staged t))
  | .pending => do
    let position ← a.arena.pendingPosition slot
    onArena (·.bringForward position)
    let _ ← issue slot
  | .reserved => do
    let _ ← issueHeld slot

/-- Issues a staged token by name. -/
def claimStaged (t : Token) : Step Allocator Unit := do
  let a ← Step.get
  let slot ← a.arena.slotOf t
  match ← a.arena.statusOf slot with
  | .staged => do
    let _ ← issueHeld slot
  | .issued => Step.reject (.notEligible (.alreadyMinted t))
  | _ => Step.reject (.notEligible (.notStaged t))

/-- Takes a pending token out of the random draw. -/
def hold (status : SlotStatus) (t : Token) : Step Allocator Unit := do
  let a ← Step.get
  let slot ← a.arena.slotOf t
  match ← a.arena.statusOf slot with
  | .pending => do
    let position ← a.arena.pendingPosition slot
    onArena (·.takeOut position)
    onArena (·.mark slot status)
  | _ => Step.reject (.invalidConfig (.tokenUnavailable t))

/-- Holds a pending token for the address that it is promised to. -/
def reserve (t : Token) : Step Allocator Unit := hold .reserved t

/-- Holds a pending token for the custom bundle. -/
def stage (t : Token) : Step Allocator Unit := hold .staged t

/-- Puts a staged token back at the end of the window; says whether the token was staged. -/
def unstage (t : Token) : Step Allocator Bool := do
  let a ← Step.get
  let slot ← a.arena.slotOf t
  match ← a.arena.statusOf slot with
  | .staged => do
    onArena (·.putLast slot)
    onArena (·.mark slot .pending)
    pure true
  | _ => pure false

/-- Reserves a token if it is pending; says whether it did. A token that is unknown or cannot be
reserved is left alone. -/
def reserveIfPending (t : Token) : Step Allocator Bool := do
  let a ← Step.get
  match a.arena.slotOf t with
  | .error (.rejected _) => pure false
  | .error e => Step.fail e
  | .ok slot =>
    match ← a.arena.statusOf slot with
    | .pending => Step.succeeds (reserve t)
    | _ => pure false

/-- Reserves those of the tokens that are pending, and counts them. -/
def reserveAll : List Token → Step Allocator Nat
  | [] => pure 0
  | t :: ts => do
    let reserved ← reserveIfPending t
    let more ← reserveAll ts
    pure (if reserved then more + 1 else more)

end Allocator

end ShuffleMint
