import ShuffleMint.Failure

/-!
# The arena of slots

Every token of a mint has a slot, and the slots of a collection lie side by side. The order lists
slots: up to the cursor those already issued, in the order of issue, from the cursor on those that a
random draw can still reach. A slot that is reserved or staged is in neither part.

Nothing here assumes that the parts of an arena fit together. Where they do not, a look-up aborts
or is rejected instead of answering.
-/

namespace ShuffleMint

/-- A run of neighbouring slots that belongs to one collection. -/
structure SlotRun where
  collection : Nat
  offset : Nat
  supply : Nat
  deriving DecidableEq

/-- What has become of a slot. -/
inductive SlotStatus where
  /-- A random draw can reach it. -/
  | pending
  /-- It is held for the address that it is promised to. -/
  | reserved
  /-- It is held for the custom bundle. -/
  | staged
  /-- Its token is minted. -/
  | issued
  deriving DecidableEq

/-- The layout of the slots, their order and what has become of each. -/
structure Arena where
  layout : List SlotRun
  order : List Nat
  cursor : Nat
  status : List SlotStatus
  shuffled : Bool
  deriving DecidableEq

namespace SlotRun

/-- Whether a run holds a slot. -/
@[inline] def holds (slot : Nat) (r : SlotRun) : Bool :=
  r.offset ≤ slot && slot < r.offset + r.supply

/-- The first of the runs that holds a slot, aborted when the end of that run is no count. -/
def at? (slot : Nat) (layout : List SlotRun) : Outcome (Option SlotRun) :=
  match layout.find? (holds slot) with
  | some r => if r.offset + r.supply < countBound then .ok (some r) else .error .aborted
  | none => .ok none

end SlotRun

namespace Arena

/-- The slots issued, in the order of issue. -/
def issuedSlots (a : Arena) : List Nat := a.order.take a.cursor

/-- The slots that a random draw can still reach, in the order in which it takes them. -/
def pendingSlots (a : Arena) : List Nat := a.order.drop a.cursor

/-- The pending slots, aborted when the cursor is past the end of the order. -/
def window (a : Arena) : Outcome (List Nat) :=
  if a.cursor ≤ a.order.length then .ok a.pendingSlots else .error .aborted

/-- The collection of a slot. -/
def collectionOf (a : Arena) (slot : Nat) : Outcome (Option Nat) :=
  (SlotRun.at? slot a.layout).map (·.map SlotRun.collection)

/-- The token of a slot. -/
def tokenOf (a : Arena) (slot : Nat) : Outcome Token :=
  match SlotRun.at? slot a.layout with
  | .ok (some r) => .ok ⟨r.collection, slot - r.offset + 1⟩
  | .ok none => .error (.rejected (.general .slotOutsideArena))
  | .error e => .error e

/-- The slot of a token, found through the first run of its collection. -/
def slotOf (a : Arena) (t : Token) : Outcome Nat :=
  match a.layout.find? (fun r => r.collection == t.collection) with
  | some r =>
    if 1 ≤ t.number ∧ t.number ≤ r.supply then
      (addCounts r.offset t.number).map (· - 1)
    else .error (.rejected (.invalidToken t))
  | none => .error (.rejected (.invalidToken t))

/-- What has become of a slot, aborted for a slot that the arena does not have. -/
def statusOf (a : Arena) (slot : Nat) : Outcome SlotStatus :=
  match a.status[slot]? with
  | some s => .ok s
  | none => .error .aborted

/-- How many of the listed slots belong to a collection, added to a start value. -/
def countOf (a : Arena) (collection : Nat) : List Nat → Nat → Outcome Nat
  | [], n => .ok n
  | slot :: rest, n =>
    match a.collectionOf slot with
    | .ok c => a.countOf collection rest (if c = some collection then n + 1 else n)
    | .error e => .error e

/-- How many pending slots belong to a collection. -/
def pendingIn (a : Arena) (collection : Nat) : Outcome Nat :=
  match a.window with
  | .ok slots => a.countOf collection slots 0
  | .error e => .error e

/-- The position, counted from `n`, of the first listed slot that belongs to a collection. -/
def positionOf (a : Arena) (collection : Nat) : List Nat → Nat → Outcome (Option Nat)
  | [], _ => .ok none
  | slot :: rest, n =>
    match a.collectionOf slot with
    | .ok c => if c = some collection then .ok (some n) else a.positionOf collection rest (n + 1)
    | .error e => .error e

/-- The position in the window of the next slot to draw, of one collection or of any. -/
def nextPosition (a : Arena) : Option Nat → Outcome (Option Nat)
  | none => .ok (if a.cursor < a.order.length then some 0 else none)
  | some collection =>
    match a.window with
    | .ok slots => a.positionOf collection slots 0
    | .error e => .error e

/-- The position in the window of a slot that is marked pending. -/
def pendingPosition (a : Arena) (slot : Nat) : Outcome Nat :=
  match a.window with
  | .ok slots =>
    match slots.idxOf? slot with
    | some p => .ok p
    | none => .error (.rejected (.general .slotNotPending))
  | .error e => .error e

/-- Brings the slot at a position of the window to the cursor. The slots that it passes keep their
order. -/
def bringForward (a : Arena) (position : Nat) : Arena :=
  match a.pendingSlots[position]? with
  | some slot =>
    { a with order := a.issuedSlots ++ slot :: a.pendingSlots.eraseIdx position }
  | none => a

/-- Takes the slot at a position of the window out of the order. -/
def takeOut (a : Arena) (position : Nat) : Arena :=
  { a with order := a.order.eraseIdx (a.cursor + position) }

/-- Puts a slot into the order at the cursor. -/
def putAtCursor (a : Arena) (slot : Nat) : Arena :=
  { a with order := a.issuedSlots ++ slot :: a.pendingSlots }

/-- Puts a slot at the end of the order. -/
def putLast (a : Arena) (slot : Nat) : Arena := { a with order := a.order ++ [slot] }

/-- Notes what has become of a slot. -/
def mark (a : Arena) (slot : Nat) (status : SlotStatus) : Arena :=
  { a with status := a.status.set slot status }

/-- Moves the cursor past one more slot. -/
def advance (a : Arena) : Arena := { a with cursor := a.cursor + 1 }

/-- How many tokens there are. -/
def total (a : Arena) : Nat := a.status.length

/-- How many tokens are not yet issued, those held back included. -/
def remaining (a : Arena) : Outcome Nat := subtractCounts a.total a.cursor

/-- How many tokens a random draw can still reach. -/
def pending (a : Arena) : Outcome Nat := subtractCounts a.order.length a.cursor

end Arena

end ShuffleMint
