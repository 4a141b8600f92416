import ShuffleMint.Allocator

/-!
# Operations of an allocator

Everything that can be asked of an allocator, as data, so that a history of an allocator is a list.
An operation may fail; the allocator goes on from wherever it then is.
-/

namespace ShuffleMint

/-- What can be asked of an allocator. -/
inductive Operation where
  | initializeShuffle (seed : Seed)
  | ensureShuffled (seed : Seed)
  | ensureUnlocked
  | next (collection : Option Nat)
  | claim (token : Token)
  | claimStaged (token : Token)
  | reserve (token : Token)
  | stage (token : Token)
  | unstage (token : Token)
  | reserveAll (tokens : List Token)
  deriving DecidableEq

/-- What an operation yields when it succeeds. -/
inductive Yield where
  | nothing
  | token (t : Token)
  /-- Whether a token was staged. -/
  | flag (wasStaged : Bool)
  /-- How many tokens were reserved. -/
  | count (n : Nat)
  deriving DecidableEq

namespace Operation

/-- Takes an operation. -/
def perform : Operation → Step Allocator Yield
  | initializeShuffle seed => do Allocator.initializeShuffle seed; pure .nothing
  | ensureShuffled seed => do Allocator.ensureShuffled seed; pure .nothing
  | ensureUnlocked => do Allocator.ensureUnlocked; pure .nothing
  | next collection => do return .token (← Allocator.next collection)
  | claim t => do Allocator.claim t; pure .nothing
  | claimStaged t => do Allocator.claimStaged t; pure .nothing
  | reserve t => do Allocator.reserve t; pure .nothing
  | stage t => do Allocator.stage t; pure .nothing
  | unstage t => do return .flag (← Allocator.unstage t)
  | reserveAll ts => do return .count (← Allocator.reserveAll ts)

end Operation

namespace Allocator

/-- The allocator after operations, the first of the list first, whatever comes of each. -/
def after (a : Allocator) (operations : List Operation) : Allocator :=
  operations.foldl (fun a operation => (operation.perform a).2) a

@[simp]
theorem after_nil (a : Allocator) : a.after [] = a := rfl

@[simp]
theorem after_cons (a : Allocator) (operation : Operation) (rest : List Operation) :
    a.after (operation :: rest) = (operation.perform a).2.after rest := rfl

end Allocator

end ShuffleMint
