/-!
# Tokens and the bounds of stored numbers

A mint sells the tokens of one or more collections. A token is named by its collection and its
number there. Counts, instants and amounts of money are natural numbers, each kept below the
bound of its kind.
-/

namespace ShuffleMint

/-- An account or contract address. Two addresses are the same when their texts are. -/
abbrev Address := String

/-- One token: its collection and its number there, counted from one. -/
structure Token where
  collection : Nat
  number : Nat
  deriving DecidableEq

namespace Token

/-- The order of listings: by collection, then by number. -/
def before (a b : Token) : Bool :=
  a.collection < b.collection || (a.collection == b.collection && a.number < b.number)

/-- The name of a token in messages to people. -/
def label (t : Token) : String := toString t.collection ++ ":" ++ toString t.number

end Token

/-- A collection of tokens on sale. Its id also answers for the creation of its contract. -/
structure Collection where
  id : Nat
  supply : Nat
  name : String
  symbol : String
  baseUri : String
  deriving DecidableEq

/-- Counts of tokens, mints and basis points stay below this bound. It is made once and shared, as
counts are compared with it in inner loops. -/
@[noinline] def countBound : Nat := 0x100000000

/-- Instants (nanoseconds) and identifiers stay below this bound. -/
def wordBound : Nat := 0x10000000000000000

/-- Amounts of money stay below this bound. -/
def amountBound : Nat := 0x100000000000000000000000000000000

end ShuffleMint
