import ShuffleMint.Wire.Inquiry

/-!
# Scripted collaborators

A script says what contracts answer, in JSON: for each contract and each kind of question either one
answer per minter, or a list of assigned tokens, or pages to be answered one after the other. It
stands in for contracts wherever a mint runs by itself.
-/

namespace ShuffleMint

/-- What contracts answer, by address and kind of question. -/
abbrev Script := List (Address × List (String × Json))

namespace Script

/-- An answer that stands for an error text, or any other answer. -/
def unlessError (answer : Json) : Except QueryFault Json :=
  match answer with
  | .object fields =>
    match fields.lookup "$error" with
    | some (.text text) => .error (.refused text)
    | _ => .ok answer
  | _ => .ok answer

/-- The script of a kind of question to a contract. -/
def section? (s : Script) (contract : Address) (kind : String) : Except QueryFault Json :=
  match s.lookup contract with
  | none => .error .noContract
  | some kinds =>
    match kinds.lookup kind with
    | none => .error (.refused "unsupported query")
    | some answers => .ok answers

/-- The answer for a minter, or the one for all others. -/
def forMinter (s : Script) (contract : Address) (kind : String) (minter : Address) :
    Except QueryFault Json := do
  let answers ← s.section? contract kind
  match answers with
  | .object fields =>
    match (fields.lookup minter).or (fields.lookup "*") with
    | some answer => unlessError answer
    | none => .error (.refused "unknown address")
  | _ => .error (.refused "unknown address")

/-- The token that gives an item of a list its place. A part that is no number, or that the item
does not have, counts as zero. -/
def placeOf (item : Json) : Token :=
  let part (name : String) : Nat := (Json.nat? wordBound (item.field name)).getD 0
  ⟨part "collection_id", part "token_id"⟩

/-- The items of a list after a start, ascending and at most so many. Repeated items are kept. -/
def pageOf (items : List Json) (start : Option Token) (limit : Nat) : List Json :=
  let sorted := items.mergeSort fun a b => !(placeOf b).before (placeOf a)
  (sorted.filter fun item => start.all fun s => s.before (placeOf item)).take limit

/-- How many questions for assigned tokens a contract was asked. -/
def pagesAsked (asked : List Question) (contract : Address) : Nat :=
  asked.countP fun q =>
    match q.inquiry with
    | .assignedTokens _ _ => q.contract == contract
    | _ => false

/-- The answer to a question for assigned tokens. -/
def assigned (s : Script) (asked : List Question) (contract : Address) (start : Option Token)
    (limit : Nat) : Except QueryFault (List Token) := do
  let answers ← s.section? contract "get_assigned_token_ids"
  let answer ←
    match answers, answers.field "pages" with
    | .list items, _ => .ok (.list (pageOf items start limit))
    | _, .list pages => unlessError ((pages[pagesAsked asked contract]?).getD (.list []))
    | _, _ => unlessError answers
  match Json.list? Token.ofJson? answer with
  | some tokens => .ok tokens
  | none => .error .unreadable

/-- An answer read from JSON. -/
def readAs {α : Type} (read : Json → Option α) (answer : Except QueryFault Json) :
    Except QueryFault α := do
  match read (← answer) with
  | some a => .ok a
  | none => .error .unreadable

/-- How many items a list in a script has at most; no reading of pages takes more questions. -/
def longest (s : Script) : Nat :=
  (s.flatMap fun c => c.2.map fun kind =>
    match kind.2, kind.2.field "pages" with
    | .list items, _ => items.length
    | _, .list pages => pages.length
    | _, _ => 0).foldl max 0

/-- What the contracts of a script answer. -/
def answers (s : Script) : Answers where
  whitelistStatus _ contract minter :=
    readAs WhitelistStatus.ofJson? (s.forMinter contract "check_whitelist" minter)
  promisedMints _ contract minter :=
    readAs PromisedMints.ofJson? (s.forMinter contract "check_address_promised_mints" minter)
  promisedTokens _ contract minter :=
    readAs PromisedTokens.ofJson? (s.forMinter contract "check_address_promised_tokens" minter)
  assignedTokens asked contract start limit := s.assigned asked contract start limit
  pageBudget := s.longest + 2

/-- A script read from JSON. -/
def ofJson? (j : Json) : Option Script := do
  let contracts ← j.object?
  contracts.mapM fun (contract, kinds) => do return (contract, ← kinds.object?)

end Script

end ShuffleMint
