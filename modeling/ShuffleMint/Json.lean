/-!
# JSON values and their compact text

Messages, answers and stored entries are exchanged as JSON. The compact text of a value has no
blanks, keeps the order of the fields and escapes only what has to be escaped.
-/

namespace ShuffleMint

/-- A JSON value. A number is an integer divided by a power of ten; the integers are the numbers
with no decimal places. -/
inductive Json where
  | null
  | bool (b : Bool)
  | number (mantissa : Int) (places : Nat)
  | text (s : String)
  | list (items : List Json)
  | object (fields : List (String × Json))

namespace Json

/-- A natural number. -/
def nat (n : Nat) : Json := .number n 0

/-- A natural number in quotes, as amounts and instants are written. -/
def quoted (n : Nat) : Json := .text (toString n)

/-- A value that may be missing. -/
def optional {α : Type} (encode : α → Json) : Option α → Json
  | none => .null
  | some a => encode a

/-- A list of values. -/
def array {α : Type} (encode : α → Json) (xs : List α) : Json := .list (xs.map encode)

/-- An object with one field, as the cases of a choice are written. -/
def variant (name : String) (body : Json) : Json := .object [(name, body)]

/-- The digit of a number below sixteen, in upper case. -/
def hexDigit (n : Nat) : Char := if n < 10 then Char.ofNat (48 + n) else Char.ofNat (55 + n)

/-- A character inside quotes. Quotes, backslashes and control characters below the blank are
escaped, those without a short form by their code. -/
def escape (c : Char) : String :=
  if c = '"' then "\\\""
  else if c = '\\' then "\\\\"
  else if c = Char.ofNat 8 then "\\b"
  else if c = Char.ofNat 9 then "\\t"
  else if c = Char.ofNat 10 then "\\n"
  else if c = Char.ofNat 12 then "\\f"
  else if c = Char.ofNat 13 then "\\r"
  else if c.toNat < 32 then
    "\\u00" ++ String.ofList [hexDigit (c.toNat / 16), hexDigit (c.toNat % 16)]
  else c.toString

/-- A text in quotes, written after `out`. -/
def writeText (out : String) (s : String) : String :=
  (s.toList.foldl (fun out c => out ++ escape c) (out ++ "\"")) ++ "\""

mutual

/-- A value, written after `out`. -/
def write (out : String) : Json → String
  | null => out ++ "null"
  | bool true => out ++ "true"
  | bool false => out ++ "false"
  | number mantissa 0 => out ++ toString mantissa
  | number mantissa places => out ++ toString mantissa ++ "e-" ++ toString places
  | text s => writeText out s
  | list [] => out ++ "[]"
  | list (x :: xs) => writeItems (write (out ++ "[") x) xs ++ "]"
  | object [] => out ++ "\x7b\x7d"
  | object ((k, v) :: fields) =>
    writeFields (write (writeText (out ++ "\x7b") k ++ ":") v) fields ++ "\x7d"

/-- The items of a list after the first, each after a comma. -/
def writeItems (out : String) : List Json → String
  | [] => out
  | x :: xs => writeItems (write (out ++ ",") x) xs

/-- The fields of an object after the first, each after a comma. -/
def writeFields (out : String) : List (String × Json) → String
  | [] => out
  | (k, v) :: fields => writeFields (write (writeText (out ++ ",") k ++ ":") v) fields

end

/-- The compact text of a value. -/
def render (j : Json) : String := j.write ""

/-- The value of a field; a missing field reads as `null`. -/
def field (j : Json) (name : String) : Json :=
  match j with
  | object fields => (fields.lookup name).getD .null
  | _ => .null

/-- Whether a value is an object that has a field. -/
def has (j : Json) (name : String) : Bool :=
  match j with
  | object fields => fields.any fun f => f.1 == name
  | _ => false

end Json

end ShuffleMint
