import ShuffleMint.Json
import ShuffleMint.Text.Base64
import ShuffleMint.Text.Numeral

/-!
# Reading JSON values

A reader yields a value or nothing. A record is read from an object, whose other fields do not
matter; a missing field reads as `null`, which only an optional value accepts. A choice is an object
with one field, or a bare text where its cases carry nothing.
-/

namespace ShuffleMint

namespace Json

/-- The fields of an object. -/
def object? : Json → Option (List (String × Json))
  | object fields => some fields
  | _ => none

/-- A text. -/
def text? : Json → Option String
  | text s => some s
  | _ => none

/-- A truth value. -/
def bool? : Json → Option Bool
  | bool b => some b
  | _ => none

/-- A natural number below a bound. -/
def nat? (bound : Nat) : Json → Option Nat
  | number (.ofNat n) 0 => if n < bound then some n else none
  | _ => none

/-- A natural number below a bound, in quotes. -/
def quoted? (bound : Nat) (j : Json) : Option Nat := j.text?.bind (Numeral.below? bound)

/-- Bytes in base64. -/
def bytes? (j : Json) : Option (List UInt8) := j.text?.bind Base64.decode?

/-- A list. -/
def list? {α : Type} (read : Json → Option α) : Json → Option (List α)
  | list items => items.mapM read
  | _ => none

/-- A value that may be missing. -/
def optional? {α : Type} (read : Json → Option α) : Json → Option (Option α)
  | null => some none
  | j => (read j).map some

/-- The name and the body of a case of a choice. -/
def variant? : Json → Option (String × Json)
  | object [case] => some case
  | _ => none

/-- A value read from one of several fields. -/
def get {α : Type} (fields : List (String × Json)) (name : String) (read : Json → Option α) :
    Option α :=
  read ((fields.lookup name).getD null)

/-- A truth value that may be missing, but not be `null`. -/
def flag? (fields : List (String × Json)) (name : String) : Option Bool :=
  match fields.lookup name with
  | none => some false
  | some j => j.bool?

end Json

end ShuffleMint
