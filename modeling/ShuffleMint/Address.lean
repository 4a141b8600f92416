import ShuffleMint.Failure
import ShuffleMint.Text.LetterCase

/-!
# Valid addresses

An address is a text of three to ninety bytes that is in lower case and holds no zero character. The
text is the address; nothing is rewritten.
-/

namespace ShuffleMint

/-- Why a text is no address; the length, counted in UTF-8 bytes, is looked at first. -/
def addressFault? (text : String) : Option AddressFault :=
  if text.utf8ByteSize < 3 then some .tooShort
  else if 90 < text.utf8ByteSize then some .tooLong
  else if LetterCase.isLowerCase text && !text.toList.contains (Char.ofNat 0) then none
  else some .notNormalized

/-- The address that a text names. -/
def validateAddress (text : String) : Outcome Address :=
  match addressFault? text with
  | none => .ok text
  | some fault => .error (.rejected (.general (.address fault)))

/-- The address that a text names, when there is a text. -/
def validateAddress? : Option String → Outcome (Option Address)
  | none => .ok none
  | some text => (validateAddress text).map some

/-- Whether a text names an address. -/
def IsAddress (text : String) : Prop := ∃ address, validateAddress text = .ok address

/-- An address is the text that names it. -/
theorem eq_of_validateAddress {text : String} {address : Address}
    (h : validateAddress text = .ok address) : address = text := by
  unfold validateAddress at h
  split at h
  · exact (Except.ok.inj h).symm
  · cases h

/-- A text that need not be there is valid when it is absent or names an address, and it is the
address that it names. -/
theorem validateAddress?_eq_ok_iff {text address : Option String} :
    validateAddress? text = .ok address ↔
      address = text ∧ ∀ t ∈ text, IsAddress t := by
  cases text with
  | none => simp [validateAddress?, eq_comm]
  | some text =>
    constructor
    · intro h
      cases hnamed : validateAddress text with
      | error fault => simp [validateAddress?, hnamed, Except.map] at h
      | ok named =>
        rw [validateAddress?, hnamed] at h
        rw [← Except.ok.inj h, eq_of_validateAddress hnamed]
        exact ⟨rfl, fun t ht => ⟨named, by rwa [← Option.some.inj ht]⟩⟩
    · rintro ⟨rfl, h⟩
      obtain ⟨named, hnamed⟩ := h text rfl
      rw [validateAddress?, hnamed, eq_of_validateAddress hnamed]
      rfl

end ShuffleMint
