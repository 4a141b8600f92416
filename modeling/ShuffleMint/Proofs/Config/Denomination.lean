import Mathlib.Computability.RegularExpressions
import ShuffleMint.Proofs.Config.Validity

/-!
# Which texts are denominations

A denomination is a text that matches `[a-zA-Z][a-zA-Z0-9/:._-]{2,127}` from its first character to
its last. The check does not run the pattern: it bounds the length of the text in bytes, looks at
the first character and scans the others. Bytes and characters are counted apart, and a text of few
characters can have many bytes, but what the scan lets pass has one byte for each character, so the
bounds in bytes are those of the pattern. Every other text is refused for the first fault that the
check comes upon, and never in another way.
-/

namespace ShuffleMint

/-! ## Patterns of characters -/

namespace Pattern

/-- One of the listed characters. -/
def oneOf (cs : List Char) : RegularExpression Char := (cs.map RegularExpression.char).sum

/-- A pattern some number of times in a row, from the least to the most. -/
def repeated (p : RegularExpression Char) (least most : Nat) : RegularExpression Char :=
  ((least...=most).toList.map (p ^ ·)).sum

variable {cs text : List Char}

/-- A text matches a sum of patterns when it matches one of them. -/
theorem mem_sum_map_iff {ι : Type} {indices : List ι} {p : ι → RegularExpression Char} :
    text ∈ (indices.map p).sum.matches' ↔ ∃ i ∈ indices, text ∈ (p i).matches' := by
  induction indices with
  | nil => exact ⟨False.elim, nofun⟩
  | cons i rest ih =>
    rw [List.map_cons, List.sum_cons, RegularExpression.matches'_add, Language.mem_add, ih,
      List.exists_mem_cons_iff]

/-- One of the listed characters is matched as a text of its own. -/
theorem mem_oneOf_iff : text ∈ (oneOf cs).matches' ↔ ∃ c ∈ cs, text = [c] :=
  mem_sum_map_iff

/-- Listed characters in a row are matched by the texts of that many of them. -/
theorem mem_oneOf_pow_iff {n : Nat} :
    text ∈ (oneOf cs ^ n).matches' ↔ text.length = n ∧ ∀ c ∈ text, c ∈ cs := by
  induction n generalizing text with
  | zero =>
    rw [RegularExpression.matches'_pow, pow_zero, Language.mem_one, List.length_eq_zero_iff]
    exact ⟨fun h => ⟨h, h ▸ nofun⟩, And.left⟩
  | succ n ih =>
    rw [RegularExpression.matches'_pow] at ih ⊢
    rw [pow_succ', Language.mem_mul]
    constructor
    · rintro ⟨front, hfront, rest, hrest, rfl⟩
      obtain ⟨c, hc, rfl⟩ := mem_oneOf_iff.mp hfront
      obtain ⟨hlength, hall⟩ := ih.mp hrest
      exact ⟨congrArg Nat.succ hlength, List.forall_mem_cons.mpr ⟨hc, hall⟩⟩
    · rintro ⟨hlength, hall⟩
      obtain ⟨c, rest, rfl⟩ := List.exists_cons_of_length_eq_add_one hlength
      obtain ⟨hc, hrest⟩ := List.forall_mem_cons.mp hall
      exact ⟨[c], mem_oneOf_iff.mpr ⟨c, hc, rfl⟩, rest, ih.mpr ⟨Nat.succ.inj hlength, hrest⟩, rfl⟩

/-- Their repetition is matched by the texts of listed characters with a length in its bounds. -/
theorem mem_repeated_oneOf_iff {least most : Nat} :
    text ∈ (repeated (oneOf cs) least most).matches' ↔
      (∀ c ∈ text, c ∈ cs) ∧ least ≤ text.length ∧ text.length ≤ most := by
  simp only [repeated, mem_sum_map_iff, mem_oneOf_pow_iff, Std.Rcc.mem_toList_iff_mem,
    Std.Rcc.mem_iff]
  constructor
  · rintro ⟨n, hbounds, rfl, hall⟩
    exact ⟨hall, hbounds⟩
  · rintro ⟨hall, hbounds⟩
    exact ⟨text.length, hbounds, rfl, hall⟩

end Pattern

namespace Denom

/-! ## The pattern of a denomination -/

/-- The letters, small and capital. -/
def letters : List Char := ('a' ...= 'z').toList ++ ('A' ...= 'Z').toList

/-- The characters after the first one: letters, digits and five marks. -/
def followers : List Char := letters ++ ('0' ...= '9').toList ++ ['/', ':', '.', '_', '-']

/-- The pattern `[a-zA-Z][a-zA-Z0-9/:._-]{2,127}`. -/
def pattern : RegularExpression Char :=
  Pattern.oneOf letters * Pattern.repeated (Pattern.oneOf followers) 2 127

/-- The letters of the pattern are those of a denomination. -/
theorem mem_letters_iff {c : Char} : c ∈ letters ↔ Letter c := by
  simp [letters, Letter, Std.Rcc.mem_toList_iff_mem, Std.Rcc.mem_iff]

/-- So are the characters after the first one. -/
theorem mem_followers_iff {c : Char} : c ∈ followers ↔ Tail c := by
  simp [followers, Tail, mem_letters_iff, Std.Rcc.mem_toList_iff_mem, Std.Rcc.mem_iff]

/-- The pattern is matched by the texts that are spelled as denominations. -/
theorem mem_pattern_iff {denom : String} : denom.toList ∈ pattern.matches' ↔ Spelled denom := by
  simp only [pattern, RegularExpression.matches'_mul, Language.mem_mul, Pattern.mem_oneOf_iff,
    Pattern.mem_repeated_oneOf_iff, mem_letters_iff, mem_followers_iff]
  constructor
  · rintro ⟨_, ⟨first, hfirst, rfl⟩, rest, ⟨hrest, hbounds⟩, htext⟩
    exact ⟨first, rest, htext.symm, hfirst, hrest, hbounds⟩
  · rintro ⟨first, rest, htext, hfirst, hrest, hbounds⟩
    exact ⟨[first], ⟨first, hfirst, rfl⟩, rest, ⟨hrest, hbounds⟩, htext.symm⟩

/-! ## The first fault of a text -/

/-- What is wrong with a text. It is looked at as far as its first fault: the number of its bytes,
then its first character, then the others from left to right. -/
inductive Flaw (denom : String) : ConfigFault → Prop where
  /-- There are too few bytes or too many. -/
  | length (h : denom.utf8ByteSize < 3 ∨ 128 < denom.utf8ByteSize) :
    Flaw denom (.denomLength denom.utf8ByteSize)
  /-- The first character is no letter. -/
  | start {first : Char} {rest : List Char} (hleast : 3 ≤ denom.utf8ByteSize)
    (hmost : denom.utf8ByteSize ≤ 128) (htext : denom.toList = first :: rest)
    (hfirst : ¬ Letter first) : Flaw denom .denomStart
  /-- A later character may not come there, and those before it may. -/
  | character {first c : Char} {before after : List Char} (hleast : 3 ≤ denom.utf8ByteSize)
    (hmost : denom.utf8ByteSize ≤ 128) (htext : denom.toList = first :: (before ++ c :: after))
    (hfirst : Letter first) (hbefore : ∀ d ∈ before, Tail d) (hc : ¬ Tail c) :
    Flaw denom (.denomCharacter c)

/-- The scan stops at the first character that may not come later. -/
theorem find?_not_isTail_eq_some_iff {rest : List Char} {c : Char} :
    (rest.find? fun d => !isTail d) = some c ↔
      ∃ before after, rest = before ++ c :: after ∧ (∀ d ∈ before, Tail d) ∧ ¬ Tail c := by
  simp only [List.find?_eq_some_iff_append, Bool.not_not, isTail_iff, Bool.not_eq_true',
    ← Bool.not_eq_true]
  constructor
  · rintro ⟨hc, before, after, hrest, hbefore⟩
    exact ⟨before, after, hrest, hbefore, hc⟩
  · rintro ⟨before, after, hrest, hbefore, hc⟩
    exact ⟨hc, before, after, hrest, hbefore⟩

/-- A text with bytes has a first character. -/
theorem exists_toList_eq_cons {denom : String} (h : 0 < denom.utf8ByteSize) :
    ∃ first rest, denom.toList = first :: rest := by
  refine List.exists_cons_of_ne_nil fun hnil => ?_
  obtain rfl := String.toList_eq_nil_iff.mp hnil
  exact absurd h (by decide)

/-- The fault that is found in a text is its first one. -/
theorem fault?_eq_some_iff {denom : String} {fault : ConfigFault} :
    fault? denom = some fault ↔ Flaw denom fault := by
  constructor
  · intro h
    unfold fault? at h
    split at h
    · next hlength =>
      obtain rfl := Option.some.inj h
      exact .length hlength
    · next hlength =>
      have hleast : 3 ≤ denom.utf8ByteSize := by omega
      have hmost : denom.utf8ByteSize ≤ 128 := by omega
      -- The empty text has no bytes, so a text in the bounds is never refused for being empty.
      obtain ⟨first, rest, htext⟩ := exists_toList_eq_cons (by omega : 0 < denom.utf8ByteSize)
      simp only [htext] at h
      split at h
      · next hletter =>
        obtain ⟨c, hscan, rfl⟩ := Option.map_eq_some_iff.mp h
        obtain ⟨before, after, rfl, hbefore, hc⟩ := find?_not_isTail_eq_some_iff.mp hscan
        exact .character hleast hmost htext ((isLetter_iff first).mp hletter) hbefore hc
      · next hletter =>
        obtain rfl := Option.some.inj h
        exact .start hleast hmost htext fun hfirst => hletter ((isLetter_iff first).mpr hfirst)
  · intro h
    cases h with
    | length hlength => rw [fault?, if_pos hlength]
    | start hleast hmost htext hfirst =>
      rw [fault?, if_neg (by omega), htext]
      exact if_neg fun hletter => hfirst ((isLetter_iff _).mp hletter)
    | @character first c before after hleast hmost htext hfirst hbefore hc =>
      have hscan := find?_not_isTail_eq_some_iff.mpr ⟨before, after, rfl, hbefore, hc⟩
      rw [fault?, if_neg (by omega), htext]
      simp only [(isLetter_iff first).mpr hfirst, if_true, hscan, Option.map_some]

-- Two characters in three bytes are long enough to be scanned, 128 characters in 129 bytes are too
-- long.
example : fault? "aé" = some (.denomCharacter 'é') := by cbv

example : fault? (String.ofList (List.replicate 127 'a' ++ ['é'])) = some (.denomLength 129) := by
  cbv

/-- A text is refused for its first fault, as an invalid setting. -/
theorem validate_eq_error_iff {denom : String} {e : Failure} :
    validate denom = .error e ↔
      ∃ fault, Flaw denom fault ∧ e = .rejected (.invalidConfig fault) := by
  simp only [← fault?_eq_some_iff, validate]
  cases fault? denom with
  | none => simp
  | some fault => simp [eq_comm]

/-- A text is accepted as a denomination exactly when the whole of it matches the pattern. It is
refused exactly as an invalid setting, for the first fault of the text. -/
theorem accepted_iff_matches_pattern (denom : String) :
    (validate denom = .ok () ↔ denom.toList ∈ pattern.matches') ∧
      ∀ e, validate denom = .error e ↔
        ∃ fault, Flaw denom fault ∧ e = .rejected (.invalidConfig fault) := by
  constructor
  · rw [mem_pattern_iff]
    exact validate_eq_ok_iff
  · intro e
    exact validate_eq_error_iff

end Denom

end ShuffleMint
