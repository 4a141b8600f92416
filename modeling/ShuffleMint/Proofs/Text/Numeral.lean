import Mathlib.Data.List.Basic
import ShuffleMint.Text.Numeral

/-!
# What numerals name

A run of digits names a number, and so does the run with zeros in front. Without them there is one
run for each number: its decimal digits, `Nat.toDigits 10`, which begin with a zero only for zero.
So a run is told by its number and its length.
-/

namespace ShuffleMint

namespace Numeral

variable {c : Char} {cs : List Char} {n : Nat}

/-- The characters that have a value as a digit are the decimal digits. -/
theorem digit?_eq (c : Char) : digit? c = if c.isDigit then some (c.toNat - 48) else none := by
  have hrange : ('0' ≤ c ∧ c ≤ '9') ↔ c.isDigit = true := by
    simp [Char.isDigit, Char.le_def]
  simp only [digit?, hrange]

/-- Digits continue a number; anything else does not. -/
theorem digits?_eq_some_iff {init : Nat} :
    digits? cs init = some n ↔
      (∀ c ∈ cs, c.isDigit = true) ∧ n = Nat.ofDigitChars 10 cs init := by
  induction cs generalizing init with
  | nil =>
    rw [digits?, Option.some.injEq, Nat.ofDigitChars_nil]
    exact ⟨fun h => ⟨nofun, h.symm⟩, fun h => h.2.symm⟩
  | cons c rest ih =>
    rw [digits?, digit?_eq]
    by_cases hc : c.isDigit = true
    · simp [hc, ih, Nat.ofDigitChars_cons]
    · simp [hc]

/-- Digits name the number that they have as a decimal numeral. -/
theorem unsigned?_eq_some_iff :
    unsigned? cs = some n ↔
      cs ≠ [] ∧ (∀ c ∈ cs, c.isDigit = true) ∧ n = Nat.ofDigitChars 10 cs 0 := by
  cases cs with
  | nil => simp [unsigned?]
  | cons c rest => simp only [unsigned?, digits?_eq_some_iff, ne_eq, reduceCtorEq, not_false_eq_true,
      true_and]

/-- Characters name no number when there are none, or not all are digits. -/
theorem unsigned?_eq_none_iff :
    unsigned? cs = none ↔ cs = [] ∨ ∃ c ∈ cs, c.isDigit = false := by
  constructor
  · intro hnone
    by_contra hdigits
    rw [not_or] at hdigits
    have hnumber : unsigned? cs = some (Nat.ofDigitChars 10 cs 0) := by
      refine unsigned?_eq_some_iff.mpr ⟨hdigits.1, fun c hc => ?_, rfl⟩
      by_contra hother
      exact hdigits.2 ⟨c, hc, Bool.eq_false_iff.mpr hother⟩
    rw [hnone] at hnumber
    cases hnumber
  · rintro (rfl | ⟨c, hc, hother⟩)
    · rfl
    · refine Option.eq_none_iff_forall_ne_some.mpr fun n hn => ?_
      have hdigit := (unsigned?_eq_some_iff.mp hn).2.1 c hc
      rw [hother] at hdigit
      cases hdigit

/-- A digit is the one that its value is written with. -/
theorem digitChar_of_isDigit (h : c.isDigit = true) :
    c.toNat - 48 < 10 ∧ (c.toNat - 48).digitChar = c := by
  obtain ⟨hleast, hmost⟩ : 48 ≤ c.toNat ∧ c.toNat ≤ 57 := Char.isDigit_iff_toNat.mp h
  have hlt : c.toNat - 48 < 10 := by omega
  refine ⟨hlt, Char.toNat_inj.mp ?_⟩
  rw [Nat.toNat_digitChar_of_lt_ten hlt]
  omega

/-- Digits after those of a positive number are the last digits of the number that they continue. -/
theorem toDigits_ofDigitChars (hdigits : ∀ c ∈ cs, c.isDigit = true) {init : Nat}
    (hinit : 0 < init) :
    Nat.toDigits 10 (Nat.ofDigitChars 10 cs init) = Nat.toDigits 10 init ++ cs := by
  induction cs generalizing init with
  | nil => rw [Nat.ofDigitChars_nil, List.append_nil]
  | cons c rest ih =>
    obtain ⟨hlt, hchar⟩ := digitChar_of_isDigit (hdigits c List.mem_cons_self)
    have hvalue : c.toNat - '0'.toNat = c.toNat - 48 := rfl
    rw [Nat.ofDigitChars_cons, hvalue, ih (fun d hd => hdigits d (List.mem_cons_of_mem _ hd))
      (by omega), ← Nat.toDigits_append_toDigits (by decide) hinit hlt, Nat.toDigits_of_lt_base hlt,
      hchar, List.append_assoc, List.singleton_append]

/-- Digits are the digits of the number that they name, with zeros in front of them. -/
theorem exists_eq_replicate_append (hne : cs ≠ []) (hdigits : ∀ c ∈ cs, c.isDigit = true) :
    ∃ zeros, cs = List.replicate zeros '0' ++ Nat.toDigits 10 (Nat.ofDigitChars 10 cs 0) := by
  induction cs with
  | nil => exact absurd rfl hne
  | cons c rest ih =>
    have hrest : ∀ d ∈ rest, d.isDigit = true := fun d hd => hdigits d (List.mem_cons_of_mem _ hd)
    by_cases hzero : c = '0'
    · subst hzero
      by_cases hlast : rest = []
      · exact ⟨0, by rw [hlast]; rfl⟩
      · obtain ⟨zeros, htext⟩ := ih hlast hrest
        refine ⟨zeros + 1, ?_⟩
        rw [List.replicate_succ, List.cons_append, Nat.ofDigitChars_cons]
        exact congrArg ('0' :: ·) htext
    · obtain ⟨hlt, hchar⟩ := digitChar_of_isDigit (hdigits c List.mem_cons_self)
      have hpositive : 0 < c.toNat - 48 := by
        refine Nat.pos_of_ne_zero fun hnone => hzero ?_
        rw [← hchar, hnone]
        rfl
      have hvalue : Nat.ofDigitChars 10 (c :: rest) 0 = Nat.ofDigitChars 10 rest (c.toNat - 48) := by
        rw [Nat.ofDigitChars_cons, Nat.mul_zero, Nat.zero_add]
        rfl
      refine ⟨0, ?_⟩
      rw [hvalue, toDigits_ofDigitChars hrest hpositive, Nat.toDigits_of_lt_base hlt, hchar]
      rfl

/-- The digits of a number, with or without zeros in front of them, name it. -/
theorem unsigned?_replicate_append (zeros n : Nat) :
    unsigned? (List.replicate zeros '0' ++ Nat.toDigits 10 n) = some n := by
  refine unsigned?_eq_some_iff.mpr ⟨?_, fun c hc => ?_, ?_⟩
  · exact List.append_ne_nil_of_right_ne_nil _ Nat.toDigits_ne_nil
  · rcases List.mem_append.mp hc with hc | hc
    · rw [List.eq_of_mem_replicate hc]
      rfl
    · exact Nat.isDigit_of_mem_toDigits (by decide) (by decide) hc
  · rw [Nat.ofDigitChars_append, Nat.ofDigitChars_replicate_zero, Nat.mul_zero,
      Nat.ofDigitChars_ten_toDigits]

/-- The digits of a number name it. -/
theorem unsigned?_toDigits (n : Nat) : unsigned? (Nat.toDigits 10 n) = some n :=
  unsigned?_replicate_append 0 n

/-- A run of digits is told by its number and its length. -/
theorem unsigned?_eq_some_iff_replicate :
    unsigned? cs = some n ↔
      (Nat.toDigits 10 n).length ≤ cs.length ∧
        cs = List.replicate (cs.length - (Nat.toDigits 10 n).length) '0' ++ Nat.toDigits 10 n := by
  constructor
  · intro h
    obtain ⟨hne, hdigits, rfl⟩ := unsigned?_eq_some_iff.mp h
    obtain ⟨zeros, htext⟩ := exists_eq_replicate_append hne hdigits
    have hlength := congrArg List.length htext
    rw [List.length_append, List.length_replicate] at hlength
    refine ⟨by omega, ?_⟩
    rw [hlength, Nat.add_sub_cancel]
    exact htext
  · rintro ⟨-, htext⟩
    rw [htext]
    exact unsigned?_replicate_append _ n

/-- More than one digit of a number do not begin with a zero. -/
theorem toDigits_ne_zero_cons (n : Nat) (hne : cs ≠ []) : Nat.toDigits 10 n ≠ '0' :: cs := by
  intro htext
  have hnumber := unsigned?_toDigits n
  rw [htext] at hnumber
  obtain ⟨-, hdigits, hvalue⟩ := unsigned?_eq_some_iff.mp hnumber
  have hrest : unsigned? cs = some n :=
    unsigned?_eq_some_iff.mpr
      ⟨hne, fun c hc => hdigits c (List.mem_cons_of_mem _ hc), hvalue⟩
  have hlength := (unsigned?_eq_some_iff_replicate.mp hrest).1
  rw [htext, List.length_cons] at hlength
  omega

end Numeral

end ShuffleMint
