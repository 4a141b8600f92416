import Mathlib.Data.List.Basic
import ShuffleMint.Proofs.Text.Numeral
import ShuffleMint.Version

/-!
# How versions are written

A version is written as three numbers in decimal digits, joined by dots, then the parts of a
pre-release after a hyphen and those of a build after a plus sign, joined by dots as well. A part is
one or more letters, digits and hyphens; in a pre-release, one of digits alone has no zero in front.
Every version that is formed by these rules has one text. Reading is the inverse of writing: a text
names a version exactly when it is the text of that version.
-/

namespace ShuffleMint

/-- The longest run of first characters of a kind, and what follows: the two make up the list, and
what follows begins with another character. -/
theorem takeWhile_eq_iff {p : Char → Bool} {cs xs rest : List Char} :
    cs.takeWhile p = xs ∧ cs.drop xs.length = rest ↔
      cs = xs ++ rest ∧ (∀ c ∈ xs, p c = true) ∧ ∀ c ∈ rest.head?, p c = false := by
  constructor
  · rintro ⟨rfl, rfl⟩
    have hwhole : cs.takeWhile p ++ cs.dropWhile p = cs := List.takeWhile_append_dropWhile
    have hdrop := congrArg (List.drop (cs.takeWhile p).length) hwhole
    rw [List.drop_left] at hdrop
    rw [← hdrop]
    refine ⟨hwhole.symm, List.all_eq_true.mp List.all_takeWhile, fun c hc => ?_⟩
    have hfirst := List.head?_dropWhile_not p cs
    rwa [Option.mem_def.mp hc] at hfirst
  · rintro ⟨rfl, hrun, hstop⟩
    rw [List.takeWhile_append_of_pos hrun]
    refine ⟨?_, List.drop_left⟩
    cases rest with
    | nil => simp
    | cons c rest => simp [hstop c rfl]

namespace VersionPart

/-- The characters of a part. -/
def chars : VersionPart → List Char
  | digits value length =>
    List.replicate (length - (Nat.toDigits 10 value).length) '0' ++ Nat.toDigits 10 value
  | word s => s.toList

/-- A part is formed by the rules: a run of digits is as long as its number at least, and a word is
made of letters, digits and hyphens that are not all digits. -/
def Formed : VersionPart → Prop
  | digits value length => (Nat.toDigits 10 value).length ≤ length
  | word s => (∀ c ∈ s.toList, c.isAlphanum = true ∨ c = '-') ∧ ∃ c ∈ s.toList, c.isDigit = false

/-- A part has no zero in front of other digits. -/
def Plain : VersionPart → Prop
  | digits value length => length = (Nat.toDigits 10 value).length
  | word _ => True

/-- Parts joined by dots. -/
def joined (parts : List VersionPart) : List Char := ['.'].intercalate (parts.map chars)

/-- Parts after a mark; nothing where there are none. -/
def marked (mark : Char) : List VersionPart → List Char
  | [] => []
  | p :: parts => mark :: joined (p :: parts)

end VersionPart

namespace Version

/-- The text of a version. -/
def text (v : Version) : String :=
  String.ofList (Nat.toDigits 10 v.major ++ '.' :: (Nat.toDigits 10 v.minor ++ '.' ::
    (Nat.toDigits 10 v.patch ++
      (VersionPart.marked '-' v.preRelease ++ VersionPart.marked '+' v.build))))

/-- A version is formed by the rules. Its numbers are words, and only those of a build have parts
with a zero in front of other digits. -/
structure Formed (v : Version) : Prop where
  major : v.major < wordBound
  minor : v.minor < wordBound
  patch : v.patch < wordBound
  preRelease : ∀ p ∈ v.preRelease, p.Formed ∧ p.Plain
  build : ∀ p ∈ v.build, p.Formed

/-- The characters of parts are letters, digits and the hyphen. -/
theorem isPartChar_iff (c : Char) : isPartChar c = true ↔ c.isAlphanum = true ∨ c = '-' := by
  have hkinds : c.isAlphanum = (c.isUpper || c.isLower || c.isDigit) := rfl
  have hupper : c.isUpper = true ↔ 'A' ≤ c ∧ c ≤ 'Z' := decide_eq_true_iff
  have hlower : c.isLower = (decide ('a' ≤ c) && decide (c ≤ 'z')) := rfl
  have hdigit : c.isDigit = (decide ('0' ≤ c) && decide (c ≤ '9')) := rfl
  simp only [isPartChar, hkinds, hupper, hlower, hdigit, Bool.or_eq_true, Bool.and_eq_true,
    decide_eq_true_eq, beq_iff_eq]
  tauto

end Version

namespace VersionPart

variable {p : VersionPart} {cs : List Char}

/-- A run of digits names its number. -/
theorem unsigned?_chars_digits (value length : Nat) :
    Numeral.unsigned? (digits value length).chars = some value :=
  Numeral.unsigned?_replicate_append _ value

/-- The characters of a part that is formed are letters, digits and hyphens. -/
theorem Formed.isPartChar (h : p.Formed) : ∀ c ∈ p.chars, Version.isPartChar c = true := by
  intro c hc
  rw [Version.isPartChar_iff]
  cases p with
  | digits value length =>
    have hdigit := (Numeral.unsigned?_eq_some_iff.mp (unsigned?_chars_digits value length)).2.1 c hc
    exact .inl (by rw [Char.isAlphanum, hdigit, Bool.or_true])
  | word s => exact h.1 c hc

/-- A word names no number. -/
theorem unsigned?_chars_word {s : String} (h : (word s).Formed) :
    Numeral.unsigned? (word s).chars = none :=
  Numeral.unsigned?_eq_none_iff.mpr (.inr h.2)

/-- Characters that name a number form a run of digits. -/
theorem ofChars?_of_number {value : Nat} (h : Numeral.unsigned? cs = some value) :
    ofChars? cs = some (digits value cs.length) := by
  cases cs with
  | nil => cases h
  | cons c rest => simp only [ofChars?, h]

/-- Characters that name no number form a word. -/
theorem ofChars?_of_word (hne : cs ≠ []) (h : Numeral.unsigned? cs = none) :
    ofChars? cs = some (word (String.ofList cs)) := by
  cases cs with
  | nil => exact absurd rfl hne
  | cons c rest => simp only [ofChars?, h]

/-- Characters of parts form the part that is written with them. -/
theorem ofChars?_eq_some_iff (hchars : ∀ c ∈ cs, Version.isPartChar c = true) :
    ofChars? cs = some p ↔ p.Formed ∧ p.chars = cs := by
  constructor
  · intro h
    have hne : cs ≠ [] := by
      rintro rfl
      cases h
    cases hnumber : Numeral.unsigned? cs with
    | some value =>
      obtain rfl := Option.some.inj ((ofChars?_of_number hnumber).symm.trans h)
      obtain ⟨hlength, htext⟩ := Numeral.unsigned?_eq_some_iff_replicate.mp hnumber
      exact ⟨hlength, htext.symm⟩
    | none =>
      obtain rfl := Option.some.inj ((ofChars?_of_word hne hnumber).symm.trans h)
      rw [Formed, chars, String.toList_ofList]
      exact ⟨⟨fun c hc => (Version.isPartChar_iff c).mp (hchars c hc),
        (Numeral.unsigned?_eq_none_iff.mp hnumber).resolve_left hne⟩, rfl⟩
  · rintro ⟨hformed, rfl⟩
    cases p with
    | digits value length =>
      have hlength : (digits value length).chars.length = length := by
        rw [chars, List.length_append, List.length_replicate, Nat.sub_add_cancel hformed]
      rw [ofChars?_of_number (unsigned?_chars_digits value length), hlength]
    | word s =>
      obtain ⟨c, hc, -⟩ := hformed.2
      have hne : (word s).chars ≠ [] := List.ne_nil_of_mem hc
      rw [ofChars?_of_word hne (unsigned?_chars_word hformed), chars, String.ofList_toList]

/-- Characters have a zero in front when another character follows it and all are digits. -/
theorem hasLeadingZero_eq_true_iff :
    hasLeadingZero cs = true ↔
      (∃ c rest, cs = '0' :: c :: rest) ∧ (Numeral.unsigned? cs).isSome = true := by
  unfold hasLeadingZero
  split
  · simp
  · next hzero =>
    refine iff_of_false nofun ?_
    rintro ⟨⟨c, rest, rfl⟩, -⟩
    exact hzero c rest rfl

/-- A number has no zero in front of its own digits. -/
theorem hasLeadingZero_toDigits (n : Nat) : hasLeadingZero (Nat.toDigits 10 n) = false := by
  refine Bool.eq_false_iff.mpr fun h => ?_
  obtain ⟨⟨c, rest, htext⟩, -⟩ := hasLeadingZero_eq_true_iff.mp h
  exact Numeral.toDigits_ne_zero_cons n (List.cons_ne_nil c rest) htext

/-- The digits of a number after a zero have a zero in front. -/
theorem hasLeadingZero_padded (zeros n : Nat) :
    hasLeadingZero (List.replicate (zeros + 1) '0' ++ Nat.toDigits 10 n) = true := by
  obtain ⟨c, rest, hrest⟩ := List.exists_cons_of_ne_nil
    (List.append_ne_nil_of_right_ne_nil (List.replicate zeros '0')
      (Nat.toDigits_ne_nil (b := 10) (n := n)))
  refine hasLeadingZero_eq_true_iff.mpr ⟨⟨c, rest, ?_⟩, ?_⟩
  · rw [List.replicate_succ, List.cons_append, hrest]
  · rw [Numeral.unsigned?_replicate_append]
    rfl

/-- A zero stands in front of other digits of a part unless it is plain. -/
theorem hasLeadingZero_chars (h : p.Formed) : hasLeadingZero p.chars = false ↔ p.Plain := by
  cases p with
  | word s =>
    refine iff_of_true (Bool.eq_false_iff.mpr fun hzero => ?_) trivial
    have hnumber := (hasLeadingZero_eq_true_iff.mp hzero).2
    rw [unsigned?_chars_word h] at hnumber
    cases hnumber
  | digits value length =>
    rcases Nat.eq_or_lt_of_le h with hplain | hpadded
    · refine iff_of_true ?_ hplain.symm
      rw [chars, hplain, Nat.sub_self]
      exact hasLeadingZero_toDigits value
    · obtain ⟨zeros, hzeros⟩ := Nat.exists_eq_add_one_of_ne_zero (Nat.sub_ne_zero_of_lt hpadded)
      have hzero : hasLeadingZero (digits value length).chars = true := by
        rw [chars, hzeros]
        exact hasLeadingZero_padded zeros value
      exact iff_of_false (by simp [hzero]) (Nat.ne_of_gt hpadded)

/-- No zero stands in front of other digits where it may not when the parts are plain there. -/
theorem not_and_any_hasLeadingZero_iff {leadingZeros : Bool} {ps : List VersionPart}
    (hformed : ∀ p ∈ ps, p.Formed) :
    (!leadingZeros && (ps.map chars).any hasLeadingZero) = false ↔
      ∀ p ∈ ps, leadingZeros = true ∨ p.Plain := by
  cases leadingZeros with
  | true => simp
  | false =>
    simp only [Bool.not_false, Bool.true_and, List.any_map, List.any_eq_false, Function.comp,
      Bool.not_eq_true, Bool.false_eq_true, false_or]
    exact forall₂_congr fun p hp => hasLeadingZero_chars (hformed p hp)

/-- Digits name a number and have no zero in front when they are the number's own digits. -/
theorem unsigned?_and_hasLeadingZero_iff {n : Nat} :
    Numeral.unsigned? cs = some n ∧ hasLeadingZero cs = false ↔ cs = Nat.toDigits 10 n := by
  constructor
  · rintro ⟨hnumber, hplain⟩
    obtain ⟨-, htext⟩ := Numeral.unsigned?_eq_some_iff_replicate.mp hnumber
    cases hzeros : cs.length - (Nat.toDigits 10 n).length with
    | zero =>
      rw [hzeros] at htext
      exact htext
    | succ zeros =>
      rw [hzeros] at htext
      rw [htext, hasLeadingZero_padded] at hplain
      cases hplain
  · rintro rfl
    exact ⟨Numeral.unsigned?_toDigits n, hasLeadingZero_toDigits n⟩

/-- Segments without dots are the parts of a list when they are what these are written with. -/
theorem mapM_ofChars?_eq_some_iff {segments : List (List Char)} {parts : List VersionPart}
    (hchars : ∀ cs ∈ segments, ∀ c ∈ cs, Version.isPartChar c = true) :
    segments.mapM ofChars? = some parts ↔
      (∀ p ∈ parts, p.Formed) ∧ parts.map chars = segments := by
  induction segments generalizing parts with
  | nil =>
    rw [List.mapM_nil]
    cases parts <;> simp
  | cons cs rest ih =>
    have hfirst := hchars cs List.mem_cons_self
    have hrest (ps : List VersionPart) :
        rest.mapM ofChars? = some ps ↔ (∀ p ∈ ps, p.Formed) ∧ ps.map chars = rest :=
      ih fun cs hcs => hchars cs (List.mem_cons_of_mem _ hcs)
    rw [List.mapM_cons]
    simp only [Option.bind_eq_bind, Option.bind_eq_some_iff, ofChars?_eq_some_iff hfirst, hrest]
    constructor
    · rintro ⟨p, ⟨hp, rfl⟩, ps, ⟨hps, rfl⟩, hparts⟩
      obtain rfl := Option.some.inj hparts
      exact ⟨List.forall_mem_cons.mpr ⟨hp, hps⟩, List.map_cons⟩
    · rintro ⟨hparts, hmap⟩
      cases parts with
      | nil => cases hmap
      | cons p ps =>
        obtain ⟨hp, hps⟩ := List.forall_mem_cons.mp hparts
        rw [List.map_cons, List.cons.injEq] at hmap
        exact ⟨p, ⟨hp, hmap.1⟩, ps, ⟨hps, hmap.2⟩, rfl⟩

end VersionPart

namespace Version

open VersionPart

variable {cs rest : List Char} {n : Nat} {ps : List VersionPart}

/-- Cutting at the dots is the library's cutting at a character. -/
theorem splitAtDots_eq (cs : List Char) : splitAtDots cs = cs.splitOn '.' := by
  fun_induction splitAtDots cs with
  | case1 => rfl
  | case2 cs ih =>
    rw [ih, List.splitOn_eq_splitOnP, List.splitOn_eq_splitOnP,
      List.splitOnP_cons_eq_if_modifyHead, if_pos (beq_self_eq_true _)]
  | case3 c cs hdot segment rest hcut ih =>
    rw [List.splitOn_eq_splitOnP, List.splitOnP_cons_eq_if_modifyHead,
      if_neg (by simpa using hdot), ← List.splitOn_eq_splitOnP, ← ih, hcut]
    rfl
  | case4 c cs hdot hcut ih => exact absurd (ih.symm.trans hcut) (List.splitOn_ne_nil _ _)

/-- The pieces between the dots have characters of the whole that are not dots. -/
theorem mem_of_mem_splitAtDots {piece : List Char} (hpiece : piece ∈ splitAtDots cs) {c : Char}
    (hc : c ∈ piece) : c ∈ cs ∧ c ≠ '.' := by
  fun_induction splitAtDots cs generalizing piece with
  | case1 =>
    rw [List.mem_singleton.mp hpiece] at hc
    cases hc
  | case2 cs ih =>
    rcases List.mem_cons.mp hpiece with rfl | hpiece
    · cases hc
    · exact ⟨List.mem_cons_of_mem _ (ih hpiece hc).1, (ih hpiece hc).2⟩
  | case3 d cs hdot segment rest hcut ih =>
    rw [hcut] at ih
    rcases List.mem_cons.mp hpiece with rfl | hpiece
    · rcases List.mem_cons.mp hc with rfl | hc
      · exact ⟨List.mem_cons_self, fun h => hdot h⟩
      · have hcs := ih List.mem_cons_self hc
        exact ⟨List.mem_cons_of_mem _ hcs.1, hcs.2⟩
    · have hcs := ih (List.mem_cons_of_mem _ hpiece) hc
      exact ⟨List.mem_cons_of_mem _ hcs.1, hcs.2⟩
  | case4 d cs hdot hcut ih =>
    rw [splitAtDots_eq] at hcut
    exact absurd hcut (List.splitOn_ne_nil _ _)

/-- A number is read off when the characters begin with its digits, it is a word and no other digit
follows. -/
theorem number?_eq_some_iff :
    number? cs = some (n, rest) ↔
      cs = Nat.toDigits 10 n ++ rest ∧ n < wordBound ∧ ∀ c ∈ rest.head?, c.isDigit = false := by
  have hdigit : (fun c => (Numeral.digit? c).isSome) = Char.isDigit := by
    funext c
    rw [Numeral.digit?_eq]
    cases c.isDigit <;> rfl
  have hread : number? cs = some (n, rest) ↔
      ∃ digits, (cs.takeWhile Char.isDigit = digits ∧ cs.drop digits.length = rest) ∧
        (Numeral.unsigned? digits = some n ∧ hasLeadingZero digits = false) ∧ n < wordBound := by
    simp only [number?, hdigit, Option.bind_eq_bind, Option.bind_eq_some_iff,
      Option.ite_none_left_eq_some, not_or, Bool.not_eq_true, Nat.not_le, Option.some.injEq,
      Prod.mk.injEq, exists_eq_left', and_assoc]
    constructor
    · rintro ⟨value, hvalue, hzero, hword, rfl, hrest⟩
      exact ⟨hrest, hvalue, hzero, hword⟩
    · rintro ⟨hrest, hvalue, hzero, hword⟩
      exact ⟨n, hvalue, hzero, hword, rfl, hrest⟩
  simp only [hread, takeWhile_eq_iff, unsigned?_and_hasLeadingZero_iff]
  constructor
  · rintro ⟨_, ⟨hcs, -, hstop⟩, rfl, hword⟩
    exact ⟨hcs, hword, hstop⟩
  · rintro ⟨hcs, hword, hstop⟩
    exact ⟨_, ⟨hcs, fun c hc => Nat.isDigit_of_mem_toDigits (by decide) (by decide) hc, hstop⟩, rfl,
      hword⟩

/-- Characters go on after a dot when they begin with one. -/
theorem afterDot?_eq_some_iff : afterDot? cs = some rest ↔ cs = '.' :: rest := by
  unfold afterDot?
  split
  · rw [Option.some.injEq, List.cons.injEq, eq_self_iff_true, true_and]
  · next hdot => exact ⟨nofun, fun h => absurd h (hdot rest)⟩

/-- Parts that are joined by dots are the pieces between the dots. -/
theorem splitAtDots_joined (hformed : ∀ p ∈ ps, p.Formed) (hne : ps ≠ []) :
    splitAtDots (joined ps) = ps.map chars := by
  rw [splitAtDots_eq]
  refine List.splitOn_intercalate '.' (fun piece hpiece hdot => ?_) (by simpa using hne)
  obtain ⟨p, hp, rfl⟩ := List.mem_map.mp hpiece
  exact absurd ((hformed p hp).isPartChar '.' hdot) (by decide)

/-- Characters of parts and dots are parts joined by dots when these are formed by the rules. -/
theorem mapM_splitAtDots_eq_some_iff (hchars : ∀ c ∈ cs, (isPartChar c || c == '.') = true) :
    (splitAtDots cs).mapM ofChars? = some ps ↔
      joined ps = cs ∧ ps ≠ [] ∧ ∀ p ∈ ps, p.Formed := by
  have hpieces : ∀ piece ∈ splitAtDots cs, ∀ c ∈ piece, isPartChar c = true := by
    intro piece hpiece c hc
    obtain ⟨hmem, hdot⟩ := mem_of_mem_splitAtDots hpiece hc
    simpa [hdot] using hchars c hmem
  rw [mapM_ofChars?_eq_some_iff hpieces]
  constructor
  · rintro ⟨hformed, hcut⟩
    rw [splitAtDots_eq] at hcut
    refine ⟨?_, ?_, hformed⟩
    · rw [joined, hcut]
      exact List.intercalate_splitOn '.'
    · rintro rfl
      exact List.splitOn_ne_nil _ _ hcut.symm
  · rintro ⟨rfl, hne, hformed⟩
    exact ⟨hformed, (splitAtDots_joined hformed hne).symm⟩

/-- The characters of parts joined by dots are those of parts and dots. -/
theorem isPartChar_or_of_mem_joined (hformed : ∀ p ∈ ps, p.Formed) :
    ∀ c ∈ joined ps, (isPartChar c || c == '.') = true := by
  induction ps with
  | nil => nofun
  | cons p ps ih =>
    intro c hc
    have hp := (hformed p List.mem_cons_self).isPartChar
    cases ps with
    | nil =>
      rw [joined, List.map_cons, List.map_nil, List.intercalate_singleton] at hc
      rw [hp c hc, Bool.true_or]
    | cons q ps =>
      rw [joined, List.map_cons, List.map_cons, List.intercalate_cons_cons, List.append_assoc,
        List.mem_append, List.mem_append, List.mem_singleton] at hc
      rcases hc with hc | rfl | hc
      · rw [hp c hc, Bool.true_or]
      · rfl
      · exact ih (fun r hr => hformed r (List.mem_cons_of_mem _ hr)) c hc

/-- Parts are read off when the characters begin with them, there are some, they are formed by the
rules and nothing that could belong to a part follows. -/
theorem parts?_eq_some_iff {leadingZeros : Bool} :
    parts? leadingZeros cs = some (ps, rest) ↔
      cs = joined ps ++ rest ∧ ps ≠ [] ∧ (∀ p ∈ ps, p.Formed ∧ (leadingZeros = true ∨ p.Plain)) ∧
        ∀ c ∈ rest.head?, (isPartChar c || c == '.') = false := by
  have hread : parts? leadingZeros cs = some (ps, rest) ↔
      ∃ text, (cs.takeWhile (fun c => isPartChar c || c == '.') = text ∧
        cs.drop text.length = rest) ∧ (splitAtDots text).mapM ofChars? = some ps ∧
        (!leadingZeros && (splitAtDots text).any hasLeadingZero) = false := by
    simp only [parts?, Option.bind_eq_bind, Option.ite_none_left_eq_some, Option.bind_eq_some_iff,
      Bool.not_eq_true, Option.some.injEq, Prod.mk.injEq, exists_eq_left', and_assoc]
    constructor
    · rintro ⟨hzeros, parts, hparts, rfl, hrest⟩
      exact ⟨hrest, hparts, hzeros⟩
    · rintro ⟨hrest, hparts, hzeros⟩
      exact ⟨hzeros, ps, hparts, rfl, hrest⟩
  rw [hread]
  simp only [takeWhile_eq_iff, forall₂_and]
  constructor
  · rintro ⟨text, ⟨hcs, hchars, hstop⟩, hparts, hplain⟩
    obtain ⟨rfl, hne, hformed⟩ := (mapM_splitAtDots_eq_some_iff hchars).mp hparts
    rw [splitAtDots_joined hformed hne, not_and_any_hasLeadingZero_iff hformed] at hplain
    exact ⟨hcs, hne, ⟨hformed, hplain⟩, hstop⟩
  · rintro ⟨hcs, hne, ⟨hformed, hplain⟩, hstop⟩
    have hchars := isPartChar_or_of_mem_joined hformed
    refine ⟨_, ⟨hcs, hchars, hstop⟩,
      (mapM_splitAtDots_eq_some_iff hchars).mpr ⟨rfl, hne, hformed⟩, ?_⟩
    rw [splitAtDots_joined hformed hne]
    exact (not_and_any_hasLeadingZero_iff hformed).mpr hplain

/-- Parts are read off after their mark when the characters begin with both, unless the list is
empty: then the characters do not begin with the mark. -/
theorem partsAfter?_eq_some_iff {mark : Char} {leadingZeros : Bool} :
    partsAfter? mark leadingZeros cs = some (ps, rest) ↔
      cs = marked mark ps ++ rest ∧
        (∀ p ∈ ps, p.Formed ∧ (leadingZeros = true ∨ p.Plain)) ∧
        if ps = [] then ∀ c ∈ rest.head?, c ≠ mark
        else ∀ c ∈ rest.head?, (isPartChar c || c == '.') = false := by
  cases cs with
  | nil =>
    cases ps with
    | nil => grind [partsAfter?, marked]
    | cons p ps => simp [partsAfter?, marked]
  | cons c cs =>
    rw [partsAfter?]
    by_cases hmark : c = mark
    · subst hmark
      rw [if_pos rfl, parts?_eq_some_iff]
      cases ps with
      | nil => grind [marked]
      | cons p ps => simp [marked]
    · rw [if_neg hmark, Option.some.injEq, Prod.mk.injEq]
      cases ps with
      | nil => grind [marked]
      | cons p ps => simp [marked, hmark]

/-- What begins with parts after a mark begins with the mark, unless there are none. -/
theorem head?_marked_append {mark c : Char} (hc : c ∈ (marked mark ps ++ rest).head?) :
    c = mark ∨ c ∈ rest.head? := by
  cases ps with
  | nil => exact .inr hc
  | cons p ps => exact .inl (Option.some.inj hc).symm

/-- Reading is the inverse of writing: a text names a version when it is the text of that version. -/
theorem ofString?_eq_some_iff {s : String} {v : Version} :
    ofString? s = some v ↔ v.Formed ∧ v.text = s := by
  simp only [ofString?, Option.bind_eq_bind, Option.bind_eq_some_iff, Prod.exists,
    number?_eq_some_iff, afterDot?_eq_some_iff, partsAfter?_eq_some_iff, List.isEmpty_iff,
    Option.ite_none_right_eq_some, Option.some.injEq]
  constructor
  · rintro ⟨major, _, ⟨hs, hmajor, -⟩, _, rfl, minor, _, ⟨rfl, hminor, -⟩, _, rfl, patch, _,
      ⟨rfl, hpatch, -⟩, preRelease, _, ⟨rfl, hpre, -⟩, build, _, ⟨rfl, hbuild, -⟩, rfl, rfl⟩
    refine ⟨⟨hmajor, hminor, hpatch, fun p hp => ?_, fun p hp => (hbuild p hp).1⟩, ?_⟩
    · exact ⟨(hpre p hp).1, (hpre p hp).2.resolve_left Bool.false_ne_true⟩
    · rw [text, ← String.ofList_toList (s := s), hs, List.append_nil]
  · rintro ⟨h, rfl⟩
    -- after each number and each list of parts stands a mark that could not have belonged to it
    have hdot (cs : List Char) : ∀ c ∈ ('.' :: cs).head?, c.isDigit = false := by
      intro c hc
      obtain rfl := Option.some.inj hc
      rfl
    have hbuild : ∀ c ∈ (marked '+' v.build ++ []).head?, c = '+' := by
      intro c hc
      exact (head?_marked_append hc).resolve_right nofun
    have hpre : ∀ c ∈ (marked '-' v.preRelease ++ (marked '+' v.build ++ [])).head?,
        c.isDigit = false := by
      intro c hc
      rcases head?_marked_append hc with rfl | hc
      · rfl
      · rw [hbuild c hc]
        rfl
    refine ⟨v.major, _, ⟨?_, h.major, hdot _⟩, _, rfl, v.minor, _, ⟨rfl, h.minor, hdot _⟩, _, rfl,
      v.patch, _, ⟨rfl, h.patch, hpre⟩, v.preRelease, _, ⟨rfl, fun p hp => ?_, ?_⟩, v.build, [],
      ⟨rfl, fun p hp => ⟨h.build p hp, .inl trivial⟩, ?_⟩, rfl, rfl⟩
    · rw [text, String.toList_ofList, List.append_nil]
    · exact ⟨(h.preRelease p hp).1, .inr (h.preRelease p hp).2⟩
    · split
      all_goals
        intro c hc
        rw [hbuild c hc]
        decide
    · split <;> nofun

end Version

end ShuffleMint
