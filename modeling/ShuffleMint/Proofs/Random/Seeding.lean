import Mathlib.Algebra.GroupWithZero.Nat
import Mathlib.Data.List.Forall2
import ShuffleMint.Entropy
import ShuffleMint.Proofs.Text.ByteOrder
import ShuffleMint.Proofs.Text.Numeral

/-!
# What tells seeds apart

The text that a shuffle is seeded with is the sender and three numbers in decimal, with nothing
between them. It does not tell where one part ends and the next begins, so two calls can have the
same text. Where at most one part differs in length, the text tells the parts, and calls that differ
share a seed only if the digests of their texts agree on the first half. Where more parts differ in
length and the texts do not, some calls with parts of these lengths have one text.
-/

namespace ShuffleMint

/-- A digest has thirty-two bytes. -/
theorem Sha256.length_digest (message : List UInt8) : (Sha256.digest message).length = 32 := rfl

/-- What a shuffle is seeded with. -/
structure SeedOrigin where
  sender : Address
  height : Nat
  time : Nat
  place : Nat
  deriving DecidableEq

/-- In how many places two lists of numbers differ. -/
def differences (ms ns : List Nat) : Nat := (ms.zip ns).countP fun e => e.1 ≠ e.2

/-- A list does not differ from itself. -/
theorem differences_self (ns : List Nat) : differences ns ns = 0 := by
  induction ns with
  | nil => rfl
  | cons n ns ih => simpa [differences] using ih

/-- Lists of one length that differ nowhere are the same. -/
theorem eq_of_differences_eq_zero {ms ns : List Nat} (hlength : ms.length = ns.length)
    (h : differences ms ns = 0) : ms = ns := by
  rw [← List.forall₂_eq_eq_eq, List.forall₂_iff_zip]
  refine ⟨hlength, fun {m n} hmem => ?_⟩
  have hsame := List.countP_eq_zero.mp h (m, n) hmem
  simpa using hsame

/-- Lists of one length and one sum do not differ in one place only. -/
theorem eq_of_differences_le_one {ms ns : List Nat} (hlength : ms.length = ns.length)
    (hsum : ms.sum = ns.sum) (h : differences ms ns ≤ 1) : ms = ns := by
  induction ms generalizing ns with
  | nil => exact (List.length_eq_zero_iff.mp hlength.symm).symm
  | cons m ms ih =>
    cases ns with
    | nil => cases hlength
    | cons n ns =>
      have hrest : ms.length = ns.length := Nat.succ.inj hlength
      rw [List.sum_cons, List.sum_cons] at hsum
      rw [differences, List.zip_cons_cons, List.countP_cons, ← differences] at h
      by_cases hfirst : m = n
      · subst hfirst
        rw [ih hrest (Nat.add_left_cancel hsum) (by omega)]
      · -- the others differ nowhere, and then the sums do
        rw [if_pos (decide_eq_true hfirst)] at h
        obtain rfl := eq_of_differences_eq_zero hrest (by omega)
        exact absurd (Nat.add_right_cancel hsum) hfirst

namespace SeedOrigin

variable {a b : SeedOrigin}

/-- The parts of a text: the sender and the three numbers in decimal. -/
def parts (o : SeedOrigin) : List (List Char) :=
  [o.sender.toList, Nat.toDigits 10 o.height, Nat.toDigits 10 o.time, Nat.toDigits 10 o.place]

/-- The lengths of the parts. -/
def lengths (o : SeedOrigin) : List Nat := o.parts.map List.length

/-- At most one part differs in length. -/
def CutAlike (a b : SeedOrigin) : Prop := differences a.lengths b.lengths ≤ 1

instance : Decidable (a.CutAlike b) := inferInstanceAs (Decidable (_ ≤ 1))

/-- Origins whose parts have the same lengths are cut alike. -/
theorem cutAlike_of_lengths_eq (h : a.lengths = b.lengths) : a.CutAlike b := by
  rw [CutAlike, h, differences_self]
  exact Nat.zero_le _

/-- Origins are told by their parts. -/
theorem parts_injective : Function.Injective parts := by
  intro a b h
  simp only [parts, List.cons.injEq, String.toList_inj, and_true] at h
  obtain ⟨hsender, hheight, htime, hplace⟩ := h
  have hnumber {m n : Nat} (h : Nat.toDigits 10 m = Nat.toDigits 10 n) : m = n := by
    have hread := Numeral.unsigned?_toDigits m
    rw [h, Numeral.unsigned?_toDigits] at hread
    exact (Option.some.inj hread).symm
  cases a
  cases b
  rw [SeedOrigin.mk.injEq]
  exact ⟨hsender, hnumber hheight, hnumber htime, hnumber hplace⟩

/-- Origins that are cut alike are told by their parts one after the other. -/
theorem eq_of_flatten_parts (hcut : a.CutAlike b) (h : a.parts.flatten = b.parts.flatten) :
    a = b := by
  refine parts_injective (List.eq_iff_flatten_eq.mpr ⟨h, ?_⟩)
  refine eq_of_differences_le_one rfl ?_ hcut
  rw [← List.length_flatten, ← List.length_flatten, h]

/-- A numeral of so many ones. -/
def ones (digits : Nat) : Nat := Nat.ofDigitChars 10 (List.replicate digits '1') 0

/-- A numeral of ones is written with ones. -/
theorem toDigits_ones {digits : Nat} (h : 0 < digits) :
    Nat.toDigits 10 (ones digits) = List.replicate digits '1' := by
  obtain ⟨more, rfl⟩ := Nat.exists_eq_add_one_of_ne_zero (Nat.ne_of_gt h)
  have hone (c : Char) (hc : c ∈ List.replicate more '1') : c.isDigit = true := by
    rw [List.eq_of_mem_replicate hc]
    rfl
  rw [ones, List.replicate_succ, Nat.ofDigitChars_cons]
  exact Numeral.toDigits_ofDigitChars hone (by decide)

/-- The origin with parts of the same lengths that are made of ones. -/
def allOnes (o : SeedOrigin) : SeedOrigin where
  sender := String.ofList (List.replicate o.sender.toList.length '1')
  height := ones (Nat.toDigits 10 o.height).length
  time := ones (Nat.toDigits 10 o.time).length
  place := ones (Nat.toDigits 10 o.place).length

theorem parts_allOnes (o : SeedOrigin) :
    o.allOnes.parts = o.lengths.map fun length => List.replicate length '1' := by
  have hnumber (n : Nat) := toDigits_ones (Nat.length_toDigits_pos (b := 10) (n := n))
  simp only [parts, allOnes, lengths, hnumber, String.toList_ofList, List.map_cons, List.map_nil]

/-- The parts of ones have the lengths that they are made for. -/
theorem lengths_allOnes (o : SeedOrigin) : o.allOnes.lengths = o.lengths := by
  rw [lengths, parts_allOnes, List.map_map]
  conv_rhs => rw [← List.map_id o.lengths]
  exact List.map_congr_left fun length _ => List.length_replicate

/-- The parts of ones one after the other are ones. -/
theorem flatten_parts_allOnes (o : SeedOrigin) :
    o.allOnes.parts.flatten = List.replicate o.lengths.sum '1' := by
  refine List.eq_replicate_iff.mpr ⟨?_, fun c hc => ?_⟩
  · rw [List.length_flatten, ← lengths, lengths_allOnes]
  · rw [parts_allOnes] at hc
    obtain ⟨part, hpart, hc⟩ := List.mem_flatten.mp hc
    obtain ⟨length, -, rfl⟩ := List.mem_map.mp hpart
    exact List.eq_of_mem_replicate hc

end SeedOrigin

namespace Env

variable {env env' : Env} {sender sender' : Address}

/-- What a call seeds a shuffle with. A call outside of a block has the first place. -/
def origin (env : Env) (sender : Address) : SeedOrigin :=
  ⟨sender, env.height, env.time, env.transaction.getD 0⟩

/-- The text of a seed is the parts of its origin one after the other. -/
theorem toList_entropyText (env : Env) (sender : Address) :
    (env.entropyText sender).toList = (env.origin sender).parts.flatten := by
  simp [entropyText, origin, SeedOrigin.parts, Nat.toString_eq_repr]

/-- A seed is the first half of the digest of its text. -/
theorem toList_entropy (env : Env) (sender : Address) :
    (env.entropy sender).toList =
      (Sha256.digest (utf8Bytes (env.entropyText sender))).take 16 := by
  have hlength := Sha256.length_digest (utf8Bytes (env.entropyText sender))
  simp only [entropy, toList_toUTF8]
  refine List.ext_getElem (by simp [hlength]) fun i hi hi' => ?_
  rw [List.length_take, hlength] at hi'
  have hbound : i < (Sha256.digest (utf8Bytes (env.entropyText sender))).length := by omega
  simp [List.getElem?_eq_getElem hbound]

/-- Texts of calls whose origins are cut alike are the same only where the origins are. -/
theorem origin_eq_of_entropyText_eq (hcut : (env.origin sender).CutAlike (env'.origin sender'))
    (h : env.entropyText sender = env'.entropyText sender') :
    env.origin sender = env'.origin sender' := by
  refine SeedOrigin.eq_of_flatten_parts hcut ?_
  rw [← toList_entropyText, ← toList_entropyText, h]

/-- Every origin is that of a call. -/
theorem exists_origin_eq (o : SeedOrigin) : ∃ (env : Env) (sender : Address), env.origin sender = o :=
  ⟨⟨o.time, o.height, some o.place, ""⟩, o.sender, rfl⟩

/-- Of any two ways to cut texts of one length there are calls with one text. -/
theorem exists_entropyText_eq {a b : SeedOrigin} (hcuts : a.lengths ≠ b.lengths)
    (hsum : a.lengths.sum = b.lengths.sum) :
    ∃ (env₁ env₂ : Env) (caller₁ caller₂ : Address),
      (env₁.origin caller₁).lengths = a.lengths ∧ (env₂.origin caller₂).lengths = b.lengths ∧
        env₁.origin caller₁ ≠ env₂.origin caller₂ ∧
        env₁.entropyText caller₁ = env₂.entropyText caller₂ := by
  obtain ⟨env₁, caller₁, h₁⟩ := exists_origin_eq a.allOnes
  obtain ⟨env₂, caller₂, h₂⟩ := exists_origin_eq b.allOnes
  refine ⟨env₁, env₂, caller₁, caller₂, ?_, ?_, fun hsame => hcuts ?_, String.toList_inj.mp ?_⟩
  · rw [h₁, SeedOrigin.lengths_allOnes]
  · rw [h₂, SeedOrigin.lengths_allOnes]
  · rw [h₁, h₂] at hsame
    rw [← SeedOrigin.lengths_allOnes, hsame, SeedOrigin.lengths_allOnes]
  · rw [toList_entropyText, toList_entropyText, h₁, h₂, SeedOrigin.flatten_parts_allOnes,
      SeedOrigin.flatten_parts_allOnes, hsum]

end Env

/-- The text of a seed tells its origin among those that are cut alike, so that calls of different
origins share a seed only where the digests of two texts agree on their first half. Among those that
are not cut alike it does not: of any two with texts of the same length there are calls with parts of
the same lengths, and with one text. -/
theorem seed_text_tells_origins_cut_alike (env env' : Env) (sender sender' : Address) :
    ((env.origin sender).CutAlike (env'.origin sender') →
      (env.entropyText sender = env'.entropyText sender' →
        env.origin sender = env'.origin sender') ∧
      (env.entropy sender = env'.entropy sender' → env.origin sender ≠ env'.origin sender' →
        utf8Bytes (env.entropyText sender) ≠ utf8Bytes (env'.entropyText sender') ∧
          (Sha256.digest (utf8Bytes (env.entropyText sender))).take 16 =
            (Sha256.digest (utf8Bytes (env'.entropyText sender'))).take 16)) ∧
    (¬ (env.origin sender).CutAlike (env'.origin sender') →
      (env.origin sender).lengths.sum = (env'.origin sender').lengths.sum →
      ∃ (env₁ env₂ : Env) (caller₁ caller₂ : Address),
        (env₁.origin caller₁).lengths = (env.origin sender).lengths ∧
        (env₂.origin caller₂).lengths = (env'.origin sender').lengths ∧
        env₁.origin caller₁ ≠ env₂.origin caller₂ ∧
        env₁.entropyText caller₁ = env₂.entropyText caller₂) := by
  refine ⟨fun hcut => ⟨Env.origin_eq_of_entropyText_eq hcut, fun hseed hother => ⟨?_, ?_⟩⟩, ?_⟩
  · intro hbytes
    exact hother (Env.origin_eq_of_entropyText_eq hcut (utf8Bytes_inj.mp hbytes))
  · rw [← Env.toList_entropy, ← Env.toList_entropy, hseed]
  · intro hcut hsum
    exact Env.exists_entropyText_eq (fun hsame => hcut (SeedOrigin.cutAlike_of_lengths_eq hsame)) hsum

namespace Env

/-- A call at some place of a block. -/
def early (place : Nat) : Env := ⟨1111111111111111111, 12345, some place, "mint"⟩

/-- A call at the first place of another block of the same instant. -/
def late : Env := ⟨1111111111111111111, 123451, some 0, "mint"⟩

end Env

/-- Calls of one sender at two places of a block have two texts, and there are calls with one text
that are cut like the eleventh call of a block and the first of a block with a longer height. -/
theorem seed_text_tells_origins_cut_alike_neighbours :
    (((Env.early 3).origin "creator").CutAlike ((Env.early 4).origin "creator") ∧
      (Env.early 3).entropyText "creator" ≠ (Env.early 4).entropyText "creator") ∧
    ¬ ((Env.early 10).origin "creator").CutAlike (Env.late.origin "creator") ∧
    ∃ (env₁ env₂ : Env) (caller₁ caller₂ : Address),
      (env₁.origin caller₁).lengths = [7, 5, 19, 2] ∧ (env₂.origin caller₂).lengths = [7, 6, 19, 1] ∧
        env₁.entropyText caller₁ = env₂.entropyText caller₂ := by
  have hneighbours :
      ((Env.early 3).origin "creator").CutAlike ((Env.early 4).origin "creator") := by
    decide +kernel
  have happart : ¬ ((Env.early 10).origin "creator").CutAlike (Env.late.origin "creator") := by
    decide +kernel
  refine ⟨⟨hneighbours, fun htext => ?_⟩, happart, ?_⟩
  · have horigin := ((seed_text_tells_origins_cut_alike _ _ _ _).1 hneighbours).1 htext
    exact absurd horigin (by decide)
  · obtain ⟨env₁, env₂, caller₁, caller₂, h₁, h₂, -, htext⟩ :=
      (seed_text_tells_origins_cut_alike _ _ _ _).2 happart (by decide +kernel)
    exact ⟨env₁, env₂, caller₁, caller₂, h₁.trans (by decide +kernel), h₂.trans (by decide +kernel),
      htext⟩

/-- The text of a seed does not tell its origin: a digit can end the height or begin the time. -/
theorem seed_text_not_injective :
    ¬ ∀ (env env' : Env) (sender sender' : Address),
      env.entropyText sender = env'.entropyText sender' →
        env.origin sender = env'.origin sender' := by
  intro hinjective
  have htext : (Env.early 10).entropyText "creator" = Env.late.entropyText "creator" := by
    decide +kernel
  exact absurd (hinjective _ _ _ _ htext) (by decide)

end ShuffleMint
