import Mathlib.Data.List.Lex
import Mathlib.Data.Prod.Lex
import Mathlib.Data.String.Basic
import Mathlib.Data.Sum.Order
import Mathlib.Order.Compare
import ShuffleMint.Version

/-!
# The order of versions

Versions are compared by major, minor and patch number, then by their pre-releases, then by their
builds. Lists of parts are in the order of the dictionary, except that a version without a
pre-release comes after those that have one. This is a linear order: two versions compare as equal
only when they are the same, builds included.
-/

namespace ShuffleMint

section Lexicographic

variable {α β : Type} [LinearOrder α] [LinearOrder β]

/-- Comparing by one key and then by another is comparing the pairs of both. -/
theorem compares_then {a a' : α} {b b' : β} {o o' : Ordering} (h : o.Compares a a')
    (h' : o'.Compares b b') : (o.then o').Compares (toLex (a, b)) (toLex (a', b')) := by
  cases o with
  | lt => exact Prod.Lex.toLex_lt_toLex.mpr (.inl h)
  | gt => exact Prod.Lex.toLex_lt_toLex.mpr (.inl h)
  | eq =>
    obtain rfl : a = a' := h
    cases o' with
    | lt => exact Prod.Lex.toLex_lt_toLex.mpr (.inr ⟨rfl, h'⟩)
    | gt => exact Prod.Lex.toLex_lt_toLex.mpr (.inr ⟨rfl, h'⟩)
    | eq => exact congrArg (fun b => toLex (a, b)) h'

/-- Lists in the order of the dictionary are ordered as pairs of their first entry and the rest. -/
theorem cons_strictMono : StrictMono fun x : α ×ₗ List α => (ofLex x).1 :: (ofLex x).2 :=
  fun _ _ h => List.cons_lt_cons_iff.mpr (Prod.Lex.lt_iff.mp h)

end Lexicographic

namespace VersionPart

/-- What parts are ordered by. -/
def key : VersionPart → (ℕ ×ₗ ℕ) ⊕ₗ String
  | digits value length => Sum.inlₗ (toLex (value, length))
  | word s => Sum.inrₗ s

/-- A part is told by its key. -/
theorem key_injective : Function.Injective key := by
  intro p q h
  cases p <;> cases q <;> simp_all [key]

instance : LinearOrder VersionPart := LinearOrder.lift' key key_injective

/-- Parts compare as in their linear order. -/
theorem order_compares (p q : VersionPart) : (p.order q).Compares p q := by
  have hkey : StrictMono key := fun _ _ h => h
  refine hkey.compares.mp ?_
  cases p with
  | digits v l =>
    cases q with
    | digits v' l' =>
      exact Sum.Lex.inl_strictMono.compares.mpr
        (compares_then ((compare_iff v v').mp rfl) ((compare_iff l l').mp rfl))
    | word s => exact Sum.Lex.inl_lt_inr _ _
  | word s =>
    cases q with
    | digits v l => exact Sum.Lex.inl_lt_inr _ _
    | word s' => exact Sum.Lex.inr_strictMono.compares.mpr ((compare_iff s s').mp rfl)

/-- Lists of parts compare as in the order of the dictionary. -/
theorem orderList_compares (ps qs : List VersionPart) : (orderList ps qs).Compares ps qs := by
  induction ps generalizing qs with
  | nil =>
    cases qs with
    | nil => rfl
    | cons q qs => exact List.nil_lt_cons q qs
  | cons p ps ih =>
    cases qs with
    | nil => exact List.nil_lt_cons p ps
    | cons q qs =>
      exact cons_strictMono.compares.mpr (compares_then (order_compares p q) (ih qs))

/-- Pre-releases compare as in the order of the dictionary, with none after all of them. -/
theorem orderPreRelease_compares (ps qs : List VersionPart) :
    (orderPreRelease ps qs).Compares (toLex (ps.isEmpty, ps)) (toLex (qs.isEmpty, qs)) := by
  have hnone (p : VersionPart) (ps : List VersionPart) :
      toLex ((p :: ps).isEmpty, p :: ps) < toLex (([] : List VersionPart).isEmpty, []) :=
    Prod.Lex.toLex_lt_toLex.mpr (.inl Bool.false_lt_true)
  cases ps with
  | nil =>
    cases qs with
    | nil => rfl
    | cons q qs => exact hnone q qs
  | cons p ps =>
    cases qs with
    | nil => exact hnone p ps
    | cons q qs =>
      exact compares_then (o := .eq) rfl (orderList_compares (p :: ps) (q :: qs))

end VersionPart

namespace Version

/-- What versions are ordered by. -/
def key (v : Version) :
    (((ℕ ×ₗ ℕ) ×ₗ ℕ) ×ₗ (Bool ×ₗ List VersionPart)) ×ₗ List VersionPart :=
  toLex (toLex (toLex (toLex (v.major, v.minor), v.patch),
    toLex (v.preRelease.isEmpty, v.preRelease)), v.build)

/-- A version is told by its key. -/
theorem key_injective : Function.Injective key := by
  intro a b h
  cases a
  cases b
  simp_all [key]

instance : LinearOrder Version := LinearOrder.lift' key key_injective

/-- Versions compare as in their linear order. -/
theorem order_compares (a b : Version) : (a.order b).Compares a b := by
  have hkey : StrictMono key := fun _ _ h => h
  refine hkey.compares.mp ?_
  exact compares_then (compares_then (compares_then (compares_then
    ((compare_iff a.major b.major).mp rfl) ((compare_iff a.minor b.minor).mp rfl))
    ((compare_iff a.patch b.patch).mp rfl))
    (VersionPart.orderPreRelease_compares a.preRelease b.preRelease))
    (VersionPart.orderList_compares a.build b.build)

/-- A version is before another by its numbers, or they are the same and it is by its pre-release,
where any comes before none, or this is the same and it is by its build. -/
theorem lt_iff {a b : Version} :
    a < b ↔ a.major < b.major ∨ a.major = b.major ∧ (a.minor < b.minor ∨ a.minor = b.minor ∧
      (a.patch < b.patch ∨ a.patch = b.patch ∧
        (a.preRelease ≠ [] ∧ (b.preRelease = [] ∨ a.preRelease < b.preRelease) ∨
          a.preRelease = b.preRelease ∧ a.build < b.build))) := by
  have hkey : a < b ↔ a.key < b.key := Iff.rfl
  have hpre : toLex (a.preRelease.isEmpty, a.preRelease) <
      toLex (b.preRelease.isEmpty, b.preRelease) ↔
      a.preRelease ≠ [] ∧ (b.preRelease = [] ∨ a.preRelease < b.preRelease) := by
    rw [Prod.Lex.toLex_lt_toLex]
    cases a.preRelease <;> cases b.preRelease <;> simp
  rw [hkey]
  simp only [key, Prod.Lex.toLex_lt_toLex, toLex_inj, Prod.mk.injEq, hpre]
  grind

/-- A version is no later than a release when its numbers come before those of the release, or are
the same and it is a pre-release or the release itself, but not a build of it. -/
theorem le_release_iff {v : Version} {major minor patch : ℕ} :
    v ≤ ⟨major, minor, patch, [], []⟩ ↔
      v.major < major ∨ v.major = major ∧ (v.minor < minor ∨ v.minor = minor ∧
        (v.patch < patch ∨ v.patch = patch ∧ (v.preRelease ≠ [] ∨ v.build = []))) := by
  have hbuild : [] < v.build ↔ v.build ≠ [] := by
    cases v.build <;> simp
  rw [← not_lt, lt_iff]
  simp only [hbuild]
  grind

end Version

end ShuffleMint
