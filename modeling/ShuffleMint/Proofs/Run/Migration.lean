import ShuffleMint.Proofs.Run.CleanFailure
import ShuffleMint.Proofs.Version.Grammar
import ShuffleMint.Proofs.Version.Order

/-!
# Migration

A mint migrates when the name stored with it is this one and the version stored with it can be read
and is no later than this one. It then has this version and is otherwise as before, so that another
migration finds nothing to do. Every version has one text, so a mint of an equal version has the
current text stored already, and it makes no difference that nothing is written for it.
-/

namespace ShuffleMint

variable {s t : Store} {stored : ContractInfo} {v : Version} {r : Response}

/-- The current version can be read. -/
theorem ofString?_current :
    Version.ofString? ContractInfo.current.version = some ⟨0, 2, 0, [], []⟩ := rfl

/-- A mint of this name and of a version that can be read migrates as the comparison with the current
version tells. -/
theorem migrate_apply (hstored : s.contractInfo = some stored)
    (hname : stored.contract = ContractInfo.current.contract)
    (hread : Version.ofString? stored.version = some v) :
    migrate s =
      match v.order ⟨0, 2, 0, [], []⟩ with
      | .gt => (.error (.rejected (.general .laterVersion)), s)
      | .eq => (.ok (Response.silent []), s)
      | .lt => (.ok (Response.silent [("action", "migrate"), ("from_version", stored.version),
          ("to_version", ContractInfo.current.version)]),
          { s with contractInfo := some ContractInfo.current }) := by
  have hrequire : Store.require Store.contractInfo s = (.ok stored, s) :=
    Store.require_eq_ok_iff.mpr ⟨hstored, rfl⟩
  rw [migrate, Step.bind_of_ok hrequire, if_neg (not_not.mpr hname), hread, ofString?_current]
  simp only
  cases v.order ⟨0, 2, 0, [], []⟩ <;> rfl

/-- A mint of the current version has nothing to migrate. -/
theorem migrate_of_current (hcurrent : s.contractInfo = some ContractInfo.current) :
    migrate s = (.ok (Response.silent []), s) := by
  rw [migrate_apply hcurrent rfl ofString?_current]
  rfl

/-- A migration succeeds on a mint of this name and of a version that can be read and is no later
than the current one. -/
theorem migrate_isOk_iff (hstored : s.contractInfo = some stored) :
    (∃ r t, migrate s = (.ok r, t)) ↔
      stored.contract = ContractInfo.current.contract ∧
        ∃ v, Version.ofString? stored.version = some v ∧ v ≤ ⟨0, 2, 0, [], []⟩ := by
  constructor
  · rintro ⟨r, t, h⟩
    obtain ⟨stored', old, new, hstored', hname, hread, hcurrent, hcase, -⟩ := migrate_eq_ok h
    obtain rfl := Option.some.inj (hstored.symm.trans hstored')
    obtain rfl := Option.some.inj (ofString?_current.symm.trans hcurrent)
    refine ⟨hname, old, hread, (Version.order_compares old _).ne_gt.mp ?_⟩
    rcases hcase with ⟨horder, -⟩ | ⟨horder, -⟩ <;> rw [horder] <;> decide
  · rintro ⟨hname, v, hread, hle⟩
    have hnotGt := (Version.order_compares v _).ne_gt.mpr hle
    rw [migrate_apply hstored hname hread]
    cases horder : v.order ⟨0, 2, 0, [], []⟩ with
    | gt => exact absurd horder hnotGt
    | eq => exact ⟨_, _, rfl⟩
    | lt => exact ⟨_, _, rfl⟩

/-- After a migration a mint has the current version, and everything else is as it was. -/
theorem eq_of_migrate_eq_ok (h : migrate s = (.ok r, t)) :
    t = { s with contractInfo := some ContractInfo.current } := by
  obtain ⟨⟨name, text⟩, old, new, hstored, hname, hread, hcurrent, ⟨horder, rfl⟩ | ⟨-, ht⟩, -⟩ :=
    migrate_eq_ok h
  · -- an equal version is the same version, and that has no other text
    obtain rfl : old = new := (Version.order_compares old new).eq_eq.mp horder
    obtain rfl : name = ContractInfo.current.contract := hname
    obtain rfl : text = ContractInfo.current.version :=
      (Version.ofString?_eq_some_iff.mp hread).2.symm.trans
        (Version.ofString?_eq_some_iff.mp hcurrent).2
    exact congrArg (fun info => { t with contractInfo := info }) hstored
  · exact ht

/-- Migration never goes back: it succeeds on a mint of this name whose version is formed by the
rules of versions and no later than 0.2.0, where pre-releases come before their release and builds
after it. It then stores version 0.2.0 and changes nothing else, and doing it again changes nothing.
A migration that fails changes nothing. -/
theorem migration_never_goes_back (s : Store) (stored : ContractInfo)
    (hstored : s.contractInfo = some stored) :
    ((∃ r t, Transaction.migration.perform s = (.ok r, t)) ↔
      stored.contract = "crates.io:nft-minter" ∧
        ∃ v : Version, v.Formed ∧ v.text = stored.version ∧ v ≤ ⟨0, 2, 0, [], []⟩) ∧
    (∀ v : Version, v ≤ ⟨0, 2, 0, [], []⟩ ↔ v.major = 0 ∧ (v.minor < 2 ∨
      v.minor = 2 ∧ v.patch = 0 ∧ (v.preRelease ≠ [] ∨ v.build = []))) ∧
    (∀ r t, Transaction.migration.perform s = (.ok r, t) →
      t = { s with contractInfo := some ⟨"crates.io:nft-minter", "0.2.0"⟩ } ∧
        Transaction.migration.perform t = (.ok ⟨[], []⟩, t)) ∧
    ∀ e t, Transaction.migration.perform s = (.error e, t) → t = s := by
  refine ⟨?_, fun v => ?_, fun r t h => ?_, fun e t h => failsOnly_migrate s e t h⟩
  · simp only [← and_assoc, ← Version.ofString?_eq_some_iff]
    exact migrate_isOk_iff hstored
  · simp only [Version.le_release_iff, Nat.not_lt_zero, false_or]
  · obtain rfl := eq_of_migrate_eq_ok h
    exact ⟨rfl, migrate_of_current rfl⟩

namespace FirstSale

/-- The mint with another version stored. -/
def versioned (version : String) : Store :=
  { founded with contractInfo := some ⟨"crates.io:nft-minter", version⟩ }

end FirstSale

/-- A mint of a release candidate migrates, and one of a build of the release does not. -/
theorem migration_never_goes_back_candidate :
    (FirstSale.versioned "0.2.0-rc.1").contractInfo =
        some ⟨"crates.io:nft-minter", "0.2.0-rc.1"⟩ ∧
      (∃ r, Transaction.migration.perform (FirstSale.versioned "0.2.0-rc.1") =
        (.ok r, FirstSale.versioned "0.2.0")) ∧
      (FirstSale.versioned "0.2.0+1").contractInfo = some ⟨"crates.io:nft-minter", "0.2.0+1"⟩ ∧
      ¬ ∃ r t, Transaction.migration.perform (FirstSale.versioned "0.2.0+1") = (.ok r, t) := by
  obtain ⟨hsucceeds, hcurrent, hafter, -⟩ :=
    migration_never_goes_back (FirstSale.versioned "0.2.0-rc.1") ⟨_, "0.2.0-rc.1"⟩ rfl
  refine ⟨rfl, ?_, rfl, fun hdone => ?_⟩
  · have hread : Version.ofString? "0.2.0-rc.1" = some ⟨0, 2, 0, [.word "rc", .digits 1 1], []⟩ :=
      by decide +kernel
    obtain ⟨hformed, htext⟩ := Version.ofString?_eq_some_iff.mp hread
    obtain ⟨r, t, h⟩ := hsucceeds.mpr ⟨rfl, _, hformed, htext, (hcurrent _).mpr (by decide)⟩
    obtain ⟨rfl, -⟩ := hafter r t h
    exact ⟨r, h⟩
  · obtain ⟨-, v, hformed, htext, hle⟩ :=
      (migration_never_goes_back (FirstSale.versioned "0.2.0+1") ⟨_, "0.2.0+1"⟩ rfl).1.mp hdone
    have hread : Version.ofString? "0.2.0+1" = some ⟨0, 2, 0, [], [.digits 1 1]⟩ := by
      decide +kernel
    obtain rfl := Option.some.inj
      (hread.symm.trans (Version.ofString?_eq_some_iff.mpr ⟨hformed, htext⟩))
    exact absurd ((hcurrent _).mp hle) (by decide)

end ShuffleMint
