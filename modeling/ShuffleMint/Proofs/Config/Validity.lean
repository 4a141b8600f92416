import ShuffleMint.Config.Validation
import ShuffleMint.Proofs.StepInversion

/-!
# What a valid configuration is

The checks of a configuration come one after the other and stop at the first that fails. What they
amount to is a conjunction of bounds, with a denomination that is spelled as a letter and some more
characters. Its length is checked in bytes and its characters one by one, which is the same count,
since only characters of one byte pass.
-/

namespace ShuffleMint

namespace Denom

/-- A letter of the denomination. -/
def Letter (c : Char) : Prop := ('a' ≤ c ∧ c ≤ 'z') ∨ ('A' ≤ c ∧ c ≤ 'Z')

/-- A character of the denomination after the first one. -/
def Tail (c : Char) : Prop :=
  Letter c ∨ ('0' ≤ c ∧ c ≤ '9') ∨ c ∈ ['/', ':', '.', '_', '-']

/-- A denomination is a letter and from 2 to 127 more characters. -/
def Spelled (denom : String) : Prop :=
  ∃ first rest, denom.toList = first :: rest ∧ Letter first ∧ (∀ c ∈ rest, Tail c) ∧
    2 ≤ rest.length ∧ rest.length ≤ 127

/-- The check for letters finds the letters. -/
theorem isLetter_iff (c : Char) : isLetter c = true ↔ Letter c := by
  simp [isLetter, Letter]

/-- The check for later characters finds those that may come later. -/
theorem isTail_iff (c : Char) : isTail c = true ↔ Tail c := by
  simp [isTail, Tail, isLetter_iff, or_assoc]

/-- A character that may come later takes one byte. -/
theorem utf8Size_of_tail {c : Char} (h : Tail c) : c.utf8Size = 1 := by
  have hle : c ≤ 'z' := by
    rcases h with (h | h) | h | h
    · exact h.2
    · exact Char.le_trans h.2 (by decide)
    · exact Char.le_trans h.2 (by decide)
    · simp only [List.mem_cons, List.not_mem_nil, or_false] at h
      rcases h with rfl | rfl | rfl | rfl | rfl <;> decide
  rw [Char.utf8Size_eq_one_iff]
  exact UInt32.le_trans hle (by decide)

/-- A text of characters of one byte is as long in bytes as in characters. -/
theorem utf8ByteSize_ofList {cs : List Char} (h : ∀ c ∈ cs, c.utf8Size = 1) :
    (String.ofList cs).utf8ByteSize = cs.length := by
  induction cs with
  | nil => rfl
  | cons c rest ih =>
    have hfirst := h c List.mem_cons_self
    have hrest := ih fun c hc => h c (List.mem_cons_of_mem _ hc)
    rw [String.ofList_cons, String.utf8ByteSize_append, String.utf8ByteSize_singleton, hfirst,
      hrest, List.length_cons, Nat.add_comm]

/-- A denomination that is spelled with its characters has as many bytes. -/
theorem utf8ByteSize_eq {denom : String} {first : Char} {rest : List Char}
    (htext : denom.toList = first :: rest) (hfirst : Letter first) (hrest : ∀ c ∈ rest, Tail c) :
    denom.utf8ByteSize = rest.length + 1 := by
  rw [← String.ofList_toList (s := denom), htext, utf8ByteSize_ofList, List.length_cons]
  intro c hc
  apply utf8Size_of_tail
  rcases List.mem_cons.mp hc with rfl | hc
  · exact .inl hfirst
  · exact hrest c hc

/-- No fault is found in a text exactly when it is spelled as a denomination. -/
theorem fault?_eq_none_iff (denom : String) : fault? denom = none ↔ Spelled denom := by
  have hscan (rest : List Char) :
      (rest.find? fun c => !isTail c).map ConfigFault.denomCharacter = none ↔
        ∀ c ∈ rest, Tail c := by
    simp [isTail_iff]
  unfold fault?
  constructor
  · intro h
    split at h
    · cases h
    · next hsize =>
      split at h
      · cases h
      · next first rest htext =>
        split at h
        · next hletter =>
          have hfirst := (isLetter_iff first).mp hletter
          have hrest := (hscan rest).mp h
          have hbytes := utf8ByteSize_eq htext hfirst hrest
          exact ⟨first, rest, htext, hfirst, hrest, by omega, by omega⟩
        · cases h
  · rintro ⟨first, rest, htext, hfirst, hrest, hleast, hmost⟩
    have hbytes := utf8ByteSize_eq htext hfirst hrest
    rw [if_neg (by omega), htext]
    simp only [(isLetter_iff first).mpr hfirst, if_true]
    exact (hscan rest).mpr hrest

/-- A text is accepted exactly when it is spelled as a denomination. -/
theorem validate_eq_ok_iff {denom : String} {u : Unit} :
    validate denom = .ok u ↔ Spelled denom := by
  rw [← fault?_eq_none_iff, validate]
  cases fault? denom <;> simp

end Denom

/-- The points of shares have a total when their sum is a count. -/
theorem Share.total_eq_ok_iff {shares : List Share} {points : Nat} :
    total shares = .ok points ↔ sumPoints shares < countBound ∧ points = sumPoints shares := by
  unfold total
  split
  · next hbound => simp [hbound, eq_comm]
  · next hbound => simp [hbound]

namespace Royalties

variable {shares : List Share} {u : Unit}

/-- Revenue shares are accepted when they add up to at most a whole and exactly one is primary. -/
theorem validateRevenue_eq_ok_iff :
    validateRevenue shares = .ok u ↔
      Share.sumPoints shares ≤ wholePoints ∧ Share.primaries shares = 1 := by
  have hcount : wholePoints < countBound := by decide
  simp only [validateRevenue, Outcome.bind_eq_ok_iff, Share.total_eq_ok_iff]
  constructor
  · rintro ⟨points, ⟨-, rfl⟩, hrules⟩
    split at hrules
    · cases hrules
    · next hwhole =>
      split at hrules
      · cases hrules
      · next hprimary => exact ⟨Nat.not_lt.mp hwhole, Decidable.not_not.mp hprimary⟩
  · rintro ⟨hwhole, hprimary⟩
    refine ⟨_, ⟨Nat.lt_of_le_of_lt hwhole hcount, rfl⟩, ?_⟩
    rw [if_neg (Nat.not_lt.mpr hwhole), if_neg (Decidable.not_not.mpr hprimary)]

/-- Royalties are accepted when they add up to at most half of a whole and at most one is primary.
-/
theorem validateSecondary_eq_ok_iff :
    validateSecondary shares = .ok u ↔
      Share.sumPoints shares ≤ maxSecondaryPoints ∧ Share.primaries shares ≤ 1 := by
  have hcount : maxSecondaryPoints < countBound := by decide
  simp only [validateSecondary, Outcome.bind_eq_ok_iff, Share.total_eq_ok_iff]
  constructor
  · rintro ⟨points, ⟨-, rfl⟩, hrules⟩
    split at hrules
    · cases hrules
    · next hhalf =>
      split at hrules
      · cases hrules
      · next hprimary => exact ⟨Nat.not_lt.mp hhalf, Nat.not_lt.mp hprimary⟩
  · rintro ⟨hhalf, hprimary⟩
    refine ⟨_, ⟨Nat.lt_of_le_of_lt hhalf hcount, rfl⟩, ?_⟩
    rw [if_neg (Nat.not_lt.mpr hhalf), if_neg (Nat.not_lt.mpr hprimary)]

end Royalties

namespace Config

/-- A configuration whose settings fit together. -/
structure Valid (c : Config) : Prop where
  window : ∀ stop, c.endTime = some stop → c.startTime ≤ stop
  supply : 1 ≤ c.totalSupply ∧ c.totalSupply ≤ 50000
  mintCap : 1 ≤ c.mintCap ∧ c.mintCap ≤ c.totalSupply
  bundleCap : 1 ≤ c.bundleCap ∧ c.bundleCap ≤ c.totalSupply
  denom : Denom.Spelled c.denom
  revenue : Share.sumPoints c.royalties.revenue ≤ 10000 ∧
    Share.primaries c.royalties.revenue = 1
  secondary : Share.sumPoints c.royalties.secondary ≤ 5000 ∧
    Share.primaries c.royalties.secondary ≤ 1

variable {c : Config} {u : Unit}

/-- The window of the sale is accepted when it does not start after it ends. -/
theorem validateWindow_eq_ok_iff :
    c.validateWindow = .ok u ↔ ∀ stop, c.endTime = some stop → c.startTime ≤ stop := by
  unfold validateWindow
  cases c.endTime with
  | none => simp
  | some stop =>
    simp only [Option.some.injEq, forall_eq']
    split
    · next hlate => exact iff_of_false nofun (Nat.not_le.mpr hlate)
    · next hahead => exact iff_of_true rfl (Nat.not_lt.mp hahead)

/-- The number of tokens is accepted when there is one and there are not too many. -/
theorem validateSupply_eq_ok_iff :
    c.validateSupply = .ok u ↔ 1 ≤ c.totalSupply ∧ c.totalSupply ≤ maxSupply := by
  unfold validateSupply
  split
  · next hbounds => simp [hbounds]
  · next hbounds => simp [hbounds]

/-- A cap is accepted when it admits a mint, and no more than there may be or are tokens. -/
theorem validateCap_eq_ok_iff {field : CapField} {cap : Nat} :
    c.validateCap field cap = .ok u ↔ 1 ≤ cap ∧ cap ≤ maxCap ∧ cap ≤ c.totalSupply := by
  unfold validateCap
  split
  · next hbounds =>
    refine iff_of_false nofun ?_
    omega
  · next hbounds =>
    refine iff_of_true rfl ?_
    omega

/-- A configuration is accepted exactly when its settings fit together. -/
theorem validate_eq_ok_iff : c.validate = .ok u ↔ c.Valid := by
  have hsupply : maxSupply = 50000 := rfl
  have hcap : maxCap = 50000 := rfl
  simp only [validate, Outcome.bind_eq_ok_iff, validateWindow_eq_ok_iff, validateSupply_eq_ok_iff,
    validateCap_eq_ok_iff, Denom.validate_eq_ok_iff, Royalties.validateRevenue_eq_ok_iff,
    Royalties.validateSecondary_eq_ok_iff, exists_const]
  constructor
  · rintro ⟨hwindow, htokens, hmint, hbundle, hdenom, hrevenue, hsecondary⟩
    exact ⟨hwindow, htokens, ⟨hmint.1, hmint.2.2⟩, ⟨hbundle.1, hbundle.2.2⟩, hdenom, hrevenue,
      hsecondary⟩
  · rintro ⟨hwindow, htokens, hmint, hbundle, hdenom, hrevenue, hsecondary⟩
    exact ⟨hwindow, htokens, ⟨hmint.1, by omega, hmint.2⟩, ⟨hbundle.1, by omega, hbundle.2⟩, hdenom,
      hrevenue, hsecondary⟩

end Config

end ShuffleMint
