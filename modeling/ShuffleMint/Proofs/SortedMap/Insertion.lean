import Mathlib.Algebra.GroupWithZero.Nat
import Mathlib.Data.List.Nodup
import ShuffleMint.SortedMap.Lemmas

/-!
# Maps built by insertions

Entries inserted one after the other are found again, the last of each key; and a map of amounts
gains by an insertion what the amount at that key gains.
-/

namespace ShuffleMint

namespace SortedMap

variable {κ ν : Type} [Key κ]

/-- Inserting entries with other keys leaves a look-up alone. -/
theorem get?_foldl_insert_of_not_mem {entries : List (κ × ν)} {k : κ}
    (h : k ∉ entries.map Prod.fst) (m : SortedMap κ ν) :
    (entries.foldl (fun m e => m.insert e.1 e.2) m).get? k = m.get? k := by
  induction entries generalizing m with
  | nil => rfl
  | cons e rest ih =>
    rw [List.map_cons, List.mem_cons, not_or] at h
    rw [List.foldl_cons, ih h.2, get?_insert_of_ne m h.1]

/-- Of entries inserted one after the other, with keys of their own, each is found again. -/
theorem get?_foldl_insert_of_mem {entries : List (κ × ν)} (hdistinct : (entries.map Prod.fst).Nodup)
    {k : κ} {v : ν} (h : (k, v) ∈ entries) (m : SortedMap κ ν) :
    (entries.foldl (fun m e => m.insert e.1 e.2) m).get? k = some v := by
  induction entries generalizing m with
  | nil => simp at h
  | cons e rest ih =>
    rw [List.map_cons, List.nodup_cons] at hdistinct
    rw [List.foldl_cons]
    rcases List.mem_cons.mp h with rfl | h
    · rw [get?_foldl_insert_of_not_mem hdistinct.1, get?_insert_self]
    · exact ih hdistinct.2 h _

/-- Of keys inserted one after the other, each with what belongs to it, each is found again. -/
theorem get?_foldl_insert_map [DecidableEq κ] (f : κ → ν) (keys : List κ) (m : SortedMap κ ν)
    (k : κ) :
    (keys.foldl (fun m key => m.insert key (f key)) m).get? k =
      if k ∈ keys then some (f k) else m.get? k := by
  induction keys generalizing m with
  | nil => rfl
  | cons key rest ih =>
    rw [List.foldl_cons, ih, get?_insert]
    by_cases hrest : k ∈ rest
    · simp [hrest]
    · by_cases hkey : k = key <;> simp [hrest, hkey]

/-- A map of entries with keys of their own holds these entries and no others. -/
theorem get?_ofList_eq_some_iff {entries : List (κ × ν)}
    (hdistinct : (entries.map Prod.fst).Nodup) {k : κ} {v : ν} :
    (ofList entries).get? k = some v ↔ (k, v) ∈ entries := by
  refine ⟨fun h => ?_, fun h => get?_foldl_insert_of_mem hdistinct h empty⟩
  by_cases hk : k ∈ entries.map Prod.fst
  · obtain ⟨⟨k', v'⟩, hmem, rfl⟩ := List.mem_map.mp hk
    have hv' := get?_foldl_insert_of_mem hdistinct hmem empty
    rw [← Option.some.inj (hv'.symm.trans h)]
    exact hmem
  · rw [ofList, get?_foldl_insert_of_not_mem hk] at h
    simp at h

/-- Entries inserted over others count before them. -/
theorem get?_foldl_insert {entries : List (κ × ν)} (hdistinct : (entries.map Prod.fst).Nodup)
    (m : SortedMap κ ν) (k : κ) :
    (entries.foldl (fun m e => m.insert e.1 e.2) m).get? k =
      ((ofList entries).get? k).or (m.get? k) := by
  cases h : (ofList entries).get? k with
  | some v => exact get?_foldl_insert_of_mem hdistinct ((get?_ofList_eq_some_iff hdistinct).mp h) m
  | none =>
    have hk : k ∉ entries.map Prod.fst := by
      intro hk
      obtain ⟨e, hmem, rfl⟩ := List.mem_map.mp hk
      exact absurd ((get?_ofList_eq_some_iff hdistinct).mpr hmem) (by simp [h])
    rw [get?_foldl_insert_of_not_mem hk, Option.none_or]

/-- A value replaces the one that was inserted before. -/
theorem insert_insert [DecidableEq κ] (m : SortedMap κ ν) (k : κ) (v w : ν) :
    (m.insert k v).insert k w = m.insert k w := by
  refine ext_get? fun k' => ?_
  rw [get?_insert, get?_insert, get?_insert]
  split <;> rfl

/-- The keys of a map come once each. -/
theorem nodup_keys (m : SortedMap κ ν) : (m.entries.map Prod.fst).Nodup := by
  refine List.pairwise_map.mpr (m.ascending.imp fun h => ?_)
  exact Key.ne_of_before h

/-- A map is made of its entries. -/
theorem ofList_entries (m : SortedMap κ ν) : ofList m.entries = m := by
  refine ext_get? fun k => Option.ext fun v => ?_
  rw [get?_ofList_eq_some_iff m.nodup_keys, get?_eq_some_iff]

/-- The keys of a map ascend. -/
theorem ascending_keys (m : SortedMap κ ν) :
    m.keys.Pairwise fun a b => Key.before a b = true :=
  List.pairwise_map.mpr m.ascending

/-- Maps that have entries for the same keys list them in the same order. -/
theorem keys_eq {μ : Type} {m : SortedMap κ ν} {m' : SortedMap κ μ}
    (h : ∀ k, k ∈ m.keys ↔ k ∈ m'.keys) : m.keys = m'.keys := by
  have hperm : m.keys.Perm m'.keys :=
    (List.perm_ext_iff_of_nodup m.nodup_keys m'.nodup_keys).mpr h
  refine hperm.eq_of_pairwise (fun k k' _ _ hbefore hafter => ?_) m.ascending_keys
    m'.ascending_keys
  exact absurd rfl (Key.ne_of_before (Key.trans _ _ _ hbefore hafter))

/-- What is summed up over the values of a map is summed up over any list of keys with what is
counted for their values, each key coming once. -/
theorem sum_map_entries {m : SortedMap κ ν} (f : ν → Nat) {pairs : List (κ × Nat)}
    (hdistinct : (pairs.map Prod.fst).Nodup)
    (h : ∀ k n, (∃ v, m.get? k = some v ∧ f v = n) ↔ (k, n) ∈ pairs) :
    (m.entries.map fun e => f e.2).sum = (pairs.map Prod.snd).sum := by
  have hkeys : ((m.entries.map fun e => (e.1, f e.2)).map Prod.fst).Nodup := by
    rw [List.map_map]
    exact m.nodup_keys
  have hmem (k : κ) (n : Nat) : (k, n) ∈ m.entries.map (fun e => (e.1, f e.2)) ↔ (k, n) ∈ pairs := by
    rw [← h, List.mem_map]
    constructor
    · rintro ⟨⟨k', v⟩, hentry, hpair⟩
      obtain ⟨rfl, rfl⟩ := Prod.mk.inj hpair
      exact ⟨v, get?_eq_some_iff.mpr hentry, rfl⟩
    · rintro ⟨v, hvalue, rfl⟩
      exact ⟨(k, v), get?_eq_some_iff.mp hvalue, rfl⟩
  have hperm : (m.entries.map fun e => (e.1, f e.2)).Perm pairs :=
    (List.perm_ext_iff_of_nodup (List.Nodup.of_map Prod.fst hkeys)
      (List.Nodup.of_map Prod.fst hdistinct)).mpr fun ⟨k, n⟩ => hmem k n
  rw [← (hperm.map Prod.snd).sum_nat, List.map_map]
  rfl

/-- The total of the amounts in a map. -/
def sum (m : SortedMap κ Nat) : Nat := (m.entries.map Prod.snd).sum

/-- A replaced amount leaves the total and its replacement enters it. -/
theorem sum_insert (m : SortedMap κ Nat) (k : κ) (v : Nat) :
    (m.insert k v).sum + (m.get? k).getD 0 = m.sum + v := by
  obtain ⟨entries, hascending⟩ := m
  show ((insertEntry k v entries).map Prod.snd).sum + (lookup k entries).getD 0 =
    (entries.map Prod.snd).sum + v
  clear hascending
  induction entries with
  | nil => simp [insertEntry, lookup]
  | cons head rest ih =>
    obtain ⟨k', v'⟩ := head
    simp only [insertEntry, lookup]
    split
    · simp [Nat.add_comm]
    · split
      · simp only [List.map_cons, List.sum_cons]
        omega
      · simp only [List.map_cons, List.sum_cons, Option.getD_some]
        omega

/-- No amount in a map is above the total. -/
theorem le_sum (m : SortedMap κ Nat) (k : κ) : (m.get? k).getD 0 ≤ m.sum := by
  have hcleared := m.sum_insert k 0
  omega

end SortedMap

end ShuffleMint
