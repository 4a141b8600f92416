import ShuffleMint.SortedMap

/-!
# Look-ups in a sorted map

What insertions do to the look-ups, and that the look-ups determine the map. A look-up after an
insertion needs no order of the entries; the other statements use that keys ascend.
-/

namespace ShuffleMint

variable {κ ν : Type} [Key κ]

namespace Key

theorem ne_of_before {a b : κ} (h : before a b = true) : a ≠ b := by
  rintro rfl
  simp [irrefl a] at h

end Key

namespace SortedMap

theorem lookup_insertEntry_self (k : κ) (v : ν) (l : List (κ × ν)) :
    lookup k (insertEntry k v l) = some v := by
  induction l with
  | nil => simp [insertEntry, lookup, Key.irrefl]
  | cons head rest ih =>
    obtain ⟨k', v'⟩ := head
    simp only [insertEntry]
    split
    · simp [lookup, Key.irrefl]
    · next nlt =>
      split
      · next gt => simp [lookup, nlt, gt, ih]
      · simp [lookup, Key.irrefl]

theorem lookup_insertEntry_of_ne {k k' : κ} (ne : k' ≠ k) (v : ν) (l : List (κ × ν)) :
    lookup k' (insertEntry k v l) = lookup k' l := by
  have after {a b : κ} (h : a ≠ b) (nlt : Key.before a b = false) : Key.before b a = true := by
    cases gt : Key.before b a with
    | true => rfl
    | false => exact absurd (Key.eq_of_not_before a b nlt gt) h
  induction l with
  | nil =>
    cases lt : Key.before k' k with
    | true => simp [insertEntry, lookup, lt]
    | false => simp [insertEntry, lookup, lt, after ne lt]
  | cons head rest ih =>
    obtain ⟨k'', v''⟩ := head
    simp only [insertEntry]
    split
    · next first =>
      cases lt : Key.before k' k with
      | true => simp [lookup, lt, Key.trans k' k k'' lt first]
      | false => simp [lookup, lt, after ne lt]
    · next notFirst =>
      split
      · simp [lookup, ih]
      · next notLater =>
        have same : k = k'' := Key.eq_of_not_before k k'' (by simpa using notFirst)
          (by simpa using notLater)
        subst same
        cases lt : Key.before k' k with
        | true => simp [lookup, lt]
        | false => simp [lookup, lt, after ne lt]

theorem lookup_eq_some_iff {l : List (κ × ν)} (h : Ascending l) {k : κ} {v : ν} :
    lookup k l = some v ↔ (k, v) ∈ l := by
  induction l with
  | nil => simp [lookup]
  | cons head rest ih =>
    obtain ⟨k', v'⟩ := head
    have first := List.pairwise_cons.mp h
    simp only [lookup]
    split
    · next lt =>
      refine ⟨nofun, fun mem => ?_⟩
      rcases List.mem_cons.mp mem with e | e
      · obtain ⟨rfl, rfl⟩ := Prod.mk.inj e
        simp [Key.irrefl] at lt
      · exact absurd (Key.trans _ _ _ lt (first.1 _ e)) (by simp [Key.irrefl])
    · next nlt =>
      split
      · next gt =>
        rw [ih first.2, List.mem_cons]
        refine ⟨.inr, fun mem => mem.resolve_left fun e => ?_⟩
        exact Key.ne_of_before gt (Prod.mk.inj e).1.symm
      · next ngt =>
        have same : k = k' := Key.eq_of_not_before k k' (by simpa using nlt) (by simpa using ngt)
        subst same
        refine ⟨fun e => by simp [Option.some.inj e], fun mem => ?_⟩
        rcases List.mem_cons.mp mem with e | e
        · rw [(Prod.mk.inj e).2]
        · exact absurd (first.1 _ e) (by simp [Key.irrefl])

theorem eq_of_mem_iff {l l' : List (κ × ν)} (h : Ascending l) (h' : Ascending l')
    (same : ∀ e, e ∈ l ↔ e ∈ l') : l = l' := by
  induction l generalizing l' with
  | nil => exact (List.eq_nil_iff_forall_not_mem.mpr fun e he => by simpa using (same e).mpr he).symm
  | cons a rest ih =>
    cases l' with
    | nil => exact absurd ((same a).mp (by simp)) (by simp)
    | cons b rest' =>
      have first := List.pairwise_cons.mp h
      have first' := List.pairwise_cons.mp h'
      have heads : a = b := by
        rcases List.mem_cons.mp ((same a).mp (by simp)) with e | ha
        · exact e
        · rcases List.mem_cons.mp ((same b).mpr (by simp)) with e | hb
          · exact e.symm
          · exact absurd (Key.trans _ _ _ (first.1 b hb) (first'.1 a ha)) (by simp [Key.irrefl])
      subst heads
      have fresh {l : List (κ × ν)} (before : ∀ e ∈ l, Key.before a.1 e.1 = true) : a ∉ l :=
        fun mem => Key.ne_of_before (before a mem) rfl
      refine congrArg (a :: ·) (ih first.2 first'.2 fun e => ⟨fun he => ?_, fun he => ?_⟩)
      · refine (List.mem_cons.mp ((same e).mp (List.mem_cons_of_mem _ he))).resolve_left ?_
        rintro rfl
        exact fresh first.1 he
      · refine (List.mem_cons.mp ((same e).mpr (List.mem_cons_of_mem _ he))).resolve_left ?_
        rintro rfl
        exact fresh first'.1 he

@[simp]
theorem get?_empty (k : κ) : (empty : SortedMap κ ν).get? k = none := rfl

@[simp]
theorem get?_insert_self (m : SortedMap κ ν) (k : κ) (v : ν) : (m.insert k v).get? k = some v :=
  lookup_insertEntry_self k v m.entries

theorem get?_insert_of_ne (m : SortedMap κ ν) {k k' : κ} (ne : k' ≠ k) (v : ν) :
    (m.insert k v).get? k' = m.get? k' :=
  lookup_insertEntry_of_ne ne v m.entries

theorem get?_insert [DecidableEq κ] (m : SortedMap κ ν) (k k' : κ) (v : ν) :
    (m.insert k v).get? k' = if k' = k then some v else m.get? k' := by
  split
  · next same => rw [same, get?_insert_self]
  · next ne => exact get?_insert_of_ne m ne v

theorem get?_eq_some_iff {m : SortedMap κ ν} {k : κ} {v : ν} :
    m.get? k = some v ↔ (k, v) ∈ m.entries :=
  lookup_eq_some_iff m.ascending

theorem mem_keys_iff {m : SortedMap κ ν} {k : κ} : k ∈ m.keys ↔ ∃ v, m.get? k = some v := by
  simp [keys, get?_eq_some_iff]

/-- Maps with the same look-ups are the same map. -/
theorem ext_get? {m m' : SortedMap κ ν} (h : ∀ k, m.get? k = m'.get? k) : m = m' := by
  have entries : m.entries = m'.entries := by
    refine eq_of_mem_iff m.ascending m'.ascending fun ⟨k, v⟩ => ?_
    rw [← get?_eq_some_iff, ← get?_eq_some_iff, h k]
  cases m
  cases m'
  simpa using entries

end SortedMap

end ShuffleMint
