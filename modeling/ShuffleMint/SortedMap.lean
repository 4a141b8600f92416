/-!
# Maps sorted by key

A map is a list of entries with strictly ascending keys, so that two maps with the same entries are
the same map and a listing in key order needs no further work.
-/

namespace ShuffleMint

/-- A type of keys with a strict total order. -/
class Key (κ : Type) where
  before : κ → κ → Bool
  irrefl : ∀ a, before a a = false
  trans : ∀ a b c, before a b = true → before b c = true → before a c = true
  eq_of_not_before : ∀ a b, before a b = false → before b a = false → a = b

/-- Identifiers are ordered as numbers. -/
instance : Key Nat where
  before a b := decide (a < b)
  irrefl a := by simp
  trans a b c := by
    simp only [decide_eq_true_eq]
    exact Nat.lt_trans
  eq_of_not_before a b := by
    simp only [decide_eq_false_iff_not]
    omega

/-- Texts are ordered by their code points, which is also the order of their UTF-8 bytes. -/
instance : Key String where
  before a b := decide (a < b)
  irrefl a := by simp
  trans a b c := by
    simp only [decide_eq_true_eq]
    exact String.lt_trans
  eq_of_not_before a b := by
    simp only [decide_eq_false_iff_not]
    exact fun h k => String.le_antisymm (String.not_lt.mp k) (String.not_lt.mp h)

variable {κ ν : Type} [Key κ]

/-- Entries with strictly ascending keys. -/
def Ascending (entries : List (κ × ν)) : Prop :=
  entries.Pairwise fun a b => Key.before a.1 b.1 = true

/-- A map whose entries are listed by ascending key. -/
structure SortedMap (κ ν : Type) [Key κ] where
  entries : List (κ × ν)
  ascending : Ascending entries

namespace SortedMap

instance [DecidableEq κ] [DecidableEq ν] : DecidableEq (SortedMap κ ν) := fun a b =>
  if h : a.entries = b.entries then
    isTrue (by cases a; cases b; simp_all)
  else
    isFalse (by intro e; exact h (by rw [e]))

/-- The map without entries. -/
def empty : SortedMap κ ν := ⟨[], List.Pairwise.nil⟩

/-- The value at a key of a list of entries. -/
def lookup (k : κ) : List (κ × ν) → Option ν
  | [] => none
  | (k', v) :: rest =>
    if Key.before k k' then none
    else if Key.before k' k then lookup k rest
    else some v

/-- The value at a key. -/
def get? (m : SortedMap κ ν) (k : κ) : Option ν := lookup k m.entries

/-- Puts an entry at its place, where it replaces one with the same key. -/
def insertEntry (k : κ) (v : ν) : List (κ × ν) → List (κ × ν)
  | [] => [(k, v)]
  | (k', v') :: rest =>
    if Key.before k k' then (k, v) :: (k', v') :: rest
    else if Key.before k' k then (k', v') :: insertEntry k v rest
    else (k, v) :: rest

/-- Takes out the entry with a key. -/
def eraseEntry (k : κ) : List (κ × ν) → List (κ × ν)
  | [] => []
  | (k', v') :: rest =>
    if Key.before k k' then (k', v') :: rest
    else if Key.before k' k then (k', v') :: eraseEntry k rest
    else rest

theorem mem_insertEntry {k : κ} {v : ν} {e : κ × ν} {l : List (κ × ν)}
    (h : e ∈ insertEntry k v l) : e = (k, v) ∨ e ∈ l := by
  induction l with
  | nil => simpa [insertEntry] using h
  | cons head rest ih =>
    obtain ⟨k', v'⟩ := head
    simp only [insertEntry] at h
    split at h
    · simpa using h
    · split at h
      · rcases List.mem_cons.mp h with h | h
        · exact .inr (by simp [h])
        · rcases ih h with h | h
          · exact .inl h
          · exact .inr (List.mem_cons_of_mem _ h)
      · rcases List.mem_cons.mp h with h | h
        · exact .inl h
        · exact .inr (List.mem_cons_of_mem _ h)

theorem mem_of_mem_eraseEntry {k : κ} {e : κ × ν} {l : List (κ × ν)}
    (h : e ∈ eraseEntry k l) : e ∈ l := by
  induction l with
  | nil => simp [eraseEntry] at h
  | cons head rest ih =>
    obtain ⟨k', v'⟩ := head
    simp only [eraseEntry] at h
    split at h
    · exact h
    · split at h
      · rcases List.mem_cons.mp h with h | h
        · simp [h]
        · exact List.mem_cons_of_mem _ (ih h)
      · exact List.mem_cons_of_mem _ h

theorem ascending_insertEntry {l : List (κ × ν)} (h : Ascending l) (k : κ) (v : ν) :
    Ascending (insertEntry k v l) := by
  induction l with
  | nil => exact List.pairwise_singleton _ _
  | cons head rest ih =>
    obtain ⟨k', v'⟩ := head
    have first := List.pairwise_cons.mp h
    simp only [insertEntry]
    split
    · next lt =>
      refine List.pairwise_cons.mpr ⟨fun e he => ?_, h⟩
      rcases List.mem_cons.mp he with he | he
      · simpa [he] using lt
      · exact Key.trans _ _ _ lt (first.1 e he)
    · next nlt =>
      split
      · next gt =>
        refine List.pairwise_cons.mpr ⟨fun e he => ?_, ih first.2⟩
        rcases mem_insertEntry he with he | he
        · simpa [he] using gt
        · exact first.1 e he
      · next ngt =>
        have same : k = k' := Key.eq_of_not_before k k' (by simpa using nlt) (by simpa using ngt)
        subst same
        exact List.pairwise_cons.mpr ⟨first.1, first.2⟩

theorem ascending_eraseEntry {l : List (κ × ν)} (h : Ascending l) (k : κ) :
    Ascending (eraseEntry k l) := by
  induction l with
  | nil => exact h
  | cons head rest ih =>
    obtain ⟨k', v'⟩ := head
    have first := List.pairwise_cons.mp h
    simp only [eraseEntry]
    split
    · exact h
    · split
      · exact List.pairwise_cons.mpr
          ⟨fun e he => first.1 e (mem_of_mem_eraseEntry he), ih first.2⟩
      · exact first.2

/-- The map with a value at a key. -/
def insert (m : SortedMap κ ν) (k : κ) (v : ν) : SortedMap κ ν :=
  ⟨insertEntry k v m.entries, ascending_insertEntry m.ascending k v⟩

/-- The map without a key. -/
def erase (m : SortedMap κ ν) (k : κ) : SortedMap κ ν :=
  ⟨eraseEntry k m.entries, ascending_eraseEntry m.ascending k⟩

/-- The map of a list of entries; of entries with one key the last counts. -/
def ofList (entries : List (κ × ν)) : SortedMap κ ν :=
  entries.foldl (fun m e => m.insert e.1 e.2) empty

/-- The keys, ascending. -/
def keys (m : SortedMap κ ν) : List κ := m.entries.map Prod.fst

/-- The entries strictly after a key, or all of them. -/
def after (m : SortedMap κ ν) : Option κ → List (κ × ν)
  | none => m.entries
  | some k => m.entries.filter fun e => Key.before k e.1

/-- The first entries strictly after a key, at most as many as the limit says. -/
def page (m : SortedMap κ ν) (start : Option κ) (limit : Nat) : List (κ × ν) :=
  (m.after start).take limit

end SortedMap

end ShuffleMint
