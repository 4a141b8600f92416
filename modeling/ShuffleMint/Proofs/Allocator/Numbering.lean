import ShuffleMint.Proofs.Allocator.Queue

/-!
# Slots and tokens number each other

The slots of an arena are counted through from zero, and the tokens of every collection from one. A
token is found by the id of its collection, a slot by the place of a run. Where the collections are
laid out one after the other both searches lead over the same layout: the tokens of the collections
and the slots of the arena stand for each other one to one, and everything else is refused. No sum
that is formed on the way is too large for a count.
-/

namespace ShuffleMint

namespace Arena

/-- The slots of an arena and the tokens of collections, given by id and supply, stand for each
other, and no other slot or token is known. -/
structure Numbers (a : Arena) (collections : List (Nat × Nat)) : Prop where
  total : a.total = (collections.map Prod.snd).sum
  exists_slotOf_iff : ∀ t, (∃ slot, a.slotOf t = .ok slot) ↔
    ∃ c ∈ collections, c.1 = t.collection ∧ 1 ≤ t.number ∧ t.number ≤ c.2
  exists_tokenOf_iff : ∀ slot, (∃ t, a.tokenOf slot = .ok t) ↔ slot < a.total
  slotOf_iff : ∀ slot t, a.slotOf t = .ok slot ↔ a.tokenOf slot = .ok t
  collectionOf : ∀ slot t, a.tokenOf slot = .ok t → a.collectionOf slot = .ok (some t.collection)
  refuses_token : ∀ t, (¬ ∃ slot, a.slotOf t = .ok slot) →
    a.slotOf t = .error (.rejected (.invalidToken t))
  refuses_slot : ∀ slot, a.total ≤ slot →
    a.tokenOf slot = .error (.rejected (.general .slotOutsideArena)) ∧ a.collectionOf slot = .ok none

namespace WellLaid

variable {a : Arena} (h : a.WellLaid)

include h

/-- A slot past the last one is held by no run. -/
theorem find?_holds_eq_none {slot : Nat} (hslot : a.total ≤ slot) :
    a.layout.find? (SlotRun.holds slot) = none := by
  refine List.find?_eq_none.mpr fun r hr hholds => ?_
  have hlt := h.covered.lt_total hr hholds
  omega

/-- A slot past the last one stands for no token and belongs to no collection. -/
theorem refuses_slot {slot : Nat} (hslot : a.total ≤ slot) :
    a.tokenOf slot = .error (.rejected (.general .slotOutsideArena)) ∧
      a.collectionOf slot = .ok none := by
  have hnone := h.find?_holds_eq_none hslot
  constructor
  · rw [tokenOf, h.covered.at?_eq, hnone]
  · rw [h.collectionOf_eq, collection?, hnone, Option.map_none]

/-- The slots that stand for a token are those of the arena. -/
theorem exists_tokenOf_iff (slot : Nat) : (∃ t, a.tokenOf slot = .ok t) ↔ slot < a.total :=
  ⟨fun ⟨_, htoken⟩ => h.lt_total_of_tokenOf htoken, h.exists_tokenOf⟩

/-- A token without a slot is refused as invalid. -/
theorem refuses_token {t : Token} (hnone : ¬ ∃ slot, a.slotOf t = .ok slot) :
    a.slotOf t = .error (.rejected (.invalidToken t)) := by
  cases hslot : a.slotOf t with
  | ok slot => exact absurd ⟨slot, hslot⟩ hnone
  | error e => rw [h.covered.slotOf_eq_error hslot]

end WellLaid

end Arena

namespace Allocator

/-- The arena of a consistent allocator that is laid out as its collections say numbers their
tokens. -/
theorem Consistent.numbers {a : Allocator} (h : a.Consistent) {collections : List (Nat × Nat)}
    (htotal : a.arena.total = (collections.map Prod.snd).sum)
    (hcollections : a.arena.layout.map (fun r => (r.collection, r.supply)) = collections) :
    a.arena.Numbers collections where
  total := htotal
  exists_slotOf_iff := fun _ => h.exists_slotOf_iff hcollections
  exists_tokenOf_iff := h.arena.laid.exists_tokenOf_iff
  slotOf_iff := fun _ _ => h.arena.laid.slotOf_eq_ok_iff
  collectionOf := fun slot t htoken => by
    rw [h.arena.laid.collectionOf_eq, h.arena.laid.collection?_of_tokenOf htoken]
  refuses_token := fun _ => h.arena.laid.refuses_token
  refuses_slot := fun _ => h.arena.laid.refuses_slot

/-- The allocator of collections with ids of their own and no more tokens than a count can tell
numbers their tokens: each of them has a slot of the arena, each of these slots stands for one, the
two ways are inverse to each other, and any other slot or token is refused. It does so when it is
made, and however it is used from then on. -/
theorem numbers_after (collections : List (Nat × Nat))
    (hdistinct : (collections.map Prod.fst).Nodup)
    (hbounded : (collections.map Prod.snd).sum < countBound) :
    ∃ a, ofCollections collections = .ok a ∧ a.arena.Numbers collections ∧
      ∀ operations : List Operation, (a.after operations).arena.Numbers collections := by
  obtain ⟨a, ha, hconsistent, -, htotal, hcollections⟩ :=
    exists_ofCollections hdistinct hbounded
  refine ⟨a, ha, hconsistent.numbers htotal hcollections, fun operations => ?_⟩
  obtain ⟨hafter, tokens, hmoves⟩ := hconsistent.after operations
  obtain ⟨hlayout, hcount⟩ := hmoves.layout_total_eq
  exact hafter.numbers (by rw [hcount, htotal]) (by rw [hlayout, hcollections])

/-- Of three collections, the second without tokens, the third has its first token at the slot after
the last one of the first. -/
theorem numbers_after_empty_between :
    ([(101, 3), (7, 0), (102, 2)].map Prod.fst : List Nat).Nodup ∧
      ([(101, 3), (7, 0), (102, 2)].map Prod.snd : List Nat).sum < countBound ∧
      ∃ a, ofCollections [(101, 3), (7, 0), (102, 2)] = .ok a ∧
        a.arena.Numbers [(101, 3), (7, 0), (102, 2)] ∧ a.arena.slotOf ⟨102, 1⟩ = .ok 3 := by
  obtain ⟨a, ha, hnumbers, -⟩ :=
    numbers_after [(101, 3), (7, 0), (102, 2)] (by decide) (by decide)
  have hslot : (ofCollections [(101, 3), (7, 0), (102, 2)]).bind (·.arena.slotOf ⟨102, 1⟩) = .ok 3 := by
    decide
  rw [ha] at hslot
  exact ⟨by decide, by decide, a, ha, hnumbers, hslot⟩

end Allocator

end ShuffleMint
