import ShuffleMint.Proofs.Allocator.Batches
import ShuffleMint.Proofs.Command.Bundling

/-!
# Which tokens a bundle takes

A draw from a collection rotates the order of all slots, but takes a single token out of the pending
ones and leaves the others in their order. So it does not change which token of another collection
comes next. The tokens of a bundle can therefore be told from the queue as it is before the first
draw, whatever the order in which the collections are visited.
-/

namespace ShuffleMint

namespace Supply

/-- Counting an issued token of a collection changes the supply of that collection only. -/
theorem get?_countIssue (collection : Nat) (supplies : SortedMap Nat Supply) (id : Nat) :
    (countIssue collection supplies).get? id = (supplies.get? id).map fun supply =>
      ⟨supply.total, supply.issued + if collection = id then 1 else 0⟩ := by
  unfold countIssue
  cases hfound : supplies.get? collection with
  | none =>
    by_cases hsame : collection = id
    · rw [← hsame, hfound]
      rfl
    · simp [hsame]
  | some supply =>
    rw [SortedMap.get?_insert]
    by_cases hsame : id = collection
    · simp [hsame, hfound]
    · simp [hsame, Ne.symm hsame]

end Supply

/-- Shuffling unless that is done leaves the supplies alone. -/
theorem Allocator.supplies_ensureShuffled {a b : Allocator} {seed : Seed}
    (hok : ensureShuffled seed a = (.ok (), b)) : b.supplies = a.supplies := by
  rw [ensureShuffled_apply] at hok
  split at hok
  · rw [(Prod.mk.inj hok).2]
  · exact (reshuffles_of_initializeShuffle hok).2.supplies

namespace Allocator.Consistent

variable {a b : Allocator} {t : Token} {id : Nat}

/-- A draw takes the next token of the queue and counts it. -/
theorem queue_of_next (h : a.Consistent) (hok : next (some id) a = (.ok t, b)) :
    a.queue.next? (some id) = some t ∧ t.collection = id ∧ b.Consistent ∧
      b.queue = a.queue.issuePending t ∧ b.supplies = Supply.countIssue id a.supplies := by
  obtain ⟨slot, hnext, htoken, hpending, rfl⟩ := h.next_eq_ok hok
  have hcollection := h.collection_of_next hok
  refine ⟨?_, hcollection, h.issueSlot htoken hpending (by simp),
    h.queue_issueSlot_pending htoken hpending, by rw [← hcollection]; rfl⟩
  rw [h.queue_next?, hnext, Option.bind_some, Arena.token?_eq_some_iff.mpr htoken]

/-- A collection has a pending token when it has a pending slot. -/
theorem exists_pending_iff (h : a.Consistent) :
    (∃ t ∈ a.queue.pending, t.collection = id) ↔ 0 < a.arena.pendingOf id := by
  have hnext : (∃ t ∈ a.queue.pending, t.collection = id) ↔
      (a.queue.next? (some id)).isSome = true := by
    rw [TokenQueue.next?, List.find?_isSome]
    simp
  rw [hnext, h.queue_next?, ← Arena.isSome_nextSlot?_iff]
  cases hslot : a.arena.nextSlot? (some id) with
  | none => rfl
  | some slot =>
    obtain ⟨t, htoken, -⟩ := h.arena.exists_of_nextSlot? hslot
    rw [Option.bind_some, Arena.token?_eq_some_iff.mpr htoken]
    rfl

/-- Whether one of some collections has no pending slot is whether one has no pending token. -/
theorem any_pendingOf_eq (h : a.Consistent) (ids : List Nat) :
    (ids.any fun id => a.arena.pendingOf id = 0) =
      ids.any fun id => a.queue.pending.all fun t => t.collection ≠ id := by
  refine List.any_congr rfl fun id => ?_
  rw [Bool.eq_iff_iff, decide_eq_true_iff, ← Nat.le_zero, ← Nat.not_lt, ← h.exists_pending_iff]
  simp

end Allocator.Consistent

namespace Bundle

variable {a b : Allocator} {collections : List Nat} {tokens : List Token}

/-- A bundle takes from each collection the token that comes next there before the first draw, and
the other pending tokens keep their order. -/
theorem drawEach_queue (h : a.Consistent) (hdistinct : collections.Nodup)
    (hok : drawEach collections a = (.ok tokens, b)) :
    tokens.map some = collections.map (fun id => a.queue.next? (some id)) ∧
      tokens.map Token.collection = collections ∧ b.queue = a.queue.issueAll tokens ∧
      ∀ id, b.supplies.get? id = (a.supplies.get? id).map fun supply =>
        ⟨supply.total, supply.issued + collections.count id⟩ := by
  induction collections generalizing a tokens with
  | nil =>
    obtain ⟨rfl, rfl⟩ := Step.pure_eq_ok_iff.mp hok
    refine ⟨rfl, rfl, by simp, fun id => ?_⟩
    simp
  | cons collection rest ih =>
    obtain ⟨hfresh, hrest⟩ := List.nodup_cons.mp hdistinct
    obtain ⟨t, c, hfirst, hlater⟩ := Step.bind_eq_ok_iff.mp hok
    obtain ⟨others, d, hothers, hdone⟩ := Step.bind_eq_ok_iff.mp hlater
    obtain ⟨rfl, rfl⟩ := Step.pure_eq_ok_iff.mp hdone
    obtain ⟨hnext, hcollection, hc, hqueue, hsupplies⟩ := h.queue_of_next hfirst
    obtain ⟨hnexts, hcollections, hended, hcounts⟩ := ih hc hrest hothers
    refine ⟨?_, ?_, ?_, fun id => ?_⟩
    · rw [List.map_cons, List.map_cons, hnext, hnexts, hqueue]
      -- the collections that are left are others than that of the token just drawn
      congr 1
      refine List.map_congr_left fun id hid => TokenQueue.next?_issuePending ?_
      exact fun hsame => hfresh (hcollection ▸ hsame ▸ hid)
    · rw [List.map_cons, hcollection, hcollections]
    · rw [hended, hqueue, TokenQueue.issueAll_issuePending h.nodup_queue_pending]
    · rw [hcounts, hsupplies, Supply.get?_countIssue, Option.map_map, List.count_cons]
      congr 1
      funext supply
      simp only [Function.comp_apply, Supply.mk.injEq, true_and, beq_iff_eq]
      omega

/-- The collections can be visited in any other order: a bundle is drawn as well, and each
collection yields the same token. -/
theorem drawEach_perm (h : a.Consistent) (hdistinct : collections.Nodup)
    (hok : drawEach collections a = (.ok tokens, b)) {visited : List Nat}
    (hperm : visited.Perm collections) :
    ∃ tokens' b', drawEach visited a = (.ok tokens', b') ∧
      tokens'.map some = visited.map fun id => a.queue.next? (some id) := by
  have hpending : ∀ id, visited.count id ≤ a.arena.pendingOf id := fun id => by
    rw [hperm.count_eq, ← pendingOf_drawEach h hok id]
    exact Nat.le_add_left ..
  obtain ⟨tokens', b', hdraw⟩ := exists_drawEach h hpending
  exact ⟨tokens', b', hdraw, (drawEach_queue h (hperm.nodup_iff.mpr hdistinct) hdraw).1⟩

end Bundle

end ShuffleMint
