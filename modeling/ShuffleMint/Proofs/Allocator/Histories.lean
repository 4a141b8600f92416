import ShuffleMint.Proofs.Allocator.Moves
import ShuffleMint.Proofs.SortedMap.Insertion

/-!
# Histories of an allocator

An allocator of collections with ids of their own and with no more tokens than a count can tell is
made without failure, and whatever is then asked of it, in whatever order and with whatever
outcomes, its order, cursor, statuses and supplies keep telling the same story.
-/

namespace ShuffleMint

namespace Operation

/-- On a consistent allocator an operation fails and changes nothing, or makes moves. -/
theorem perform_cases {a : Allocator} (h : a.Consistent) (operation : Operation) :
    (∃ e, operation.perform a = (.error e, a)) ∨
      ∃ result tokens b, operation.perform a = (.ok result, b) ∧ a.Moves tokens b := by
  have hyield {α : Type} {step : Step Allocator α} {tokens : List Token} (f : α → Yield)
      (hcases : (∃ e, step a = (.error e, a)) ∨ ∃ x b, step a = (.ok x, b) ∧ a.Moves tokens b) :
      (∃ e, (step >>= fun x => pure (f x)) a = (.error e, a)) ∨
        ∃ result tokens b, (step >>= fun x => pure (f x)) a = (.ok result, b) ∧
          a.Moves tokens b := by
    rcases hcases with ⟨e, he⟩ | ⟨x, b, hb, hmoves⟩
    · exact .inl ⟨e, Step.bind_of_error he _⟩
    · exact .inr ⟨f x, tokens, b, Step.bind_of_ok hb _, hmoves⟩
  have hunit {step : Step Allocator Unit} {tokens : List Token}
      (hcases : (∃ e, step a = (.error e, a)) ∨ ∃ b, step a = (.ok (), b) ∧ a.Moves tokens b) :=
    hyield (fun _ => .nothing) (hcases.imp_right fun ⟨b, hb⟩ => ⟨(), b, hb⟩)
  cases operation with
  | initializeShuffle seed => exact hunit (Allocator.Consistent.initializeShuffle_cases seed a)
  | ensureShuffled seed => exact hunit (Allocator.Consistent.ensureShuffled_cases seed a)
  | ensureUnlocked =>
    have hcases : (∃ e, Allocator.ensureUnlocked a = (.error e, a)) ∨
        ∃ b, Allocator.ensureUnlocked a = (.ok (), b) ∧ a.Moves [] b := by
      rw [Allocator.ensureUnlocked_apply]
      split
      · exact .inl ⟨_, rfl⟩
      · exact .inr ⟨a, rfl, .refl⟩
    exact hunit hcases
  | next collection =>
    rcases h.next_cases collection with ⟨e, hfails⟩ | ⟨t, b, hnext, hmoves⟩
    · exact .inl ⟨e, Step.bind_of_error hfails _⟩
    · exact hyield .token (.inr ⟨t, b, hnext, hmoves⟩)
  | claim t => exact hunit (h.claim_cases t)
  | claimStaged t => exact hunit (h.claimStaged_cases t)
  | reserve t => exact hunit (h.hold_cases t (.inl rfl))
  | stage t => exact hunit (h.hold_cases t (.inr rfl))
  | unstage t => exact hyield .flag (h.unstage_cases t)
  | reserveAll tokens => exact hyield .count (.inr (h.reserveAll_cases tokens))

end Operation

namespace Allocator

/-- A consistent allocator stays consistent whatever is asked of it. -/
theorem Consistent.after {a : Allocator} (h : a.Consistent) (operations : List Operation) :
    (a.after operations).Consistent ∧ ∃ tokens, a.Moves tokens (a.after operations) := by
  induction operations generalizing a with
  | nil => exact ⟨h, [], .refl⟩
  | cons operation rest ih =>
    rw [after_cons]
    rcases operation.perform_cases h with ⟨e, hfails⟩ | ⟨result, tokens, b, hmade, hmoves⟩
    · rw [hfails]
      exact ih h
    · rw [hmade]
      obtain ⟨hafter, later, hlater⟩ := ih (hmoves.consistent h)
      exact ⟨hafter, tokens ++ later, hmoves.trans hlater⟩

/-- The arena of slots that are all pending, in the order of their numbers. -/
theorem consistent_of_range {layout : List SlotRun} {total : Nat}
    (hlaid : Arena.WellLaid ⟨layout, List.range total, 0, List.replicate total .pending, false⟩) :
    Arena.Consistent ⟨layout, List.range total, 0, List.replicate total .pending, false⟩ := by
  refine ⟨hlaid, List.nodup_range, Nat.zero_le _, fun slot => ?_, fun slot => ?_⟩
  · simp [Arena.issuedSlots, List.getElem?_replicate]
  · simp [Arena.pendingSlots, List.getElem?_replicate]

/-- The allocator of collections with ids of their own and no more tokens than a count can tell can
be made, and its parts fit together. -/
theorem exists_ofCollections {collections : List (Nat × Nat)}
    (hdistinct : (collections.map Prod.fst).Nodup)
    (hbounded : (collections.map Prod.snd).sum < countBound) :
    ∃ a, ofCollections collections = .ok a ∧ a.Consistent ∧
      layOut collections 0 = .ok (a.arena.layout, a.arena.total) ∧
      a.arena.total = (collections.map Prod.snd).sum ∧
      a.arena.layout.map (fun r => (r.collection, r.supply)) = collections := by
  obtain ⟨runs, hruns, hcollections⟩ := SlotRun.layOut_eq_ok (by rwa [Nat.zero_add])
  rw [Nat.zero_add] at hruns
  have hids : runs.map SlotRun.collection = collections.map Prod.fst := by
    rw [← hcollections, List.map_map]
    rfl
  have htotal : (List.replicate (collections.map Prod.snd).sum SlotStatus.pending).length =
      (collections.map Prod.snd).sum := List.length_replicate
  have hentries : ((collections.map fun c => (c.1, (⟨c.2, 0⟩ : Supply))).map Prod.fst).Nodup := by
    rw [List.map_map]
    exact hdistinct
  refine ⟨_, by rw [ofCollections, hruns]; rfl, ⟨consistent_of_range ⟨?_, ?_, ?_⟩, ?_⟩, ?_, ?_, ?_⟩
  · rw [Arena.total, htotal]
    exact SlotRun.abut_layOut hruns
  · rw [hids]
    exact hdistinct
  · rwa [Arena.total, htotal]
  · intro collection supply
    rw [SortedMap.get?_ofList_eq_some_iff hentries, List.mem_map]
    constructor
    · rintro ⟨c, hc, hentry⟩
      rw [← hcollections, List.mem_map] at hc
      obtain ⟨r, hr, rfl⟩ := hc
      obtain ⟨rfl, rfl⟩ := Prod.mk.inj hentry
      exact ⟨r, hr, rfl, rfl⟩
    · rintro ⟨r, hr, rfl, rfl⟩
      refine ⟨(r.collection, r.supply), ?_, rfl⟩
      rw [← hcollections]
      exact List.mem_map.mpr ⟨r, hr, rfl⟩
  · rwa [Arena.total, htotal]
  · exact htotal
  · exact hcollections

/-- The order, the cursor, the statuses and the supplies of an allocator of collections tell the
same story, and the layout is the one that the collections were given. -/
structure Coherent (collections : List (Nat × Nat)) (a : Allocator) : Prop where
  layout : layOut collections 0 = .ok (a.arena.layout, a.arena.status.length)
  total : a.arena.status.length = (collections.map Prod.snd).sum
  order_nodup : a.arena.order.Nodup
  order_lt : ∀ slot ∈ a.arena.order, slot < a.arena.status.length
  cursor_le : a.arena.cursor ≤ a.arena.order.length
  issued_iff : ∀ slot < a.arena.status.length,
    slot ∈ a.arena.order.take a.arena.cursor ↔ a.arena.status[slot]? = some .issued
  pending_iff : ∀ slot < a.arena.status.length,
    slot ∈ a.arena.order.drop a.arena.cursor ↔ a.arena.status[slot]? = some .pending
  held_iff : ∀ slot < a.arena.status.length,
    slot ∉ a.arena.order ↔
      a.arena.status[slot]? = some .reserved ∨ a.arena.status[slot]? = some .staged
  ids : ∀ id, id ∈ a.collectionIds ↔ id ∈ collections.map Prod.fst
  supply : ∀ r ∈ a.arena.layout, ∃ issued,
    a.supplies.get? r.collection = some ⟨r.supply, issued⟩ ∧ issued ≤ r.supply ∧
      issued = (List.range' r.offset r.supply).countP fun slot =>
        a.arena.status[slot]? = some .issued
  sum_issued : (a.supplies.entries.map fun e => e.2.issued).sum = a.arena.cursor

/-- A consistent allocator that is laid out as its collections say is coherent. -/
theorem Consistent.coherent {a : Allocator} (h : a.Consistent) {collections : List (Nat × Nat)}
    (hlayout : layOut collections 0 = .ok (a.arena.layout, a.arena.total))
    (htotal : a.arena.total = (collections.map Prod.snd).sum)
    (hcollections : a.arena.layout.map (fun r => (r.collection, r.supply)) = collections) :
    a.Coherent collections where
  layout := hlayout
  total := htotal
  order_nodup := h.arena.nodup
  order_lt := fun _ => h.arena.lt_total_of_mem
  cursor_le := h.arena.cursor_le
  issued_iff := fun slot _ => h.arena.issued_iff slot
  pending_iff := fun slot _ => h.arena.pending_iff slot
  held_iff := fun _ => h.arena.not_mem_order_iff
  ids := by
    intro id
    rw [collectionIds, SortedMap.mem_keys_iff, ← hcollections, List.map_map, List.mem_map]
    simp only [h.supplied]
    constructor
    · rintro ⟨_, r, hr, rfl, -⟩
      exact ⟨r, hr, rfl⟩
    · rintro ⟨r, hr, rfl⟩
      exact ⟨_, r, hr, rfl, rfl⟩
  supply := by
    intro r hr
    refine ⟨a.arena.issuedIn r, h.get?_supply hr, ?_, h.arena.issuedIn_eq_countP r⟩
    rw [h.arena.issuedIn_eq_countP]
    simpa using List.countP_le_length (l := List.range' r.offset r.supply)
  sum_issued := h.sum_issued

/-- However an allocator of collections is used, its parts stay coherent: the order lists no slot
twice, its part before the cursor lists the issued slots and the part after it the pending ones, the
slots that are held back are listed nowhere, and the supplies count the issued slots run by run. -/
theorem coherent_after (collections : List (Nat × Nat))
    (hdistinct : (collections.map Prod.fst).Nodup)
    (hbounded : (collections.map Prod.snd).sum < countBound) :
    ∃ a, ofCollections collections = .ok a ∧
      ∀ operations : List Operation, (a.after operations).Coherent collections := by
  obtain ⟨a, ha, hconsistent, hlayout, htotal, hcollections⟩ :=
    exists_ofCollections hdistinct hbounded
  refine ⟨a, ha, fun operations => ?_⟩
  obtain ⟨hafter, tokens, hmoves⟩ := hconsistent.after operations
  obtain ⟨hsame, hcount⟩ := hmoves.layout_total_eq
  exact hafter.coherent (by rw [hsame, hcount]; exact hlayout) (by rw [hcount]; exact htotal)
    (by rw [hsame]; exact hcollections)

/-- Three collections, one of them without tokens, have an allocator whose parts stay coherent. -/
theorem coherent_after_three :
    ([(101, 3), (7, 0), (102, 2)].map Prod.fst : List Nat).Nodup ∧
      ([(101, 3), (7, 0), (102, 2)].map Prod.snd : List Nat).sum < countBound ∧
      ∃ a, ofCollections [(101, 3), (7, 0), (102, 2)] = .ok a ∧
        ∀ operations : List Operation,
          (a.after operations).Coherent [(101, 3), (7, 0), (102, 2)] :=
  ⟨by decide, by decide, coherent_after _ (by decide) (by decide)⟩

end Allocator

end ShuffleMint
