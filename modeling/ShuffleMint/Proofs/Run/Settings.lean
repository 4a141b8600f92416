import ShuffleMint.Proofs.Config.Validity
import ShuffleMint.Proofs.Run.Issuance

/-!
# The settings stay valid and keep their foundation

A configuration is checked as a whole when a mint is set up and when a patch is applied. The
bundles and the replies write to it unchecked, but nothing that the checks look at. Who administers
the mint, the code of its collections and the number of its tokens are written once, by the setup,
together with the slots, the supplies and the collections that add up to that number.
-/

namespace ShuffleMint

/-- What stays as the setup has stored it: the administrator's role, the code that the contracts of
the collections are created from, and the number of tokens. -/
def Config.founding (c : Config) : AdminRole × Nat × Nat :=
  (c.admin, c.collectionCode, c.totalSupply)

variable {start s t : Store} {r : Response} {events : List Event} {c : Config}

namespace Store

/-- Every successful transaction leaves what was founded alone. -/
theorem Sound.founding_eq (hs : s.Sound) {transaction : Transaction}
    (h : transaction.perform s = (.ok r, t)) :
    t.config.map Config.founding = s.config.map Config.founding := by
  cases hs.effect h with
  | minted hminted _ _ _ hconfig =>
    rw [hconfig, hminted.config]
    rfl
  | sold hminted _ _ _ _ hconfig =>
    rw [hconfig, hminted.config]
    rfl
  | configured hc _ hpatch =>
    have hfixed := (ConfigPatch.keeps_apply _).view_eq hpatch
    simp only [Config.fixedPart, Prod.mk.injEq] at hfixed
    obtain ⟨hadmin, hsupply, hcode, -⟩ := hfixed
    rw [withConfig, hc, Option.map_some, Option.map_some, Config.founding, hadmin, hsupply, hcode,
      ← Config.founding]
  | planned | forwarded | cleaned | shuffled | migrated => rfl
  | @paidOut _ _ payee =>
    rw [(s.escrowOnly_withPayout payee).view_eq Store.config fun _ _ _ => rfl]
  | staged hc _ _ _ _ _ _ _ _ _ ht =>
    rw [ht, hc]
    rfl
  | attached => exact s.map_config_withChild (fun _ _ => rfl) (fun _ _ => rfl) _ _

/-- The collections that a sound store lists have together as many tokens as there are slots. -/
theorem Sound.sum_supply (hs : s.Sound) {a : Allocator} (ha : s.allocator? = some a) :
    (s.collections.entries.map fun e => e.2.supply).sum = a.arena.total := by
  obtain ⟨a', ha', hconsistent, hlists⟩ := hs.allocator
  obtain rfl := Option.some.inj (ha.symm.trans ha')
  have hdistinct : ((a.arena.layout.map fun r => (r.collection, r.supply)).map Prod.fst).Nodup := by
    rw [List.map_map]
    exact hconsistent.arena.laid.distinct
  have hslots := hconsistent.arena.laid.abut.sum_supply
  rw [Nat.zero_add] at hslots
  rw [SortedMap.sum_map_entries Collection.supply hdistinct, List.map_map, ← hslots]
  · rfl
  · intro id supply
    rw [← hlists]
    simp

end Store

/-- What was founded stays so over a run. -/
theorem Run.founding_eq (hstart : start.Sound) (h : Run start events s) :
    s.config.map Config.founding = start.config.map Config.founding := by
  induction h with
  | start => rfl
  | next hrun hperform ih => exact ((hrun.sound hstart).founding_eq hperform).trans ih

/-- The number of slots stays the same over a run. -/
theorem Run.total_eq (hstart : start.Sound) (h : Run start events s) {a b : Allocator}
    (ha : start.allocator? = some a) (hb : s.allocator? = some b) :
    b.arena.total = a.arena.total := by
  obtain ⟨a', b', tokens, ha', hb', hmoves, -⟩ := h.moves_emitted hstart
  obtain rfl := Option.some.inj (ha.symm.trans ha')
  obtain rfl := Option.some.inj (hb.symm.trans hb')
  exact hmoves.layout_total_eq.2

/-- A setup on an empty store makes as many slots as its configuration has tokens. -/
theorem Founded.exists_total_eq (h : Founded s) :
    ∃ c a, s.config = some c ∧ s.allocator? = some a ∧ a.arena.total = c.totalSupply := by
  obtain ⟨-, a, ha, -⟩ := h.sound
  obtain ⟨setup, env, sender, response, hrun⟩ := h
  obtain ⟨collections, c, b, -, hcollections, hconfig, -, hb, rfl, -⟩ := Setup.run_eq_ok hrun
  have hsupply : c.totalSupply = Collection.totalSupply collections :=
    (Setup.config_eq_ok hconfig).1
  obtain ⟨b', hb', -, -, htotal, -⟩ := CollectionRequest.exists_ofCollections hcollections
  obtain rfl := Except.ok.inj (hb.symm.trans hb')
  obtain ⟨harena, -⟩ := Store.allocator?_eq_some_iff.mp ha
  refine ⟨c, a, rfl, ha, ?_⟩
  rw [← Option.some.inj harena, htotal, hsupply]

/-- Of every reachable mint the configuration has as many tokens as there are slots. -/
theorem Reachable.total_eq (h : Reachable s) {a : Allocator} (hc : s.config = some c)
    (ha : s.allocator? = some a) : a.arena.total = c.totalSupply := by
  obtain ⟨start, events, hstart, hrun⟩ := h
  obtain ⟨c₀, a₀, hc₀, ha₀, hfounded⟩ := hstart.exists_total_eq
  have hsame := hrun.founding_eq hstart.sound.1
  rw [hc, hc₀, Option.map_some, Option.map_some, Option.some.injEq] at hsame
  simp only [Config.founding, Prod.mk.injEq] at hsame
  rw [hrun.total_eq hstart.sound.1 ha₀ ha, hfounded, hsame.2.2]

/-- Every reachable mint supplies tokens of some collection, since it has at least one. -/
theorem Reachable.collectionIds_ne_nil (h : Reachable s) {a : Allocator}
    (ha : s.allocator? = some a) : a.collectionIds ≠ [] := by
  intro hnone
  obtain ⟨c, hc, hvalid⟩ := h.sound.config
  have hpositive := (Config.validate_eq_ok_iff.mp hvalid).supply.1
  rw [← h.total_eq hc ha, ← (h.sound.consistent ha).sum_total,
    List.map_eq_nil_iff.mp hnone] at hpositive
  exact absurd hpositive (by decide)

/-- Over every run of a mint the configuration is valid. It has as many tokens as there are slots,
as all supplies tell together and as all listed collections have together. Its administrator's role,
the code of its collections and its number of tokens are those that the setup has stored. -/
theorem settings_valid_as_founded (hstart : Founded start) (hrun : Run start events s) :
    ∃ c₀ c arena, start.config = some c₀ ∧ s.config = some c ∧ s.arena = some arena ∧ c.Valid ∧
      arena.total = c.totalSupply ∧
      (s.supplies.entries.map fun e => e.2.total).sum = c.totalSupply ∧
      (s.collections.entries.map fun e => e.2.supply).sum = c.totalSupply ∧
      c.admin = c₀.admin ∧ c.collectionCode = c₀.collectionCode ∧
      c.totalSupply = c₀.totalSupply := by
  obtain ⟨c₀, -, hc₀, -, -⟩ := hstart.exists_total_eq
  have hsound := hrun.sound hstart.sound.1
  obtain ⟨c, hc, hvalid⟩ := hsound.config
  obtain ⟨a, ha, hconsistent, -⟩ := hsound.allocator
  obtain ⟨harena, hsupplies⟩ := Store.allocator?_eq_some_iff.mp ha
  have hsame := hrun.founding_eq hstart.sound.1
  rw [hc, hc₀, Option.map_some, Option.map_some, Option.some.injEq] at hsame
  simp only [Config.founding, Prod.mk.injEq] at hsame
  obtain ⟨hadmin, hcode, htokens⟩ := hsame
  have htotal : a.arena.total = c.totalSupply :=
    Reachable.total_eq ⟨start, events, hstart, hrun⟩ hc ha
  refine ⟨c₀, c, a.arena, hc₀, hc, harena, Config.validate_eq_ok_iff.mp hvalid, htotal, ?_, ?_,
    hadmin, hcode, htokens⟩
  · rw [hsupplies, hconsistent.sum_total, htotal]
  · rw [hsound.sum_supply ha, htotal]

/-- After a first sale the configuration is valid and still has the three tokens that the setup has
made slots for. -/
theorem settings_valid_as_founded_first_sale :
    Founded FirstSale.founded ∧ Run FirstSale.founded FirstSale.events FirstSale.sold ∧
      ∃ c arena, FirstSale.sold.config = some c ∧ FirstSale.sold.arena = some arena ∧ c.Valid ∧
        arena.total = 3 := by
  obtain ⟨_, c, arena, -, hc, harena, hvalid, htotal, -⟩ :=
    settings_valid_as_founded FirstSale.founded_founded FirstSale.run_events.1
  have hthree : FirstSale.sold.config.map Config.totalSupply = some 3 := by decide +kernel
  rw [hc, Option.map_some, Option.some.injEq] at hthree
  exact ⟨FirstSale.founded_founded, FirstSale.run_events.1, c, arena, hc, harena, hvalid,
    htotal.trans hthree⟩

end ShuffleMint
