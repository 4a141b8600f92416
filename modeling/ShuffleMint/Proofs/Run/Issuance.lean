import Mathlib.Data.List.Forall2
import Mathlib.Data.List.Nodup
import ShuffleMint.Proofs.Run.History

/-!
# Issued tokens are minted, once each

Over a whole run, the mint messages mint the tokens of the issued slots in the order of issue: none
is minted without being issued, none is issued without its mint, and none comes twice. A message
does not name its collection, so what it mints is told by the store in which it was formed: it goes
to the contract that the collection of its token has there.
-/

namespace ShuffleMint

/-- The mint messages of a run in the order in which they are emitted, each with the store in which
its transaction was taken. -/
def Store.emissions (s : Store) (events : List Event) : List (Store × Message) :=
  (s.replay events).flatMap fun e => e.2.response.mints.map (Prod.mk e.1)

/-- An emitted message mints a token, to whichever owner. -/
def MintsToken (emission : Store × Message) (t : Token) : Prop :=
  ∃ owner, emission.1.Mints owner t emission.2

variable {start s : Store} {events : List Event}

namespace Run

/-- What a run emits grows by the mint messages of its last event. -/
theorem emissions_next (h : Run start events s) (e : Event) :
    start.emissions (events ++ [e]) =
      start.emissions events ++ e.response.mints.map (Prod.mk s) := by
  rw [Store.emissions, h.replay_next, List.flatMap_append]
  simp [Store.emissions]

/-- A run from a sound store moves the allocator, and the tokens that the moves issue are those that
the emitted messages mint, in their order. -/
theorem moves_emitted (hs : start.Sound) (h : Run start events s) :
    ∃ a b tokens, start.allocator? = some a ∧ s.allocator? = some b ∧ a.Moves tokens b ∧
      List.Forall₂ MintsToken (start.emissions events) tokens := by
  induction h with
  | start =>
    obtain ⟨a, ha, -⟩ := hs.allocator
    exact ⟨a, a, [], ha, ha, .refl, .nil⟩
  | @next events m t transaction r hrun hperform ih =>
    obtain ⟨a, b, tokens, ha, hb, hmoves, hminted⟩ := ih
    obtain ⟨more, owner, hadvance, hmints, -⟩ := (hrun.sound hs).advances_perform hperform
    obtain ⟨b', c, hb', hc, hmore⟩ := hadvance.moved
    obtain rfl := Option.some.inj (hb.symm.trans hb')
    refine ⟨a, c, tokens ++ more, ha, hc, hmoves.trans hmore, ?_⟩
    have hmessages : List.Forall₂ (fun message token => m.Mints owner token message) r.mints more :=
      hmints.flip
    have hlast : List.Forall₂ MintsToken (r.mints.map (Prod.mk m)) more :=
      List.forall₂_map_left_iff.mpr (hmessages.imp fun _ _ hmint => ⟨owner, hmint⟩)
    rw [hrun.emissions_next]
    exact List.rel_append hminted hlast

/-- What is issued stays issued, in its place. -/
theorem issuedSlots_prefix (hs : start.Sound) (h : Run start events s) {a b : Allocator}
    (ha : start.allocator? = some a) (hb : s.allocator? = some b) :
    a.arena.issuedSlots <+: b.arena.issuedSlots := by
  obtain ⟨a', b', tokens, ha', hb', hmoves, -⟩ := h.moves_emitted hs
  obtain rfl := Option.some.inj (ha.symm.trans ha')
  obtain rfl := Option.some.inj (hb.symm.trans hb')
  obtain ⟨slots, hslots, -⟩ := hmoves.exists_issuedSlots_eq (hs.consistent ha)
  exact ⟨slots, hslots.symm⟩

end Run

/-- The tokens of slots that come once each come once each. -/
theorem Arena.WellLaid.nodup_of_slots {a : Arena} (h : a.WellLaid) {slots : List Nat}
    (hslots : slots.Nodup) {tokens : List Token}
    (htokens : slots.map a.tokenOf = tokens.map Except.ok) : tokens.Nodup := by
  have hmapped : (slots.map a.tokenOf).Nodup := by
    refine hslots.map_on fun slot hslot slot' _ hsame => ?_
    have htoken : a.tokenOf slot ∈ tokens.map Except.ok := htokens ▸ List.mem_map_of_mem hslot
    obtain ⟨t, -, ht⟩ := List.mem_map.mp htoken
    exact h.eq_of_tokenOf ht.symm (hsame.symm.trans ht.symm)
  rw [htokens] at hmapped
  exact hmapped.of_map

/-- The tokens of the issued slots of a consistent arena come once each. -/
theorem Arena.Consistent.nodup_of_issued {a : Arena} (h : a.Consistent) {tokens : List Token}
    (htokens : a.issuedSlots.map a.tokenOf = tokens.map Except.ok) : tokens.Nodup :=
  h.laid.nodup_of_slots h.issued_nodup htokens

/-- Moves issue no token twice. -/
theorem Allocator.Moves.nodup {a b : Allocator} {tokens : List Token} (h : a.Moves tokens b)
    (ha : a.Consistent) : tokens.Nodup := by
  obtain ⟨slots, hslots, htokens⟩ := h.exists_issuedSlots_eq ha
  have hnodup := (h.consistent ha).arena.issued_nodup
  rw [hslots, List.nodup_append] at hnodup
  exact ha.arena.laid.nodup_of_slots hnodup.2.1 htokens

/-- A token that stands at a slot of a sound store is one of a listed collection. -/
theorem Store.Sound.exists_collection (hs : s.Sound) {a : Allocator} (ha : s.allocator? = some a)
    {slot : Nat} {t : Token} (htoken : a.arena.tokenOf slot = .ok t) :
    ∃ c, s.collections.get? t.collection = some c ∧ 1 ≤ t.number ∧ t.number ≤ c.supply := by
  obtain ⟨a', ha', hconsistent, hlists⟩ := hs.allocator
  obtain rfl := Option.some.inj (ha.symm.trans ha')
  obtain ⟨r, hr, hholds, rfl⟩ := hconsistent.arena.laid.tokenOf_eq_ok_iff.mp htoken
  obtain ⟨c, hc, hsupply⟩ := (hlists r.collection r.supply).mp ⟨r, hr, rfl, rfl⟩
  have hslot := SlotRun.holds_iff.mp hholds
  refine ⟨c, hc, Nat.le_add_left .., ?_⟩
  rw [hsupply]
  simp only
  omega

/-- A run that does not mint emits no mint message. -/
theorem Run.mints_eq_nil (hs : start.Sound) (h : Run start events s) {e : Event} (he : e ∈ events)
    (hminting : e.transaction.isMinting = false) : e.response.mints = [] := by
  induction h with
  | start => cases he
  | next hrun hperform ih =>
    rcases List.mem_append.mp he with he | he
    · exact ih he
    · obtain rfl := List.mem_singleton.mp he
      obtain ⟨tokens, owner, -, hmints, hsilent⟩ := (hrun.sound hs).advances_perform hperform
      rw [hsilent hminting] at hmints
      exact List.forall₂_nil_left_iff.mp hmints

/-- Over every run of a mint, the messages that mint tokens, taken in the order in which they are
emitted, mint exactly the tokens of the issued slots, in the order of issue. No token comes twice,
every number is one of its collection, what was issued at any time before is the beginning of what
is issued now, and only the minting commands emit such messages. -/
theorem emissions_mint_issued (hstart : Founded start) (hrun : Run start events s) :
    ∃ a tokens, s.allocator? = some a ∧
      a.arena.issuedSlots.map a.arena.tokenOf = tokens.map Except.ok ∧
      List.Forall₂ MintsToken (start.emissions events) tokens ∧
      tokens.Nodup ∧
      (∀ t ∈ tokens, ∃ c, s.collections.get? t.collection = some c ∧
        1 ≤ t.number ∧ t.number ≤ c.supply) ∧
      (∀ earlier later middle, events = earlier ++ later → Run start earlier middle →
        ∃ b, middle.allocator? = some b ∧ b.arena.issuedSlots <+: a.arena.issuedSlots) ∧
      ∀ e ∈ events, e.transaction.isMinting = false → e.response.mints = [] := by
  obtain ⟨hsound, origin, horigin, hnothing⟩ := hstart.sound
  obtain ⟨origin', a, tokens, horigin', ha, hmoves, hminted⟩ := hrun.moves_emitted hsound
  have hs := hrun.sound hsound
  obtain rfl := Option.some.inj (horigin.symm.trans horigin')
  obtain ⟨slots, hslots, htokens⟩ := hmoves.exists_issuedSlots_eq (hsound.consistent horigin)
  rw [hnothing, List.nil_append] at hslots
  rw [← hslots, ← hmoves.tokenOf_eq] at htokens
  refine ⟨a, tokens, ha, htokens, hminted, (hs.consistent ha).arena.nodup_of_issued htokens,
    fun t ht => ?_, fun earlier later middle hevents hearlier => ?_,
    fun e he => hrun.mints_eq_nil hsound he⟩
  · have hmem : Except.ok t ∈ a.arena.issuedSlots.map a.arena.tokenOf := by
      rw [htokens]
      exact List.mem_map_of_mem ht
    obtain ⟨slot, -, hslot⟩ := List.mem_map.mp hmem
    exact hs.exists_collection ha hslot
  · rw [hevents] at hrun
    obtain ⟨middle', hfirst, hlater⟩ := hrun.split
    obtain rfl := hearlier.eq_of_events hfirst
    have hmiddle := hearlier.sound hsound
    obtain ⟨b, hb, -⟩ := hmiddle.allocator
    exact ⟨b, hb, hlater.issuedSlots_prefix hmiddle hb ha⟩

/-- In a first sale one message is emitted, and it mints the token of the one slot that is issued.
-/
theorem emissions_mint_issued_first_sale :
    Founded FirstSale.founded ∧ Run FirstSale.founded FirstSale.events FirstSale.sold ∧
      ∃ a emission t, FirstSale.sold.allocator? = some a ∧
        FirstSale.founded.emissions FirstSale.events = [emission] ∧
        a.arena.issuedSlots.map a.arena.tokenOf = [Except.ok t] ∧ MintsToken emission t := by
  refine ⟨FirstSale.founded_founded, FirstSale.run_events.1, ?_⟩
  obtain ⟨a, tokens, ha, htokens, hminted, -⟩ :=
    emissions_mint_issued FirstSale.founded_founded FirstSale.run_events.1
  have hone : (FirstSale.founded.emissions FirstSale.events).length = 1 := by decide +kernel
  obtain ⟨emission, hemission⟩ := List.length_eq_one_iff.mp hone
  rw [hemission] at hminted
  cases hminted with
  | cons hfirst hrest =>
    cases hrest
    exact ⟨a, emission, _, ha, hemission, htokens, hfirst⟩

end ShuffleMint
