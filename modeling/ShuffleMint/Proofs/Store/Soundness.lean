import ShuffleMint.Proofs.Command.Allocation
import ShuffleMint.Proofs.Lifecycle

/-!
# Sound stores

A store is sound when its configuration is valid, its allocator is consistent and covers the listed
collections, and its escrow is balanced. Every successful transaction advances a sound store: it
moves the allocator, keeps the collections, and leaves a valid configuration and a balanced escrow.
The tokens that its moves issue are those of the mint messages that it sends, in their order.
-/

namespace ShuffleMint

/-- The commands that are paid and settle a revenue. -/
def Command.isSale : Command → Bool
  | .mint _ _ => true
  | .mintBundle => true
  | .mintCustomBundle => true
  | _ => false

/-- Whether a message tells the contract of a collection to mint a token. -/
def Message.isMint : Message → Bool
  | .execute _ (.mintToken _ _ _) => true
  | _ => false

/-- The mint messages of a response, in their order. -/
def Response.mints (r : Response) : List Message :=
  (r.dispatches.map Dispatch.message).filter Message.isMint

/-- The mint messages of a response are those among its messages. -/
@[simp] theorem Response.mints_ofMessages (attributes : List (String × String))
    (messages : List Message) :
    (ofMessages attributes messages).mints = messages.filter Message.isMint := by
  simp [mints, ofMessages, Function.comp_def]

namespace Store

variable {s t : Store}

/-- The message that mints a token is a mint message. -/
theorem Mints.isMint {owner : Address} {token : Token} {m : Message} (h : s.Mints owner token m) :
    m.isMint = true := by
  obtain ⟨_, _, _, _, rfl⟩ := h
  rfl

/-- Messages that mint tokens one by one are all mint messages. -/
theorem filter_isMint_of_mints {owner : Address} {tokens : List Token} {messages : List Message}
    (h : List.Forall₂ (s.Mints owner) tokens messages) :
    messages.filter Message.isMint = messages := by
  induction h with
  | nil => rfl
  | cons hfirst _ ih => rw [List.filter_cons_of_pos hfirst.isMint, ih]

/-- The runs of a layout are the listed collections with their supplies. -/
def Lists (s : Store) (layout : List SlotRun) : Prop :=
  ∀ id supply, (∃ r ∈ layout, r.collection = id ∧ r.supply = supply) ↔
    ∃ c, s.collections.get? id = some c ∧ c.supply = supply

/-- The parts of a store fit together. -/
structure Sound (s : Store) : Prop where
  config : ∃ c, s.config = some c ∧ c.validate = .ok ()
  allocator : ∃ a, s.allocator? = some a ∧ a.Consistent ∧ s.Lists a.arena.layout
  balanced : s.EscrowBalanced

/-- The allocator that a sound store holds is consistent. -/
theorem Sound.consistent (hs : s.Sound) {a : Allocator} (ha : s.allocator? = some a) :
    a.Consistent := by
  obtain ⟨a', ha', hconsistent, -⟩ := hs.allocator
  obtain rfl := Option.some.inj (ha.symm.trans ha')
  exact hconsistent

/-- The configuration that a sound store holds is valid. -/
theorem Sound.validate_eq_ok (hs : s.Sound) {c : Config} (hc : s.config = some c) :
    c.validate = .ok () := by
  obtain ⟨c', hc', hvalid⟩ := hs.config
  obtain rfl := Option.some.inj (hc.symm.trans hc')
  exact hvalid

/-- The second store is the first after moves of the allocator that issue tokens, and after changes
elsewhere that keep it sound. -/
structure Advances (s : Store) (tokens : List Token) (t : Store) : Prop where
  moved : ∃ a b, s.allocator? = some a ∧ t.allocator? = some b ∧ a.Moves tokens b
  collections : t.collections = s.collections
  config : ∃ c, t.config = some c ∧ c.validate = .ok ()
  balanced : t.EscrowBalanced

/-- A sound store that advances stays sound. -/
theorem Advances.sound {tokens : List Token} (h : s.Advances tokens t) (hs : s.Sound) :
    t.Sound := by
  obtain ⟨a, b, ha, hb, hmoves⟩ := h.moved
  obtain ⟨a', ha', hconsistent, hlists⟩ := hs.allocator
  obtain rfl := Option.some.inj (ha.symm.trans ha')
  refine ⟨h.config, ⟨b, hb, hmoves.consistent hconsistent, fun id supply => ?_⟩, h.balanced⟩
  rw [hmoves.layout_total_eq.1, h.collections]
  exact hlists id supply

/-- A change that leaves the allocator and the collections alone issues nothing. -/
theorem Sound.advances_of_eq (hs : s.Sound) (hallocator : t.allocator? = s.allocator?)
    (hcollections : t.collections = s.collections)
    (hconfig : ∃ c, t.config = some c ∧ c.validate = .ok ()) (hbalanced : t.EscrowBalanced) :
    s.Advances [] t := by
  obtain ⟨a, ha, -⟩ := hs.allocator
  exact ⟨⟨a, a, ha, by rw [hallocator, ha], .refl⟩, hcollections, hconfig, hbalanced⟩

/-- The store itself is an advance that issues nothing. -/
theorem Sound.advances_refl (hs : s.Sound) : s.Advances [] s :=
  hs.advances_of_eq rfl rfl hs.config hs.balanced

/-- A moved allocator that is stored is an advance. -/
theorem Sound.advances_withAllocator (hs : s.Sound) {a b : Allocator} {tokens : List Token}
    (ha : s.allocator? = some a) (hmoves : a.Moves tokens b) :
    s.Advances tokens (s.withAllocator b) := by
  obtain ⟨a', ha', hconsistent, -⟩ := hs.allocator
  obtain rfl := Option.some.inj (ha.symm.trans ha')
  have hstored := allocator?_withAllocator ha hconsistent hmoves
  exact ⟨⟨a, b, ha, hstored, hmoves⟩, rfl, hs.config, hs.balanced.congr rfl rfl⟩

section Advances

variable {u : Store} {tokens : List Token}

/-- Listing the staged tokens is part of an advance. -/
theorem Advances.withStaged (h : s.Advances tokens u) (staged : List Token) :
    s.Advances tokens (u.withStaged staged) :=
  ⟨h.moved, h.collections, h.config, h.balanced.congr rfl rfl⟩

/-- Writing a valid configuration is part of an advance. -/
theorem Advances.withConfig (h : s.Advances tokens u) {c : Config} (hvalid : c.validate = .ok ()) :
    s.Advances tokens (u.withConfig c) :=
  ⟨h.moved, h.collections, ⟨c, rfl, hvalid⟩, h.balanced.congr rfl rfl⟩

end Advances

end Store

/-- The terms of a custom bundle say nothing of the validity of the settings. -/
theorem CustomBundle.validate_withTerms (c : Config) (count price staged : Nat) :
    (withTerms c count price staged).validate = c.validate := rfl

/-- Completing the bundles leaves the validity of the settings, the shares, the escrow switch and
the balances alone. -/
theorem Bundle.close_keeps {c c' : Config} {exhausted : Bool} {s t : Store}
    (h : close c exhausted s = (.ok c', t)) :
    c'.validate = c.validate ∧ c'.royalties = c.royalties ∧ c'.escrowFunds = c.escrowFunds ∧
      t.balances = s.balances ∧ t.escrowTotals = s.escrowTotals := by
  rcases close_eq_ok h with ⟨-, rfl, rfl⟩ | ⟨-, rfl, rfl⟩ <;> exact ⟨rfl, rfl, rfl, rfl, rfl⟩

/-- Completing the custom bundle leaves the same things alone. -/
theorem CustomBundle.close_keeps {c c' : Config} {left : List Token} {s t : Store}
    (h : close c left s = (.ok c', t)) :
    c'.validate = c.validate ∧ c'.royalties = c.royalties ∧ c'.escrowFunds = c.escrowFunds ∧
      t.balances = s.balances ∧ t.escrowTotals = s.escrowTotals := by
  rcases close_eq_ok h with ⟨-, rfl, rfl⟩ | ⟨-, rfl, rfl⟩ <;> exact ⟨rfl, rfl, rfl, rfl, rfl⟩

end ShuffleMint
