import ShuffleMint.Proofs.Allocator.Histories
import ShuffleMint.Proofs.Run.Effect

/-!
# Every transaction advances the store

A success on a sound store is an advance, and the tokens that it issues are those of its mint
messages. Setups leave sound stores, so every reachable store is sound.
-/

namespace ShuffleMint

variable {s t : Store} {r : Response}

/-- Whether a transaction is one of the four commands that mint tokens. -/
def Transaction.isMinting : Transaction → Bool
  | .command _ (.mint _ _) => true
  | .command _ .mintBundle => true
  | .command _ (.claimAirdrop _ _) => true
  | .command _ .mintCustomBundle => true
  | _ => false

/-- A successful transaction advances the store and issues, in the order of its mint messages, the
tokens that these mint. One that is not minting issues none. -/
def Store.AdvancesBy (s : Store) (isMinting : Bool) (r : Response) (t : Store) : Prop :=
  ∃ tokens owner, s.Advances tokens t ∧ List.Forall₂ (s.Mints owner) tokens r.mints ∧
    (isMinting = false → tokens = [])

/-- A response without mint messages goes with an advance that issues nothing. -/
theorem Store.Advances.by_silence (h : s.Advances [] t) (hmints : r.mints = []) {isMinting : Bool} :
    s.AdvancesBy isMinting r t :=
  ⟨[], "", h, by rw [hmints]; exact .nil, fun _ => rfl⟩

/-- A command that is booked on a channel is one of the minting ones. -/
theorem Command.isMinting_of_channel? {c : Config} {now : Nat} {command : Command}
    {channel : Channel} (h : command.channel? c now = some channel) (call : Call) :
    (Transaction.command call command).isMinting = true := by
  cases command <;> first | rfl | cases h

namespace Store.Sound

/-- What has been minted advances the store when the configuration stays valid. -/
theorem advancesBy_of_minted (hs : s.Sound) {call : Call} {command : Command} {c c' : Config}
    {channel : Channel} {recipient : Address} {tokens : List Token}
    (h : s.Minted call command c channel recipient tokens r t) (hconfig : t.config = some c')
    (hvalid : c'.validate = c.validate) :
    s.AdvancesBy (Transaction.command call command).isMinting r t := by
  obtain ⟨a, b, ha, hb, hissues, -⟩ := h.issued
  refine ⟨tokens, recipient, ⟨⟨a, b, ha, hb, hissues.moves⟩, h.kept.1,
    ⟨c', hconfig, hvalid.trans (hs.validate_eq_ok h.config)⟩, h.balanced⟩, h.mints, fun hidle => ?_⟩
  rw [Command.isMinting_of_channel? h.booked] at hidle
  cases hidle

/-- A child that is attached is no part of what has to fit together. -/
theorem advances_withChild (hs : s.Sound) (contract : Address) (child : ChildContract) :
    s.Advances [] (s.withChild contract child) := by
  obtain ⟨c, hc, hvalid⟩ := hs.config
  have hvalidate : (s.withChild contract child).config.map Config.validate =
      s.config.map Config.validate :=
    s.map_config_withChild (fun _ _ => rfl) (fun _ _ => rfl) contract child
  rw [hc, Option.map_some, hvalid, Option.map_eq_some_iff] at hvalidate
  cases child <;> exact hs.advances_of_eq rfl rfl hvalidate (hs.balanced.congr rfl rfl)

/-- A payout takes from the escrow only. -/
theorem advances_withPayout (hs : s.Sound) (payee : Address) :
    s.Advances [] (s.withPayout payee) := by
  have honly := s.escrowOnly_withPayout payee
  have hconfig := honly.view_eq Store.config fun _ _ _ => rfl
  exact hs.advances_of_eq (honly.view_eq Store.allocator? fun _ _ _ => rfl)
    (honly.view_eq Store.collections fun _ _ _ => rfl) (by rw [hconfig]; exact hs.config)
    (hs.balanced.withPayout payee)

/-- Every successful transaction on a sound store advances it. -/
theorem advances_perform (hs : s.Sound) {transaction : Transaction}
    (h : transaction.perform s = (.ok r, t)) : s.AdvancesBy transaction.isMinting r t := by
  cases hs.effect h with
  | minted hminted _ _ _ hconfig => exact hs.advancesBy_of_minted hminted hconfig rfl
  | sold hminted _ _ _ _ hconfig => exact hs.advancesBy_of_minted hminted hconfig rfl
  | configured _ _ _ hvalid hidle =>
    exact (hs.advances_refl.withConfig hvalid).by_silence hidle.1
  | planned _ _ hidle => exact hs.advances_refl.by_silence hidle.1
  | forwarded _ _ hidle => exact hs.advances_refl.by_silence hidle.1
  | cleaned _ _ ha _ hmoves _ hidle =>
    exact (hs.advances_withAllocator ha hmoves).by_silence hidle.1
  | shuffled ha _ hmoves _ hidle =>
    exact (hs.advances_withAllocator ha hmoves).by_silence hidle.1
  | paidOut _ _ hmints => exact (hs.advances_withPayout _).by_silence hmints
  | @staged _ count price _ _ c _ _ kept _ _ hc _ _ ha _ hmoves _ _ _ hidle ht =>
    have hvalid := (CustomBundle.validate_withTerms c count price kept.length).trans
      (hs.validate_eq_ok hc)
    have hstaged := (hs.advances_withAllocator ha hmoves).withStaged kept
    rw [ht]
    exact (hstaged.withConfig hvalid).by_silence hidle.1
  | attached hidle => exact (hs.advances_withChild _ _).by_silence hidle.1
  | @migrated info _ hidle =>
    have hadvance : s.Advances [] { s with contractInfo := info } :=
      hs.advances_of_eq rfl rfl hs.config (hs.balanced.congr rfl rfl)
    exact hadvance.by_silence hidle.1

end Store.Sound

/-- Collections with ids of their own are found by them. -/
theorem Collection.get?_foldl_insert {collections : List Collection}
    (hids : (collections.map Collection.id).Nodup) {id : Nat} {c : Collection} :
    (collections.foldl (fun m c => m.insert c.id c) SortedMap.empty).get? id = some c ↔
      c ∈ collections ∧ c.id = id := by
  have hdistinct : ((collections.map fun c => (c.id, c)).map Prod.fst).Nodup := by
    rw [List.map_map]
    exact hids
  have hentries : collections.foldl (fun m c => m.insert c.id c) SortedMap.empty =
      SortedMap.ofList (collections.map fun c => (c.id, c)) := by
    rw [SortedMap.ofList, List.foldl_map]
  rw [hentries, SortedMap.get?_ofList_eq_some_iff hdistinct]
  simp only [List.mem_map, Prod.mk.injEq]
  constructor
  · rintro ⟨c', hc', rfl, rfl⟩
    exact ⟨hc', rfl⟩
  · rintro ⟨hc, rfl⟩
    exact ⟨c, hc, rfl, rfl⟩

/-- A setup on an empty store leaves a sound one, from which nothing is issued yet. -/
theorem Founded.sound (h : Founded s) :
    s.Sound ∧ ∃ a, s.allocator? = some a ∧ a.arena.issuedSlots = [] := by
  obtain ⟨setup, env, sender, response, hrun⟩ := h
  obtain ⟨collections, c, a, -, hcollections, -, hvalid, ha, rfl, -⟩ := Setup.run_eq_ok hrun
  have hids := CollectionRequest.nodup_ids hcollections
  obtain ⟨a', ha', hconsistent, hcursor, -, hlayout⟩ :=
    CollectionRequest.exists_ofCollections hcollections
  obtain rfl := Except.ok.inj (ha.symm.trans ha')
  have hstored : some (Allocator.mk a.arena (Store.withSupplies Store.empty.supplies a.supplies)) =
      some a := by
    rw [Store.withSupplies_eq fun k hk => by simp [Store.empty] at hk]
  have hzero : 0 < amountBound := by decide
  refine ⟨⟨⟨c, rfl, hvalid⟩, ⟨a, hstored, hconsistent, fun id supply => ?_⟩, ⟨rfl, hzero⟩⟩,
    a, hstored, hcursor⟩
  have hlisted : (∃ r ∈ a.arena.layout, r.collection = id ∧ r.supply = supply) ↔
      (id, supply) ∈ collections.map fun c => (c.id, c.supply) := by
    rw [← hlayout]
    simp
  rw [hlisted]
  simp only [Store.empty, Collection.get?_foldl_insert hids, List.mem_map, Prod.mk.injEq, and_assoc]

/-- A run from a sound store ends in a sound one. -/
theorem Run.sound {events : List Event} (h : Run s events t) (hs : s.Sound) : t.Sound := by
  induction h with
  | start => exact hs
  | next _ hperform ih =>
    obtain ⟨tokens, owner, hadvance, -⟩ := ih.advances_perform hperform
    exact hadvance.sound ih

/-- Every reachable store is sound. -/
theorem Reachable.sound (h : Reachable s) : s.Sound := by
  obtain ⟨start, events, hfounded, hrun⟩ := h
  exact hrun.sound hfounded.sound.1

end ShuffleMint
