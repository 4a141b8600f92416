import ShuffleMint.Proofs.Allocator.Histories
import ShuffleMint.Proofs.Command.Administering

/-!
# What a successful setup, reply or migration has done

The transactions that no caller of a mint in operation sends, read backwards: the store that a setup
leaves behind it, the one place that a reply writes to, and the version that a migration writes.
-/

namespace ShuffleMint

namespace CollectionRequest

/-- Collections are numbered upwards, and keep what was asked for. -/
theorem ids_number (id : Nat) (rs : List CollectionRequest) :
    (number id rs).map Collection.id = (List.range' id rs.length) := by
  induction rs generalizing id with
  | nil => rfl
  | cons r rest ih => rw [number, List.map_cons, ih, List.length_cons, List.range'_succ]

/-- The collections of a setup are valid, numbered, and together no more than a mint may have. -/
theorem validateAll_eq_ok {rs : List CollectionRequest} {collections : List Collection}
    (h : validateAll rs = .ok collections) :
    validateEach rs = .ok () ∧ collections = number ReplyId.firstCollection rs ∧
      1 ≤ Collection.totalSupply collections ∧ Collection.totalSupply collections ≤ maxSupply := by
  simp only [validateAll, Outcome.bind_eq_ok_iff] at h
  obtain ⟨_, heach, hsupply⟩ := h
  split at hsupply
  · next hbounds =>
    obtain rfl := Except.ok.inj hsupply
    have hcount : countBound = 0x100000000 := rfl
    have hmost : maxSupply = 50000 := rfl
    refine ⟨heach, rfl, ?_, ?_⟩ <;> omega
  · cases hsupply

end CollectionRequest

/-- The supplies of collections add up to their total. -/
theorem Collection.totalSupply_eq_sum (collections : List Collection) :
    totalSupply collections = (collections.map Collection.supply).sum := by
  induction collections with
  | nil => rfl
  | cons c rest ih => rw [totalSupply, ih, List.map_cons, List.sum_cons]

/-- The collections of a setup have ids of their own. -/
theorem CollectionRequest.nodup_ids {rs : List CollectionRequest} {collections : List Collection}
    (h : validateAll rs = .ok collections) : (collections.map Collection.id).Nodup := by
  obtain ⟨-, hnumbered, -⟩ := validateAll_eq_ok h
  rw [hnumbered, ids_number]
  exact List.nodup_range'

/-- The collections of a setup can be laid out, with a slot for each of their tokens and no slot
issued. -/
theorem CollectionRequest.exists_ofCollections {rs : List CollectionRequest}
    {collections : List Collection} (h : validateAll rs = .ok collections) :
    ∃ a, Allocator.ofCollections (collections.map fun c => (c.id, c.supply)) = .ok a ∧
      a.Consistent ∧ a.arena.issuedSlots = [] ∧
      a.arena.total = Collection.totalSupply collections ∧
      a.arena.layout.map (fun r => (r.collection, r.supply)) =
        collections.map fun c => (c.id, c.supply) := by
  obtain ⟨-, -, -, hmost⟩ := validateAll_eq_ok h
  have hcount : maxSupply < countBound := by decide
  have hdistinct : ((collections.map fun c => (c.id, c.supply)).map Prod.fst).Nodup := by
    rw [List.map_map]
    exact nodup_ids h
  have hsum : ((collections.map fun c => (c.id, c.supply)).map Prod.snd).sum =
      Collection.totalSupply collections := by
    rw [List.map_map]
    exact (Collection.totalSupply_eq_sum collections).symm
  have hbounded := Nat.lt_of_le_of_lt hmost hcount
  rw [← hsum] at hbounded
  obtain ⟨a, ha, hconsistent, -, htotal, hlayout⟩ :=
    Allocator.exists_ofCollections hdistinct hbounded
  have hcursor : a.arena.issuedSlots = [] := by
    obtain ⟨laid, -, rfl⟩ := Outcome.map_eq_ok_iff.mp ha
    rfl
  exact ⟨a, ha, hconsistent, hcursor, htotal.trans hsum, hlayout⟩

/-- The first configuration has the number of tokens that it is made for, completes no channel, has
no custom bundle, and names the collaborators that are given. -/
theorem Setup.config_eq_ok {setup : Setup} {sender : Address} {totalSupply : Nat} {c : Config}
    (h : setup.config sender totalSupply = .ok c) :
    c.totalSupply = totalSupply ∧ c.bundleCompleted = false ∧ c.customEnabled = false ∧
      validateAddress? setup.airdropper = .ok c.airdropper ∧
      validateAddress? setup.whitelist = .ok c.whitelist := by
  simp only [config, Outcome.bind_eq_ok_iff] at h
  obtain ⟨_, -, _, -, airdropper, hairdropper, whitelist, hwhitelist, _, -, hc⟩ := h
  obtain rfl := Except.ok.inj hc
  exact ⟨rfl, rfl, rfl, hairdropper, hwhitelist⟩

/-- A setup on a store fixes the numbered collections, the first configuration, which is valid, and
the allocator of the collections, and opens an empty escrow. -/
theorem Setup.run_eq_ok {setup : Setup} {env : Env} {sender : Address} {s t : Store} {r : Response}
    (h : setup.run env sender s = (.ok r, t)) :
    ∃ collections c a,
      setup.validateRequest env.time = .ok () ∧
      CollectionRequest.validateAll setup.collections = .ok collections ∧
      setup.config sender (Collection.totalSupply collections) = .ok c ∧
      c.validate = .ok () ∧
      Allocator.ofCollections (collections.map fun c => (c.id, c.supply)) = .ok a ∧
      t = { s with
        config := some c
        arena := some a.arena
        supplies := Store.withSupplies s.supplies a.supplies
        staged := some []
        collections := collections.foldl (fun m c => m.insert c.id c) s.collections
        escrowTotals := some ⟨0, 0⟩
        contractInfo := some ContractInfo.current } ∧
      r.dispatches = setup.moduleCreations env.self ++
        collections.map fun collection => collection.creation c.collectionCode env.self := by
  simp only [Setup.run, Step.modify_bind_apply, Step.bind_eq_ok_iff, Step.lift_eq_ok_iff,
    Store.saveConfig_eq_ok_iff, Store.saveAllocator_eq_ok_iff, Store.saveStaged_eq_ok_iff,
    Step.pure_eq_ok_iff, and_assoc, exists_and_left, exists_eq_left, exists_const] at h
  obtain ⟨_, hrequest, collections, hcollections, c, hc, _, hvalid, a, ha, rfl, rfl⟩ := h
  exact ⟨collections, c, a, hrequest, hcollections, hc, hvalid, ha, rfl, rfl⟩

/-- The store with the address of a created contract written into it. -/
def Store.withChild (s : Store) (contract : Address) : ChildContract → Store
  | .airdropper => { s with config := s.config.map fun c => { c with airdropper := some contract } }
  | .whitelist => { s with config := s.config.map fun c => { c with whitelist := some contract } }
  | .collection id =>
    { s with collectionContracts := s.collectionContracts.insert id contract }

/-- A child that is attached leaves alone whatever does not depend on the collaborators. -/
theorem Store.map_config_withChild {α : Type} {view : Config → α}
    (hairdropper : ∀ c contract, view { c with airdropper := contract } = view c)
    (hwhitelist : ∀ c contract, view { c with whitelist := contract } = view c)
    (s : Store) (contract : Address) (child : ChildContract) :
    (s.withChild contract child).config.map view = s.config.map view := by
  cases child with
  | collection id => rfl
  | airdropper =>
    rw [withChild, Option.map_map]
    exact congrArg (s.config.map ·) (funext fun c => hairdropper c contract)
  | whitelist =>
    rw [withChild, Option.map_map]
    exact congrArg (s.config.map ·) (funext fun c => hwhitelist c contract)

/-- The address of a created contract is written where it belongs. -/
theorem ChildContract.attach_eq_ok {child : ChildContract} {contract : Address} {u : Unit}
    {s t : Store} (h : child.attach contract s = (.ok u, t)) : t = s.withChild contract child := by
  cases child with
  | collection id =>
    rw [attach] at h
    exact Step.modify_eq_ok_iff.mp h
  | airdropper =>
    simp only [attach, Step.bind_eq_ok_iff, Store.loadConfig_eq_ok_iff,
      Store.saveConfig_eq_ok_iff, and_assoc, exists_and_left, exists_eq_left] at h
    obtain ⟨c, hc, rfl⟩ := h
    rw [Store.withChild, hc]
    rfl
  | whitelist =>
    simp only [attach, Step.bind_eq_ok_iff, Store.loadConfig_eq_ok_iff,
      Store.saveConfig_eq_ok_iff, and_assoc, exists_and_left, exists_eq_left] at h
    obtain ⟨c, hc, rfl⟩ := h
    rw [Store.withChild, hc]
    rfl

/-- A reply tells of a known creation, whose address is written where it belongs. -/
theorem receiveReply_eq_ok {id : Nat} {result : CreationResult} {s t : Store} {r : Response}
    (h : receiveReply id result s = (.ok r, t)) :
    ∃ child text contract,
      s.childOf? id = some child ∧
      result.address? = some text ∧
      validateAddress text = .ok contract ∧
      t = s.withChild contract child ∧
      r = Response.silent
        [("action", "instantiate_reply"), ("contract", child.label), ("address", contract)] := by
  simp only [receiveReply, Step.get_bind_apply] at h
  cases hchild : s.childOf? id with
  | none => simp [hchild] at h
  | some child =>
    cases htext : result.address? with
    | none => simp [hchild, htext] at h
    | some text =>
      simp only [hchild, htext, Step.bind_eq_ok_iff, Step.lift_eq_ok_iff, Step.pure_eq_ok_iff,
        and_assoc, exists_and_left, exists_eq_left] at h
      obtain ⟨contract, hcontract, ⟨⟩, u, hattach, hresponse, rfl⟩ := h
      exact ⟨child, text, contract, rfl, rfl, hcontract, ChildContract.attach_eq_ok hattach,
        hresponse.symm⟩

/-- A migration finds this mint's name and a version that is not later, and writes the current
version. -/
theorem migrate_eq_ok {s t : Store} {r : Response} (h : migrate s = (.ok r, t)) :
    ∃ stored old new,
      s.contractInfo = some stored ∧
      stored.contract = ContractInfo.current.contract ∧
      Version.ofString? stored.version = some old ∧
      Version.ofString? ContractInfo.current.version = some new ∧
      ((old.order new = .eq ∧ t = s) ∨
        (old.order new = .lt ∧ t = { s with contractInfo := some ContractInfo.current })) ∧
      r.dispatches = [] := by
  simp only [migrate, Step.bind_eq_ok_iff, Store.require_eq_ok_iff, and_assoc, exists_and_left,
    exists_eq_left] at h
  obtain ⟨stored, hstored, hrest⟩ := h
  split at hrest
  · simp at hrest
  · next hname =>
    cases hold : Version.ofString? stored.version with
    | none => simp [hold] at hrest
    | some old =>
      cases hnew : Version.ofString? ContractInfo.current.version with
      | none => simp [hold, hnew] at hrest
      | some new =>
        refine ⟨stored, old, new, hstored, not_not.mp hname, hold, rfl, ?_⟩
        cases horder : old.order new with
        | gt => simp [hold, hnew, horder] at hrest
        | eq =>
          simp only [hold, hnew, horder] at hrest
          obtain ⟨rfl, rfl⟩ := Step.pure_eq_ok_iff.mp hrest
          exact ⟨.inl ⟨rfl, rfl⟩, rfl⟩
        | lt =>
          simp only [hold, hnew, horder, Step.modify_bind_apply] at hrest
          obtain ⟨rfl, rfl⟩ := Step.pure_eq_ok_iff.mp hrest
          exact ⟨.inr ⟨rfl, rfl⟩, rfl⟩

end ShuffleMint
