import ShuffleMint.Proofs.Run.History
import ShuffleMint.Proofs.SortedMap.Insertion

/-!
# The contracts that a setup creates

A setup asks for the collaborators that it plans and for a contract of each collection, each under a
reply id of its own. Nothing fixes the order in which the replies come. Each writes to a place that
no other writes to, so after all of them the store is the same whichever came first.
-/

namespace ShuffleMint

/-- A creation reports a contract under its address. -/
def CreationResult.Reports (result : CreationResult) (contract : Address) : Prop :=
  ∃ text, result.address? = some text ∧ validateAddress text = .ok contract

namespace Setup

/-- The reply ids of the collections, one after the other. -/
def collectionIds (m : Setup) : List Nat :=
  List.range' ReplyId.firstCollection m.collections.length

/-- The reply ids that a setup uses: those of the collaborators that it plans and of its
collections. -/
def replyIds (m : Setup) : List Nat :=
  (m.airdropperPlan.map fun _ => ReplyId.airdropper).toList ++
    (m.whitelistPlan.map fun _ => ReplyId.whitelist).toList ++ m.collectionIds

end Setup

/-- The store in which the addresses are noted that are reported under some reply ids. -/
def Store.withReplies (s : Store) (addresses : Nat → Address) (ids : List Nat) : Store :=
  { s with
    config := s.config.map fun c =>
      { c with
        airdropper := if ReplyId.airdropper ∈ ids then some (addresses ReplyId.airdropper)
          else c.airdropper
        whitelist := if ReplyId.whitelist ∈ ids then some (addresses ReplyId.whitelist)
          else c.whitelist }
    collectionContracts := (ids.filter fun id => s.childOf? id = some (.collection id)).foldl
      (fun m id => m.insert id (addresses id)) s.collectionContracts }

/-- The transactions that deliver replies. -/
def deliveries (results : Nat → CreationResult) (ids : List Nat) : List Transaction :=
  ids.map fun id => .reply id (results id)

variable {s t : Store} {r : Response} {m : Setup} {env : Env} {sender : Address}

/-! ## One reply -/

/-- Attaching a created contract succeeds once there is a configuration. -/
theorem ChildContract.attach_apply {c : Config} (hc : s.config = some c) (contract : Address)
    (child : ChildContract) : child.attach contract s = (.ok (), s.withChild contract child) := by
  cases child with
  | collection id => rfl
  | airdropper | whitelist =>
    rw [attach, Step.bind_of_ok (Store.loadConfig_eq_ok_iff.mpr ⟨hc, rfl⟩), Store.withChild, hc]
    rfl

/-- A reply under a known id that reports an address succeeds. -/
theorem receiveReply_apply {id : Nat} {result : CreationResult} {child : ChildContract}
    {contract : Address} {c : Config} (hc : s.config = some c) (hchild : s.childOf? id = some child)
    (hreports : result.Reports contract) :
    ∃ r, receiveReply id result s = (.ok r, s.withChild contract child) := by
  obtain ⟨text, htext, hvalid⟩ := hreports
  simp only [receiveReply, Step.get_bind_apply, hchild, htext, Step.lift_bind_ok hvalid]
  exact ⟨_, Step.bind_of_ok (ChildContract.attach_apply hc contract child) _⟩

/-- A reply under an id that nothing is created under is rejected and changes nothing. -/
theorem receiveReply_unknown {id : Nat} (hid : id ≠ ReplyId.airdropper ∧ id ≠ ReplyId.whitelist)
    (hnone : s.collections.get? id = none) (result : CreationResult) :
    receiveReply id result s = (.error (.rejected .unknownReply), s) := by
  have hchild : s.childOf? id = none := by
    rw [Store.childOf?, if_neg hid.1, if_neg hid.2, hnone, Option.map_none]
  rw [receiveReply, Step.get_bind_apply, hchild]
  rfl

/-! ## Replies in any order -/

namespace Store

/-- Noting one address is attaching what is created under its id. -/
theorem withReplies_singleton {id : Nat} {child : ChildContract}
    (hchild : s.childOf? id = some child) (addresses : Nat → Address) :
    s.withReplies addresses [id] = s.withChild (addresses id) child := by
  have hdistinct : ReplyId.airdropper ≠ ReplyId.whitelist := by decide
  have hid := hchild
  unfold childOf? at hid
  split at hid
  · next hfirst =>
    obtain rfl := Option.some.inj hid
    subst hfirst
    simp [withReplies, withChild, hchild, hdistinct.symm]
  · next hfirst =>
    split at hid
    · next hsecond =>
      obtain rfl := Option.some.inj hid
      subst hsecond
      simp [withReplies, withChild, hchild, hdistinct]
    · next hsecond =>
      obtain ⟨collection, -, rfl⟩ := Option.map_eq_some_iff.mp hid
      simp [withReplies, withChild, hchild, Ne.symm hfirst, Ne.symm hsecond]

/-- Noting no address changes nothing. -/
theorem withReplies_nil (addresses : Nat → Address) : s.withReplies addresses [] = s := by
  simp [withReplies]

/-- Noting addresses and then others is noting them together. -/
theorem withReplies_append (addresses : Nat → Address) (first second : List Nat) :
    (s.withReplies addresses first).withReplies addresses second =
      s.withReplies addresses (first ++ second) := by
  have hchildren : (s.withReplies addresses first).childOf? = s.childOf? := rfl
  rw [withReplies, hchildren]
  simp only [withReplies, List.filter_append, List.foldl_append, Option.map_map, List.mem_append]
  congr 2
  funext c
  have hnoted (id : Nat) (given : Option Address) :
      (if id ∈ second then some (addresses id) else if id ∈ first then some (addresses id)
        else given) = if id ∈ first ∨ id ∈ second then some (addresses id) else given := by
    by_cases hfirst : id ∈ first <;> by_cases hsecond : id ∈ second <;> simp [hfirst, hsecond]
  simp only [Function.comp_apply, hnoted]

/-- What is noted under ids is the same in any order. -/
theorem withReplies_perm {first second : List Nat} (h : first.Perm second)
    (addresses : Nat → Address) :
    s.withReplies addresses first = s.withReplies addresses second := by
  simp only [withReplies, h.mem_iff]
  congr 1
  refine SortedMap.ext_get? fun id => ?_
  rw [SortedMap.get?_foldl_insert_map, SortedMap.get?_foldl_insert_map]
  simp only [List.mem_filter, h.mem_iff]

end Store

/-- Replies under known ids that all report an address all succeed, and the addresses are noted. -/
theorem Store.play_deliveries {results : Nat → CreationResult} {addresses : Nat → Address}
    {ids : List Nat} {c : Config} (hc : s.config = some c)
    (hknown : ∀ id ∈ ids, (s.childOf? id).isSome)
    (hreports : ∀ id ∈ ids, (results id).Reports (addresses id)) :
    (s.play (deliveries results ids)).1.map Event.transaction = deliveries results ids ∧
      (s.play (deliveries results ids)).2 = s.withReplies addresses ids := by
  induction ids generalizing s c with
  | nil => exact ⟨rfl, withReplies_nil addresses |>.symm⟩
  | cons id rest ih =>
    rw [List.forall_mem_cons] at hknown hreports
    obtain ⟨child, hchild⟩ := Option.isSome_iff_exists.mp hknown.1
    obtain ⟨r, hreply⟩ := receiveReply_apply hc hchild hreports.1
    rw [← withReplies_singleton hchild] at hreply
    have hperform : (Transaction.reply id (results id)).perform s =
      (.ok r, s.withReplies addresses [id]) := hreply
    have hafter : (s.withReplies addresses [id]).config.isSome := by simp [withReplies, hc]
    obtain ⟨c', hc'⟩ := Option.isSome_iff_exists.mp hafter
    obtain ⟨hevents, hlast⟩ := ih hc' hknown.2 hreports.2
    rw [deliveries, List.map_cons, ← deliveries, play, hperform]
    exact ⟨congrArg (_ :: ·) hevents, hlast.trans (withReplies_append addresses [id] rest)⟩

/-! ## What a setup asks for -/

namespace Setup

/-- The ids of collections count up from beyond those of the collaborators. -/
theorem notMem_collectionIds (m : Setup) :
    ReplyId.airdropper ∉ m.collectionIds ∧ ReplyId.whitelist ∉ m.collectionIds := by
  have hlater : ∀ id ∈ m.collectionIds, ReplyId.firstCollection ≤ id := fun id hid =>
    (List.mem_range'_1.mp hid).1
  exact ⟨fun hid => absurd (hlater _ hid) (by decide), fun hid => absurd (hlater _ hid) (by decide)⟩

/-- The reply ids of a setup are all distinct. -/
theorem replyIds_nodup (m : Setup) : m.replyIds.Nodup := by
  obtain ⟨hfirst, hsecond⟩ := m.notMem_collectionIds
  have hcollections : m.collectionIds.Nodup := List.nodup_range'
  have hdistinct : ReplyId.airdropper ≠ ReplyId.whitelist := by decide
  unfold replyIds
  cases m.airdropperPlan <;> cases m.whitelistPlan <;>
    simp [hcollections, hfirst, hsecond, hdistinct]

/-- A reply id is one of a collaborator that is planned, or of a collection. -/
theorem mem_replyIds_iff (m : Setup) (id : Nat) :
    id ∈ m.replyIds ↔ (id = ReplyId.airdropper ∧ m.airdropperPlan.isSome) ∨
      (id = ReplyId.whitelist ∧ m.whitelistPlan.isSome) ∨ id ∈ m.collectionIds := by
  unfold replyIds
  cases m.airdropperPlan <;> cases m.whitelistPlan <;> simp

/-- The first reply id is used when an airdropper is planned. -/
theorem airdropper_mem_replyIds (m : Setup) :
    ReplyId.airdropper ∈ m.replyIds ↔ m.airdropperPlan.isSome := by
  have hdistinct : ReplyId.airdropper ≠ ReplyId.whitelist := by decide
  simp [mem_replyIds_iff, m.notMem_collectionIds, hdistinct]

/-- The second one is used when a whitelist is. -/
theorem whitelist_mem_replyIds (m : Setup) :
    ReplyId.whitelist ∈ m.replyIds ↔ m.whitelistPlan.isSome := by
  have hdistinct : ReplyId.whitelist ≠ ReplyId.airdropper := by decide
  simp [mem_replyIds_iff, m.notMem_collectionIds, hdistinct]

/-- The messages of a setup are sent under its reply ids. -/
theorem map_replyId (h : m.run env sender s = (.ok r, t)) :
    r.dispatches.map Dispatch.replyId = m.replyIds.map some := by
  obtain ⟨collections, c, a, -, hcollections, -, -, -, -, hdispatches⟩ := Setup.run_eq_ok h
  obtain ⟨-, hnumbered, -⟩ := CollectionRequest.validateAll_eq_ok hcollections
  have hids := CollectionRequest.ids_number ReplyId.firstCollection m.collections
  rw [← hnumbered] at hids
  rw [hdispatches, moduleCreations, replyIds, collectionIds, ← hids]
  cases m.airdropperPlan <;> cases m.whitelistPlan <;>
    simp [Collection.creation, Function.comp_def]

/-- The collections that a setup stores are those that it has numbered. -/
theorem isSome_get?_collections (h : m.run env sender Store.empty = (.ok r, s)) (id : Nat) :
    (s.collections.get? id).isSome ↔ id ∈ m.collectionIds := by
  obtain ⟨collections, c, a, -, hcollections, -, -, -, rfl, -⟩ := Setup.run_eq_ok h
  obtain ⟨-, hnumbered, -⟩ := CollectionRequest.validateAll_eq_ok hcollections
  have hids := CollectionRequest.ids_number ReplyId.firstCollection m.collections
  rw [← hnumbered] at hids
  have hdistinct : (collections.map Collection.id).Nodup := by
    rw [hids]
    exact List.nodup_range'
  rw [collectionIds, ← hids, Option.isSome_iff_exists]
  simp only [Store.empty, Collection.get?_foldl_insert hdistinct, List.mem_map]

/-- The store of a setup knows what is created under each of its reply ids. -/
theorem childOf?_of_run (h : m.run env sender Store.empty = (.ok r, s)) (id : Nat) :
    (id ∈ m.replyIds → (s.childOf? id).isSome) ∧
      (s.childOf? id = some (.collection id) ↔ id ∈ m.collectionIds) := by
  obtain ⟨hfirst, hsecond⟩ := m.notMem_collectionIds
  rw [mem_replyIds_iff, ← isSome_get?_collections h, Store.childOf?]
  split
  · next hid => simp [hid, isSome_get?_collections h, hfirst]
  · next hairdropper =>
    split
    · next hid => simp [hid, isSome_get?_collections h, hsecond]
    · next hwhitelist => simp [hairdropper, hwhitelist, Option.isSome_iff_exists]

end Setup

/-! ## The replies to a setup -/

/-- The collections that a store lists stay the same over a run. -/
theorem Run.collections_eq {events : List Event} (hstart : s.Sound) (h : Run s events t) :
    t.collections = s.collections := by
  induction h with
  | start => rfl
  | next hrun hperform ih =>
    obtain ⟨_, _, hadvance, -⟩ := (hrun.sound hstart).advances_perform hperform
    exact hadvance.collections.trans ih

/-- A setup on an empty store asks to hear of every contract under a reply id of its own: the first
two ids for the collaborators that it plans, and for its collections the ids that count up from 101.
In whichever order one reply for each id comes that reports a valid address, all of them succeed and
leave the same store: every collection has the address of its own reply, each collaborator that was
planned has that of its reply and each other one the address that was given, and nothing else has
changed. Over every run from there, a reply under an id that is neither one of the first two nor
that of a stored collection is rejected and changes nothing. -/
theorem replies_in_any_order (h : m.run env sender Store.empty = (.ok r, s)) :
    r.dispatches.map Dispatch.replyId = m.replyIds.map some ∧ m.replyIds.Nodup ∧
    (∀ (results : Nat → CreationResult) (addresses : Nat → Address),
      (∀ id ∈ m.replyIds, (results id).Reports (addresses id)) →
      ∃ c contracts, s.config = some c ∧
        validateAddress? m.airdropper = .ok c.airdropper ∧
        validateAddress? m.whitelist = .ok c.whitelist ∧
        (∀ id, contracts.get? id =
          if id ∈ m.collectionIds then some (addresses id) else none) ∧
        ∀ order : List Nat, order.Perm m.replyIds →
          (s.play (deliveries results order)).1.map Event.transaction = deliveries results order ∧
          (s.play (deliveries results order)).2 =
            { s with
              config := some
                { c with
                  airdropper := if m.airdropperPlan.isSome
                    then some (addresses ReplyId.airdropper) else c.airdropper
                  whitelist := if m.whitelistPlan.isSome
                    then some (addresses ReplyId.whitelist) else c.whitelist }
              collectionContracts := contracts }) ∧
    ∀ events t, Run s events t →
      (∀ id, (t.collections.get? id).isSome ↔ id ∈ m.collectionIds) ∧
      ∀ id, id ≠ ReplyId.airdropper → id ≠ ReplyId.whitelist → t.collections.get? id = none →
        ∀ result, (Transaction.reply id result).perform t =
          (.error (.rejected .unknownReply), t) := by
  have hstored := Setup.isSome_get?_collections h
  refine ⟨Setup.map_replyId h, m.replyIds_nodup, fun results addresses hreports => ?_,
    fun events t hrun => ⟨fun id => ?_, fun id hfirst hsecond hnone result =>
      receiveReply_unknown ⟨hfirst, hsecond⟩ hnone result⟩⟩
  · obtain ⟨collections, c, a, -, -, hconfig, -, -, hs, -⟩ := Setup.run_eq_ok h
    obtain ⟨-, -, -, hairdropper, hwhitelist⟩ := Setup.config_eq_ok hconfig
    have hc : s.config = some c := by rw [hs]
    have hempty : s.collectionContracts = SortedMap.empty := by rw [hs]; rfl
    refine ⟨c, (s.withReplies addresses m.replyIds).collectionContracts, hc, hairdropper,
      hwhitelist, fun id => ?_, fun order horder => ?_⟩
    · have hiff : id ∈ m.replyIds.filter (fun id => s.childOf? id = some (.collection id)) ↔
          id ∈ m.collectionIds := by
        rw [List.mem_filter, decide_eq_true_eq, (Setup.childOf?_of_run h id).2,
          m.mem_replyIds_iff, and_iff_right_of_imp fun hid => .inr (.inr hid)]
      rw [Store.withReplies, SortedMap.get?_foldl_insert_map, hempty, SortedMap.get?_empty]
      simp only [hiff]
    · have hknown : ∀ id ∈ order, (s.childOf? id).isSome := fun id hid =>
        (Setup.childOf?_of_run h id).1 (horder.mem_iff.mp hid)
      obtain ⟨hevents, hlast⟩ := Store.play_deliveries hc hknown fun id hid =>
        hreports id (horder.mem_iff.mp hid)
      rw [Store.withReplies_perm horder] at hlast
      refine ⟨hevents, hlast.trans ?_⟩
      simp only [Store.withReplies, hc, Option.map_some, m.airdropper_mem_replyIds,
        m.whitelist_mem_replyIds]
  · rw [hrun.collections_eq (Founded.sound ⟨m, env, sender, r, h⟩).1]
    exact hstored id

/-!
## A mint of two collections

A mint has a second collection and plans its airdropper. The reply of the second collection comes
first and that of the first one last.
-/

namespace PairSale

/-- The setup of the mint. -/
def setup : Setup :=
  { FirstSale.setup with
    collections := [⟨"Gold", "GLD", "ipfs://gold", 3⟩, ⟨"Ruby", "RBY", "ipfs://ruby", 2⟩]
    airdropperPlan := some ⟨8, [], .nobody, "drop"⟩ }

/-- What the chain reports of the contracts. -/
def results : Nat → CreationResult
  | 1 => .succeeded (some [10, 4, 100, 114, 111, 112])
  | 101 => .succeeded (some [10, 4, 103, 111, 108, 100])
  | _ => .succeeded (some [10, 4, 114, 117, 98, 121])

/-- The addresses of the contracts. -/
def addresses : Nat → Address
  | 1 => "drop"
  | 101 => "gold"
  | _ => "ruby"

/-- What is reported are the addresses. -/
theorem reports : ∀ id ∈ setup.replyIds, (results id).Reports (addresses id) := by
  have hids : setup.replyIds = [1, 101, 102] := by decide +kernel
  rw [hids]
  simp only [List.forall_mem_cons, List.not_mem_nil, false_implies, implies_true, and_true]
  exact ⟨⟨"drop", by decide +kernel, by decide +kernel⟩,
    ⟨"gold", by decide +kernel, by decide +kernel⟩,
    ⟨"ruby", by decide +kernel, by decide +kernel⟩⟩

end PairSale

/-- The three replies to the setup of two collections, the last collection first, attach the
airdropper and both contracts. -/
theorem replies_in_any_order_pair_sale :
    ∃ r s, PairSale.setup.run ⟨5, 1, none, "mint"⟩ "admin" Store.empty = (.ok r, s) ∧
      (∀ id ∈ PairSale.setup.replyIds, (PairSale.results id).Reports (PairSale.addresses id)) ∧
      [102, 1, 101].Perm PairSale.setup.replyIds ∧
      (s.play (deliveries PairSale.results [102, 1, 101])).1.length = 3 ∧
      ∃ c t, (s.play (deliveries PairSale.results [102, 1, 101])).2 = t ∧ t.config = some c ∧
        c.airdropper = some "drop" ∧ c.whitelist = none ∧
        t.collectionContracts.get? 101 = some "gold" ∧
        t.collectionContracts.get? 102 = some "ruby" := by
  have hok : (PairSale.setup.run ⟨5, 1, none, "mint"⟩ "admin" Store.empty).1.isOk = true := by
    decide +kernel
  have hperm : [102, 1, 101].Perm PairSale.setup.replyIds := by decide +kernel
  cases hrun : PairSale.setup.run ⟨5, 1, none, "mint"⟩ "admin" Store.empty with
  | mk outcome s =>
    rw [hrun] at hok
    cases outcome with
    | error e => cases hok
    | ok r =>
      obtain ⟨-, -, hreplies, -⟩ := replies_in_any_order hrun
      obtain ⟨c, contracts, -, -, hwhitelist, hcontracts, horder⟩ :=
        hreplies PairSale.results PairSale.addresses PairSale.reports
      obtain ⟨hevents, hlast⟩ := horder [102, 1, 101] hperm
      have hlength := congrArg List.length hevents
      rw [List.length_map] at hlength
      refine ⟨r, s, rfl, PairSale.reports, hperm, hlength, _, _, hlast, rfl, rfl, ?_, ?_, ?_⟩
      · exact (Except.ok.inj hwhitelist).symm
      · rw [hcontracts, if_pos (by decide)]
        rfl
      · rw [hcontracts, if_pos (by decide)]
        rfl

end ShuffleMint
