import ShuffleMint.Proofs.Allocator.Moves
import ShuffleMint.Proofs.SortedMap.Insertion
import ShuffleMint.Run

/-!
# Reading and writing the store

What the loads and saves of the store yield when they succeed, and in which store they end. A call
reads and changes the store in the same way, and notes beside it what it asks.
-/

namespace ShuffleMint

namespace Store

variable {s t : Store}

/-- A part is read when it is there, and the store stays as it is. -/
theorem require_eq_ok_iff {α : Type} {part : Store → Option α} {a : α} :
    require part s = (.ok a, t) ↔ part s = some a ∧ t = s := by
  simp only [require, demand]
  cases part s <;> simp [eq_comm]

/-- The configuration is read when there is one. -/
theorem loadConfig_eq_ok_iff {c : Config} :
    loadConfig s = (.ok c, t) ↔ s.config = some c ∧ t = s :=
  require_eq_ok_iff

/-- The allocator is read when there is an arena. -/
theorem loadAllocator_eq_ok_iff {a : Allocator} :
    loadAllocator s = (.ok a, t) ↔ s.allocator? = some a ∧ t = s :=
  require_eq_ok_iff

/-- The store with an allocator written into it. -/
def withAllocator (s : Store) (a : Allocator) : Store :=
  { s with arena := some a.arena, supplies := withSupplies s.supplies a.supplies }

/-- The store with a configuration written into it. -/
def withConfig (s : Store) (c : Config) : Store := { s with config := some c }

/-- The store with the tokens staged for the custom bundle written into it. -/
def withStaged (s : Store) (tokens : List Token) : Store := { s with staged := some tokens }

/-- Writing a configuration always succeeds. -/
theorem saveConfig_eq_ok_iff {c : Config} {u : Unit} :
    saveConfig c s = (.ok u, t) ↔ t = s.withConfig c :=
  Step.modify_eq_ok_iff

/-- Writing an allocator always succeeds. -/
theorem saveAllocator_eq_ok_iff {a : Allocator} {u : Unit} :
    saveAllocator a s = (.ok u, t) ↔ t = s.withAllocator a :=
  Step.modify_eq_ok_iff

/-- Writing the staged tokens always succeeds. -/
theorem saveStaged_eq_ok_iff {tokens : List Token} {u : Unit} :
    saveStaged tokens s = (.ok u, t) ↔ t = s.withStaged tokens :=
  Step.modify_eq_ok_iff

/-- Supplies that are written count before those stored. -/
theorem get?_withSupplies (stored written : SortedMap Nat Supply) (k : Nat) :
    (withSupplies stored written).get? k = (written.get? k).or (stored.get? k) := by
  rw [withSupplies, SortedMap.get?_foldl_insert written.nodup_keys, SortedMap.ofList_entries]

/-- Supplies written over others of the same collections replace them. -/
theorem withSupplies_eq {stored written : SortedMap Nat Supply}
    (h : ∀ k, (stored.get? k).isSome → (written.get? k).isSome) :
    withSupplies stored written = written := by
  refine SortedMap.ext_get? fun k => ?_
  rw [get?_withSupplies]
  cases hwritten : written.get? k with
  | some supply => rfl
  | none =>
    rw [Option.none_or, ← Option.not_isSome_iff_eq_none]
    intro hstored
    simpa [hwritten] using h k hstored

/-- An allocator replaces one of the same collections that was written before. -/
theorem withAllocator_withAllocator {a b : Allocator}
    (h : ∀ k, (a.supplies.get? k).isSome → (b.supplies.get? k).isSome) :
    (s.withAllocator a).withAllocator b = s.withAllocator b := by
  have hsupplies : withSupplies (withSupplies s.supplies a.supplies) b.supplies =
      withSupplies s.supplies b.supplies := by
    refine SortedMap.ext_get? fun k => ?_
    simp only [get?_withSupplies]
    cases hwritten : b.supplies.get? k with
    | some supply => rfl
    | none =>
      have hnone : a.supplies.get? k = none := by
        rw [← Option.not_isSome_iff_eq_none]
        intro hstored
        simpa [hwritten] using h k hstored
      rw [hnone, Option.none_or, Option.none_or]
  simp only [withAllocator, hsupplies]

/-- The allocator that a store holds is its arena with its supplies. -/
theorem allocator?_eq_some_iff {a : Allocator} :
    s.allocator? = some a ↔ s.arena = some a.arena ∧ s.supplies = a.supplies := by
  rw [allocator?, Option.map_eq_some_iff]
  constructor
  · rintro ⟨arena, harena, rfl⟩
    exact ⟨harena, rfl⟩
  · rintro ⟨harena, hsupplies⟩
    exact ⟨a.arena, harena, by rw [hsupplies]⟩

/-- An allocator that was moved and is then written is the one that the store holds. -/
theorem allocator?_withAllocator {a b : Allocator} {tokens : List Token}
    (hstored : s.allocator? = some a) (ha : a.Consistent) (hmoves : a.Moves tokens b) :
    (s.withAllocator b).allocator? = some b := by
  refine allocator?_eq_some_iff.mpr ⟨rfl, withSupplies_eq fun k hk => ?_⟩
  rw [(allocator?_eq_some_iff.mp hstored).2] at hk
  exact (hmoves.get?_isSome_iff ha k).mpr hk

/-- A message mints a token to an owner: it goes to the contract of the token's collection and names
the token's number, the owner and the token's URI. -/
def Mints (s : Store) (owner : Address) (t : Token) (m : Message) : Prop :=
  ∃ collection contract, s.collections.get? t.collection = some collection ∧
    s.collectionContracts.get? t.collection = some contract ∧
    m = .execute contract (.mintToken t.number owner (collection.tokenUri t.number))

end Store

/-- The message that mints a token is made when the collection is known and has its contract. -/
theorem mintMessage_eq_ok_iff {owner : Address} {token : Token} {s t : Store} {m : Message} :
    mintMessage owner token s = (.ok m, t) ↔ s.Mints owner token m ∧ t = s := by
  simp only [mintMessage, Step.bind_eq_ok_iff, Store.require_eq_ok_iff, Step.get_bind_apply,
    and_assoc, exists_and_left, exists_eq_left]
  constructor
  · rintro ⟨collection, hcollection, hmessage⟩
    cases hcontract : s.collectionContracts.get? token.collection with
    | none => simp [hcontract] at hmessage
    | some contract =>
      rw [hcontract] at hmessage
      obtain ⟨rfl, rfl⟩ := Step.pure_eq_ok_iff.mp hmessage
      exact ⟨⟨collection, contract, hcollection, hcontract, rfl⟩, rfl⟩
  · rintro ⟨⟨collection, contract, hcollection, hcontract, rfl⟩, rfl⟩
    refine ⟨collection, hcollection, ?_⟩
    rw [hcontract]
    rfl

/-- A mint is counted when the check passes. -/
theorem recordMint_eq_ok_iff {c : Config} {now : Nat} {channel : Channel} {address : Address}
    {units count : Nat} {s t : Store} :
    recordMint c now channel address units s = (.ok count, t) ↔
      s.checkMint c now channel address units = .ok count ∧
        t = s.withMintCount channel address count := by
  simp only [recordMint, Step.bind_eq_ok_iff, Step.get_bind_apply, Step.lift_eq_ok_iff,
    Step.put_bind_apply, Step.pure_eq_ok_iff, and_assoc, exists_and_left, exists_eq_left]
  constructor
  · rintro ⟨n, hcheck, rfl, rfl⟩
    exact ⟨hcheck, rfl⟩
  · rintro ⟨hcheck, rfl⟩
    exact ⟨count, hcheck, rfl, rfl⟩

/-- Counts add up when their sum is a count. -/
theorem addCounts_eq_ok_iff {a b n : Nat} :
    addCounts a b = .ok n ↔ a + b < countBound ∧ n = a + b := by
  unfold addCounts
  split
  · next hbound => simp [hbound, eq_comm]
  · next hbound => simp [hbound]

/-- A channel takes mints when it is active. -/
theorem Channel.requireActive_eq_ok_iff {c : Config} {now : Nat} {channel : Channel} {u : Unit} :
    channel.requireActive c now = .ok u ↔ channel.state c now = .active := by
  unfold requireActive
  cases channel.state c now <;> simp

/-- A check passes when the channel is active and the count remains a count and within the cap. -/
theorem Store.checkMint_eq_ok_iff {s : Store} {c : Config} {now : Nat} {channel : Channel}
    {address : Address} {units count : Nat} :
    s.checkMint c now channel address units = .ok count ↔
      channel.state c now = .active ∧ count = s.mintCount channel address + units ∧
        count < countBound ∧ ∀ cap, channel.cap? c = some cap → count ≤ cap := by
  simp only [checkMint, Outcome.bind_eq_ok_iff, Channel.requireActive_eq_ok_iff,
    addCounts_eq_ok_iff, exists_const]
  constructor
  · rintro ⟨hactive, n, ⟨hbound, rfl⟩, hcap⟩
    split at hcap
    · next cap hsome =>
      split at hcap
      · cases hcap
      · next hwithin =>
        obtain rfl := Except.ok.inj hcap
        refine ⟨hactive, rfl, hbound, fun cap' hcap' => ?_⟩
        obtain rfl := Option.some.inj (hsome.symm.trans hcap')
        exact Nat.not_lt.mp hwithin
    · next hnone =>
      obtain rfl := Except.ok.inj hcap
      exact ⟨hactive, rfl, hbound, fun cap hcap => by rw [hnone] at hcap; cases hcap⟩
  · rintro ⟨hactive, rfl, hbound, hcap⟩
    refine ⟨hactive, _, ⟨hbound, rfl⟩, ?_⟩
    split
    · next cap hsome => exact if_neg (Nat.not_lt.mpr (hcap cap hsome))
    · rfl

namespace Channel

variable {c : Config} {now : Nat}

/-- A bundle that is completed or not enabled makes its channel other than active. -/
theorem bundleState?_ne_active (channel : Channel) : channel.bundleState? c ≠ some .active := by
  cases channel with
  | publicSale | whitelist | airdrop => exact nofun
  | bundle => cases hflag : c.bundleCompleted <;> simp [bundleState?, hflag]
  | customBundle => cases hflag : c.customCompleted <;> simp [bundleState?, hflag]

/-- A channel is active before the end of the sale when no flag closes it and, if it waits for the
start, that has come. -/
theorem state_eq_active_iff (channel : Channel) :
    channel.state c now = .active ↔
      (∀ stop, c.endTime = some stop → now < stop) ∧ channel.bundleState? c = none ∧
        (channel.waitsForStart = true → c.startTime ≤ now) := by
  have hahead : c.endTime.any (· ≤ now) = false ↔
      ∀ stop, c.endTime = some stop → now < stop := by
    cases c.endTime <;> simp
  rw [← hahead, state]
  cases c.endTime.any (· ≤ now) with
  | true => simp
  | false =>
    cases hflags : channel.bundleState? c with
    | some closed =>
      have hclosed := channel.bundleState?_ne_active (c := c)
      rw [hflags] at hclosed
      simpa using hclosed
    | none => cases channel.waitsForStart <;> simp

/-- The channel of the bundle is closed by no flag when it is enabled and not completed. -/
theorem bundleState?_bundle_eq_none_iff :
    bundle.bundleState? c = none ↔ c.bundleEnabled = true ∧ c.bundleCompleted = false := by
  cases henabled : c.bundleEnabled <;> cases hcompleted : c.bundleCompleted <;>
    simp [bundleState?, henabled, hcompleted]

/-- So is that of the custom bundle. -/
theorem bundleState?_customBundle_eq_none_iff :
    customBundle.bundleState? c = none ↔ c.customEnabled = true ∧ c.customCompleted = false := by
  cases henabled : c.customEnabled <;> cases hcompleted : c.customCompleted <;>
    simp [bundleState?, henabled, hcompleted]

end Channel

/-- A check that passes says when it does: before the end of the sale, while no flag closes the
channel and, if it waits for the start, once that has come. -/
theorem Store.window_of_checkMint {s : Store} {c : Config} {now : Nat} {channel : Channel}
    {address : Address} {units count : Nat}
    (h : s.checkMint c now channel address units = .ok count) :
    (∀ stop, c.endTime = some stop → now < stop) ∧ channel.bundleState? c = none ∧
      (channel.waitsForStart = true → c.startTime ≤ now) :=
  channel.state_eq_active_iff.mp (Store.checkMint_eq_ok_iff.mp h).1

/-- The channel of the custom bundle takes mints only while it is enabled and not completed. -/
theorem Channel.customBundle_of_active {c : Config} {now : Nat}
    (h : customBundle.state c now = .active) :
    c.customEnabled = true ∧ c.customCompleted = false :=
  bundleState?_customBundle_eq_none_iff.mp (customBundle.state_eq_active_iff.mp h).2.1

/-- Replacing the counts of a channel leaves those of the others alone. -/
theorem Trackers.of_update (t : Trackers) (channel : Channel) (counts : SortedMap Address Nat)
    (other : Channel) :
    (t.update channel counts).of other = if other = channel then counts else t.of other := by
  cases channel <;> cases other <;> rfl

/-- The counts of a channel can be replaced again. -/
theorem Trackers.update_update (t : Trackers) (channel : Channel)
    (counts counts' : SortedMap Address Nat) :
    (t.update channel counts).update channel counts' = t.update channel counts' := by
  cases channel <;> rfl

/-- Writing a count leaves those of other channels and of other addresses alone. -/
theorem Store.get?_withMintCount (s : Store) (channel : Channel) (address : Address) (count : Nat)
    (other : Channel) (other' : Address) :
    ((s.withMintCount channel address count).trackers.of other).get? other' =
      if other = channel ∧ other' = address then some count
      else (s.trackers.of other).get? other' := by
  rw [withMintCount, Trackers.of_update]
  by_cases hchannel : other = channel
  · subst hchannel
    rw [if_pos rfl, SortedMap.get?_insert]
    simp
  · simp [hchannel]

/-- Mints that are counted raise the count of their address on their channel. -/
theorem Store.mintCount_withMintCount (s : Store) (channel : Channel) (address : Address)
    (units : Nat) (other : Channel) (other' : Address) :
    (s.withMintCount channel address (s.mintCount channel address + units)).mintCount other other' =
      s.mintCount other other' + if other = channel ∧ other' = address then units else 0 := by
  rw [mintCount, get?_withMintCount]
  split
  · next hboth => rw [hboth.1, hboth.2, Option.getD_some]
  · rfl

/-- A count replaces the one that was written before. -/
theorem Store.withMintCount_withMintCount (s : Store) (channel : Channel) (address : Address)
    (count count' : Nat) :
    (s.withMintCount channel address count).withMintCount channel address count' =
      s.withMintCount channel address count' := by
  simp only [withMintCount, Trackers.of_update, if_pos, Trackers.update_update,
    SortedMap.insert_insert]

/-- Writing a count replaces it in the total of its channel and leaves the other totals alone. -/
theorem Store.sum_withMintCount (s : Store) (channel : Channel) (address : Address) (units : Nat)
    (other : Channel) :
    ((s.withMintCount channel address (s.mintCount channel address + units)).trackers.of other).sum =
      (s.trackers.of other).sum + if other = channel then units else 0 := by
  rw [withMintCount, Trackers.of_update]
  by_cases hchannel : other = channel
  · subst hchannel
    have hsum := (s.trackers.of other).sum_insert address (s.mintCount other address + units)
    rw [← mintCount] at hsum
    rw [if_pos rfl, if_pos rfl]
    omega
  · rw [if_neg hchannel, if_neg hchannel, Nat.add_zero]

/-- The count that is checked depends on the counts of mints only. -/
theorem Store.checkMint_congr {s t : Store} (h : t.trackers = s.trackers) (c : Config) (now : Nat)
    (channel : Channel) (address : Address) (units : Nat) :
    t.checkMint c now channel address units = s.checkMint c now channel address units := by
  rw [Store.checkMint, Store.checkMint, Store.mintCount, Store.mintCount, h]

namespace CallState

variable {α : Type} {s t : CallState}

/-- A step on the store succeeds in a call as it does on the store, and nothing is asked. -/
theorem onStore_eq_ok_iff {step : Step Store α} {a : α} :
    (liftM step : Step CallState α) s = (.ok a, t) ↔
      ∃ u, step s.store = (.ok a, u) ∧ t = ⟨u, s.asked⟩ := by
  show onStore step s = _ ↔ _
  unfold onStore Step.focus
  cases step s.store with
  | mk outcome u => simp [eq_comm]

/-- A call that is only a step on the store is that step. -/
theorem fresh_onStore (step : Step Store α) (s : Store) : fresh (liftM step) s = step s := by
  show fresh (onStore step) s = _
  unfold fresh onStore Step.focus
  cases step s
  rfl

/-- A call ends as its step does when nothing was asked before. -/
theorem fresh_eq_iff {step : Step CallState α} {o : Outcome α} {s t : Store} :
    fresh step s = (o, t) ↔ ∃ asked, step ⟨s, []⟩ = (o, ⟨t, asked⟩) := by
  unfold fresh
  cases step ⟨s, []⟩ with
  | mk outcome after =>
    obtain ⟨store, asked⟩ := after
    simp

/-- It succeeds as its step does. -/
theorem fresh_eq_ok_iff {step : Step CallState α} {a : α} {s t : Store} :
    fresh step s = (.ok a, t) ↔ ∃ asked, step ⟨s, []⟩ = (.ok a, ⟨t, asked⟩) :=
  fresh_eq_iff

/-- A question that has an answer is noted and answered. -/
theorem ask_of_ok {q : Question} {answer : List Question → Except QueryFault α} {a : α}
    (h : answer s.asked = .ok a) :
    ask q answer s = (.ok a, { s with asked := s.asked ++ [q] }) := by
  simp only [ask, Step.get_bind_apply, Step.put_bind_apply, h]
  rfl

/-- A question that is answered is answered by what was asked before. -/
theorem ask_eq_ok {q : Question}
    {answer : List Question → Except QueryFault α} {a : α}
    (h : ask q answer s = (.ok a, t)) : answer s.asked = .ok a := by
  simp only [ask, Step.get_bind_apply, Step.put_bind_apply] at h
  cases hanswer : answer s.asked with
  | ok a' =>
    rw [hanswer] at h
    rw [(Step.pure_eq_ok_iff.mp h).1]
  | error fault =>
    rw [hanswer] at h
    exact (Step.reject_eq_ok_iff.mp h).elim

end CallState

end ShuffleMint
