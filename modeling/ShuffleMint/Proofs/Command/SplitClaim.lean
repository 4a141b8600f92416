import ShuffleMint.Proofs.Allocator.Queue
import ShuffleMint.Proofs.Allocator.Shuffling
import ShuffleMint.Proofs.Command.Minting
import ShuffleMint.Proofs.Command.Standing

/-!
# Claims in pieces

Promised tokens are claimed one after the other, so a list of them can be claimed in two parts. The
second part finds the order shuffled and goes on with the copy that the first one has stored. It
counts on from where the first one stopped, and as the channel has no cap, the sum is all that is
checked. What the first part writes is written over by the second, and the messages depend on what
neither of them writes.
-/

namespace ShuffleMint

variable {s t u : Store} {c : Config}

/-- A message mints a token in every store that has the same collections and contracts. -/
theorem Store.Mints.congr {owner : Address} {token : Token} {m : Message}
    (h : s.Mints owner token m) (hcollections : u.collections = s.collections)
    (hcontracts : u.collectionContracts = s.collectionContracts) : u.Mints owner token m := by
  rwa [Store.Mints, hcollections, hcontracts]

/-- What a mint writes can be written over by another one of the same address on the same channel,
when the allocator has not lost a collection. -/
theorem Store.withMintCount_withAllocator_again {channel : Channel} {address : Address}
    {count count' : Nat} {a b : Allocator}
    (h : ∀ k, (a.supplies.get? k).isSome → (b.supplies.get? k).isSome) :
    (((s.withMintCount channel address count).withAllocator a).withMintCount
        channel address count').withAllocator b =
      (s.withMintCount channel address count').withAllocator b := by
  calc
    _ = (((s.withMintCount channel address count).withMintCount
        channel address count').withAllocator a).withAllocator b := rfl
    _ = _ := by rw [withMintCount_withMintCount, withAllocator_withAllocator h]

/-- Moves append the tokens that they issue to those issued before. -/
theorem Allocator.Moves.queue_issued {a b : Allocator} {tokens : List Token}
    (h : a.Moves tokens b) (ha : a.Consistent) :
    b.queue.issued = a.queue.issued ++ tokens := by
  obtain ⟨slots, hslots, htokens⟩ := h.exists_issuedSlots_eq ha
  have hissued : slots.filterMap a.arena.token? = tokens := by
    have hmap := congrArg (List.filterMap Except.toOption) htokens
    rw [List.filterMap_map, List.filterMap_map] at hmap
    exact hmap.trans List.filterMap_some
  have hsame : b.arena.token? = a.arena.token? := by
    funext slot
    rw [Arena.token?, Arena.token?, h.tokenOf_eq]
  change b.arena.issuedSlots.filterMap b.arena.token? = _
  rw [hslots, hsame, List.filterMap_append, hissued]
  rfl

namespace Airdrop

variable {env later : Env} {sender recipient contract : Address} {r : Response}

section Issued

variable {claim : Token → Step Allocator Unit} {messages : Token → Step Store (List Message)}
  {xs ys tokens : List Token} {a b d : Allocator} {made : List Message}

/-- Tokens that can be claimed one after the other are issued by name. -/
theorem Issued.issueEach_eq (h : Issued claim messages s tokens a made b) :
    issueEach claim messages tokens a s = (.ok (made, b), s) := by
  induction h with
  | nil => rfl
  | @cons token rest a b d first others hclaim hfirst _ ih =>
    have hcopy : (Step.onCopy (claim token) a : Step Store (Unit × Allocator)) s =
        (.ok ((), b), s) := Step.onCopy_eq_ok_pair_iff.mpr ⟨hclaim, rfl⟩
    rw [issueEach, Step.bind_of_ok hcopy]
    dsimp only
    rw [Step.bind_of_ok hfirst, Step.bind_of_ok ih]
    rfl

/-- The tokens of two lists are issued by issuing those of the first and then those of the second.
-/
theorem issued_append_iff :
    Issued claim messages s (xs ++ ys) a made d ↔
      ∃ b first second, Issued claim messages s xs a first b ∧
        Issued claim messages s ys b second d ∧ made = first ++ second := by
  induction xs generalizing a made with
  | nil =>
    constructor
    · exact fun h => ⟨a, [], made, .nil, h, rfl⟩
    · rintro ⟨_, _, second, hnil, h, rfl⟩
      cases hnil
      exact h
  | cons token rest ih =>
    constructor
    · intro h
      cases h with
      | cons hclaim hfirst hothers =>
        obtain ⟨b, first, second, hrest, hsecond, rfl⟩ := ih.mp hothers
        exact ⟨b, _, second, .cons hclaim hfirst hrest, hsecond, (List.append_assoc ..).symm⟩
    · rintro ⟨b, _, second, hxs, hsecond, rfl⟩
      cases hxs with
      | cons hclaim hfirst hrest =>
        rw [List.append_assoc]
        exact .cons hclaim hfirst (ih.mpr ⟨b, _, second, hrest, hsecond, rfl⟩)

/-- Claimed tokens are issued likewise in a store that has the same collections and contracts. -/
theorem Issued.congr (h : Issued claim (claimMessages contract recipient) s tokens a made b)
    (hcollections : u.collections = s.collections)
    (hcontracts : u.collectionContracts = s.collectionContracts) :
    Issued claim (claimMessages contract recipient) u tokens a made b := by
  induction h with
  | nil => exact .nil
  | cons hclaim hfirst _ ih =>
    obtain ⟨⟨m, hm, rfl⟩, -⟩ := claimMessages_eq_ok_iff.mp hfirst
    exact .cons hclaim
      (claimMessages_eq_ok_iff.mpr ⟨⟨m, hm.congr hcollections hcontracts, rfl⟩, rfl⟩) ih

/-- The messages of claimed tokens are, token by token, its mint and its report. -/
theorem Issued.exists_mints
    (h : Issued claim (claimMessages contract recipient) s tokens a made b) :
    ∃ mints, List.Forall₂ (s.Mints recipient) tokens mints ∧
      made = (tokens.zip mints).flatMap fun entry =>
        [entry.2, Airdropper.markClaimed contract recipient entry.1] := by
  induction h with
  | nil => exact ⟨[], .nil, rfl⟩
  | cons _ hfirst _ ih =>
    obtain ⟨⟨m, hm, rfl⟩, -⟩ := claimMessages_eq_ok_iff.mp hfirst
    obtain ⟨mints, hmints, rfl⟩ := ih
    exact ⟨m :: mints, .cons hm hmints, rfl⟩

end Issued

/-- The store after so many promised tokens are issued to a recipient: the copy of the allocator is
stored, and the count of the recipient. -/
def stored (s : Store) (recipient : Address) (units : Nat) (b : Allocator) : Store :=
  (s.withMintCount .airdrop recipient (s.mintCount .airdrop recipient + units)).withAllocator b

/-- What it takes to issue promised tokens to a recipient: the channel is active, their sum is a
count, and they can be claimed one after the other on the shuffled copy. -/
structure Grants (s : Store) (c : Config) (env : Env) (sender recipient contract : Address)
    (tokens : List Token) (a b : Allocator) (made : List Message) : Prop where
  active : Channel.airdrop.state c env.time = .active
  counted : s.mintCount .airdrop recipient + tokens.length < countBound
  held : s.allocator? = some a
  claimed : ∃ shuffled, Allocator.ensureShuffled (env.entropy sender) a = (.ok (), shuffled) ∧
    Issued Allocator.claim (claimMessages contract recipient) s tokens shuffled made b

section Grants

variable {xs ys tokens : List Token} {a b d : Allocator} {made first second : List Message}

/-- Promised tokens are issued exactly when they can be. -/
theorem issue_eq_ok_iff :
    issue c env sender recipient contract tokens s = (.ok r, t) ↔
      ∃ a b made, Grants s c env sender recipient contract tokens a b made ∧
        t = stored s recipient tokens.length b ∧
        r = Response.ofMessages
          [("action", "airdrop_claim"), ("sender", sender), ("recipient", recipient),
            ("token_count", toString tokens.length)] made := by
  constructor
  · intro h
    obtain ⟨_, a, shuffled, b, made, hcount, ha, hshuffled, hissued, rfl, rfl⟩ := issue_eq_ok h
    obtain ⟨hactive, rfl, hbound, -⟩ := Store.checkMint_eq_ok_iff.mp hcount
    exact ⟨a, b, made, ⟨hactive, hbound, ha, shuffled, hshuffled, hissued⟩, rfl, rfl⟩
  · rintro ⟨a, b, made, ⟨hactive, hbound, ha, shuffled, hshuffled, hissued⟩, rfl, rfl⟩
    have hcount := Store.checkMint_eq_ok_iff.mpr
      ⟨hactive, rfl, hbound, (nofun : ∀ cap, Channel.airdrop.cap? c = some cap → _)⟩
    simp only [issue, Step.bind_eq_ok_iff, Step.lift_eq_ok_iff, Step.get_bind_apply,
      Store.loadAllocator_eq_ok_iff, Step.onCopy_eq_ok_pair_iff, recordMint_eq_ok_iff,
      Store.saveAllocator_eq_ok_iff, Step.pure_eq_ok_iff, and_assoc, exists_and_left,
      exists_eq_left, exists_const]
    exact ⟨_, hcount, a, ha, ((), shuffled), hshuffled, (made, b), s, hissued.issueEach_eq, _,
      hcount, rfl, rfl⟩

namespace Grants

/-- Issuing the tokens keeps the allocator consistent. -/
theorem issues (h : Grants s c env sender recipient contract tokens a b made)
    (ha : a.Consistent) : a.Issues [.pending, .reserved] tokens b := by
  obtain ⟨shuffled, hshuffled, hissued⟩ := h.claimed
  exact ha.issues_of_ensureShuffled hshuffled hissued.issues_claimed

/-- Once tokens are issued, the copy is the allocator that the store holds. -/
theorem allocator?_stored (h : Grants s c env sender recipient contract tokens a b made)
    (ha : a.Consistent) : (stored s recipient tokens.length b).allocator? = some b :=
  Store.allocator?_withAllocator h.held ha (h.issues ha).moves

/-- Once tokens are issued, there is nothing to shuffle any more. -/
theorem ensureShuffled_eq (h : Grants s c env sender recipient contract tokens a b made)
    (ha : a.Consistent) (seed : Seed) : Allocator.ensureShuffled seed b = (.ok (), b) := by
  obtain ⟨shuffled, hshuffled, hissued⟩ := h.claimed
  have hafter := (Allocator.Consistent.ensureShuffled_moves hshuffled).consistent ha
  have hflag := (hissued.issues_claimed hafter).moves.shuffled
    (Allocator.shuffled_of_ensureShuffled hshuffled)
  rw [Allocator.ensureShuffled_apply, if_pos hflag]

end Grants

/-- The tokens are added to the count of their recipient. -/
theorem mintCount_stored (s : Store) (recipient : Address) (units : Nat) (b : Allocator)
    (channel : Channel) (owner : Address) :
    (stored s recipient units b).mintCount channel owner = s.mintCount channel owner +
      if channel = .airdrop ∧ owner = recipient then units else 0 :=
  s.mintCount_withMintCount .airdrop recipient units channel owner

namespace Grants

/-- Tokens that can be issued can be issued in two parts. -/
theorem split (h : Grants s c env sender recipient contract (xs ++ ys) a d made)
    (ha : a.Consistent) (hlater : later.time = env.time) :
    ∃ b first second, Grants s c env sender recipient contract xs a b first ∧
      Grants (stored s recipient xs.length b) c later sender recipient contract ys b d second ∧
      made = first ++ second := by
  obtain ⟨shuffled, hshuffled, hissued⟩ := h.claimed
  obtain ⟨b, first, second, hxs, hys, rfl⟩ := issued_append_iff.mp hissued
  have hcounted := h.counted
  rw [List.length_append] at hcounted
  have hfirst : Grants s c env sender recipient contract xs a b first :=
    ⟨h.active, by omega, h.held, shuffled, hshuffled, hxs⟩
  refine ⟨b, first, second, hfirst, ⟨hlater ▸ h.active, ?_, hfirst.allocator?_stored ha, b,
    hfirst.ensureShuffled_eq ha _, hys.congr rfl rfl⟩, rfl⟩
  rw [mintCount_stored, if_pos ⟨rfl, rfl⟩]
  omega

/-- Tokens that can be issued in two parts can be issued at once. -/
theorem append {e : Allocator} (hfirst : Grants s c env sender recipient contract xs a b first)
    (hsecond : Grants (stored s recipient xs.length b) c later sender recipient contract ys
      e d second) (ha : a.Consistent) :
    Grants s c env sender recipient contract (xs ++ ys) a d (first ++ second) := by
  obtain ⟨shuffled, hshuffled, hxs⟩ := hfirst.claimed
  obtain rfl := Option.some.inj ((hfirst.allocator?_stored ha).symm.trans hsecond.held)
  obtain ⟨again, hagain, hys⟩ := hsecond.claimed
  obtain ⟨-, rfl⟩ := Prod.mk.inj ((hfirst.ensureShuffled_eq ha _).symm.trans hagain)
  have hcounted := hsecond.counted
  rw [mintCount_stored, if_pos ⟨rfl, rfl⟩] at hcounted
  refine ⟨hfirst.active, ?_, hfirst.held, shuffled, hshuffled,
    issued_append_iff.mpr ⟨b, first, second, hxs, hys.congr rfl rfl, rfl⟩⟩
  rw [List.length_append]
  omega

/-- What is stored after the first part is written over after the second. -/
theorem stored_stored {e : Allocator}
    (hfirst : Grants s c env sender recipient contract xs a b first)
    (hsecond : Grants (stored s recipient xs.length b) c later sender recipient contract ys
      e d second) (ha : a.Consistent) :
    stored (stored s recipient xs.length b) recipient ys.length d =
      stored s recipient (xs ++ ys).length d := by
  obtain rfl := Option.some.inj ((hfirst.allocator?_stored ha).symm.trans hsecond.held)
  have hb := (hfirst.issues ha).moves.consistent ha
  have hmoves := (hsecond.issues hb).moves
  rw [stored, mintCount_stored, if_pos ⟨rfl, rfl⟩, stored, stored, List.length_append,
    Nat.add_assoc]
  exact Store.withMintCount_withAllocator_again fun k hk => (hmoves.get?_isSome_iff hb k).mpr hk

end Grants

end Grants

end Airdrop

end ShuffleMint
