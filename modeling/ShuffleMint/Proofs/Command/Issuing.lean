import ShuffleMint.Proofs.Store.Access

/-!
# Issuing tokens with their messages

Tokens that are drawn have their messages formed afterwards; of tokens that are issued by name, each
has its messages formed as it is claimed. Either way the store stays as it is until the allocator is
written.
-/

namespace ShuffleMint

/-- A step taken for every entry of a list is taken in a store that stays the same when each of them
keeps it. -/
theorem Step.forEach_eq_ok {σ α β : Type} {f : α → Step σ β} {xs : List α} {ys : List β} {s t : σ}
    (hkeeps : ∀ x y t, f x s = (.ok y, t) → t = s) (h : Step.forEach f xs s = (.ok ys, t)) :
    t = s ∧ List.Forall₂ (fun x y => f x s = (.ok y, s)) xs ys := by
  induction xs generalizing ys with
  | nil =>
    obtain ⟨rfl, rfl⟩ := Step.pure_eq_ok_iff.mp h
    exact ⟨rfl, .nil⟩
  | cons x rest ih =>
    obtain ⟨y, u, hx, hrest⟩ := Step.bind_eq_ok_iff.mp h
    obtain rfl := hkeeps x y u hx
    obtain ⟨others, v, hothers, hdone⟩ := Step.bind_eq_ok_iff.mp hrest
    obtain ⟨rfl, rfl⟩ := Step.pure_eq_ok_iff.mp hdone
    obtain ⟨rfl, hall⟩ := ih hothers
    exact ⟨rfl, .cons hx hall⟩

/-- Tokens issued by name: each is claimed on the copy that the one before leaves, and its messages
are formed in the store that stays the same. -/
inductive Airdrop.Issued (claim : Token → Step Allocator Unit)
    (messages : Token → Step Store (List Message)) (s : Store) :
    List Token → Allocator → List Message → Allocator → Prop where
  | nil {a : Allocator} : Issued claim messages s [] a [] a
  | cons {t : Token} {rest : List Token} {a b c : Allocator} {first others : List Message} :
    claim t a = (.ok (), b) → messages t s = (.ok first, s) →
      Issued claim messages s rest b others c →
      Issued claim messages s (t :: rest) a (first ++ others) c

/-- Issuing tokens by name succeeds by claiming them one after the other. -/
theorem Airdrop.issueEach_eq_ok {claim : Token → Step Allocator Unit}
    {messages : Token → Step Store (List Message)} {tokens : List Token} {a : Allocator}
    {result : List Message × Allocator} {s t : Store}
    (hkeeps : ∀ token first t, messages token s = (.ok first, t) → t = s)
    (h : issueEach claim messages tokens a s = (.ok result, t)) :
    t = s ∧ Issued claim messages s tokens a result.1 result.2 := by
  induction tokens generalizing a result with
  | nil =>
    obtain ⟨rfl, rfl⟩ := Step.pure_eq_ok_iff.mp h
    exact ⟨rfl, .nil⟩
  | cons token rest ih =>
    simp only [issueEach, Step.bind_eq_ok_iff, Step.onCopy_eq_ok_pair_iff, Step.pure_eq_ok_iff,
      and_assoc, exists_and_left, exists_eq_left] at h
    obtain ⟨⟨_, b⟩, hclaim, first, u, hfirst, others, v, hothers, rfl, rfl⟩ := h
    obtain rfl := hkeeps token first u hfirst
    obtain ⟨rfl, hissued⟩ := ih hothers
    exact ⟨rfl, .cons hclaim hfirst hissued⟩

/-- The messages of a claimed token are its mint and its report to the airdropper. -/
theorem Airdrop.claimMessages_eq_ok_iff {contract recipient : Address} {token : Token}
    {messages : List Message} {s t : Store} :
    claimMessages contract recipient token s = (.ok messages, t) ↔
      (∃ m, s.Mints recipient token m ∧
        messages = [m, Airdropper.markClaimed contract recipient token]) ∧ t = s := by
  simp only [claimMessages, Step.bind_eq_ok_iff, mintMessage_eq_ok_iff, Step.pure_eq_ok_iff,
    and_assoc, exists_and_left, exists_eq_left]
  constructor
  · rintro ⟨m, hm, rfl, rfl⟩
    exact ⟨⟨m, hm, rfl⟩, rfl⟩
  · rintro ⟨⟨m, hm, rfl⟩, rfl⟩
    exact ⟨m, hm, rfl, rfl⟩

/-- The message of a token that is sold from the custom bundle is its mint. -/
theorem CustomBundle.sellMessages_eq_ok_iff {buyer : Address} {token : Token}
    {messages : List Message} {s t : Store} :
    sellMessages buyer token s = (.ok messages, t) ↔
      (∃ m, s.Mints buyer token m ∧ messages = [m]) ∧ t = s := by
  simp only [sellMessages, Step.bind_eq_ok_iff, mintMessage_eq_ok_iff, Step.pure_eq_ok_iff,
    and_assoc, exists_and_left, exists_eq_left]
  constructor
  · rintro ⟨m, hm, rfl, rfl⟩
    exact ⟨⟨m, hm, rfl⟩, rfl⟩
  · rintro ⟨⟨m, hm, rfl⟩, rfl⟩
    exact ⟨m, hm, rfl, rfl⟩

end ShuffleMint
