import Mathlib.Data.Finset.Card
import Mathlib.Data.Finset.Dedup
import ShuffleMint.Proofs.Allocator.Holding

/-!
# Cleaning depends only on the set of tokens

Tokens that are handed out elsewhere are reserved all at once, those of them that are pending. So
many are reserved as different ones of the tokens were pending. What is reserved, and how many, does
not depend on the order of the tokens, on repetitions or on unknown tokens among them, and tokens
that are cleaned out already are not cleaned out again.
-/

namespace ShuffleMint

namespace Allocator

/-- How many different ones of some tokens are pending. -/
def pendingAmong (a : Allocator) (tokens : List Token) : Nat :=
  (tokens.toFinset.filter fun t => a.standing t = some .pending).card

end Allocator

namespace Arena.Searchable

open Allocator

variable {a : Allocator}

/-- Reserving a token if it is pending always succeeds and tells whether it was. -/
theorem reserveIfPending_eq (h : a.arena.Searchable) (t : Token) :
    Allocator.reserveIfPending t a =
      (.ok (decide (a.standing t = some .pending)), a.withHeld .reserved t) := by
  rcases h.covered.token_cases t with ⟨e, hslot⟩ | ⟨slot, status, hslot, hstatus⟩
  · rw [h.covered.reserveIfPending_apply hslot]
    simp [standing, Allocator.withHeld, hslot]
  · rw [h.reserveIfPending_apply hslot hstatus]
    cases status <;> simp [standing, Allocator.withHeld, withSlotHeld, hslot, hstatus]

/-- The first of some tokens counts if it is pending, and the others count once it is reserved. -/
theorem pendingAmong_cons (h : a.arena.Searchable) (t : Token) (rest : List Token) :
    a.pendingAmong (t :: rest) =
      (a.withHeld .reserved t).pendingAmong rest + if a.standing t = some .pending then 1 else 0 := by
  have hfrozen : SlotStatus.reserved ≠ .pending := by simp
  have hstanding := (h.withholds_withHeld hfrozen t).standing
  unfold pendingAmong
  by_cases hpending : a.standing t = some .pending
  · have hinsert : ((t :: rest).toFinset.filter fun t => a.standing t = some .pending) =
        insert t (rest.toFinset.filter
          fun t' => (a.withHeld .reserved t).standing t' = some .pending) := by
      ext t'
      simp only [Finset.mem_filter, Finset.mem_insert, List.mem_toFinset, List.mem_cons, hstanding]
      by_cases hsame : t' = t <;> simp [hsame, hpending]
    have hfresh : t ∉ rest.toFinset.filter
        fun t' => (a.withHeld .reserved t).standing t' = some .pending := by
      simp [hstanding, hpending]
    rw [hinsert, Finset.card_insert_of_notMem hfresh, if_pos hpending]
  · have hsame : ((t :: rest).toFinset.filter fun t => a.standing t = some .pending) =
        rest.toFinset.filter fun t' => (a.withHeld .reserved t).standing t' = some .pending := by
      ext t'
      simp only [Finset.mem_filter, List.mem_toFinset, List.mem_cons, hstanding]
      by_cases hsame : t' = t <;> simp [hsame, hpending]
    rw [hsame, if_neg hpending, Nat.add_zero]

/-- Reserving tokens as far as they are pending counts the different ones that are. -/
theorem reserveAll_eq (h : a.arena.Searchable) (tokens : List Token) :
    Allocator.reserveAll tokens a =
      (.ok (a.pendingAmong tokens), tokens.foldl (Allocator.withHeld .reserved) a) := by
  induction tokens generalizing a with
  | nil => rfl
  | cons t rest ih =>
    rw [Allocator.reserveAll, Step.bind_of_ok (h.reserveIfPending_eq t),
      Step.bind_of_ok (ih (h.withHeld (by simp) t)), h.pendingAmong_cons t rest]
    by_cases hpending : a.standing t = some .pending <;> simp [hpending]

end Arena.Searchable

namespace Allocator

variable {a : Allocator}

/-- The different pending ones of some tokens depend on the set of the tokens only. -/
theorem pendingAmong_congr {tokens tokens' : List Token} (h : ∀ t, t ∈ tokens' ↔ t ∈ tokens) :
    a.pendingAmong tokens' = a.pendingAmong tokens := by
  have hset : tokens'.toFinset = tokens.toFinset := by
    ext t
    rw [List.mem_toFinset, List.mem_toFinset, h]
  rw [pendingAmong, pendingAmong, hset]

/-- Reserving one list of tokens after another reserves both, and the counts add up. -/
theorem reserveAll_append (first second : List Token) :
    reserveAll (first ++ second) =
      (do
        let n ← reserveAll first
        let m ← reserveAll second
        pure (n + m)) := by
  induction first with
  | nil => simp only [List.nil_append, reserveAll, pure_bind, Nat.zero_add, bind_pure]
  | cons t rest ih =>
    simp only [List.cons_append, reserveAll, ih, bind_assoc, pure_bind]
    refine bind_congr fun reserved => bind_congr fun n => bind_congr fun m => ?_
    cases reserved <;> simp [Nat.add_right_comm]

/-- After any history of an allocator of whatever collections, reserving tokens as far as they are
pending always succeeds, and depends on the set of the tokens only: it yields how many different ones
of them are pending, and changes nothing but that these are reserved. Doing it again yields zero and
changes nothing, and doing it for more tokens afterwards is the same as doing it for all of them at
once. -/
theorem reserveAll_set (collections : List (Nat × Nat)) (start : Allocator)
    (hstart : ofCollections collections = .ok start) (history : List Operation)
    (ha : a = start.after history) (tokens : List Token) :
    ∃ b, reserveAll tokens a = (.ok (a.pendingAmong tokens), b) ∧ a.Withholds .reserved tokens b ∧
      (∀ tokens', (∀ t, t ∈ tokens' ↔ t ∈ tokens) →
        reserveAll tokens' a = (.ok (a.pendingAmong tokens), b)) ∧
      reserveAll tokens b = (.ok 0, b) ∧
      ∀ more, ∃ n c, reserveAll more b = (.ok n, c) ∧
        reserveAll (tokens ++ more) a = (.ok (a.pendingAmong tokens + n), c) := by
  have h : a.arena.Searchable := ha ▸ (searchable_of_ofCollections hstart).after history
  have hrun := h.reserveAll_eq tokens
  have hb := h.reserveAll tokens
  rw [hrun] at hb
  have hwithholds : a.Withholds .reserved tokens (tokens.foldl (withHeld .reserved) a) :=
    h.withholds_foldl (by simp) tokens
  refine ⟨_, hrun, hwithholds, fun tokens' hsame => ?_, ?_, fun more => ?_⟩
  · rw [h.reserveAll_eq, pendingAmong_congr hsame, foldl_withHeld_congr (by simp) hsame]
  · have hnone : (tokens.foldl (withHeld .reserved) a).pendingAmong tokens = 0 := by
      rw [pendingAmong, Finset.card_eq_zero, Finset.filter_eq_empty_iff]
      intro t ht
      rw [hwithholds.standing]
      by_cases hpending : a.standing t = some .pending <;>
        simp [List.mem_toFinset.mp ht, hpending]
    have hagain : tokens.foldl (withHeld .reserved) (tokens.foldl (withHeld .reserved) a) =
        tokens.foldl (withHeld .reserved) a := by
      rw [← List.foldl_append]
      exact foldl_withHeld_congr (by simp) (by simp) a
    rw [hb.reserveAll_eq, hnone, hagain]
  · refine ⟨_, _, hb.reserveAll_eq more, ?_⟩
    rw [reserveAll_append, Step.bind_of_ok hrun, Step.bind_of_ok (hb.reserveAll_eq more)]
    rfl

/-- Of two collections with the same id and a third one, a token is staged and one is drawn. Of the
tokens named afterwards one is listed twice, one is unknown, and two are reserved. -/
theorem reserveAll_set_repeated_id :
    ∃ start b, ofCollections [(5, 2), (9, 2), (5, 1)] = .ok start ∧
      reserveAll [⟨9, 2⟩, ⟨4, 1⟩, ⟨5, 2⟩, ⟨9, 2⟩]
        (start.after [.stage ⟨9, 1⟩, .next none]) = (.ok 2, b) ∧
      reserveAll [⟨5, 2⟩, ⟨9, 2⟩, ⟨4, 1⟩]
        (start.after [.stage ⟨9, 1⟩, .next none]) = (.ok 2, b) ∧
      reserveAll [⟨9, 2⟩, ⟨4, 1⟩, ⟨5, 2⟩, ⟨9, 2⟩] b = (.ok 0, b) := by
  obtain ⟨b, hrun, -, hsame, hagain, -⟩ := reserveAll_set [(5, 2), (9, 2), (5, 1)] _ rfl
    [.stage ⟨9, 1⟩, .next none] rfl [⟨9, 2⟩, ⟨4, 1⟩, ⟨5, 2⟩, ⟨9, 2⟩]
  have hother := hsame [⟨5, 2⟩, ⟨9, 2⟩, ⟨4, 1⟩] (by simp; tauto)
  have hcount {n : Nat} (hn : n = 2) : ((.ok n, b) : Outcome Nat × Allocator) = (.ok 2, b) := by
    rw [hn]
  exact ⟨_, b, rfl, hrun.trans (hcount (by decide +kernel)),
    hother.trans (hcount (by decide +kernel)), hagain⟩

end Allocator

end ShuffleMint
