import Mathlib.Data.Finset.Lattice.Lemmas
import Mathlib.Data.Finset.SDiff
import Mathlib.Data.List.Nodup
import ShuffleMint.Proofs.Allocator.Holding
import ShuffleMint.Proofs.Allocator.Refinement

/-!
# Moving many tokens of the queue

Commands move tokens of the queue one by one along a list. What that comes to can be told of the
list as a whole: the tokens that are taken out of the pending ones are left out wherever they stand,
and those that are put back come last, in the order in which they are listed. As the others keep
their order, the tokens that come next in the collections can be told beforehand.
-/

namespace ShuffleMint

/-- Of entries that come once, the first of those that are left out can be taken out before. -/
theorem filter_notMem_erase {α : Type} [DecidableEq α] {xs : List α} (hnodup : xs.Nodup) (x : α)
    (ys : List α) : (xs.erase x).filter (· ∉ ys) = xs.filter (· ∉ x :: ys) := by
  rw [hnodup.erase_eq_filter, List.filter_filter]
  refine List.filter_congr fun z _ => ?_
  by_cases hsame : z = x <;> simp [hsame]

namespace TokenQueue

variable {q : TokenQueue} {t : Token} {tokens : List Token}

/-- Makes pending tokens the last issued ones, in the order in which they are listed. -/
def issueAll (q : TokenQueue) (tokens : List Token) : TokenQueue :=
  { q with
    issued := q.issued ++ tokens
    pending := q.pending.filter (· ∉ tokens) }

/-- Moves pending tokens to those staged. -/
def stageAll (q : TokenQueue) (tokens : List Token) : TokenQueue :=
  { q with
    pending := q.pending.filter (· ∉ tokens)
    staged := q.staged ∪ tokens.toFinset }

/-- Makes staged tokens the last pending ones, in the order in which they are listed. -/
def unstageAll (q : TokenQueue) (tokens : List Token) : TokenQueue :=
  { q with
    pending := q.pending ++ tokens
    staged := q.staged \ tokens.toFinset }

/-- Nothing is issued when no token is. -/
@[simp] theorem issueAll_nil (q : TokenQueue) : q.issueAll [] = q := by
  simp [issueAll]

/-- Nothing is staged when no token is. -/
@[simp] theorem stageAll_nil (q : TokenQueue) : q.stageAll [] = q := by
  simp [stageAll]

/-- Nothing is released when no token is. -/
@[simp] theorem unstageAll_nil (q : TokenQueue) : q.unstageAll [] = q := by
  simp [unstageAll]

/-- Issuing tokens one by one issues them all. -/
theorem issueAll_issuePending (hnodup : q.pending.Nodup) (t : Token) (tokens : List Token) :
    (q.issuePending t).issueAll tokens = q.issueAll (t :: tokens) := by
  simp only [issueAll, issuePending, filter_notMem_erase hnodup, List.append_assoc,
    List.singleton_append]

/-- The next token of a collection does not change when one of another collection is issued. -/
theorem next?_issuePending {id : Nat} (hother : t.collection ≠ id) :
    (q.issuePending t).next? (some id) = q.next? (some id) := by
  simp only [next?, issuePending, ← List.head?_filter]
  rw [filter_erase_of_not (by simpa using hother)]

/-- Staging tokens one by one stages them all. -/
theorem stageAll_stage (hnodup : q.pending.Nodup) (t : Token) (tokens : List Token) :
    (q.stage t).stageAll tokens = q.stageAll (t :: tokens) := by
  have hstaged : insert t q.staged ∪ tokens.toFinset = q.staged ∪ (t :: tokens).toFinset := by
    rw [List.toFinset_cons, Finset.insert_union, Finset.union_insert]
  simp only [stageAll, stage, filter_notMem_erase hnodup, hstaged]

/-- Releasing tokens one by one releases them all. -/
theorem unstageAll_unstage (q : TokenQueue) (t : Token) (tokens : List Token) :
    (q.unstage t).unstageAll tokens = q.unstageAll (t :: tokens) := by
  have hstaged : q.staged.erase t \ tokens.toFinset = q.staged \ (t :: tokens).toFinset := by
    rw [List.toFinset_cons, Finset.sdiff_insert, Finset.erase_sdiff_comm]
  simp only [unstageAll, unstage, hstaged, List.append_assoc, List.singleton_append]

/-- Releasing tokens and staging the same ones again leaves the queue as it was. -/
theorem stageAll_unstageAll {released : List Token} (hsame : ∀ t, t ∈ tokens ↔ t ∈ released)
    (hstaged : ∀ t ∈ released, t ∈ q.staged) (hpending : ∀ t ∈ released, t ∉ q.pending) :
    (q.unstageAll released).stageAll tokens = q := by
  have hkept : (q.pending ++ released).filter (· ∉ tokens) = q.pending := by
    have hnone : released.filter (· ∉ tokens) = [] :=
      List.filter_eq_nil_iff.mpr fun t ht => by simp [(hsame t).mpr ht]
    have hall : q.pending.filter (· ∉ tokens) = q.pending :=
      List.filter_eq_self.mpr fun t ht => by
        simpa using fun htoken => hpending t ((hsame t).mp htoken) ht
    rw [List.filter_append, hnone, hall, List.append_nil]
  have hback : q.staged \ released.toFinset ∪ tokens.toFinset = q.staged := by
    ext t
    simp only [Finset.mem_union, Finset.mem_sdiff, List.mem_toFinset, hsame]
    by_cases ht : t ∈ released <;> simp [ht, hstaged]
  simp only [stageAll, unstageAll, hkept, hback]

end TokenQueue

namespace Allocator

variable {a b c : Allocator} {q q' : TokenQueue} {t : Token}

/-- The second allocator is consistent and has the given queue. Beyond the queue it is like the
first: it has the same layout and supplies and is as shuffled. -/
structure Requeued (a : Allocator) (q : TokenQueue) (b : Allocator) : Prop where
  consistent : b.Consistent
  queue : b.queue = q
  layout : b.arena.layout = a.arena.layout
  shuffled : b.arena.shuffled = a.arena.shuffled
  supplies : b.supplies = a.supplies

namespace Requeued

/-- An allocator has its own queue. -/
theorem refl (h : a.Consistent) : a.Requeued a.queue a := ⟨h, rfl, rfl, rfl, rfl⟩

/-- The queue can be changed twice. -/
theorem trans (h : a.Requeued q b) (h' : b.Requeued q' c) : a.Requeued q' c :=
  ⟨h'.consistent, h'.queue, h'.layout.trans h.layout, h'.shuffled.trans h.shuffled,
    h'.supplies.trans h.supplies⟩

end Requeued

namespace Consistent

/-- A pending token can be staged. -/
theorem exists_stage (h : a.Consistent) (hpending : t ∈ a.queue.pending) :
    ∃ b, stage t a = (.ok (), b) ∧ a.Requeued (a.queue.stage t) b := by
  obtain ⟨slot, htoken, hstatus⟩ := h.standing_eq_some_iff.mp (h.mem_queue_pending.mp hpending)
  exact ⟨_, h.hold_apply htoken hstatus .staged, h.holdSlot hstatus (.inr rfl),
    h.queue_holdSlot_staged htoken hstatus, rfl, rfl, rfl⟩

/-- A staged token can be released. -/
theorem exists_unstage (h : a.Consistent) (hstaged : t ∈ a.queue.staged) :
    ∃ b, unstage t a = (.ok true, b) ∧ a.Requeued (a.queue.unstage t) b := by
  obtain ⟨slot, htoken, hstatus⟩ := h.standing_eq_some_iff.mp (h.mem_queue_staged.mp hstaged)
  exact ⟨_, h.unstage_apply htoken hstatus, h.releaseSlot (.inr hstatus),
    h.queue_releaseSlot htoken hstatus, rfl, rfl, rfl⟩

/-- The pending tokens are listed once. -/
theorem nodup_queue_pending (h : a.Consistent) : a.queue.pending.Nodup :=
  h.nodup_filterMap_token? h.arena.pending_nodup

end Consistent

end Allocator

end ShuffleMint
