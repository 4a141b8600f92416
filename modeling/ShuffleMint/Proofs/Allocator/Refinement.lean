import ShuffleMint.Proofs.Allocator.Queue
import ShuffleMint.Proofs.Allocator.Shuffling

/-!
# An allocator does what its queue does

Once the order is shuffled, and before that as long as no shuffle is asked for, every operation of an
allocator succeeds exactly when the move of its queue is possible, yields the same, and ends in an
allocator with the queue after the move. So the rotations, insertions and removals around the cursor
come to nothing else than moving one token from one part of the queue to another.
-/

namespace ShuffleMint

/-- Whether an operation shuffles the order where that is still to be done. -/
def Operation.isShuffle : Operation → Bool
  | initializeShuffle _ => true
  | ensureShuffled _ => true
  | _ => false

namespace Allocator

/-- An operation does what the queue of the allocator does: where the move of the queue is possible,
it succeeds with what the move yields and leaves an allocator with the queue after the move, of the
same layout and as shuffled as before; where it is not, the operation is rejected and changes
nothing. -/
def Follows (a : Allocator) (operation : Operation) : Prop :=
  match a.queue.perform operation with
  | some (result, q) => ∃ b, operation.perform a = (.ok result, b) ∧ b.queue = q ∧
      b.arena.layout = a.arena.layout ∧ b.arena.shuffled = a.arena.shuffled
  | none => ∃ cause, operation.perform a = (.error (.rejected cause), a)

namespace Consistent

variable {a b : Allocator} {slot : Nat} {t : Token}

/-- An operation whose move is possible follows the queue when it ends with the queue after the move.
-/
theorem follows_of_some {operation : Operation} {result : Yield} {q : TokenQueue}
    (hmove : a.queue.perform operation = some (result, q))
    (hperform : operation.perform a = (.ok result, b)) (hqueue : b.queue = q)
    (hlayout : b.arena.layout = a.arena.layout) (hflag : b.arena.shuffled = a.arena.shuffled) :
    a.Follows operation := by
  rw [Follows, hmove]
  exact ⟨b, hperform, hqueue, hlayout, hflag⟩

/-- An operation whose move is not possible follows the queue when it is rejected. -/
theorem follows_of_none {operation : Operation} {cause : Rejection}
    (hmove : a.queue.perform operation = none)
    (hperform : operation.perform a = (.error (.rejected cause), a)) : a.Follows operation := by
  rw [Follows, hmove]
  exact ⟨cause, hperform⟩

/-- A draw takes the next token of the queue. -/
theorem follows_next (h : a.Consistent) (collection : Option Nat) :
    a.Follows (.next collection) := by
  have hqueue := h.queue_next? collection
  rcases h.next_apply_cases collection with ⟨hnext, happly⟩ |
    ⟨slot, t, hnext, htoken, hpending, happly⟩
  · rw [hnext, Option.bind_none] at hqueue
    exact follows_of_none (by simp [TokenQueue.perform, hqueue]) (Step.bind_of_error happly _)
  · rw [hnext, Option.bind_some, Arena.token?_eq_some_iff.mpr htoken] at hqueue
    exact follows_of_some (by simp [TokenQueue.perform, hqueue]) (Step.bind_of_ok happly _)
      (h.queue_issueSlot_pending htoken hpending) rfl rfl

/-- The order is locked once the queue has issued a token. -/
theorem follows_ensureUnlocked (h : a.Consistent) : a.Follows .ensureUnlocked := by
  have hissued := h.queue_issued_eq_nil_iff
  have hperform := ensureUnlocked_apply a
  by_cases hcursor : a.arena.cursor = 0
  · rw [if_neg (by omega)] at hperform
    exact follows_of_some (by simp [TokenQueue.perform, hissued, hcursor])
      (Step.bind_of_ok hperform _) rfl rfl rfl
  · rw [if_pos (by omega)] at hperform
    exact follows_of_none (by simp [TokenQueue.perform, hissued, hcursor])
      (Step.bind_of_error hperform _)

/-- A claim takes the token from those pending or from those reserved. -/
theorem follows_claim (h : a.Consistent) (t : Token) : a.Follows (.claim t) := by
  rcases h.token_cases t with ⟨e, hslot⟩ | ⟨slot, status, htoken, hstatus⟩
  · have hnone := h.notMem_queue hslot
    simp only [TokenQueue.Holds, not_or] at hnone
    exact follows_of_none (by simp [TokenQueue.perform, hnone])
      (Step.bind_of_error (h.claim_apply_invalid hslot) _)
  · obtain ⟨-, hpending, hreserved, -⟩ := h.mem_queue_iff htoken hstatus
    have hclaim := h.claim_apply htoken hstatus
    cases status with
    | issued | staged =>
      exact follows_of_none (by simp [TokenQueue.perform, hpending, hreserved])
        (Step.bind_of_error hclaim _)
    | pending =>
      exact follows_of_some (by simp [TokenQueue.perform, hpending]) (Step.bind_of_ok hclaim _)
        (h.queue_issueSlot_pending htoken hstatus) rfl rfl
    | reserved =>
      exact follows_of_some (by simp [TokenQueue.perform, hpending, hreserved])
        (Step.bind_of_ok hclaim _) (h.queue_issueSlot_reserved htoken hstatus) rfl rfl

/-- A claim of a staged token takes it from those staged. -/
theorem follows_claimStaged (h : a.Consistent) (t : Token) : a.Follows (.claimStaged t) := by
  rcases h.token_cases t with ⟨e, hslot⟩ | ⟨slot, status, htoken, hstatus⟩
  · have hnone := h.notMem_queue hslot
    simp only [TokenQueue.Holds, not_or] at hnone
    exact follows_of_none (by simp [TokenQueue.perform, hnone])
      (Step.bind_of_error (h.claimStaged_apply_invalid hslot) _)
  · obtain ⟨-, -, -, hstaged⟩ := h.mem_queue_iff htoken hstatus
    have hclaim := h.claimStaged_apply htoken hstatus
    cases status with
    | issued | pending | reserved =>
      exact follows_of_none (by simp [TokenQueue.perform, hstaged]) (Step.bind_of_error hclaim _)
    | staged =>
      exact follows_of_some (by simp [TokenQueue.perform, hstaged]) (Step.bind_of_ok hclaim _)
        (h.queue_issueSlot_staged htoken hstatus) rfl rfl

/-- Holding a token back takes it from those pending. -/
theorem follows_hold (h : a.Consistent) (t : Token) :
    a.Follows (.reserve t) ∧ a.Follows (.stage t) := by
  rcases h.token_cases t with ⟨e, hslot⟩ | ⟨slot, status, htoken, hstatus⟩
  · have hnone := h.notMem_queue hslot
    simp only [TokenQueue.Holds, not_or] at hnone
    constructor
    · exact follows_of_none (by simp [TokenQueue.perform, hnone])
        (Step.bind_of_error (h.hold_apply_invalid hslot .reserved) _)
    · exact follows_of_none (by simp [TokenQueue.perform, hnone])
        (Step.bind_of_error (h.hold_apply_invalid hslot .staged) _)
  · obtain ⟨-, hpending, -, -⟩ := h.mem_queue_iff htoken hstatus
    have hhold := h.hold_apply htoken hstatus
    cases status with
    | issued | reserved | staged =>
      constructor
      · exact follows_of_none (by simp [TokenQueue.perform, hpending])
          (Step.bind_of_error (hhold .reserved) _)
      · exact follows_of_none (by simp [TokenQueue.perform, hpending])
          (Step.bind_of_error (hhold .staged) _)
    | pending =>
      constructor
      · exact follows_of_some (by simp [TokenQueue.perform, hpending])
          (Step.bind_of_ok (hhold .reserved) _) (h.queue_holdSlot_reserved htoken hstatus) rfl rfl
      · exact follows_of_some (by simp [TokenQueue.perform, hpending])
          (Step.bind_of_ok (hhold .staged) _) (h.queue_holdSlot_staged htoken hstatus) rfl rfl

/-- Releasing a token takes it from those staged, or does nothing to one that is not staged. -/
theorem follows_unstage (h : a.Consistent) (t : Token) : a.Follows (.unstage t) := by
  rcases h.token_cases t with ⟨e, hslot⟩ | ⟨slot, status, htoken, hstatus⟩
  · have hnone := h.notMem_queue hslot
    have hstaged : t ∉ a.queue.staged := fun ht => hnone (.inr (.inr (.inr ht)))
    exact follows_of_none (by simp [TokenQueue.perform, hnone, hstaged])
      (Step.bind_of_error (h.unstage_apply_invalid hslot) _)
  · obtain ⟨-, -, -, hstaged⟩ := h.mem_queue_iff htoken hstatus
    have hholds := h.queue_holds_iff.mpr ⟨slot, h.arena.laid.slotOf_eq_ok_iff.mpr htoken⟩
    have hunstage := h.unstage_apply htoken hstatus
    cases status with
    | issued | pending | reserved =>
      exact follows_of_some (by simp [TokenQueue.perform, hstaged, hholds])
        (Step.bind_of_ok hunstage _) rfl rfl rfl
    | staged =>
      exact follows_of_some (by simp [TokenQueue.perform, hstaged]) (Step.bind_of_ok hunstage _)
        (h.queue_releaseSlot htoken hstatus) rfl rfl

/-- Reserving tokens as far as they are pending reserves those that the queue has pending. -/
theorem reserveAll_queue (h : a.Consistent) (tokens : List Token) :
    ∃ b, reserveAll tokens a = (.ok (a.queue.reserveAll tokens).1, b) ∧
      b.queue = (a.queue.reserveAll tokens).2 ∧
      b.arena.layout = a.arena.layout ∧ b.arena.shuffled = a.arena.shuffled := by
  induction tokens generalizing a with
  | nil => exact ⟨a, rfl, rfl, rfl, rfl⟩
  | cons t rest ih =>
    -- One token is reserved, or left alone when it is not pending.
    have hone : ∃ b, reserveIfPending t a = (.ok (t ∈ a.queue.pending), b) ∧ b.Consistent ∧
        b.queue = (if t ∈ a.queue.pending then a.queue.reserve t else a.queue) ∧
        b.arena.layout = a.arena.layout ∧ b.arena.shuffled = a.arena.shuffled := by
      rcases h.token_cases t with ⟨e, hslot⟩ | ⟨slot, status, htoken, hstatus⟩
      · have hpending : t ∉ a.queue.pending := fun ht => h.notMem_queue hslot (.inr (.inl ht))
        exact ⟨a, by simp [h.reserveIfPending_apply_invalid hslot, hpending], h,
          by rw [if_neg hpending], rfl, rfl⟩
      · obtain ⟨-, hpending, -, -⟩ := h.mem_queue_iff htoken hstatus
        have hreserve := h.reserveIfPending_apply htoken hstatus
        cases status with
        | issued | reserved | staged =>
          exact ⟨a, by simp [hreserve, hpending], h, by simp [hpending], rfl, rfl⟩
        | pending =>
          exact ⟨_, by simp [hreserve, hpending], h.holdSlot hstatus (.inl rfl),
            by simpa [hpending] using h.queue_holdSlot_reserved htoken hstatus, rfl, rfl⟩
    obtain ⟨b, hfirst, hb, hqueue, hlayout, hflag⟩ := hone
    obtain ⟨c, hrest, hqueue', hlayout', hflag'⟩ := ih hb
    refine ⟨c, ?_, ?_, hlayout'.trans hlayout, hflag'.trans hflag⟩
    · rw [Allocator.reserveAll, Step.bind_of_ok hfirst, Step.bind_of_ok hrest, hqueue]
      by_cases ht : t ∈ a.queue.pending <;> simp [TokenQueue.reserveAll, ht]
    · rw [hqueue', hqueue]
      by_cases ht : t ∈ a.queue.pending <;> simp [TokenQueue.reserveAll, ht]

/-- Every operation follows the queue, unless it shuffles an order that is not shuffled yet. -/
theorem follows (h : a.Consistent) (operation : Operation)
    (hshuffle : operation.isShuffle = true → a.arena.shuffled = true) : a.Follows operation := by
  cases operation with
  | initializeShuffle seed =>
    exact follows_of_none rfl
      (Step.bind_of_error (initializeShuffle_of_shuffled (hshuffle rfl) seed) _)
  | ensureShuffled seed =>
    have hdone : ensureShuffled seed a = (.ok (), a) := by
      rw [ensureShuffled_apply, if_pos (hshuffle rfl)]
    exact follows_of_some rfl (Step.bind_of_ok hdone _) rfl rfl rfl
  | ensureUnlocked => exact h.follows_ensureUnlocked
  | next collection => exact h.follows_next collection
  | claim t => exact h.follows_claim t
  | claimStaged t => exact h.follows_claimStaged t
  | reserve t => exact (h.follows_hold t).1
  | stage t => exact (h.follows_hold t).2
  | unstage t => exact h.follows_unstage t
  | reserveAll tokens =>
    obtain ⟨b, hreserve, hqueue, hlayout, hflag⟩ := h.reserveAll_queue tokens
    exact follows_of_some rfl (Step.bind_of_ok hreserve _) hqueue hlayout hflag

/-- After operations that shuffle nothing the queue is the one that the operations make of it. -/
theorem queue_after (h : a.Consistent) (operations : List Operation)
    (hshuffle : ∀ operation ∈ operations,
      operation.isShuffle = true → a.arena.shuffled = true) :
    (a.after operations).queue = a.queue.after operations := by
  induction operations generalizing a with
  | nil => rfl
  | cons operation rest ih =>
    have hfirst := h.follows operation (hshuffle operation List.mem_cons_self)
    have hlater := fun later hmem => hshuffle later (List.mem_cons_of_mem _ hmem)
    rw [after_cons, TokenQueue.after, List.foldl_cons, ← TokenQueue.after]
    unfold Follows at hfirst
    split at hfirst
    · next result q hmove =>
      obtain ⟨b, hperform, rfl, -, hflag⟩ := hfirst
      obtain ⟨hb, -⟩ := h.after [operation]
      rw [after_cons, after_nil, hperform] at hb
      rw [hperform, hmove]
      exact ih hb fun later hmem hshuffles => hflag.trans (hlater later hmem hshuffles)
    · next hmove =>
      obtain ⟨cause, hperform⟩ := hfirst
      rw [hperform, hmove]
      exact ih h hlater

end Consistent

/-- However an allocator of collections was used before, its queue holds every token of the
collections once, and operations that shuffle nothing do what they do to the queue. Each of them
succeeds exactly when the move of the queue is possible, with what the move yields and with the queue
after it, and otherwise is rejected and changes nothing; so any number of them, one after the other,
leaves the queue that the moves leave. No move rewrites what is issued or changes the order of the
tokens that stay pending. -/
theorem refines_queue (collections : List (Nat × Nat))
    (hdistinct : (collections.map Prod.fst).Nodup)
    (hbounded : (collections.map Prod.snd).sum < countBound) :
    ∃ start, ofCollections collections = .ok start ∧ ∀ (history : List Operation) (a : Allocator),
      a = start.after history →
        a.queue.Partitions collections ∧
        (∀ operation : Operation, (operation.isShuffle = true → a.arena.shuffled = true) →
          a.Follows operation) ∧
        (∀ operations : List Operation,
          (∀ operation ∈ operations, operation.isShuffle = true → a.arena.shuffled = true) →
            (a.after operations).queue = a.queue.after operations) ∧
        ∀ operation result q, a.queue.perform operation = some (result, q) →
          a.queue.issued <+: q.issued ∧
            (q.pending.Sublist a.queue.pending ∨ ∃ t, q.pending = a.queue.pending ++ [t]) := by
  obtain ⟨start, hstart, hconsistent, -, -, hcollections⟩ :=
    exists_ofCollections hdistinct hbounded
  refine ⟨start, hstart, fun history a ha => ?_⟩
  obtain ⟨hafter, tokens, hmoves⟩ := hconsistent.after history
  rw [← ha] at hafter hmoves
  exact ⟨hafter.queue_partitions (by rw [hmoves.layout_total_eq.1]; exact hcollections),
    hafter.follows, hafter.queue_after, fun _ _ _ => TokenQueue.perform_keeps⟩

/-- Of three collections, one of them without tokens, a token is staged, another drawn, the first
released and a third claimed: the queue tells what comes of it. -/
theorem refines_queue_three :
    ([(101, 3), (7, 0), (102, 2)].map Prod.fst : List Nat).Nodup ∧
      ([(101, 3), (7, 0), (102, 2)].map Prod.snd : List Nat).sum < countBound ∧
      ∃ start, ofCollections [(101, 3), (7, 0), (102, 2)] = .ok start ∧
        (start.after
          [.stage ⟨101, 2⟩, .next (some 102), .unstage ⟨101, 2⟩, .claim ⟨101, 3⟩]).queue =
            ⟨[⟨102, 1⟩, ⟨101, 3⟩], [⟨101, 1⟩, ⟨102, 2⟩, ⟨101, 2⟩], ∅, ∅⟩ := by
  refine ⟨by decide, by decide, ?_⟩
  obtain ⟨start, hstart, hqueue⟩ :=
    refines_queue [(101, 3), (7, 0), (102, 2)] (by decide) (by decide)
  have hmoves := (hqueue [] start rfl).2.2.1
    [.stage ⟨101, 2⟩, .next (some 102), .unstage ⟨101, 2⟩, .claim ⟨101, 3⟩]
    (by simp [Operation.isShuffle])
  have hended : (ofCollections [(101, 3), (7, 0), (102, 2)]).map (fun start => start.queue.after
      [.stage ⟨101, 2⟩, .next (some 102), .unstage ⟨101, 2⟩, .claim ⟨101, 3⟩]) =
        .ok ⟨[⟨102, 1⟩, ⟨101, 3⟩], [⟨101, 1⟩, ⟨102, 2⟩, ⟨101, 2⟩], ∅, ∅⟩ := by decide
  rw [hstart] at hended
  exact ⟨start, hstart, hmoves.trans (Except.ok.inj hended)⟩

end Allocator

end ShuffleMint
