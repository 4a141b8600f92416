import ShuffleMint.Proofs.Allocator.Batches
import ShuffleMint.Proofs.Command.Standing

/-!
# What restaging makes of the queue

Restaging runs through two lists. The first loop makes the staged tokens pending again, the second
takes tokens out of the pending ones, perhaps some that the first has just put there. As each loop
comes to one move of all its tokens, it can be said beforehand whether both succeed, and what queue
they leave.
-/

namespace ShuffleMint

namespace CustomBundle

variable {a b : Allocator} {staged assigned tokens : List Token} {purge : Bool}

/-- Different staged tokens are released. -/
theorem exists_release (h : a.Consistent) (hnodup : tokens.Nodup)
    (hstaged : ∀ t ∈ tokens, t ∈ a.queue.staged) :
    ∃ b, release tokens a = (.ok tokens.length, b) ∧ a.Requeued (a.queue.unstageAll tokens) b := by
  induction tokens generalizing a with
  | nil => exact ⟨a, rfl, by simpa using Allocator.Requeued.refl h⟩
  | cons t rest ih =>
    obtain ⟨ht, hrest⟩ := List.nodup_cons.mp hnodup
    obtain ⟨c, hfirst, hc⟩ := h.exists_unstage (hstaged t List.mem_cons_self)
    have hleft : ∀ t' ∈ rest, t' ∈ c.queue.staged := fun t' ht' => by
      rw [hc.queue]
      exact Finset.mem_erase.mpr
        ⟨fun hsame => ht (hsame ▸ ht'), hstaged t' (List.mem_cons_of_mem _ ht')⟩
    obtain ⟨b, hlater, hb⟩ := ih hc.consistent hrest hleft
    rw [hc.queue, TokenQueue.unstageAll_unstage] at hb
    refine ⟨b, ?_, hc.trans hb⟩
    rw [release, Step.bind_of_ok hfirst, Step.bind_of_ok hlater]
    rfl

/-- Different pending tokens are staged after those already listed, as long as none of them is
listed or assigned. -/
theorem exists_stageEach (h : a.Consistent) (hnodup : tokens.Nodup)
    (hfree : ∀ t ∈ tokens, t ∉ staged ∧ t ∉ assigned ∧ t ∈ a.queue.pending) :
    ∃ b, stageEach assigned tokens staged a = (.ok (staged ++ tokens), b) ∧
      a.Requeued (a.queue.stageAll tokens) b := by
  induction tokens generalizing a staged with
  | nil => exact ⟨a, by simp [stageEach, pure, Step.done], by simpa using Allocator.Requeued.refl h⟩
  | cons t rest ih =>
    obtain ⟨ht, hrest⟩ := List.nodup_cons.mp hnodup
    obtain ⟨hlisted, hassigned, hpending⟩ := hfree t List.mem_cons_self
    obtain ⟨c, hfirst, hc⟩ := h.exists_stage hpending
    have hstill : ∀ t' ∈ rest, t' ∉ staged ++ [t] ∧ t' ∉ assigned ∧ t' ∈ c.queue.pending := by
      intro t' ht'
      obtain ⟨hlisted', hassigned', hpending'⟩ := hfree t' (List.mem_cons_of_mem _ ht')
      have hne : t' ≠ t := fun hsame => ht (hsame ▸ ht')
      rw [hc.queue]
      exact ⟨by simp [hlisted', hne], hassigned', (List.mem_erase_of_ne hne).mpr hpending'⟩
    obtain ⟨b, hlater, hb⟩ := ih hc.consistent hrest hstill
    rw [hc.queue, TokenQueue.stageAll_stage h.nodup_queue_pending] at hb
    refine ⟨b, ?_, hc.trans hb⟩
    rw [stageEach, if_neg (by simpa using hlisted), if_neg (by simpa using hassigned),
      Step.bind_of_ok hfirst, hlater, List.append_assoc, List.singleton_append]

/-- Tokens that can be staged next to those that stay staged, after others are released: they are
different, none stays staged or is assigned, and each is pending or released. -/
structure Stageable (q : TokenQueue) (kept released assigned tokens : List Token) : Prop where
  nodup : tokens.Nodup
  notMem_kept : ∀ t ∈ tokens, t ∉ kept
  notMem_assigned : ∀ t ∈ tokens, t ∉ assigned
  available : ∀ t ∈ tokens, t ∈ q.pending ∨ t ∈ released

/-- What restaging needs, it has. -/
theorem stageable_of_restage (h : a.Consistent) {result : Nat × List Token}
    (hok : restage purge staged assigned tokens a = (.ok result, b)) :
    Stageable a.queue (if purge then [] else staged) (if purge then staged else []) assigned
      tokens := by
  obtain ⟨c, hrelease, hstage⟩ := restage_eq_ok hok
  cases purge with
  | true =>
    have hc := (release_moves h hrelease).consistent h
    obtain ⟨-, hnodup, hstood, -⟩ := stageEach_standing hc hstage
    refine ⟨hnodup, fun t ht => (hstood t ht).1, fun t ht => (hstood t ht).2.1, fun t ht => ?_⟩
    have hpending := (hstood t ht).2.2
    rw [release_standing h hrelease] at hpending
    split at hpending
    · next hreleased => exact .inr hreleased.1
    · exact .inl (h.mem_queue_pending.mpr hpending)
  | false =>
    obtain ⟨-, rfl⟩ := Step.pure_eq_ok_iff.mp hrelease
    obtain ⟨-, hnodup, hstood, -⟩ := stageEach_standing h hstage
    exact ⟨hnodup, fun t ht => (hstood t ht).1, fun t ht => (hstood t ht).2.1,
      fun t ht => .inl (h.mem_queue_pending.mpr (hstood t ht).2.2)⟩

/-- Tokens that can be staged are staged, after the others are released. -/
theorem exists_restage (h : a.Consistent) (hnodup : staged.Nodup)
    (hstaged : ∀ t ∈ staged, t ∈ a.queue.staged)
    (hfree : Stageable a.queue (if purge then [] else staged) (if purge then staged else [])
      assigned tokens) :
    ∃ b, restage purge staged assigned tokens a =
        (.ok ((if purge then staged else []).length, (if purge then [] else staged) ++ tokens), b) ∧
      a.Requeued ((a.queue.unstageAll (if purge then staged else [])).stageAll tokens) b := by
  cases purge with
  | true =>
    obtain ⟨c, hrelease, hc⟩ := exists_release h hnodup hstaged
    have hthen : ∀ t ∈ tokens, t ∉ ([] : List Token) ∧ t ∉ assigned ∧ t ∈ c.queue.pending := by
      intro t ht
      rw [hc.queue]
      exact ⟨List.not_mem_nil, hfree.notMem_assigned t ht,
        List.mem_append.mpr (hfree.available t ht)⟩
    obtain ⟨b, hstage, hb⟩ := exists_stageEach hc.consistent hfree.nodup hthen
    rw [hc.queue] at hb
    refine ⟨b, ?_, hc.trans hb⟩
    simp only [restage, if_true, Step.bind_eq_ok_iff, Step.pure_eq_ok_iff]
    exact ⟨_, c, hrelease, _, b, hstage, rfl, rfl⟩
  | false =>
    have hthen : ∀ t ∈ tokens, t ∉ staged ∧ t ∉ assigned ∧ t ∈ a.queue.pending := fun t ht =>
      ⟨hfree.notMem_kept t ht, hfree.notMem_assigned t ht,
        (hfree.available t ht).resolve_right List.not_mem_nil⟩
    obtain ⟨b, hstage, hb⟩ := exists_stageEach h hfree.nodup hthen
    refine ⟨b, ?_, by simpa using hb⟩
    simp only [restage, Bool.false_eq_true, if_false, Step.bind_eq_ok_iff, Step.pure_eq_ok_iff]
    exact ⟨0, a, ⟨rfl, rfl⟩, _, b, hstage, rfl, rfl⟩

/-- Restaging lists the tokens after those that stay staged, releases the others and stages the
tokens. -/
theorem requeued_of_restage (h : a.Consistent) (hnodup : staged.Nodup)
    (hstaged : ∀ t ∈ staged, t ∈ a.queue.staged) {released : Nat} {listed : List Token}
    (hok : restage purge staged assigned tokens a = (.ok (released, listed), b)) :
    listed = (if purge then [] else staged) ++ tokens ∧
      a.Requeued ((a.queue.unstageAll (if purge then staged else [])).stageAll tokens) b := by
  obtain ⟨b', hok', hrequeued⟩ := exists_restage h hnodup hstaged (stageable_of_restage h hok)
  obtain ⟨hresult, rfl⟩ := Prod.mk.inj (hok.symm.trans hok')
  exact ⟨(Prod.mk.inj (Except.ok.inj hresult)).2, hrequeued⟩

end CustomBundle

/-- Staging goes through once all that it reads is there and the tokens can be restaged. -/
theorem Call.exists_stageBundle {call : Call} {s u : CallState} {c : Config} {a b : Allocator}
    {count n : Nat} {purge : Bool} {tokens : Option (List Token)} {assigned staged : List Token}
    (price : Nat) (hfunds : call.funds = []) (hc : s.store.config = some c)
    (hallowed : c.canAdminister call.sender = true) (hcount : count ≠ 0)
    (ha : s.store.allocator? = some a)
    (hread : CustomBundle.assignedTokens call.answers c (tokens.getD []) s = (.ok assigned, u))
    (hrestage : CustomBundle.restage purge s.store.stagedTokens assigned (tokens.getD []) a =
      (.ok (n, staged), b)) :
    ∃ r t, call.stageBundle count price purge tokens s = (.ok r, t) := by
  simp only [Call.stageBundle, if_neg hcount, Step.bind_eq_ok_iff, Step.lift_eq_ok_iff,
    requireNoFunds_eq_ok_iff, CallState.onStore_eq_ok_iff, Store.loadConfig_eq_ok_iff,
    Config.requireAdministrator_eq_ok_iff, Store.loadAllocator_eq_ok_iff, Step.get_bind_apply,
    Step.onCopy_eq_ok_pair_iff, Store.saveAllocator_eq_ok_iff, Store.saveStaged_eq_ok_iff,
    Store.saveConfig_eq_ok_iff, Step.pure_eq_ok_iff, and_assoc, exists_and_left, exists_eq_left,
    exists_const]
  exact ⟨hfunds, _, _, c, hc, hallowed, a, ha, assigned, u, hread, ((n, staged), b), hrestage, rfl,
    rfl⟩

end ShuffleMint
