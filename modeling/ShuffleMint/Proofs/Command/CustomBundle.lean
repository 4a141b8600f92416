import ShuffleMint.Proofs.Command.Refusal

/-!
# The custom bundle holds together

The staged tokens are kept in a list, in the statuses of their slots, and by their number in the
completion flag of the settings. While these agree, a custom bundle that is open has enough tokens,
every one of them can be claimed, and what can keep it from being minted are the checks of the call,
the messages to the collections and the settlement of the payment.
-/

namespace ShuffleMint

open Allocator (Issues)
open Step (FailsOnly)

variable {a b : Allocator} {s : Store} {c : Config} {staged : List Token}

namespace CustomBundle

/-- The list of staged tokens, how tokens stand, and the settings of the custom bundle agree. -/
structure Coherent (c : Config) (a : Allocator) (staged : List Token) : Prop where
  nodup : staged.Nodup
  mem_iff : ∀ t, t ∈ staged ↔ a.standing t = some .staged
  disabled : c.customEnabled = false → staged = []
  enabled : c.customEnabled = true →
    1 ≤ c.customCount ∧ (c.customCompleted = true ↔ staged.length < c.customCount)

/-- What the settings say of the custom bundle, but for its price. -/
def terms (c : Config) : Bool × Bool × Nat := (c.customEnabled, c.customCompleted, c.customCount)

namespace Coherent

/-- Settings with the same terms and an allocator with the same staged tokens agree with the list as
well. -/
theorem congr (h : Coherent c a staged) {c' : Config} (hterms : terms c' = terms c)
    (hstanding : ∀ t, b.standing t = some .staged ↔ a.standing t = some .staged) :
    Coherent c' b staged := by
  obtain ⟨henabled, hrest⟩ := Prod.mk.inj hterms
  obtain ⟨hcompleted, hcount⟩ := Prod.mk.inj hrest
  refine ⟨h.nodup, fun t => (h.mem_iff t).trans (hstanding t).symm, ?_, ?_⟩
  · rw [henabled]
    exact h.disabled
  · rw [henabled, hcompleted, hcount]
    exact h.enabled

/-- An open bundle has enough staged tokens. -/
theorem count_le_length (h : Coherent c a staged) (henabled : c.customEnabled = true)
    (hcompleted : c.customCompleted = false) : c.customCount ≤ staged.length := by
  have hflag := (h.enabled henabled).2
  rw [hcompleted] at hflag
  exact Nat.not_lt.mp fun hfew => nomatch hflag.mpr hfew

/-- After the first tokens are issued as a bundle, the list that is left agrees. -/
theorem sell (h : Coherent c a staged) (henabled : c.customEnabled = true)
    (hissues : a.Issues [.staged] (staged.take c.customCount) b) :
    Coherent { c with customCompleted := (staged.drop c.customCount).length < c.customCount } b
      (staged.drop c.customCount) := by
  have hsplit : (staged.take c.customCount ++ staged.drop c.customCount).Nodup := by
    rw [List.take_append_drop]
    exact h.nodup
  obtain ⟨-, hleft, hapart⟩ := List.nodup_append.mp hsplit
  refine ⟨hleft, fun t => ?_, fun hdisabled => ?_, fun _ =>
    ⟨(h.enabled henabled).1, decide_eq_true_iff⟩⟩
  · rw [hissues.standing]
    by_cases hsold : t ∈ staged.take c.customCount
    · simp only [hsold, if_true, Option.some.injEq, reduceCtorEq, iff_false]
      exact fun hkept => hapart t hsold t hkept rfl
    · rw [if_neg hsold, ← h.mem_iff]
      refine ⟨List.mem_of_mem_drop, fun hmem => ?_⟩
      rw [← List.take_append_drop c.customCount staged, List.mem_append] at hmem
      exact hmem.resolve_left hsold
  · rw [henabled] at hdisabled
    cases hdisabled

/-- After tokens are staged, with a purge instead of those before, the new list agrees with the new
terms. -/
theorem restage (h : Coherent c a staged) {purge : Bool} {tokens : List Token} {count price : Nat}
    (hcount : count ≠ 0) (hnodup : tokens.Nodup)
    (hnew : ∀ t ∈ tokens, t ∉ (if purge then [] else staged))
    (hstanding : ∀ t, b.standing t =
      if t ∈ tokens then some .staged
      else if purge = true ∧ t ∈ staged ∧ a.standing t = some .staged then some .pending
      else a.standing t) :
    Coherent (withTerms c count price ((if purge then [] else staged) ++ tokens).length) b
      ((if purge then [] else staged) ++ tokens) := by
  refine ⟨?_, fun t => ?_, nofun, fun _ => ⟨Nat.one_le_iff_ne_zero.mpr hcount, decide_eq_true_iff⟩⟩
  · refine List.nodup_append.mpr ⟨?_, hnodup, fun t hkept t' ht' hsame => hnew t' ht' (hsame ▸ hkept)⟩
    split
    · exact List.nodup_nil
    · exact h.nodup
  · rw [hstanding]
    have hmem := h.mem_iff t
    by_cases htoken : t ∈ tokens
    · simp [htoken]
    · cases purge <;> by_cases hstaged : t ∈ staged <;> simp_all

end Coherent

end CustomBundle

/-- Issuing tokens that are not staged leaves the staged ones alone. -/
theorem Allocator.Issues.standing_staged_iff {statuses : List SlotStatus} {tokens : List Token}
    (h : a.Issues statuses tokens b) (hstaged : .staged ∉ statuses) (t : Token) :
    b.standing t = some .staged ↔ a.standing t = some .staged := by
  rw [h.standing]
  split
  · next ht =>
    obtain ⟨status, hstatus, hstood⟩ := h.stood t ht
    rw [hstood]
    refine ⟨nofun, fun hsame => ?_⟩
    rw [Option.some.inj hsame] at hstatus
    exact absurd hstatus hstaged
  · rfl

/-! ## Claims -/

/-- Staged tokens can be claimed one after the other. -/
theorem Allocator.Consistent.exists_claimEach (h : a.Consistent) {tokens : List Token}
    (hnodup : tokens.Nodup) (hstaged : ∀ t ∈ tokens, a.standing t = some .staged) :
    ∃ done b, Step.forEach claimStaged tokens a = (.ok done, b) := by
  induction tokens generalizing a with
  | nil => exact ⟨[], a, rfl⟩
  | cons t rest ih =>
    obtain ⟨hfresh, hrest⟩ := List.nodup_cons.mp hnodup
    obtain ⟨b, hb⟩ := h.exists_claimStaged (hstaged t (List.mem_cons_self ..))
    have hissues := h.claimStaged_issues hb
    have hlater : ∀ t' ∈ rest, b.standing t' = some .staged := by
      intro t' ht'
      have hother : t' ∉ [t] := by
        rw [List.mem_singleton]
        rintro rfl
        exact hfresh ht'
      rw [hissues.standing, if_neg hother]
      exact hstaged t' (List.mem_cons_of_mem _ ht')
    obtain ⟨done, d, hd⟩ := ih (hissues.moves.consistent h) hrest hlater
    refine ⟨() :: done, d, ?_⟩
    rw [Step.forEach_cons, Step.bind_of_ok hb, Step.bind_of_ok hd]
    rfl

/-- After the shuffle, all tokens of the next bundle can be claimed. -/
theorem CustomBundle.Coherent.exists_claims (h : Coherent c a staged) (ha : a.Consistent)
    {seed : Seed} {shuffled : Allocator}
    (hshuffled : Allocator.ensureShuffled seed a = (.ok (), shuffled)) :
    ∃ done b, Step.forEach Allocator.claimStaged (staged.take c.customCount) shuffled =
      (.ok done, b) := by
  have hmoves := Allocator.Consistent.ensureShuffled_moves hshuffled
  have hnodup := h.nodup.sublist (List.take_sublist c.customCount staged)
  refine (hmoves.consistent ha).exists_claimEach hnodup fun t ht => ?_
  rw [Allocator.Consistent.standing_ensureShuffled hshuffled]
  exact (h.mem_iff t).mp (List.mem_of_mem_take ht)

/-! ## Failures -/

namespace CustomBundle

/-- What can keep a custom bundle from being minted: the check of the count, the payment, the shuffle,
the message that mints one of its tokens, or the settlement. -/
inductive Refused (s : Store) (c : Config) (call : Call) (e : Failure) : Prop where
  | unchecked (h : s.checkMint c call.env.time .customBundle call.sender 1 = .error e)
  | unpaid (h : checkPayment c call.funds c.customPrice = .error e)
  | unshuffled {a : Allocator} (ha : s.allocator? = some a)
      (h : (Allocator.ensureShuffled (call.env.entropy call.sender) a).1 = .error e)
  | unlisted {t : Token} (ht : t ∈ s.stagedTokens.take c.customCount)
      (h : (mintMessage call.sender t s).1 = .error e)
  | unsettled {c' : Config} {u : Store} (h : (Escrow.settleRevenue c' call.paid u).1 = .error e)

/-- The messages of a sold token fail where the message that mints it does. -/
theorem sellMessages_error {buyer : Address} {t : Token} {e : Failure}
    (h : (sellMessages buyer t s).1 = .error e) : (mintMessage buyer t s).1 = .error e := by
  rcases Step.bind_eq_error_iff.mp (Step.eq_of_outcome h) with hmint | ⟨m, u, -, hpure⟩
  · rw [hmint]
  · cases hpure

/-- On a store where the bundle holds together, its sale is refused for one of these reasons. -/
theorem failsOnly_sell_refused (ha : s.allocator? = some a) (hconsistent : a.Consistent)
    (hlisted : s.staged = some staged) (h : Coherent c a staged) {call : Call} {count : Nat}
    (hcount : s.checkMint c call.env.time .customBundle call.sender 1 = .ok count)
    (left : List Token) :
    FailsOnly (fun e _ => Refused s c call e)
      (sell c call.env call.sender call.paid (staged.take c.customCount) left) s := by
  refine FailsOnly.bind_of_keeps
    (Step.failsOnly_of_ok (Store.loadAllocator_eq_ok_iff.mpr ⟨ha, rfl⟩))
    (Store.keeps_require _) fun a' ha' => ?_
  obtain rfl := Option.some.inj (ha.symm.trans (Store.loadAllocator_eq_ok_iff.mp ha').1)
  refine FailsOnly.bind_of_keeps (Step.failsOnly_onCopy fun e he => .unshuffled ha he)
    (Step.keeps_onCopy _ _) fun shuffled hshuffled => ?_
  obtain ⟨hshuffle, -⟩ := Step.onCopy_eq_ok_pair_iff.mp hshuffled
  obtain ⟨done, b, hclaims⟩ := h.exists_claims hconsistent hshuffle
  refine FailsOnly.bind_of_keeps ?_ (Airdrop.keeps_issueEach (keeps_sellMessages call.sender) _ _)
    fun issued _ => ?_
  · refine (Airdrop.failsOnly_issueEach (keeps_sellMessages call.sender) _ _).imp fun e _ he => ?_
    rcases he with hclaim | ⟨t, ht, hmessages⟩
    · rw [hclaims] at hclaim
      cases hclaim
    · have hstored : s.stagedTokens = staged := by rw [Store.stagedTokens, hlisted]; rfl
      exact .unlisted (by rwa [hstored]) (sellMessages_error hmessages)
  -- The count was checked before and no later step but the settlement can fail.
  refine FailsOnly.bind (Step.failsOnly_of_ok (recordMint_eq_ok_iff.mpr ⟨hcount, rfl⟩))
    fun _ counted _ => ?_
  refine FailsOnly.bind (Step.failsOnly_of_ok rfl) fun _ saved _ => ?_
  refine FailsOnly.bind (Step.failsOnly_of_ok rfl) fun _ listed _ => ?_
  refine FailsOnly.bind (failsOnly_close c left) fun closed s' _ => ?_
  exact FailsOnly.bind (fun e _ he => .unsettled (by rw [he])) fun _ _ _ => Step.failsOnly_of_ok rfl

/-- On a store where the bundle holds together, minting it is refused for one of these reasons. -/
theorem failsOnly_mintCustomBundle_refused (hc : s.config = some c) (ha : s.allocator? = some a)
    (hconsistent : a.Consistent) (hlisted : s.staged = some staged) (h : Coherent c a staged)
    (call : Call) : FailsOnly (fun e _ => Refused s c call e) call.mintCustomBundle s := by
  refine FailsOnly.bind_of_keeps (Step.failsOnly_of_ok (Store.loadConfig_eq_ok_iff.mpr ⟨hc, rfl⟩))
    (Store.keeps_require _) fun c' hc' => ?_
  obtain rfl := Option.some.inj (hc.symm.trans (Store.loadConfig_eq_ok_iff.mp hc').1)
  refine FailsOnly.bind (Step.failsOnly_of_ok rfl) fun s' u hget => ?_
  obtain ⟨hread, rfl⟩ := Prod.mk.inj hget
  obtain rfl := Except.ok.inj hread
  refine FailsOnly.bind_of_keeps (Step.failsOnly_lift fun e he => .unchecked he)
    (Step.keeps_lift _) fun count hcount => ?_
  replace hcount := (Step.lift_eq_ok_iff.mp hcount).1
  refine FailsOnly.bind_of_keeps (Step.failsOnly_lift fun e he => .unpaid he)
    (Step.keeps_lift _) fun payment hpayment => ?_
  obtain rfl := checkPayment_eq_paid (Step.lift_eq_ok_iff.mp hpayment).1
  refine FailsOnly.bind_of_keeps
    (Step.failsOnly_of_ok (Store.require_eq_ok_iff.mpr ⟨hlisted, rfl⟩))
    (Store.keeps_require _) fun staged' hstaged' => ?_
  obtain rfl := Option.some.inj (hlisted.symm.trans (Store.require_eq_ok_iff.mp hstaged').1)
  obtain ⟨henabled, hcompleted⟩ :=
    Channel.customBundle_of_active (Store.checkMint_eq_ok_iff.mp hcount).1
  rw [if_neg (Nat.not_lt.mpr (h.count_le_length henabled hcompleted))]
  exact failsOnly_sell_refused ha hconsistent hlisted h hcount _

end CustomBundle

/-! ## No refusal for want of tokens -/

/-- What can keep a custom bundle from being minted is never that it is sold out. -/
theorem CustomBundle.Refused.ne_soldOut {call : Call} {e : Failure} (h : Refused s c call e) :
    e ≠ .rejected .soldOut := by
  have hother (hnot : e.isOfOrder = false) : e ≠ .rejected .soldOut := by
    rintro rfl
    cases hnot
  cases h with
  | unchecked h => exact hother (s.checkMint_failsAsCheck _ _ _ _ _ e h).isOfOrder_eq
  | unpaid h => exact hother (checkPayment_failsAsCheck _ _ _ e h).isOfOrder_eq
  | unshuffled _ h => exact Allocator.ensureShuffled_ne_soldOut h
  | unlisted _ h =>
    have hcheck : e.OfCheck True := mintMessage_failsAsCheck _ _ s e h
    exact hother hcheck.isOfOrder_eq
  | unsettled h => exact hother (Escrow.isOfOrder_of_settleRevenue h)

end ShuffleMint
