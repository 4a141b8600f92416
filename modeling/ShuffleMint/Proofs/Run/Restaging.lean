import ShuffleMint.Proofs.Collaborator.Paging
import ShuffleMint.Proofs.Command.Restaging
import ShuffleMint.Proofs.Run.BundleCoherence
import ShuffleMint.Proofs.Run.Reports

/-!
# Restaging the custom bundle

Those who administer a mint may exchange what is staged for the custom bundle. Whether they can is
decided by the queue and the list of staged tokens as they are before the call, and by what the
airdropper has assigned. The list agrees with the slots on every reachable store, so a purge
releases exactly the tokens of the list, in its order, and a token may leave the list and enter it
again in one call.
-/

namespace ShuffleMint

variable {s : Store} {c : Config} {call : Call}

/-- On every reachable store the list of staged tokens has no token twice and holds those that the
queue has staged. -/
theorem Reachable.exists_staged (hs : Reachable s) :
    ∃ a, s.allocator? = some a ∧ a.Consistent ∧ s.stagedTokens.Nodup ∧
      a.queue.staged = s.stagedTokens.toFinset := by
  obtain ⟨c, a, staged, -, ha, hlisted, hcoherent⟩ := hs.bundleCoherent
  have hconsistent := hs.sound.consistent ha
  have hstaged : s.stagedTokens = staged := by
    rw [Store.stagedTokens, hlisted]
    rfl
  rw [hstaged]
  refine ⟨a, ha, hconsistent, hcoherent.nodup, Finset.ext fun t => ?_⟩
  rw [List.mem_toFinset, hcoherent.mem_iff, hconsistent.mem_queue_staged]

/-- A call that restages has restaged the allocator that it read and written what came of it. -/
theorem Call.restaged_of_perform {a : Allocator} {count price : Nat} {purge : Bool}
    {tokens : Option (List Token)} {assigned : List Token} {u : CallState} {r : Response}
    {t : Store} (hc : s.config = some c) (ha : s.allocator? = some a)
    (hread : CustomBundle.assignedTokens call.answers c (tokens.getD []) ⟨s, []⟩ =
      (.ok assigned, u))
    (h : (Transaction.command call (.stageBundle count price purge tokens)).perform s =
      (.ok r, t)) :
    count ≠ 0 ∧ r.dispatches = [] ∧ ∃ released listed b,
      CustomBundle.restage purge s.stagedTokens assigned (tokens.getD []) a =
        (.ok (released, listed), b) ∧
      t = ((s.withAllocator b).withStaged listed).withConfig
        (CustomBundle.withTerms c count price listed.length) := by
  obtain ⟨asked, hstage⟩ : ∃ asked,
      call.stageBundle count price purge tokens ⟨s, []⟩ = (.ok r, ⟨t, asked⟩) :=
    CallState.fresh_eq_ok_iff.mp h
  obtain ⟨c', a', assigned', v, released, listed, b, -, hc', -, hcount, ha', hread', hrestage,
    hstore, rfl⟩ := stageBundle_eq_ok hstage
  obtain rfl := Option.some.inj (hc.symm.trans hc')
  obtain rfl := Option.some.inj (ha.symm.trans ha')
  obtain rfl := Except.ok.inj (congrArg Prod.fst (hread.symm.trans hread'))
  rw [(CustomBundle.keeps_assignedTokens _ _ _).view_eq hread'] at hstore
  exact ⟨hcount, rfl, released, listed, b, hrestage, hstore⟩

/-- Restaging goes through exactly when a bundle has a token at least and the named tokens are
different, none of them stays staged or is assigned, and each is pending or, with a purge, was
staged. It lists the named tokens after those that stay. The pending tokens keep their order, the
released ones come after them in the order of the list, and the named ones are left out. What is
issued and reserved stays, and nothing but the queue, the list and the terms of the bundle is
changed. Naming those that a purge releases leaves the queue as it was. -/
theorem restaging_outcome (hs : Reachable s) (hc : s.config = some c)
    (hallowed : c.canAdminister call.sender = true) (hfunds : call.funds = []) (count price : Nat)
    (purge : Bool) (tokens : Option (List Token)) {assigned : List Token} {u : CallState}
    (hread : CustomBundle.assignedTokens call.answers c (tokens.getD []) ⟨s, []⟩ =
      (.ok assigned, u)) :
    let restaging := (Transaction.command call (.stageBundle count price purge tokens)).perform
    let named := tokens.getD []
    let kept := if purge then [] else s.stagedTokens
    let released := if purge then s.stagedTokens else []
    ∃ a, s.allocator? = some a ∧
      ((∃ r t, restaging s = (.ok r, t)) ↔
        1 ≤ count ∧ CustomBundle.Stageable a.queue kept released assigned named) ∧
      ∀ r t, restaging s = (.ok r, t) →
        r.dispatches = [] ∧
        ∃ b, t.allocator? = some b ∧ t.stagedTokens = kept ++ named ∧
          t = ((s.withAllocator b).withStaged (kept ++ named)).withConfig
            { c with
              customEnabled := true
              customCompleted := (kept ++ named).length < count
              customCount := count
              customPrice := price } ∧
          b.supplies = a.supplies ∧
          b.queue =
            ⟨a.queue.issued, (a.queue.pending ++ released).filter (· ∉ named), a.queue.reserved,
              (kept ++ named).toFinset⟩ ∧
          (purge = true → named.Perm s.stagedTokens → b.queue = a.queue) := by
  intro restaging named kept released
  obtain ⟨a, ha, hconsistent, hnodup, hset⟩ := hs.exists_staged
  have hlist : ∀ t ∈ s.stagedTokens, t ∈ a.queue.staged := fun t ht => by
    rwa [hset, List.mem_toFinset]
  refine ⟨a, ha, ⟨?_, ?_⟩, ?_⟩
  · rintro ⟨r, t, hperform⟩
    obtain ⟨hcount, -, _, _, b, hrestage, -⟩ := Call.restaged_of_perform hc ha hread hperform
    exact ⟨Nat.one_le_iff_ne_zero.mpr hcount,
      CustomBundle.stageable_of_restage hconsistent hrestage⟩
  · rintro ⟨hcount, hfree⟩
    obtain ⟨b, hrestage, -⟩ := CustomBundle.exists_restage hconsistent hnodup hlist hfree
    obtain ⟨r, ⟨t, asked⟩, hstage⟩ := Call.exists_stageBundle (s := ⟨s, []⟩) price hfunds hc
      hallowed (Nat.one_le_iff_ne_zero.mp hcount) ha hread hrestage
    exact ⟨r, t, CallState.fresh_eq_ok_iff.mpr ⟨asked, hstage⟩⟩
  · intro r t hperform
    obtain ⟨-, hsilent, _, _, b, hrestage, rfl⟩ :=
      Call.restaged_of_perform hc ha hread hperform
    obtain ⟨rfl, hrequeued⟩ :=
      CustomBundle.requeued_of_restage hconsistent hnodup hlist hrestage
    have hmoves := CustomBundle.restage_moves hconsistent hrestage
    refine ⟨hsilent, b, Store.allocator?_withAllocator ha hconsistent hmoves, rfl, rfl,
      hrequeued.supplies, ?_, fun hpurge hperm => ?_⟩
    · rw [hrequeued.queue]
      simp only [TokenQueue.stageAll, TokenQueue.unstageAll, hset, kept, released, named]
      cases purge <;> simp
    · have hpending : ∀ t ∈ s.stagedTokens, t ∉ a.queue.pending := fun t ht hpending => by
        rw [hconsistent.mem_queue_pending, hconsistent.mem_queue_staged.mp (hlist t ht)] at hpending
        cases hpending
      rw [hrequeued.queue, if_pos hpurge]
      exact TokenQueue.stageAll_unstageAll (fun t => hperm.mem_iff) hlist hpending

namespace PromisedSale

/-- A call of the one who administers the mint, whose airdropper has assigned the third token. -/
def restaging : Call := ⟨⟨20, 2, none, "mint"⟩, "admin", [], Answers.ofListing [⟨101, 3⟩] 1⟩

/-- The store after the first two tokens are staged. -/
def staged : Store :=
  (founded.play [.command restaging (.stageBundle 1 50 false (some [⟨101, 1⟩, ⟨101, 2⟩]))]).2

end PromisedSale

/-- Two staged tokens are released and staged in the other order, which leaves the queue as it was.
The third token is assigned, so it cannot be staged. -/
theorem restaging_outcome_reversed :
    Reachable PromisedSale.staged ∧ PromisedSale.staged.stagedTokens = [⟨101, 1⟩, ⟨101, 2⟩] ∧
      ∃ a b r t, PromisedSale.staged.allocator? = some a ∧
        (Transaction.command PromisedSale.restaging
          (.stageBundle 1 50 true (some [⟨101, 2⟩, ⟨101, 1⟩]))).perform PromisedSale.staged =
            (.ok r, t) ∧
        t.stagedTokens = [⟨101, 2⟩, ⟨101, 1⟩] ∧ t.allocator? = some b ∧ b.queue = a.queue ∧
        ¬ ∃ r t, (Transaction.command PromisedSale.restaging
          (.stageBundle 1 50 true (some [⟨101, 2⟩, ⟨101, 3⟩]))).perform PromisedSale.staged =
            (.ok r, t) := by
  have hs : Reachable PromisedSale.staged :=
    ⟨_, _, Founded.of_isOk (by decide +kernel), PromisedSale.founded.run_play _⟩
  have hlisted : PromisedSale.staged.stagedTokens = [⟨101, 1⟩, ⟨101, 2⟩] := by decide +kernel
  have hconfig : (PromisedSale.staged.config.map fun c => (c.airdropper, c.canAdminister "admin")) =
      some (some "drop", true) := by decide +kernel
  obtain ⟨c, hc, hfields⟩ := Option.map_eq_some_iff.mp hconfig
  obtain ⟨hdrop, hallowed⟩ := Prod.mk.inj hfields
  -- The airdropper answers that the third token is assigned.
  have hread (first second : Token) :
      ∃ u, CustomBundle.assignedTokens PromisedSale.restaging.answers c
        ((some [first, second]).getD []) ⟨PromisedSale.staged, []⟩ = (.ok [⟨101, 3⟩], u) := by
    rw [CustomBundle.assignedTokens, hdrop]
    exact ⟨_, rfl⟩
  obtain ⟨u, hread₁⟩ := hread ⟨101, 2⟩ ⟨101, 1⟩
  obtain ⟨v, hread₂⟩ := hread ⟨101, 2⟩ ⟨101, 3⟩
  obtain ⟨a, ha, hiff, hdone⟩ := restaging_outcome hs hc hallowed rfl 1 50 true _ hread₁
  obtain ⟨_, -, hrefused, -⟩ := restaging_outcome hs hc hallowed rfl 1 50 true _ hread₂
  rw [hlisted] at hiff hdone
  have hfree : CustomBundle.Stageable a.queue [] [⟨101, 1⟩, ⟨101, 2⟩] [⟨101, 3⟩]
      [⟨101, 2⟩, ⟨101, 1⟩] :=
    ⟨by decide, by decide, by decide, fun t ht => .inr (by simpa [or_comm] using ht)⟩
  obtain ⟨r, t, hperform⟩ := hiff.mpr ⟨Nat.le_refl 1, hfree⟩
  obtain ⟨-, b, hb, hstaged, -, -, -, hsame⟩ := hdone r t hperform
  refine ⟨hs, hlisted, a, b, r, t, ha, hperform, hstaged, hb, hsame rfl (List.Perm.swap ..),
    fun hperformed => ?_⟩
  exact (hrefused.mp hperformed).2.notMem_assigned ⟨101, 3⟩ (by simp) (by simp)

end ShuffleMint
