import ShuffleMint.Proofs.Run.Effect
import ShuffleMint.Proofs.Run.History

/-!
# What a caller without authority can change

A caller who neither has the administrator's role nor is the maintainer can mint for itself and
shuffle the order, and nothing else. Whatever such a caller brings about leaves alone what belongs to
others: their mint counts, their balances, the settings, and the tokens held back from the draw.
-/

namespace ShuffleMint

/-- The commands that are open to every caller. -/
def Command.isOpen : Command → Bool
  | mint _ _ => true
  | mintBundle => true
  | claimAirdrop _ _ => true
  | shuffle => true
  | mintCustomBundle => true
  | _ => false

/-- The second configuration is the first, except that bundle channels may have been completed. -/
def Config.CompletesOnly (c c' : Config) : Prop :=
  ∃ bundle custom, c' = { c with bundleCompleted := bundle, customCompleted := custom } ∧
    (c.bundleCompleted = true → bundle = true) ∧ (c.customCompleted = true → custom = true)

/-- No slot of the second arena is held back or pending that was not so in the first, and the slots
stand for the same tokens. -/
structure Arena.IssuesOnly (before after : Arena) : Prop where
  layout : after.layout = before.layout
  total : after.total = before.total
  status : ∀ (slot : Nat) (status : SlotStatus), after.status[slot]? = some status →
    status = .issued ∨ before.status[slot]? = some status

/-- The second store and the messages of the response leave alone what does not belong to the
caller. -/
structure Store.LeavesOthersAlone (s : Store) (caller : Address) (r : Response) (t : Store) :
    Prop where
  config : ∃ c c', s.config = some c ∧ t.config = some c' ∧ c.CompletesOnly c'
  counts : ∀ (channel : Channel) (other : Address), other ≠ caller →
    (t.trackers.of channel).get? other = (s.trackers.of channel).get? other
  balances : ∀ (payee : Address) (amount : Nat), s.balances.get? payee = some amount →
    ∃ more, t.balances.get? payee = some more ∧ amount ≤ more
  disbursed : t.totals.disbursed = s.totals.disbursed
  staged : t.staged = s.staged ∨
    ∃ sold left, s.staged = some (sold ++ left) ∧ t.staged = some left
  slots : ∃ before after, s.arena = some before ∧ t.arena = some after ∧ before.IssuesOnly after
  collections : t.collections = s.collections
  contracts : t.collectionContracts = s.collectionContracts
  info : t.contractInfo = s.contractInfo
  owners : ∀ dispatch ∈ r.dispatches, ∀ owner : Address, dispatch.message.owner? = some owner →
    owner = caller

/-- Only who administers the mint can have tokens minted for another. -/
theorem resolveRecipient_eq_ok {c : Config} {sender recipient : Address} {named : Option String}
    (h : resolveRecipient c sender named = .ok recipient) :
    recipient = sender ∨ c.canAdminister sender = true := by
  obtain ⟨valid, -, hrecipient⟩ := Outcome.bind_eq_ok_iff.mp h
  cases valid with
  | none => exact .inl (Except.ok.inj hrecipient).symm
  | some address =>
    simp only at hrecipient
    split at hrecipient
    · exact .inl (Except.ok.inj hrecipient).symm
    · split at hrecipient
      · next hallowed => exact .inr hallowed
      · cases hrecipient

variable {s t : Store} {r : Response}

/-- A settlement lowers no balance and pays nothing out of escrow. -/
theorem Store.Settled.keeps_balances {c : Config} {payment : Nat} (h : s.Settled c payment r t) :
    (∀ (payee : Address) (amount : Nat), s.balances.get? payee = some amount →
      ∃ more, t.balances.get? payee = some more ∧ amount ≤ more) ∧
    t.totals.disbursed = s.totals.disbursed := by
  obtain ⟨parts, -, hsettled⟩ := h
  split at hsettled
  · obtain ⟨-, hbalances, htotals⟩ := hsettled
    rw [hbalances, totals, htotals]
    exact ⟨fun payee amount h => s.get?_withDeposits_of_some parts h,
      s.disbursed_withDeposits parts⟩
  · obtain ⟨-, hbalances, htotals⟩ := hsettled
    rw [hbalances, totals, htotals]
    exact ⟨fun payee amount h => ⟨amount, h, Nat.le_refl _⟩, rfl⟩

/-- Issuing tokens leaves the slots of the others alone. -/
theorem Allocator.Issues.issuesOnly {a b : Allocator} {statuses : List SlotStatus}
    {tokens : List Token} (h : a.Issues statuses tokens b) (ha : a.Consistent) :
    a.arena.IssuesOnly b.arena := by
  obtain ⟨hlayout, htotal⟩ := h.moves.layout_total_eq
  refine ⟨hlayout, htotal, fun slot status hstatus => ?_⟩
  rcases h.status_cases ha slot with hsame | hissued
  · exact .inr (hsame ▸ hstatus)
  · exact .inl (Option.some.inj (hstatus.symm.trans hissued))

/-- Every message of a response that has a token minted is one of its mint messages. -/
theorem Response.mem_mints {dispatch : Dispatch} {owner : Address} (h : dispatch ∈ r.dispatches)
    (howner : dispatch.message.owner? = some owner) : dispatch.message ∈ r.mints :=
  List.mem_filter.mpr ⟨List.mem_map_of_mem h, by rw [Message.isMint_eq, howner]; rfl⟩

/-- Whoever mints for itself leaves the others alone. -/
theorem Store.Minted.leavesOthersAlone (hs : s.Sound) {call : Call} {command : Command} {c : Config}
    {channel : Channel} {tokens : List Token}
    (h : s.Minted call command c channel call.sender tokens r t)
    (hconfig : ∃ c', t.config = some c' ∧ c.CompletesOnly c')
    (hstaged : t.staged = s.staged ∨
      ∃ sold left, s.staged = some (sold ++ left) ∧ t.staged = some left) :
    s.LeavesOthersAlone call.sender r t := by
  obtain ⟨c', hc', hcompletes⟩ := hconfig
  obtain ⟨a, b, ha, hb, hissues, -⟩ := h.issued
  obtain ⟨count, -, htrackers⟩ := h.counted
  obtain ⟨hbalances, hdisbursed⟩ := h.settled.keeps_balances
  obtain ⟨hcollections, hcontracts, hinfo⟩ := h.kept
  refine ⟨⟨c, c', h.config, hc', hcompletes⟩, fun channel' other hother => ?_, hbalances,
    hdisbursed, hstaged, ⟨a.arena, b.arena, (allocator?_eq_some_iff.mp ha).1,
      (allocator?_eq_some_iff.mp hb).1, hissues.issuesOnly (hs.consistent ha)⟩, hcollections,
    hcontracts, hinfo, fun dispatch hdispatch owner howner => ?_⟩
  · rw [htrackers, get?_withMintCount, if_neg fun hsame => hother hsame.2]
  · have hminted := owner?_of_mints h.mints _ (Response.mem_mints hdispatch howner)
    exact Option.some.inj (howner.symm.trans hminted)

/-- Shuffling leaves everything alone but the order. -/
theorem Store.Sound.leavesOthersAlone_shuffle (hs : s.Sound) {caller : Address} {a b : Allocator}
    (ha : s.allocator? = some a) (hb : (s.withAllocator b).allocator? = some b)
    (hmoves : a.Moves [] b) (hstanding : ∀ token, b.standing token = a.standing token)
    (hidle : r.Idle) : s.LeavesOthersAlone caller r (s.withAllocator b) := by
  obtain ⟨c, hc, -⟩ := hs.config
  have hissues : a.Issues [] [] b := ⟨hmoves, by simp, by simpa using hstanding⟩
  refine ⟨⟨c, c, hc, hc, c.bundleCompleted, c.customCompleted, rfl, id, id⟩, fun _ _ _ => rfl,
    fun payee amount h => ⟨amount, h, Nat.le_refl _⟩, rfl, .inl rfl,
    ⟨a.arena, b.arena, (allocator?_eq_some_iff.mp ha).1, (allocator?_eq_some_iff.mp hb).1,
      hissues.issuesOnly (hs.consistent ha)⟩, rfl, rfl, rfl,
    fun dispatch hdispatch owner howner => ?_⟩
  have hmint := Response.mem_mints hdispatch howner
  rw [hidle.1] at hmint
  cases hmint

/-- Whatever a caller without authority brings about on a reachable store is brought about by one of
the commands that are open to everyone, and leaves alone what does not belong to the caller. -/
theorem outsider_leaves_others_alone {c : Config} {call : Call} {command : Command}
    (hs : Reachable s) (hc : s.config = some c) (hrole : c.admin.authorizes call.sender = false)
    (hmaintainer : c.maintainer ≠ some call.sender)
    (h : (Transaction.command call command).perform s = (.ok r, t)) :
    command.isOpen = true ∧ s.LeavesOthersAlone call.sender r t := by
  have houtside {c' : Config} (hc' : s.config = some c') :
      ¬ c'.canAdminister call.sender = true := by
    obtain rfl := Option.some.inj (hc.symm.trans hc')
    simp [Config.canAdminister, Config.isAdmin, Config.isMaintainer, hrole, hmaintainer]
  cases hs.sound.effect h with
  | minted hminted hchannel hstaged hcompleted hconfig =>
    obtain rfl :=
      (resolveRecipient_eq_ok hminted.named).resolve_right (houtside hminted.config)
    refine ⟨?_, hminted.leavesOthersAlone hs.sound
      ⟨_, hconfig, _, _, rfl, hcompleted, id⟩ (.inl hstaged)⟩
    have hbooked := hminted.booked
    cases command <;> first | rfl | cases hbooked
  | @sold call c' staged _ _ hminted hlisted henough hstaged hopen hconfig =>
    have hprefix : s.staged = some (staged.take c'.customCount ++ staged.drop c'.customCount) := by
      rw [hlisted, List.take_append_drop]
    have hcompletes : c'.CompletesOnly
        { c' with customCompleted := (staged.drop c'.customCount).length < c'.customCount } :=
      ⟨_, _, rfl, id, by rw [hopen.2]; exact nofun⟩
    exact ⟨rfl, hminted.leavesOthersAlone hs.sound ⟨_, hconfig, hcompletes⟩
      (.inr ⟨_, _, hprefix, hstaged⟩)⟩
  | shuffled ha hb hmoves hstanding hidle =>
    exact ⟨rfl, hs.sound.leavesOthersAlone_shuffle ha hb hmoves hstanding hidle⟩
  | configured hc' hallowed => exact absurd hallowed (houtside hc')
  | planned hc' hallowed => exact absurd hallowed (houtside hc')
  | forwarded hc' hallowed => exact absurd hallowed (houtside hc')
  | cleaned hc' hallowed => exact absurd hallowed (houtside hc')
  | paidOut hc' hallowed => exact absurd hallowed (houtside hc')
  | staged hc' hallowed => exact absurd hallowed (houtside hc')

/-- A stranger who buys the second token of a first sale leaves the buyer of the first alone. -/
theorem outsider_leaves_others_alone_second_sale :
    Reachable FirstSale.sold ∧ ∃ c r t, FirstSale.sold.config = some c ∧
      c.admin.authorizes "stranger" = false ∧ c.maintainer ≠ some "stranger" ∧
      (Transaction.command (FirstSale.call "stranger" [⟨"ustars", 100⟩]) (.mint false none)).perform
        FirstSale.sold = (.ok r, t) ∧
      FirstSale.sold.LeavesOthersAlone "stranger" r t := by
  have hs : Reachable FirstSale.sold :=
    ⟨_, _, FirstSale.founded_founded, FirstSale.run_events.1⟩
  have houtside : (FirstSale.sold.config.any fun c =>
      !c.admin.authorizes "stranger" && c.maintainer != some "stranger") = true := by decide +kernel
  have hok : ((Transaction.command (FirstSale.call "stranger" [⟨"ustars", 100⟩])
      (.mint false none)).perform FirstSale.sold).1.isOk = true := by decide +kernel
  obtain ⟨c, hc, hc'⟩ := (Option.any_eq_true _ _).mp houtside
  rw [Bool.and_eq_true, Bool.not_eq_true', bne_iff_ne] at hc'
  cases hrun : (Transaction.command (FirstSale.call "stranger" [⟨"ustars", 100⟩])
      (.mint false none)).perform FirstSale.sold with
  | mk outcome t =>
    rw [hrun] at hok
    cases outcome with
    | error e => cases hok
    | ok r =>
      exact ⟨hs, c, r, t, hc, hc'.1, hc'.2, rfl,
        (outsider_leaves_others_alone hs hc hc'.1 hc'.2 hrun).2⟩

end ShuffleMint
