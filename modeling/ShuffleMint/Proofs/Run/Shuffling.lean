import ShuffleMint.Proofs.Command.Refusal
import ShuffleMint.Proofs.Run.SlotLifeCycle

/-!
# The order is shuffled once

The commands that mint shuffle the order before they issue anything, unless that is done; the
command that shuffles does so or is refused; nothing else touches the order's flag. So on every run
tokens are issued from a shuffled order only, at most one call shuffles, and no minting command is
ever refused the shuffle that it needs.
-/

namespace ShuffleMint

variable {s t : Store} {r : Response}

/-- Whether the order of the tokens is shuffled. -/
def Store.isShuffled (s : Store) : Bool := s.arena.any Arena.shuffled

/-- Whether an event, taken in a store, turns an order that is not shuffled into one that is. -/
def Event.shuffles (taken : Store) (e : Event) : Bool :=
  !taken.isShuffled && (e.transaction.commit taken).isShuffled

/-- How many events of a run from a store turn an order that is not shuffled into one that is. -/
def Store.countShuffles (s : Store) (events : List Event) : Nat :=
  (s.replay events).countP fun entry => entry.2.shuffles entry.1

/-- A call shuffles the order unless that is done, with a seed of its own, and goes on from there.
-/
def Call.ShufflesFirst (call : Call) (s t : Store) : Prop :=
  ∃ a shuffled b tokens, s.allocator? = some a ∧ t.allocator? = some b ∧
    Allocator.ensureShuffled (call.env.entropy call.sender) a = (.ok (), shuffled) ∧
    shuffled.Moves tokens b

/-- Nothing is issued, and the flag of the order stays. -/
def Store.LeavesOrder (s t : Store) : Prop :=
  ∃ a b, s.allocator? = some a ∧ t.allocator? = some b ∧ a.Moves [] b ∧
    b.arena.shuffled = a.arena.shuffled

/-- Tokens are issued from a shuffled order only. -/
def Store.DrawsShuffled (s : Store) : Prop := ∀ a, s.allocator? = some a → a.DrawsShuffled

/-- The flag of a store is that of its allocator. -/
theorem Store.isShuffled_eq {a : Allocator} (ha : s.allocator? = some a) :
    s.isShuffled = a.arena.shuffled := by
  rw [isShuffled, (allocator?_eq_some_iff.mp ha).1, Option.any_some]

/-- A shuffle that is asked for is one that is still to be done. -/
theorem Allocator.ensureShuffled_of_initializeShuffle {a b : Allocator} {seed : Seed}
    (h : initializeShuffle seed a = (.ok (), b)) : ensureShuffled seed a = (.ok (), b) := by
  rw [ensureShuffled_apply, if_neg]
  · exact h
  · rw [(reshuffles_of_initializeShuffle h).2.unshuffled]
    exact Bool.false_ne_true

/-! ## What each transaction does to the order -/

namespace Store.Sound

variable {call : Call}

/-- A random mint shuffles first. -/
theorem shufflesFirst_mint (hs : s.Sound) {promised : Bool} {named : Option String} {v : CallState}
    (h : call.mint promised named ⟨s, []⟩ = (.ok r, v)) : call.ShufflesFirst s v.store := by
  obtain ⟨a, shuffled, b, token, ha, hb, hshuffled, -, hdrawn, -⟩ := hs.draws_mint h
  exact ⟨a, shuffled, b, _, ha, hb, hshuffled, hdrawn.moves⟩

/-- So does a bundle. -/
theorem shufflesFirst_mintBundle (hs : s.Sound) (h : call.mintBundle s = (.ok r, t)) :
    call.ShufflesFirst s t := by
  obtain ⟨_, a, shuffled, b, tokens, _, -, ha, hb, hshuffled, -, hdrawn, -⟩ := hs.draws_mintBundle h
  exact ⟨a, shuffled, b, _, ha, hb, hshuffled, hdrawn.moves⟩

/-- So does a claim of promised tokens. -/
theorem shufflesFirst_claimAirdrop (hs : s.Sound) {limit : Option Nat} {named : Option String}
    {v : CallState} (h : call.claimAirdrop limit named ⟨s, []⟩ = (.ok r, v)) :
    call.ShufflesFirst s v.store := by
  obtain ⟨_, _, _, _, a, shuffled, b, -, -, -, -, ha, hb, hshuffled, hclaimed, -⟩ :=
    hs.draws_claimAirdrop h
  exact ⟨a, shuffled, b, _, ha, hb, hshuffled, hclaimed.moves⟩

/-- So does a custom bundle. -/
theorem shufflesFirst_mintCustomBundle (hs : s.Sound) (h : call.mintCustomBundle s = (.ok r, t)) :
    call.ShufflesFirst s t := by
  obtain ⟨_, _, a, shuffled, b, -, -, -, ha, hb, hshuffled, hclaimed⟩ := hs.draws_mintCustomBundle h
  exact ⟨a, shuffled, b, _, ha, hb, hshuffled, hclaimed.moves⟩

/-- The command that shuffles does so. -/
theorem shufflesFirst_shuffle (hs : s.Sound) (h : call.shuffle s = (.ok r, t)) :
    call.ShufflesFirst s t := by
  obtain ⟨c, a, b, _, -, ha, hshuffle, -, rfl, -⟩ := Call.shuffle_eq_ok h
  have hmoves := Allocator.Consistent.initializeShuffle_moves hshuffle
  exact ⟨a, b, b, [], ha, allocator?_withAllocator ha (hs.consistent ha) hmoves,
    Allocator.ensureShuffled_of_initializeShuffle hshuffle, .refl⟩

/-- Cleaning leaves the order. -/
theorem leavesOrder_cleanAssigned (hs : s.Sound) {v : CallState}
    (h : call.cleanAssigned ⟨s, []⟩ = (.ok r, v)) : s.LeavesOrder v.store := by
  obtain ⟨c, contract, assigned, w, a, b, _, -, -, -, -, hassigned, ha, hreserve, hstore, -⟩ :=
    Call.cleanAssigned_eq_ok h
  rw [(Airdropper.keeps_assignedAfter _ _ _ _).view_eq hassigned] at ha hstore
  have hmoves := (hs.consistent ha).reserveAll_moves hreserve
  rw [hstore]
  exact ⟨a, b, ha, allocator?_withAllocator ha (hs.consistent ha) hmoves, hmoves,
    (Allocator.keeps_reserveAll assigned).view_eq hreserve⟩

/-- So does staging. -/
theorem leavesOrder_stageBundle (hs : s.Sound) {count price : Nat} {purge : Bool}
    {tokens : Option (List Token)} {v : CallState}
    (h : call.stageBundle count price purge tokens ⟨s, []⟩ = (.ok r, v)) :
    s.LeavesOrder v.store := by
  obtain ⟨c, a, assigned, w, _, _, b, -, -, -, -, ha, hassigned, hrestage, hstore, -⟩ :=
    Call.stageBundle_eq_ok h
  rw [(CustomBundle.keeps_assignedTokens _ _ _).view_eq hassigned] at hstore
  have hmoves := CustomBundle.restage_moves (hs.consistent ha) hrestage
  rw [hstore]
  exact ⟨a, b, ha, allocator?_withAllocator ha (hs.consistent ha) hmoves, hmoves,
    (CustomBundle.keeps_restage purge _ assigned _).view_eq hrestage⟩

/-- So does what leaves the allocator alone. -/
theorem leavesOrder_of_allocator?_eq (hs : s.Sound) (h : t.allocator? = s.allocator?) :
    s.LeavesOrder t := by
  obtain ⟨a, ha, -⟩ := hs.allocator
  exact ⟨a, a, ha, h.trans ha, .refl, rfl⟩

/-- A command shuffles first or leaves the order. -/
theorem ordered_execute (hs : s.Sound) {command : Command} {v : CallState}
    (h : call.execute command ⟨s, []⟩ = (.ok r, v)) :
    call.ShufflesFirst s v.store ∨ s.LeavesOrder v.store := by
  cases command with
  | mint promised named => exact .inl (hs.shufflesFirst_mint h)
  | claimAirdrop limit named => exact .inl (hs.shufflesFirst_claimAirdrop h)
  | cleanAssigned => exact .inr (hs.leavesOrder_cleanAssigned h)
  | stageBundle count price purge tokens => exact .inr (hs.leavesOrder_stageBundle h)
  | mintBundle =>
    obtain ⟨t, hmint, rfl⟩ := CallState.onStore_eq_ok_iff.mp h
    exact .inl (hs.shufflesFirst_mintBundle hmint)
  | mintCustomBundle =>
    obtain ⟨t, hmint, rfl⟩ := CallState.onStore_eq_ok_iff.mp h
    exact .inl (hs.shufflesFirst_mintCustomBundle hmint)
  | shuffle =>
    obtain ⟨t, hshuffle, rfl⟩ := CallState.onStore_eq_ok_iff.mp h
    exact .inl (hs.shufflesFirst_shuffle hshuffle)
  | updateConfig patch =>
    obtain ⟨t, hupdate, rfl⟩ := CallState.onStore_eq_ok_iff.mp h
    obtain ⟨c, after, -, -, -, -, -, -, rfl, -⟩ := Call.updateConfig_eq_ok_iff.mp hupdate
    exact .inr (hs.leavesOrder_of_allocator?_eq rfl)
  | initModule target plan =>
    obtain ⟨t, hinit, rfl⟩ := CallState.onStore_eq_ok_iff.mp h
    obtain ⟨c, id, -, -, -, -, rfl, -⟩ := Call.initModule_eq_ok hinit
    exact .inr (hs.leavesOrder_of_allocator?_eq rfl)
  | forward target message =>
    obtain ⟨t, hforward, rfl⟩ := CallState.onStore_eq_ok_iff.mp h
    obtain ⟨c, _, _, -, -, -, -, -, rfl, -⟩ := Call.forward_eq_ok hforward
    exact .inr (hs.leavesOrder_of_allocator?_eq rfl)
  | disburse address =>
    obtain ⟨t, hdisburse, rfl⟩ := CallState.onStore_eq_ok_iff.mp h
    obtain ⟨c, payee, -, -, -, -, rfl, -⟩ := Call.disburse_eq_ok hdisburse
    exact .inr (hs.leavesOrder_of_allocator?_eq
      ((s.escrowOnly_withPayout payee).view_eq Store.allocator? fun _ _ _ => rfl))

/-- A successful transaction is a call that shuffles first, or leaves the order. -/
theorem ordered (hs : s.Sound) {transaction : Transaction}
    (h : transaction.perform s = (.ok r, t)) :
    (∃ call command, transaction = .command call command ∧ call.ShufflesFirst s t) ∨
      s.LeavesOrder t := by
  cases transaction with
  | command call command =>
    obtain ⟨asked, hexecute⟩ := CallState.fresh_eq_ok_iff.mp h
    exact (hs.ordered_execute hexecute).imp_left fun hfirst => ⟨call, command, rfl, hfirst⟩
  | reply id result =>
    obtain ⟨child, _, contract, -, -, -, rfl, -⟩ := receiveReply_eq_ok h
    exact .inr (hs.leavesOrder_of_allocator?_eq (by cases child <;> rfl))
  | migration =>
    obtain ⟨_, _, _, -, -, -, -, hversion, -⟩ := migrate_eq_ok h
    rcases hversion with ⟨-, rfl⟩ | ⟨-, rfl⟩ <;> exact .inr (hs.leavesOrder_of_allocator?_eq rfl)

/-- A successful transaction does not lower the flag of the order. -/
theorem isShuffled_of_perform (hs : s.Sound) {transaction : Transaction}
    (h : transaction.perform s = (.ok r, t)) (hflag : s.isShuffled = true) :
    t.isShuffled = true := by
  rcases hs.ordered h with ⟨call, command, -, a, shuffled, b, tokens, ha, hb, hshuffled, hmoves⟩ |
    ⟨a, b, ha, hb, -, hkept⟩
  · rw [isShuffled_eq hb]
    exact hmoves.shuffled (Allocator.shuffled_of_ensureShuffled hshuffled)
  · rwa [isShuffled_eq hb, hkept, ← isShuffled_eq ha]

/-- A successful transaction keeps it true that tokens are issued from a shuffled order only. -/
theorem drawsShuffled_of_perform (hs : s.Sound) {transaction : Transaction}
    (h : transaction.perform s = (.ok r, t)) (hdraws : s.DrawsShuffled) : t.DrawsShuffled := by
  intro b' hb'
  rcases hs.ordered h with ⟨call, command, -, a, shuffled, b, tokens, ha, hb, hshuffled, hmoves⟩ |
    ⟨a, b, ha, hb, hmoves, hkept⟩
  · obtain rfl := Option.some.inj (hb.symm.trans hb')
    exact fun _ => hmoves.shuffled (Allocator.shuffled_of_ensureShuffled hshuffled)
  · obtain rfl := Option.some.inj (hb.symm.trans hb')
    exact (hdraws a ha).moves (hs.consistent ha) hmoves hkept

end Store.Sound

/-- On every reachable store tokens are issued from a shuffled order only. -/
theorem Reachable.drawsShuffled (hs : Reachable s) : s.DrawsShuffled := by
  refine hs.induct (fun start hfounded a ha hissued => ?_)
    fun transaction r s t hreachable hdraws hperform =>
      hreachable.sound.drawsShuffled_of_perform hperform hdraws
  obtain ⟨hsound, a', ha', hnone⟩ := hfounded.sound
  obtain rfl := Option.some.inj (ha.symm.trans ha')
  have hlength := Arena.length_issuedSlots (hsound.consistent ha).arena.cursor_le
  rw [hnone] at hlength
  exact absurd hissued (by simp [← hlength])

/-! ## Over a run -/

namespace Run

variable {start : Store} {events : List Event}

/-- Once it is raised, the flag of the order stays up. -/
theorem isShuffled (hstart : start.Sound) (h : Run start events s)
    (hflag : start.isShuffled = true) : s.isShuffled = true := by
  induction h with
  | start => exact hflag
  | next hrun hperform ih => exact (hrun.sound hstart).isShuffled_of_perform hperform ih

/-- The order of a run turns into a shuffled one as often as the flags before and after the run tell
apart: once when it was not and is, and never otherwise. -/
theorem countShuffles_add (hstart : start.Sound) (h : Run start events s) :
    start.countShuffles events + start.isShuffled.toNat = s.isShuffled.toNat := by
  induction h with
  | start => exact Nat.zero_add _
  | @next events m t transaction r hrun hperform ih =>
    have hkept := (hrun.sound hstart).isShuffled_of_perform hperform
    rw [Store.countShuffles, hrun.replay_next, List.countP_append, ← Store.countShuffles,
      List.countP_singleton, Event.shuffles, Transaction.commit_of_ok hperform]
    cases hbefore : m.isShuffled <;> cases hafter : t.isShuffled <;> simp_all

end Run

/-! ## Refusals -/

namespace Store.Sound

/-- A slot is issued only after the cursor has moved. -/
theorem cursor_pos_of_issued (hs : s.Sound) {a : Allocator} (ha : s.allocator? = some a)
    {slot : Nat} (hissued : s.status? slot = some .issued) : 0 < a.arena.cursor := by
  rw [status?_eq ha, ← (hs.consistent ha).arena.issued_iff] at hissued
  rw [← Arena.length_issuedSlots (hs.consistent ha).arena.cursor_le]
  exact List.length_pos_of_mem hissued

/-- A shuffled order is refused another shuffle. -/
theorem perform_shuffle_of_isShuffled (hs : s.Sound) (hflag : s.isShuffled = true) (call : Call) :
    ∃ cause ∈ [Rejection.orderLocked, .alreadyShuffled],
      (Transaction.command call .shuffle).perform s = (.error (.rejected cause), s) := by
  obtain ⟨c, hc, -⟩ := hs.config
  obtain ⟨a, ha, -⟩ := hs.allocator
  rw [isShuffled_eq ha] at hflag
  have hrefused := Allocator.initializeShuffle_of_shuffled hflag (call.env.entropy call.sender)
  refine ⟨if 0 < a.arena.cursor then .orderLocked else .alreadyShuffled, by split <;> simp, ?_⟩
  change CallState.fresh (liftM call.shuffle) s = _
  rw [CallState.fresh_onStore, Call.shuffle,
    Step.bind_of_ok (loadConfig_eq_ok_iff.mpr ⟨hc, rfl⟩),
    Step.bind_of_ok (loadAllocator_eq_ok_iff.mpr ⟨ha, rfl⟩)]
  apply Step.bind_of_error
  unfold Step.onCopy
  rw [hrefused]

/-- A minting command is not refused for the shuffle that it needs. -/
theorem minting_ne_locked (hs : s.Sound) (hdraws : s.DrawsShuffled) {call : Call}
    {command : Command}
    (hminting : (Transaction.command call command).isMinting = true) {e : Failure}
    (h : (Transaction.command call command).perform s = (.error e, t)) :
    e ≠ .rejected .orderLocked ∧ e ≠ .rejected .alreadyShuffled := by
  obtain ⟨asked, hfails⟩ := CallState.fresh_eq_iff.mp h
  have honly : Step.FailsOnly AtMostSoldOut (call.execute command) ⟨s, []⟩ := by
    cases command with
    | mint promised named => exact hs.failsOnly_mint_atMostSoldOut hdraws call promised named rfl
    | mintBundle =>
      exact CallState.failsOnly_onStore (u := ⟨s, []⟩)
        (hs.failsOnly_mintBundle_atMostSoldOut hdraws call)
    | claimAirdrop limit named =>
      exact hs.failsOnly_claimAirdrop_atMostSoldOut hdraws call limit named rfl
    | mintCustomBundle =>
      exact CallState.failsOnly_onStore (u := ⟨s, []⟩)
        (hs.failsOnly_mintCustomBundle_atMostSoldOut hdraws call)
    | _ => cases hminting
  exact (honly e _ hfails).ne

end Store.Sound

/-- On every run tokens are issued from a shuffled order only, and an order that is shuffled stays
so. At most one call turns an order that is not shuffled into one that is. There the shuffle
succeeds with every seed, permutes the pending slots and leaves all but the flag as it is, and the
rest of the call starts from it. Once the order is shuffled, asking for a shuffle is refused; it is
granted only while nothing is issued; and no minting command is ever refused because the order is
locked or shuffled. -/
theorem shuffled_once (hs : Reachable s) :
    (∀ slot, s.status? slot = some .issued → s.isShuffled = true) ∧
    (∀ events t, Run s events t →
      (s.isShuffled = true → t.isShuffled = true) ∧
      s.countShuffles events ≤ 1 ∧
      ∀ taken e, (taken, e) ∈ s.replay events → e.shuffles taken = true →
        ∃ call command a shuffled b tokens, e.transaction = .command call command ∧
          taken.allocator? = some a ∧ (e.transaction.commit taken).allocator? = some b ∧
          Allocator.initializeShuffle (call.env.entropy call.sender) a = (.ok (), shuffled) ∧
          shuffled.Moves tokens b ∧
          ∀ seed, ∃ c, Allocator.initializeShuffle seed a = (.ok (), c) ∧ a.Reshuffles c) ∧
    ∀ call,
      (s.isShuffled = true → ∃ cause ∈ [Rejection.orderLocked, .alreadyShuffled],
        (Transaction.command call .shuffle).perform s = (.error (.rejected cause), s)) ∧
      (∀ r t, (Transaction.command call .shuffle).perform s = (.ok r, t) →
        s.isShuffled = false ∧ t.isShuffled = true ∧ ∀ slot, s.status? slot ≠ some .issued) ∧
      ∀ command, (Transaction.command call command).isMinting = true →
        ∀ e t, (Transaction.command call command).perform s = (.error e, t) →
          e ≠ .rejected .orderLocked ∧ e ≠ .rejected .alreadyShuffled := by
  have hsound := hs.sound
  refine ⟨fun slot hissued => ?_, fun events t hrun => ⟨hrun.isShuffled hsound, ?_, ?_⟩,
    fun call => ⟨fun hflag => hsound.perform_shuffle_of_isShuffled hflag call, ?_,
      fun command hminting e t hfails => hsound.minting_ne_locked hs.drawsShuffled hminting hfails⟩⟩
  · obtain ⟨a, ha, -⟩ := hsound.allocator
    rw [Store.isShuffled_eq ha]
    exact hs.drawsShuffled a ha (hsound.cursor_pos_of_issued ha hissued)
  · have hcount := hrun.countShuffles_add hsound
    have hflag := Bool.toNat_le t.isShuffled
    omega
  · intro taken e hmem hshuffles
    obtain ⟨earlier, hearlier, hperform⟩ := hrun.exists_of_mem_replay hmem
    rw [Event.shuffles, Bool.and_eq_true, Bool.not_eq_true'] at hshuffles
    obtain ⟨hbefore, hafter⟩ := hshuffles
    rcases (hearlier.sound hsound).ordered hperform with
      ⟨call, command, hcall, a, shuffled, b, tokens, ha, hb, hshuffled, hmoves⟩ |
      ⟨a, b, ha, hb, -, hkept⟩
    · rw [Store.isShuffled_eq ha] at hbefore
      rw [Allocator.ensureShuffled_apply, if_neg (by simp [hbefore])] at hshuffled
      obtain ⟨start, before, hfounded, hstart⟩ := hs
      have hdraws := Reachable.drawsShuffled ⟨start, _, hfounded, hstart.append hearlier⟩ a ha
      exact ⟨call, command, a, shuffled, b, tokens, hcall, ha, hb, hshuffled, hmoves,
        hdraws.exists_initializeShuffle hbefore⟩
    · rw [Store.isShuffled_eq hb, hkept, ← Store.isShuffled_eq ha, hbefore] at hafter
      cases hafter
  · intro r t hperform
    obtain ⟨c, a, b, -, -, ha, hshuffle, -, rfl, -⟩ :=
      Call.shuffle_eq_ok ((CallState.fresh_onStore call.shuffle s).symm.trans hperform)
    obtain ⟨hcursor, hreshuffles⟩ := Allocator.reshuffles_of_initializeShuffle hshuffle
    refine ⟨(Store.isShuffled_eq ha).trans hreshuffles.unshuffled, hreshuffles.shuffled,
      fun slot hissued => ?_⟩
    have hmoved := hsound.cursor_pos_of_issued ha hissued
    omega

/-- The first sale shuffles once, and afterwards the administrator is refused a shuffle. -/
theorem shuffled_once_first_sale :
    Reachable FirstSale.founded ∧ Run FirstSale.founded FirstSale.events FirstSale.sold ∧
      FirstSale.founded.countShuffles FirstSale.events = 1 ∧
      Reachable FirstSale.sold ∧ FirstSale.sold.status? 1 = some .issued ∧
      FirstSale.sold.isShuffled = true ∧
      ∃ cause ∈ [Rejection.orderLocked, .alreadyShuffled],
        (Transaction.command (FirstSale.call "admin" []) .shuffle).perform FirstSale.sold =
          (.error (.rejected cause), FirstSale.sold) := by
  have hfounded : Reachable FirstSale.founded := .of_founded FirstSale.founded_founded
  have hsold : Reachable FirstSale.sold :=
    ⟨_, _, FirstSale.founded_founded, FirstSale.run_events.1⟩
  have hissued : FirstSale.sold.status? 1 = some .issued := by decide +kernel
  have hpositive : 0 < FirstSale.founded.countShuffles FirstSale.events := by decide +kernel
  obtain ⟨-, hruns, -⟩ := shuffled_once hfounded
  obtain ⟨-, hcount, -⟩ := hruns _ _ FirstSale.run_events.1
  obtain ⟨hflags, -, hcalls⟩ := shuffled_once hsold
  exact ⟨hfounded, FirstSale.run_events.1, by omega, hsold, hissued, hflags 1 hissued,
    (hcalls _).1 (hflags 1 hissued)⟩

end ShuffleMint
