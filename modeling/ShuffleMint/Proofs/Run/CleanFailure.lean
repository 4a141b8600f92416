import ShuffleMint.Proofs.Command.Failure
import ShuffleMint.Proofs.Run.History

/-!
# Failures leave no trace

A transaction that fails on a reachable store leaves it exactly as it was, without anyone undoing
what it wrote. The one exception is a deposit that would leave the bound of amounts: it comes after
the mint is counted and the allocator stored.
-/

namespace ShuffleMint

open Step (FailsOnly)

namespace Store.Sound

variable {s : Store} {c : Config} {call : Call} {u : CallState}

/-- A mint only reads the store before it draws. -/
theorem failsOnly_mint (hs : s.Sound) (hc : s.config = some c) (hu : u.store = s)
    (hcoins : ∀ coin ∈ call.funds, coin.amount < amountBound) (promised : Bool)
    (named : Option String) :
    FailsOnly (fun e v => NoTraceButDeposit c s e v.store) (call.mint promised named) u := by
  have hkind : ∀ e v, CallState.store v = s → NoTraceButDeposit c s e v.store := fun _ _ => .inl
  refine (CallState.keeps_onStore (Store.keeps_require _)).failsOnly_bind hkind hu
    fun c' u₁ hload hu₁ => ?_
  obtain ⟨v, hconfig, -⟩ := CallState.onStore_eq_ok_iff.mp hload
  rw [hu] at hconfig
  obtain rfl := Option.some.inj (hc.symm.trans (Store.loadConfig_eq_ok_iff.mp hconfig).1)
  refine (Step.keeps_lift _).failsOnly_bind hkind hu₁ fun recipient u₂ _ hu₂ => ?_
  refine (Step.keeps_lift _).failsOnly_bind hkind hu₂ fun through u₃ _ hu₃ => ?_
  refine Step.keeps_get.failsOnly_bind hkind hu₃ fun _ u₄ _ hu₄ => ?_
  refine (Step.keeps_lift _).failsOnly_bind hkind hu₄ fun count u₅ _ hu₅ => ?_
  refine (Mint.keeps_priceOf _ _ _ _).failsOnly_bind hkind hu₅ fun price u₆ _ hu₆ => ?_
  refine (Step.keeps_lift _).failsOnly_bind hkind hu₆ fun payment u₇ hpayment hu₇ => ?_
  have hamount := checkPayment_lt hcoins (Step.lift_eq_ok_iff.mp hpayment).1
  refine CallState.failsOnly_onStore ?_
  rw [hu₇]
  exact failsOnly_draw (hs.validate_eq_ok hc) hamount _ _ _ _

/-- A claim only reads the store before it issues. -/
theorem failsOnly_claimAirdrop (hu : u.store = s) (limit : Option Nat) (named : Option String) :
    FailsOnly (fun e v => NoTrace s e v.store) (call.claimAirdrop limit named) u := by
  have hkind : ∀ e v, CallState.store v = s → NoTrace s e v.store := fun _ _ h => h
  refine (Step.keeps_lift _).failsOnly_bind hkind hu fun _ u₁ _ hu₁ => ?_
  refine (CallState.keeps_onStore (Store.keeps_require _)).failsOnly_bind hkind hu₁
    fun c' u₂ _ hu₂ => ?_
  refine (Step.keeps_lift _).failsOnly_bind hkind hu₂ fun recipient u₃ _ hu₃ => ?_
  cases c'.airdropper with
  | none => exact (Step.keeps_reject _).failsOnly hkind hu₃
  | some contract =>
    refine (CallState.keeps_ask _ _).failsOnly_bind hkind hu₃ fun promised u₄ _ hu₄ => ?_
    split
    · exact (Step.keeps_reject _).failsOnly hkind hu₄
    · dsimp only
      split
      · exact (Step.keeps_reject _).failsOnly hkind hu₄
      · refine CallState.failsOnly_onStore ?_
        rw [hu₄]
        exact failsOnly_issue _ _ _ _ _

/-- Cleaning the assigned tokens only reads the store before it reserves them. -/
theorem failsOnly_cleanAssigned (hu : u.store = s) :
    FailsOnly (fun e v => NoTrace s e v.store) call.cleanAssigned u := by
  have hkind : ∀ e v, CallState.store v = s → NoTrace s e v.store := fun _ _ h => h
  refine (Step.keeps_lift _).failsOnly_bind hkind hu fun _ u₁ _ hu₁ => ?_
  refine (CallState.keeps_onStore (Store.keeps_require _)).failsOnly_bind hkind hu₁
    fun c' u₂ _ hu₂ => ?_
  refine (Step.keeps_lift _).failsOnly_bind hkind hu₂ fun _ u₃ _ hu₃ => ?_
  cases c'.airdropper with
  | none => exact (Step.keeps_reject _).failsOnly hkind hu₃
  | some contract =>
    refine (Airdropper.keeps_assignedAfter _ _ _ _).failsOnly_bind hkind hu₃
      fun assigned u₄ _ hu₄ => ?_
    refine CallState.failsOnly_onStore ?_
    rw [hu₄]
    exact failsOnly_reserve _ _

/-- Staging tokens only reads the store before all its writes. -/
theorem failsOnly_stageBundle (hu : u.store = s) (count price : Nat) (purge : Bool)
    (tokens : Option (List Token)) :
    FailsOnly (fun e v => NoTrace s e v.store) (call.stageBundle count price purge tokens) u := by
  have hkind : ∀ e v, CallState.store v = s → NoTrace s e v.store := fun _ _ h => h
  refine (Step.keeps_lift _).failsOnly_bind hkind hu fun _ u₁ _ hu₁ => ?_
  refine (CallState.keeps_onStore (Store.keeps_require _)).failsOnly_bind hkind hu₁
    fun c' u₂ _ hu₂ => ?_
  refine (Step.keeps_lift _).failsOnly_bind hkind hu₂ fun _ u₃ _ hu₃ => ?_
  split
  · exact (Step.keeps_reject _).failsOnly hkind hu₃
  · refine (CallState.keeps_onStore (Store.keeps_require _)).failsOnly_bind hkind hu₃
      fun a u₄ _ hu₄ => ?_
    refine Step.keeps_get.failsOnly_bind hkind hu₄ fun _ u₅ _ hu₅ => ?_
    refine (CustomBundle.keeps_assignedTokens _ _ _).failsOnly_bind hkind hu₅
      fun assigned u₆ _ hu₆ => ?_
    refine (Step.keeps_onCopy _ _).failsOnly_bind hkind hu₆ fun restaged u₇ _ _ => ?_
    exact FailsOnly.bind (Step.failsOnly_of_ok rfl) fun _ _ _ =>
      FailsOnly.bind (Step.failsOnly_of_ok rfl) fun _ _ _ =>
        FailsOnly.bind (Step.failsOnly_of_ok rfl) fun _ _ _ => Step.failsOnly_of_ok rfl

/-- A command that fails leaves no trace, except for a sale that fails at a deposit. -/
theorem failsOnly_execute (hs : s.Sound) (hc : s.config = some c)
    (hcoins : ∀ coin ∈ call.funds, coin.amount < amountBound) (command : Command) :
    FailsOnly (fun e v => v.store = s ∨
      command.isSale = true ∧ c.escrowFunds = true ∧ Escrow.FailedDeposit e v.store)
      (call.execute command) ⟨s, []⟩ := by
  cases command with
  | mint promised named =>
    exact (hs.failsOnly_mint hc rfl hcoins promised named).imp fun _ _ =>
      Or.imp_right fun h => ⟨rfl, h⟩
  | mintBundle =>
    exact (CallState.failsOnly_onStore (hs.failsOnly_mintBundle hc hcoins)).imp fun _ _ =>
      Or.imp_right fun h => ⟨rfl, h⟩
  | mintCustomBundle =>
    exact (CallState.failsOnly_onStore (hs.failsOnly_mintCustomBundle hc hcoins)).imp fun _ _ =>
      Or.imp_right fun h => ⟨rfl, h⟩
  | claimAirdrop limit named => exact (failsOnly_claimAirdrop rfl limit named).imp fun _ _ => .inl
  | cleanAssigned => exact (failsOnly_cleanAssigned rfl).imp fun _ _ => .inl
  | stageBundle count price purge tokens =>
    exact (failsOnly_stageBundle rfl count price purge tokens).imp fun _ _ => .inl
  | updateConfig patch =>
    exact (CallState.failsOnly_onStore (failsOnly_updateConfig call patch)).imp fun _ _ => .inl
  | shuffle => exact (CallState.failsOnly_onStore (failsOnly_shuffle call)).imp fun _ _ => .inl
  | disburse address =>
    exact (CallState.failsOnly_onStore (hs.failsOnly_disburse call address)).imp fun _ _ => .inl
  | initModule target plan =>
    exact fun e v hrun =>
      .inl ((CallState.keeps_onStore (keeps_initModule call target plan)).view_eq hrun)
  | forward target message =>
    exact fun e v hrun =>
      .inl ((CallState.keeps_onStore (keeps_forward call target message)).view_eq hrun)

end Store.Sound

/-- Attaching a created contract fails without a trace. -/
theorem ChildContract.failsOnly_attach (child : ChildContract) (contract : Address) (s : Store) :
    FailsOnly (NoTrace s) (child.attach contract) s := by
  have hkind : ∀ e, NoTrace s e s := fun _ => rfl
  cases child with
  | collection id => exact Step.failsOnly_of_ok rfl
  | airdropper =>
    exact (Store.keeps_require _).failsOnly_bind_id hkind fun c _ => Step.failsOnly_of_ok rfl
  | whitelist =>
    exact (Store.keeps_require _).failsOnly_bind_id hkind fun c _ => Step.failsOnly_of_ok rfl

/-- A reply that fails leaves no trace. -/
theorem failsOnly_receiveReply (id : Nat) (result : CreationResult) (s : Store) :
    FailsOnly (NoTrace s) (receiveReply id result) s := by
  have hkind : ∀ e, NoTrace s e s := fun _ => rfl
  refine Step.keeps_get.failsOnly_bind_id hkind fun s' _ => ?_
  cases s'.childOf? id with
  | none => exact (Step.keeps_reject _).failsOnly_id hkind
  | some child =>
    cases result.address? with
    | none => exact (Step.keeps_reject _).failsOnly_id hkind
    | some text =>
      refine (Step.keeps_lift _).failsOnly_bind_id hkind fun contract _ => ?_
      exact (child.failsOnly_attach contract s).bind fun _ t _ => Step.failsOnly_of_ok rfl

/-- A migration that fails leaves no trace. -/
theorem failsOnly_migrate (s : Store) : FailsOnly (NoTrace s) migrate s := by
  have hkind : ∀ e, NoTrace s e s := fun _ => rfl
  refine (Store.keeps_require _).failsOnly_bind_id hkind fun stored _ => ?_
  split
  · exact (Step.keeps_reject _).failsOnly_id hkind
  · cases Version.ofString? stored.version with
    | none => exact (Step.keeps_reject _).failsOnly_id hkind
    | some old =>
      cases Version.ofString? ContractInfo.current.version with
      | none => exact (Step.keeps_reject _).failsOnly_id hkind
      | some new =>
        simp only
        cases old.order new with
        | gt => exact (Step.keeps_reject _).failsOnly_id hkind
        | eq => exact Step.failsOnly_of_ok rfl
        | lt =>
          exact FailsOnly.bind (Step.failsOnly_of_ok rfl) fun _ t _ => Step.failsOnly_of_ok rfl

namespace Transaction

/-- Whether a transaction is a paid command. -/
def isSale : Transaction → Bool
  | command _ c => c.isSale
  | _ => false

/-- The coins that come with a transaction are amounts of money, as all coins on the chain are. -/
def FundsAreAmounts : Transaction → Prop
  | command call _ => ∀ coin ∈ call.funds, coin.amount < amountBound
  | _ => True

/-- A transaction that fails on a sound store leaves no trace, except for a sale that fails at a
deposit. -/
theorem eq_of_perform_eq_error {s t : Store} (hs : s.Sound) {transaction : Transaction}
    (hfunds : transaction.FundsAreAmounts) {e : Failure}
    (h : transaction.perform s = (.error e, t)) :
    t = s ∨ transaction.isSale = true ∧
      ∃ c, s.config = some c ∧ c.escrowFunds = true ∧ Escrow.FailedDeposit e t := by
  cases transaction with
  | command call command =>
    obtain ⟨c, hc, -⟩ := hs.config
    obtain ⟨asked, hrun⟩ := CallState.fresh_eq_iff.mp h
    exact (hs.failsOnly_execute hc hfunds command e _ hrun).imp_right
      fun ⟨hsale, hescrow, hdeposit⟩ => ⟨hsale, c, hc, hescrow, hdeposit⟩
  | reply id result => exact .inl (failsOnly_receiveReply id result s e t h)
  | migration => exact .inl (failsOnly_migrate s e t h)

end Transaction

/-- A count whose check has passed is written without a failure as long as the counts are the same.
-/
theorem recordMint_of_checkMint {s t : Store} {c : Config} {now : Nat} {channel : Channel}
    {address : Address} {units count : Nat}
    (hcheck : s.checkMint c now channel address units = .ok count)
    (htrackers : t.trackers = s.trackers) :
    recordMint c now channel address units t =
      (.ok count, t.withMintCount channel address count) :=
  recordMint_eq_ok_iff.mpr
    ⟨(Store.checkMint_congr htrackers c now channel address units).trans hcheck, rfl⟩

/-- Whatever transaction fails on a reachable store, the store is afterwards what it was before,
with no one undoing anything, unless the failure is that of a deposit of which a sum is no amount,
in a sale with escrow. A count of mints that was once checked is never refused when it is written.
-/
theorem failure_leaves_no_trace {s : Store} (h : Reachable s) :
    (∀ (transaction : Transaction) (e : Failure) (t : Store), transaction.FundsAreAmounts →
      transaction.perform s = (.error e, t) →
        t = s ∨ transaction.isSale = true ∧ (∃ c, s.config = some c ∧ c.escrowFunds = true) ∧
          Escrow.FailedDeposit e t ∧ ∃ a b, e = .rejected (.sumOverflow a b)) ∧
    ∀ (c : Config) (now : Nat) (channel : Channel) (address : Address) (units count : Nat)
      (t : Store), s.checkMint c now channel address units = .ok count →
        t.trackers = s.trackers →
        recordMint c now channel address units t =
          (.ok count, t.withMintCount channel address count) := by
  refine ⟨fun transaction e t hfunds hfails => ?_, fun c now channel address units count t =>
    recordMint_of_checkMint⟩
  rcases Transaction.eq_of_perform_eq_error h.sound hfunds hfails with
    hsame | ⟨hsale, c, hc, hescrow, hdeposit⟩
  · exact .inl hsame
  · obtain ⟨a, b, hoverflow, -⟩ := hdeposit.overflow
    exact .inr ⟨hsale, ⟨c, hc, hescrow⟩, hdeposit, a, b, hoverflow⟩

/-- A second purchase by the same buyer is above the cap, fails, and leaves the store after the
first sale as it is. -/
theorem failure_leaves_no_trace_second_sale :
    Reachable FirstSale.sold ∧ FirstSale.purchase.FundsAreAmounts ∧
      ∃ e, FirstSale.purchase.perform FirstSale.sold = (.error e, FirstSale.sold) := by
  have hreachable : Reachable FirstSale.sold :=
    ⟨FirstSale.founded, FirstSale.events, FirstSale.founded_founded, FirstSale.run_events.1⟩
  have hfunds : FirstSale.purchase.FundsAreAmounts := by
    simp [FirstSale.purchase, FirstSale.call, Transaction.FundsAreAmounts, amountBound]
  have hcap : (FirstSale.purchase.perform FirstSale.sold).1 =
      .error (.rejected (.capExceeded .publicSale 1)) := by decide +kernel
  have hrun := Step.eq_of_outcome hcap
  generalize (FirstSale.purchase.perform FirstSale.sold).2 = after at hrun
  refine ⟨hreachable, hfunds, .rejected (.capExceeded .publicSale 1), ?_⟩
  rcases (failure_leaves_no_trace hreachable).1 _ _ _ hfunds hrun with
    hsame | ⟨-, -, -, a, b, hoverflow⟩
  · rwa [hsame] at hrun
  · simp at hoverflow

end ShuffleMint
