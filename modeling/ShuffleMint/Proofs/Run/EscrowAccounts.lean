import ShuffleMint.Proofs.Store.Reading
import ShuffleMint.Proofs.Store.Soundness

/-!
# What an event does to the accounts of the escrow

A sale credits an address with its parts of the revenue while escrow is on, and a disbursement pays
its balance out. A balance changes by what is credited and what is paid out, and by nothing else.
-/

namespace ShuffleMint

/-- What an address is credited of an amount: with escrow, its parts of the revenue. -/
def Config.credit (c : Config) (amount : Nat) (payee : Address) : Nat :=
  if c.escrowFunds then
    match splitRevenue c amount with
    | .ok parts => received payee parts
    | .error _ => 0
  else 0

/-- What an event credits to an address, by the configuration of the store in which it was taken:
only sales credit anything. -/
def Event.credit (payee : Address) (s : Store) (e : Event) : Nat :=
  match e.transaction, s.config with
  | .command call command, some c => if command.isSale then c.credit call.paid payee else 0
  | _, _ => 0

/-- What a message sends to an address. -/
def Message.sent (payee : Address) : Message → Nat
  | .send receiver coins => if receiver = payee then (coins.map Coin.amount).sum else 0
  | _ => 0

/-- What an event pays out of escrow to an address: what the messages of a disbursement send. -/
def Event.payout (payee : Address) (e : Event) : Nat :=
  match e.transaction with
  | .command _ (.disburse _) =>
    (e.response.dispatches.map fun dispatch => dispatch.message.sent payee).sum
  | _ => 0

variable {s t u : Store} {r : Response}

/-- Settling a revenue credits every address, by the shares and the escrow switch of the
configuration. -/
theorem balanceOf_of_settle {c c' : Config} {payment : Nat} {payouts : List Message}
    (hsettle : Escrow.settleRevenue c' payment u = (.ok payouts, t))
    (hroyalties : c'.royalties = c.royalties) (hescrow : c'.escrowFunds = c.escrowFunds)
    (hbalances : u.balances = s.balances) (payee : Address) :
    t.balanceOf payee = s.balanceOf payee + c.credit payment payee := by
  obtain ⟨-, -, parts, hparts, hsettled⟩ := Escrow.settleRevenue_eq_ok hsettle
  have hsame : u.balanceOf payee = s.balanceOf payee := by
    rw [Store.balanceOf, hbalances, Store.balanceOf]
  have hsplit : splitRevenue c payment = .ok parts := by
    rwa [splitRevenue, hroyalties, ← splitRevenue] at hparts
  rw [Config.credit, ← hescrow]
  split at hsettled
  · next hon => rw [hsettled.2, Store.balanceOf_withDeposits, hsame, hsplit, if_pos hon]
  · next hoff => rw [hsettled.2, hsame, if_neg hoff, Nat.add_zero]

/-- A sale raises every balance by what it credits. -/
theorem balanceOf_of_sale {call : Call} {command : Command} {v : CallState}
    (hsale : command.isSale = true) (h : call.execute command ⟨s, []⟩ = (.ok r, v))
    (payee : Address) : ∃ c, s.config = some c ∧
      v.store.balanceOf payee = s.balanceOf payee + c.credit call.paid payee := by
  cases command with
  | mint promised named =>
    obtain ⟨c, recipient, through, _, price, payment, w, hc, -, -, -, hprice, hpayment, hdraw⟩ :=
      Call.mint_eq_ok h
    rw [(Mint.keeps_priceOf _ _ _ _).view_eq hprice] at hdraw
    obtain ⟨a, shuffled, b, token, m, count, payouts, -, -, -, -, -, hsettle, -⟩ :=
      Mint.draw_eq_ok hdraw
    rw [← checkPayment_eq_paid hpayment]
    exact ⟨c, hc, balanceOf_of_settle hsettle rfl rfl rfl payee⟩
  | mintBundle =>
    obtain ⟨t, hmint, rfl⟩ := CallState.onStore_eq_ok_iff.mp h
    obtain ⟨c, count, payment, a, shuffled, b, tokens, mints, exhausted, c', closed, payouts, hc, -,
      hpayment, -, -, -, -, -, hclosed, hsettle, -⟩ := Call.mintBundle_eq_ok hmint
    rw [← checkPayment_eq_paid hpayment]
    obtain ⟨-, hroyalties, hescrow, hbalances, -⟩ := Bundle.close_keeps hclosed
    exact ⟨c, hc, balanceOf_of_settle hsettle hroyalties hescrow hbalances payee⟩
  | mintCustomBundle =>
    obtain ⟨t, hmint, rfl⟩ := CallState.onStore_eq_ok_iff.mp h
    obtain ⟨c, _, payment, staged, hc, -, hpayment, -, -, hsell⟩ := Call.mintCustomBundle_eq_ok hmint
    obtain ⟨a, shuffled, b, mints, count, c', closed, payouts, -, -, -, -, hclosed, hsettle, -⟩ :=
      CustomBundle.sell_eq_ok hsell
    rw [← checkPayment_eq_paid hpayment]
    obtain ⟨-, hroyalties, hescrow, hbalances, -⟩ := CustomBundle.close_keeps hclosed
    exact ⟨c, hc, balanceOf_of_settle hsettle hroyalties hescrow hbalances payee⟩
  | _ => cases hsale

/-- A payout lowers the balance of an address by what it sends to it. -/
theorem balanceOf_of_disburse {call : Call} {address : String}
    (h : call.disburse address s = (.ok r, t)) (payee : Address) :
    t.balanceOf payee + Event.payout payee ⟨.command call (.disburse address), r⟩ =
      s.balanceOf payee := by
  obtain ⟨c, payee', -, -, -, -, rfl, rfl⟩ := Call.disburse_eq_ok h
  rw [Store.balanceOf_withPayout]
  by_cases hsame : payee = payee'
  · subst hsame
    by_cases hzero : s.balanceOf payee = 0 <;>
      simp [Event.payout, Response.ofMessages, Message.sent, Config.price, hzero]
  · by_cases hzero : s.balanceOf payee' = 0 <;>
      simp [Event.payout, Response.ofMessages, Message.sent, hzero, hsame, Ne.symm hsame]

/-- A successful command that neither sells nor pays out leaves the balances alone. -/
theorem balances_of_execute {call : Call} {command : Command} {v : CallState}
    (hsale : command.isSale = false) (hdisburse : ∀ address, command ≠ .disburse address)
    (h : call.execute command ⟨s, []⟩ = (.ok r, v)) : v.store.balances = s.balances := by
  cases command with
  | mint | mintBundle | mintCustomBundle => cases hsale
  | disburse address => exact absurd rfl (hdisburse address)
  | claimAirdrop limit named =>
    obtain ⟨c, recipient, contract, promised, w, -, -, -, -, hpromised, -, -, -, hissue⟩ :=
      Call.claimAirdrop_eq_ok h
    rw [(CallState.keeps_ask _ _).view_eq hpromised] at hissue
    obtain ⟨count, a, shuffled, b, messages, -, -, -, -, hstore, -⟩ := Airdrop.issue_eq_ok hissue
    rw [hstore]
    rfl
  | cleanAssigned =>
    obtain ⟨c, contract, assigned, w, a, b, removed, -, -, -, -, hassigned, -, -, hstore, -⟩ :=
      Call.cleanAssigned_eq_ok h
    rw [hstore, (Airdropper.keeps_assignedAfter _ _ _ _).view_eq hassigned]
    rfl
  | stageBundle count price purge tokens =>
    obtain ⟨c, a, assigned, w, released, staged, b, -, -, -, -, -, hassigned, -, hstore, -⟩ :=
      Call.stageBundle_eq_ok h
    rw [hstore, (CustomBundle.keeps_assignedTokens _ _ _).view_eq hassigned]
    rfl
  | updateConfig patch =>
    obtain ⟨t, hupdate, rfl⟩ := CallState.onStore_eq_ok_iff.mp h
    obtain ⟨before, after, -, -, -, -, -, -, rfl, -⟩ := Call.updateConfig_eq_ok_iff.mp hupdate
    rfl
  | initModule target plan =>
    obtain ⟨t, hinit, rfl⟩ := CallState.onStore_eq_ok_iff.mp h
    obtain ⟨c, id, -, -, -, -, rfl, -⟩ := Call.initModule_eq_ok hinit
    rfl
  | shuffle =>
    obtain ⟨t, hshuffle, rfl⟩ := CallState.onStore_eq_ok_iff.mp h
    obtain ⟨c, a, b, messages, -, -, -, -, rfl, -⟩ := Call.shuffle_eq_ok hshuffle
    rfl
  | forward target message =>
    obtain ⟨t, hforward, rfl⟩ := CallState.onStore_eq_ok_iff.mp h
    obtain ⟨c, collaborator, forwarded, -, -, -, -, -, rfl, -⟩ := Call.forward_eq_ok hforward
    rfl

/-- A successful transaction changes a balance by what it credits and what it pays out. -/
theorem balanceOf_of_perform {transaction : Transaction}
    (h : transaction.perform s = (.ok r, t)) (payee : Address) :
    t.balanceOf payee + Event.payout payee ⟨transaction, r⟩ =
      s.balanceOf payee + Event.credit payee s ⟨transaction, r⟩ := by
  have hunchanged (hbalances : t.balances = s.balances) :
      t.balanceOf payee = s.balanceOf payee := by
    rw [Store.balanceOf, hbalances, Store.balanceOf]
  cases transaction with
  | migration =>
    obtain ⟨stored, old, new, -, -, -, -, ⟨-, rfl⟩ | ⟨-, rfl⟩, -⟩ := migrate_eq_ok h <;> rfl
  | reply id result =>
    obtain ⟨child, text, contract, -, -, -, rfl, -⟩ := receiveReply_eq_ok h
    cases child <;> rfl
  | command call command =>
    obtain ⟨asked, hexecute⟩ := CallState.fresh_eq_ok_iff.mp h
    by_cases hsale : command.isSale = true
    · obtain ⟨c, hc, hbalance⟩ := balanceOf_of_sale hsale hexecute payee
      have hcredit :
          Event.credit payee s ⟨.command call command, r⟩ = c.credit call.paid payee := by
        simp [Event.credit, hc, hsale]
      have hpayout : Event.payout payee ⟨.command call command, r⟩ = 0 := by
        cases command <;> first | rfl | cases hsale
      rw [hcredit, hpayout, Nat.add_zero]
      exact hbalance
    · have hcredit : Event.credit payee s ⟨.command call command, r⟩ = 0 := by
        cases hconfig : s.config <;> simp [Event.credit, hconfig, hsale]
      rw [hcredit, Nat.add_zero]
      by_cases hdisburse : ∃ address, command = .disburse address
      · obtain ⟨address, rfl⟩ := hdisburse
        obtain ⟨t', hpaid, hstore⟩ := CallState.onStore_eq_ok_iff.mp hexecute
        obtain rfl := (CallState.mk.inj hstore).1
        exact balanceOf_of_disburse hpaid payee
      · rw [not_exists] at hdisburse
        have hpayout : Event.payout payee ⟨.command call command, r⟩ = 0 := by
          cases command <;> first | rfl | exact absurd rfl (hdisburse _)
        rw [hpayout, Nat.add_zero]
        exact hunchanged (balances_of_execute (Bool.not_eq_true _ ▸ hsale) hdisburse hexecute)

end ShuffleMint
