import ShuffleMint.Proofs.Run.EscrowAccounts
import ShuffleMint.Proofs.Run.History

/-!
# Escrow is conserved

Over a whole run, what is held for an address is what sales credited to it while escrow was on, less
what was sent to it by payouts; and all balances together are what was deposited and not paid out.
So a payout never fails, pays exactly the balance, and has nothing to do when nothing was credited
since the last one.
-/

namespace ShuffleMint

/-- What a run credits to an address. -/
def credited (payee : Address) (start : Store) (events : List Event) : Nat :=
  ((start.replay events).map fun e => e.2.credit payee e.1).sum

/-- What a run pays out of escrow to an address. -/
def paidOut (payee : Address) (events : List Event) : Nat := (events.map (Event.payout payee)).sum

variable {start s : Store} {events : List Event}

/-- A run changes a balance by what it credits and what it pays out. -/
theorem Run.balanceOf_eq (h : Run start events s) (payee : Address) :
    s.balanceOf payee + paidOut payee events =
      start.balanceOf payee + credited payee start events := by
  induction h with
  | start => rfl
  | @next events m t transaction r hrun hperform ih =>
    have hstep := balanceOf_of_perform hperform payee
    have hcredited : credited payee start (events ++ [⟨transaction, r⟩]) =
        credited payee start events + Event.credit payee m ⟨transaction, r⟩ :=
      hrun.sum_replay_next _ _
    have hpaid : paidOut payee (events ++ [⟨transaction, r⟩]) =
        paidOut payee events + Event.payout payee ⟨transaction, r⟩ := by
      rw [paidOut, List.map_append, List.sum_append]
      simp [paidOut]
    omega

/-- A setup on an empty store leaves an empty escrow. -/
theorem Founded.balanceOf_eq (h : Founded s) (payee : Address) : s.balanceOf payee = 0 := by
  obtain ⟨setup, env, sender, response, hrun⟩ := h
  obtain ⟨collections, c, a, -, -, -, -, -, rfl, -⟩ := Setup.run_eq_ok hrun
  rfl

/-- A call pays an address out: someone who administers the mint sends it without coins and with a
text that names the address. -/
structure Call.PaysOut (call : Call) (s : Store) (address : String) (payee : Address) : Prop where
  noFunds : call.funds = []
  administered : ∃ c, s.config = some c ∧ c.canAdminister call.sender = true
  named : validateAddress address = .ok payee

/-- A payout from a sound store succeeds, sends the whole balance if there is one, and clears it. -/
theorem Call.PaysOut.perform_eq {call : Call} {address : String} {payee : Address}
    (h : call.PaysOut s address payee) (hs : s.Sound) :
    ∃ r c, s.config = some c ∧
      (Transaction.command call (.disburse address)).perform s = (.ok r, s.withPayout payee) ∧
      r.dispatches = if s.balanceOf payee = 0 then []
        else [⟨none, .send payee [c.price (s.balanceOf payee)]⟩] := by
  obtain ⟨c, hc, hallowed⟩ := h.administered
  have hfunds : requireNoFunds call.funds = .ok () := requireNoFunds_eq_ok_iff.mpr h.noFunds
  have hload : Store.loadConfig s = (.ok c, s) := Store.loadConfig_eq_ok_iff.mpr ⟨hc, rfl⟩
  have hadministrator : c.requireAdministrator call.sender = .ok () :=
    Config.requireAdministrator_eq_ok_iff.mpr hallowed
  have hpaid : call.disburse address s =
      (.ok (Response.ofMessages
        [("action", "disburse_funds"), ("sender", call.sender), ("recipient", payee),
          ("amount", toString (s.balanceOf payee))]
        (if s.balanceOf payee = 0 then [] else [.send payee [c.price (s.balanceOf payee)]])),
        s.withPayout payee) := by
    rw [Call.disburse, Step.lift_bind_ok hfunds, Step.bind_of_ok hload,
      Step.lift_bind_ok hadministrator, Step.lift_bind_ok h.named,
      Step.bind_of_ok (Escrow.disburse_apply hs.balanced payee)]
    rfl
  have hperform : CallState.fresh (liftM (call.disburse address)) s = _ :=
    CallState.fresh_eq_ok_iff.mpr ⟨[], CallState.onStore_eq_ok_iff.mpr ⟨_, hpaid, rfl⟩⟩
  refine ⟨_, c, hc, hperform, ?_⟩
  split <;> rfl

/-- Over every run of a mint, the balance of an address is what sales with escrow credited to it
less what payouts sent to it, and all balances are what was deposited and not paid out. On every
store that a run reaches, an administrator pays out exactly the balance of an address and nothing
else; and as long as nothing is credited to the address again, a further payout succeeds, sends
nothing and changes nothing. -/
theorem escrow_conserved (hstart : Founded start) (hrun : Run start events s) :
    (∀ payee, s.balanceOf payee + paidOut payee events = credited payee start events) ∧
    s.balances.sum + s.totals.disbursed = s.totals.deposited ∧
    s.totals.disbursed ≤ s.totals.deposited ∧
    ∀ (call : Call) (address : String) (payee : Address), call.PaysOut s address payee →
      ∃ r t c, s.config = some c ∧
        (Transaction.command call (.disburse address)).perform s = (.ok r, t) ∧
        (r.dispatches = if s.balanceOf payee = 0 then []
          else [⟨none, .send payee [c.price (s.balanceOf payee)]⟩]) ∧
        t.balanceOf payee = 0 ∧
        (∀ other, other ≠ payee → t.balanceOf other = s.balanceOf other) ∧
        ∀ (more : List Event) (u : Store) (again : Call) (text : String), Run t more u →
          credited payee t more = 0 → again.PaysOut u text payee →
            ∃ r', (Transaction.command again (.disburse text)).perform u = (.ok r', u) ∧
              r'.dispatches = [] := by
  have hreachable : Reachable s := ⟨start, events, hstart, hrun⟩
  have hs := hreachable.sound
  have htotal := hs.balanced.total
  refine ⟨fun payee => ?_, htotal, by omega, fun call address payee hpays => ?_⟩
  · rw [hrun.balanceOf_eq, hstart.balanceOf_eq, Nat.zero_add]
  · obtain ⟨r, c, hc, hperform, hdispatches⟩ := hpays.perform_eq hs
    have hcleared : (s.withPayout payee).balanceOf payee = 0 := by
      rw [Store.balanceOf_withPayout, if_pos rfl]
    refine ⟨r, s.withPayout payee, c, hc, hperform, hdispatches, hcleared, fun other hother => ?_,
      fun more u again text hmore hnothing hagain => ?_⟩
    · rw [Store.balanceOf_withPayout, if_neg hother]
    · have hbalance := hmore.balanceOf_eq payee
      have hempty : u.balanceOf payee = 0 := by omega
      have hu := hmore.sound (hreachable.perform hperform).sound
      obtain ⟨r', c', -, hperform', hdispatches'⟩ := hagain.perform_eq hu
      have hsame : u.withPayout payee = u := if_pos hempty
      rw [hsame] at hperform'
      rw [if_pos hempty] at hdispatches'
      exact ⟨r', hperform', hdispatches'⟩

/-- After a first sale a quarter of the price is held for the guild, and a payout sends it. -/
theorem escrow_conserved_first_sale :
    Founded FirstSale.founded ∧ Run FirstSale.founded FirstSale.events FirstSale.sold ∧
      credited "guild" FirstSale.founded FirstSale.events = 25 ∧
      ∃ r t c, (Transaction.command (FirstSale.call "admin" []) (.disburse "guild")).perform
          FirstSale.sold = (.ok r, t) ∧
        r.dispatches = [⟨none, .send "guild" [Config.price c 25]⟩] ∧ t.balanceOf "guild" = 0 := by
  have hbalance : FirstSale.sold.balanceOf "guild" = 25 := by decide +kernel
  have hpaid : paidOut "guild" FirstSale.events = 0 := by decide +kernel
  have hadministered : (FirstSale.sold.config.any fun c => c.canAdminister "admin") = true := by
    decide +kernel
  obtain ⟨c, hc, hallowed⟩ := Option.any_eq_true _ _ |>.mp hadministered
  have hpays : (FirstSale.call "admin" []).PaysOut FirstSale.sold "guild" "guild" :=
    ⟨rfl, ⟨c, hc, hallowed⟩, by decide +kernel⟩
  obtain ⟨hcredits, -, -, hpayout⟩ :=
    escrow_conserved FirstSale.founded_founded FirstSale.run_events.1
  have hcredit := hcredits "guild"
  rw [hbalance, hpaid] at hcredit
  obtain ⟨r, t, c, -, hperform, hdispatches, hcleared, -⟩ := hpayout _ _ _ hpays
  rw [hbalance] at hdispatches
  exact ⟨FirstSale.founded_founded, FirstSale.run_events.1, hcredit.symm, r, t, c, hperform,
    hdispatches, hcleared⟩

end ShuffleMint
