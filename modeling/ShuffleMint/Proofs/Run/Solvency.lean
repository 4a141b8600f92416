import ShuffleMint.Proofs.Run.Effect
import ShuffleMint.Proofs.Run.History

/-!
# What is sent in a denomination

A balance in escrow is a bare amount. It is paid out in the denomination that the settings have at
the time of the payout, which need not be the one in which it was received. So what a mint sends in
a denomination is covered by what came with the calls in that denomination and by what was held
whenever the settings changed to it; it is covered by what came with the calls as long as the
denomination does not change while something is held.
-/

namespace ShuffleMint

/-- The amount of a denomination among coins. -/
def amountIn (denom : String) (coins : List Coin) : Nat :=
  ((coins.filter fun coin => coin.denom == denom).map Coin.amount).sum

/-- What a message sends to an account in a denomination. -/
def Message.sentIn (denom : String) : Message → Nat
  | send _ coins => amountIn denom coins
  | _ => 0

/-- What a response sends to accounts in a denomination. -/
def Response.sentIn (denom : String) (r : Response) : Nat := (r.sends.map (Message.sentIn denom)).sum

/-- The denomination in which a store is paid and pays. -/
def Store.denom? (s : Store) : Option String := s.config.map Config.denom

/-- What is held in escrow and would be paid out in a denomination. -/
def Store.heldIn (denom : String) (s : Store) : Nat :=
  if s.denom? = some denom then s.balances.sum else 0

namespace Event

/-- What came with a call in a denomination. -/
def attachedIn (denom : String) (e : Event) : Nat :=
  match e.transaction with
  | .command call _ => amountIn denom call.funds
  | _ => 0

/-- What was held in escrow when an event changed the settings to a denomination. -/
def redenominated (denom : String) (s : Store) (e : Event) : Nat :=
  if s.denom? ≠ some denom ∧ (e.transaction.commit s).denom? = some denom then s.balances.sum else 0

end Event

/-- What a run sends to accounts in a denomination. -/
def sentIn (denom : String) (events : List Event) : Nat :=
  (events.map fun e => e.response.sentIn denom).sum

/-- What came with the calls of a run in a denomination. -/
def attachedIn (denom : String) (events : List Event) : Nat :=
  (events.map (Event.attachedIn denom)).sum

/-- What was held in escrow whenever a run changed the settings to a denomination. -/
def redenominated (denom : String) (start : Store) (events : List Event) : Nat :=
  ((start.replay events).map fun e => e.2.redenominated denom e.1).sum

variable {start s t : Store} {r : Response} {events : List Event} {c : Config}

/-- Coins of one denomination are worth their amounts in it. -/
theorem amountIn_of_denoms {coins : List Coin} (h : ∀ coin ∈ coins, coin.denom = c.denom) :
    amountIn c.denom coins = (coins.map Coin.amount).sum := by
  rw [amountIn, List.filter_eq_self.mpr fun coin hcoin => by simp [h coin hcoin]]

/-- A price is worth its amount in the denomination of the settings and nothing in another. -/
theorem amountIn_price (denom : String) (c : Config) (amount : Nat) :
    amountIn denom [c.price amount] = if c.denom = denom then amount else 0 := by
  by_cases h : c.denom = denom <;> simp [amountIn, Config.price, h]

/-- Parts that are sent are worth their sum in the denomination of the settings and nothing in
another. -/
theorem sum_sentIn_parts (denom : String) (c : Config) (parts : List (Address × Nat)) :
    ((parts.map fun part => Message.send part.1 [c.price part.2]).map (Message.sentIn denom)).sum =
      if c.denom = denom then (parts.map Prod.snd).sum else 0 := by
  induction parts with
  | nil => simp
  | cons part rest ih =>
    rw [List.map_cons, List.map_cons, List.sum_cons, ih, Message.sentIn, amountIn_price]
    split <;> simp

namespace Store

/-- A response without sends sends nothing. -/
theorem sentIn_of_silence (hsends : r.sends = []) (denom : String) : r.sentIn denom = 0 := by
  rw [Response.sentIn, hsends]
  rfl

/-- What is held in the denomination of the settings is all that is held. -/
theorem heldIn_eq (hdenom : s.denom? = some c.denom) (denom : String) :
    s.heldIn denom = if c.denom = denom then s.balances.sum else 0 := by
  simp only [heldIn, hdenom, Option.some.injEq]

/-- What is held in a denomination depends on the settings and the balances only. -/
theorem heldIn_congr (hdenom : t.denom? = s.denom?) (hbalances : t.balances = s.balances)
    (denom : String) : t.heldIn denom = s.heldIn denom := by
  rw [heldIn, hdenom, hbalances, heldIn]

/-- A payment that is settled is sent or held. -/
theorem Settled.sentIn_add_heldIn {payment : Nat} (h : s.Settled c payment r t)
    (hvalid : c.validate = .ok ()) (hs : s.denom? = some c.denom) (ht : t.denom? = some c.denom)
    (denom : String) :
    r.sentIn denom + t.heldIn denom = s.heldIn denom + if c.denom = denom then payment else 0 := by
  obtain ⟨parts, hparts, hsettled⟩ := h
  have hsum := sum_splitRevenue hvalid hparts
  rw [heldIn_eq hs, heldIn_eq ht]
  split at hsettled
  · obtain ⟨hsends, hbalances, -⟩ := hsettled
    rw [sentIn_of_silence hsends, hbalances, sum_withDeposits, hsum]
    split <;> omega
  · obtain ⟨hsends, hbalances, -⟩ := hsettled
    rw [Response.sentIn, hsends, sum_sentIn_parts, hsum, hbalances]
    split <;> omega

/-- What a minting command sends and leaves held in a denomination is covered by what was held in it
and what came with the call. -/
theorem Minted.sentIn_add_heldIn_le {call : Call} {command : Command} {channel : Channel}
    {recipient : Address} {tokens : List Token}
    (h : s.Minted call command c channel recipient tokens r t) (hs : s.Sound)
    (ht : t.denom? = some c.denom) (denom : String) :
    r.sentIn denom + t.heldIn denom ≤ s.heldIn denom + amountIn denom call.funds := by
  have hdenom : s.denom? = some c.denom := by rw [denom?, h.config]; rfl
  have hattached : (if c.denom = denom then call.paid else 0) ≤ amountIn denom call.funds := by
    split
    · next hsame => exact Nat.le_of_eq (hsame ▸ (amountIn_of_denoms h.denoms).symm)
    · exact Nat.zero_le _
  rw [h.settled.sentIn_add_heldIn (hs.validate_eq_ok h.config) hdenom ht]
  exact Nat.add_le_add_left hattached _

/-- A payout sends what it takes from all that is held. -/
theorem sentIn_add_heldIn_withPayout (hc : s.config = some c) (payee : Address)
    (hsends : r.sends = if s.balanceOf payee = 0 then []
      else [.send payee [c.price (s.balanceOf payee)]]) (denom : String) :
    r.sentIn denom + (s.withPayout payee).heldIn denom = s.heldIn denom := by
  have hdenom : s.denom? = some c.denom := by rw [denom?, hc]; rfl
  have hkept := (s.escrowOnly_withPayout payee).view_eq denom? fun _ _ _ => rfl
  have hsum := s.sum_withPayout payee
  have hsent : r.sentIn denom = if c.denom = denom then s.balanceOf payee else 0 := by
    rw [Response.sentIn, hsends]
    split
    · next hzero => simp [hzero]
    · simp [Message.sentIn, amountIn_price]
  rw [hsent, heldIn_eq hdenom, heldIn_eq (hkept.trans hdenom)]
  split <;> omega

/-- A child that is attached leaves what is held in a denomination alone. -/
theorem heldIn_withChild (s : Store) (contract : Address) (child : ChildContract)
    (denom : String) : (s.withChild contract child).heldIn denom = s.heldIn denom := by
  have hdenom : (s.withChild contract child).denom? = s.denom? :=
    s.map_config_withChild (fun _ _ => rfl) (fun _ _ => rfl) contract child
  have hbalances : (s.withChild contract child).balances = s.balances := by
    cases child <;> rfl
  exact heldIn_congr hdenom hbalances denom

/-- What is held in a denomination after new settings was held in it before, or the settings have
changed to it. -/
theorem heldIn_withConfig_le (s : Store) (c : Config) (denom : String) :
    (s.withConfig c).heldIn denom ≤ s.heldIn denom +
      if s.denom? ≠ some denom ∧ (s.withConfig c).denom? = some denom then s.balances.sum else 0 := by
  have hbalances : (s.withConfig c).balances = s.balances := rfl
  unfold heldIn
  rw [hbalances]
  by_cases hafter : (s.withConfig c).denom? = some denom
  · by_cases hbefore : s.denom? = some denom <;> simp [hbefore, hafter]
  · rw [if_neg hafter]
    exact Nat.zero_le _

/-- What a successful transaction sends and leaves held in a denomination is covered by what was held
in it, what came with the call and what was held when the settings changed to it. -/
theorem Sound.sentIn_add_heldIn_le (hs : s.Sound) {transaction : Transaction}
    (h : transaction.perform s = (.ok r, t)) (denom : String) :
    r.sentIn denom + t.heldIn denom ≤ s.heldIn denom +
      Event.attachedIn denom ⟨transaction, r⟩ + Event.redenominated denom s ⟨transaction, r⟩ := by
  have hcommit := Transaction.commit_of_ok h
  have hcovered {n : Nat} (hle : r.sentIn denom + t.heldIn denom ≤ n) (m : Nat) :
      r.sentIn denom + t.heldIn denom ≤ n + m := Nat.le_trans hle (Nat.le_add_right ..)
  have hidle (hsends : r.sends = []) (hheld : t.heldIn denom = s.heldIn denom) :
      r.sentIn denom + t.heldIn denom ≤ s.heldIn denom :=
    Nat.le_of_eq (by rw [sentIn_of_silence hsends, hheld, Nat.zero_add])
  cases hs.effect h with
  | minted hminted _ _ _ hconfig =>
    exact hcovered (hminted.sentIn_add_heldIn_le hs (by rw [denom?, hconfig]; rfl) denom) _
  | sold hminted _ _ _ _ hconfig =>
    exact hcovered (hminted.sentIn_add_heldIn_le hs (by rw [denom?, hconfig]; rfl) denom) _
  | @configured _ _ _ c' _ _ _ _ _ hsilent =>
    have hchanged := s.heldIn_withConfig_le c' denom
    rw [sentIn_of_silence hsilent.2, Event.redenominated, hcommit]
    omega
  | paidOut hc _ _ hsends =>
    have hpaid := sentIn_add_heldIn_withPayout hc _ hsends denom
    exact hcovered (hcovered (Nat.le_of_eq hpaid) _) _
  | planned _ _ hsilent | forwarded _ _ hsilent | cleaned _ _ _ _ _ _ hsilent
  | shuffled _ _ _ _ hsilent | migrated hsilent =>
    exact hcovered (hcovered (hidle hsilent.2 rfl) _) _
  | staged hc _ _ _ _ _ _ _ _ hsilent ht =>
    have hheld : t.heldIn denom = s.heldIn denom := by
      refine heldIn_congr ?_ (by rw [ht]; rfl) denom
      rw [denom?, denom?, hc, ht]
      rfl
    exact hcovered (hcovered (hidle hsilent.2 hheld) _) _
  | attached hsilent =>
    exact hcovered (hcovered (hidle hsilent.2 (s.heldIn_withChild _ _ denom)) _) _

end Store

/-- What a run sends and leaves held in a denomination is covered by what was held in it at first,
what came with the calls and what was held whenever the settings changed to it. -/
theorem Run.sentIn_add_heldIn_le (hstart : start.Sound) (h : Run start events s) (denom : String) :
    sentIn denom events + s.heldIn denom ≤ start.heldIn denom + attachedIn denom events +
      redenominated denom start events := by
  induction h with
  | start =>
    rw [sentIn, List.map_nil, List.sum_nil, Nat.zero_add, Nat.add_assoc]
    exact Nat.le_add_right ..
  | @next events m t transaction r hrun hperform ih =>
    have hstep := (hrun.sound hstart).sentIn_add_heldIn_le hperform denom
    have hsent : sentIn denom (events ++ [⟨transaction, r⟩]) =
        sentIn denom events + r.sentIn denom := by
      simp [sentIn]
    have hattached : attachedIn denom (events ++ [⟨transaction, r⟩]) =
        attachedIn denom events + Event.attachedIn denom ⟨transaction, r⟩ := by
      simp [attachedIn]
    have hchanged : redenominated denom start (events ++ [⟨transaction, r⟩]) =
        redenominated denom start events + Event.redenominated denom m ⟨transaction, r⟩ :=
      hrun.sum_replay_next _ _
    omega

/-- A setup on an empty store holds nothing in any denomination. -/
theorem Founded.heldIn_eq (h : Founded s) (denom : String) : s.heldIn denom = 0 := by
  obtain ⟨setup, env, sender, response, hrun⟩ := h
  obtain ⟨collections, c, a, -, -, -, -, -, rfl, -⟩ := Setup.run_eq_ok hrun
  unfold Store.heldIn
  split <;> rfl

/-- Nothing is held when settings change their denomination. -/
def ChangesEmpty (start : Store) (events : List Event) : Prop :=
  ∀ e ∈ start.replay events,
    e.1.balances.sum = 0 ∨ (e.2.transaction.commit e.1).denom? = e.1.denom?

/-- When nothing is held at any change of the denomination, nothing changes its denomination. -/
theorem ChangesEmpty.redenominated_eq (h : ChangesEmpty start events) (denom : String) :
    redenominated denom start events = 0 := by
  refine List.sum_eq_zero_iff_forall_eq_nat.mpr fun n hn => ?_
  obtain ⟨e, he, rfl⟩ := List.mem_map.mp hn
  unfold Event.redenominated
  split
  · next hchanged =>
    rcases h e he with hempty | hsame
    · exact hempty
    · exact absurd (hsame.symm.trans hchanged.2) hchanged.1
  · rfl

/-- Over every run of a mint, what was sent to accounts in a denomination and what is still held in
it is covered by what came with the calls in that denomination and by what was held whenever the
settings changed to it. If nothing was held at any such change, it is covered by what came with the
calls alone. -/
theorem sent_le_attached (hstart : Founded start) (hrun : Run start events s) :
    (∀ denom, sentIn denom events + s.heldIn denom ≤
      attachedIn denom events + redenominated denom start events) ∧
    (ChangesEmpty start events →
      ∀ denom, sentIn denom events + s.heldIn denom ≤ attachedIn denom events) := by
  have hcovered (denom : String) := hrun.sentIn_add_heldIn_le hstart.sound.1 denom
  simp only [hstart.heldIn_eq, Nat.zero_add] at hcovered
  refine ⟨hcovered, fun hempty denom => ?_⟩
  have hdenom := hcovered denom
  rwa [hempty.redenominated_eq, Nat.add_zero] at hdenom

namespace FirstSale

/-- A payout to the guild after the sale. -/
def payout : Transaction := .command (call "admin" []) (.disburse "guild")

/-- A change of the settings to another denomination. -/
def redenomination : Transaction := .command (call "admin" []) <| .updateConfig
  { maintainer := ⟨none, false⟩
    airdropper := ⟨none, false⟩
    whitelist := ⟨none, false⟩
    startTime := none
    endTime := ⟨none, false⟩
    mintCap := none
    bundleCap := none
    mintPrice := none
    bundlePrice := none
    denom := some "uatom"
    escrowFunds := none
    bundleEnabled := none
    royalties := none }

end FirstSale

/-- After a first sale the guild is paid its quarter out of the hundred that came with the purchase.
-/
theorem sent_le_attached_first_payout :
    ∃ events s, Founded FirstSale.founded ∧ Run FirstSale.founded events s ∧
      ChangesEmpty FirstSale.founded events ∧
      sentIn "ustars" events + s.heldIn "ustars" ≤ attachedIn "ustars" events ∧
      sentIn "ustars" events = 25 ∧ attachedIn "ustars" events = 100 := by
  have hrun := FirstSale.founded.run_play (FirstSale.transactions ++ [FirstSale.payout])
  have hempty : ChangesEmpty FirstSale.founded
      (FirstSale.founded.play (FirstSale.transactions ++ [FirstSale.payout])).1 := by
    unfold ChangesEmpty
    decide +kernel
  exact ⟨_, _, FirstSale.founded_founded, hrun, hempty,
    (sent_le_attached FirstSale.founded_founded hrun).2 hempty "ustars", by decide +kernel,
    by decide +kernel⟩

/-- What is sent in a denomination is not always covered by what came with the calls in it: when the
settings change to another denomination before the payout, the guild is paid in one that nobody has
ever paid with. -/
theorem not_sent_le_attached :
    ¬ ∀ (start s : Store) (events : List Event) (denom : String), Founded start →
      Run start events s → sentIn denom events ≤ attachedIn denom events := by
  intro hcovered
  have hrun := FirstSale.founded.run_play
    (FirstSale.transactions ++ [FirstSale.redenomination, FirstSale.payout])
  have hsent := hcovered _ _ _ "uatom" FirstSale.founded_founded hrun
  revert hsent
  decide +kernel

end ShuffleMint
