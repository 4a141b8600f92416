import ShuffleMint.Proofs.Run.EscrowAccounts
import ShuffleMint.Proofs.Run.Gates
import ShuffleMint.Proofs.Run.Solvency

/-!
# A payment is passed on to the last coin

The revenue shares divide every amount of money, however they are listed: the remainders of the
rounded parts go to the primary share, wherever it stands in the list. A mint sends the parts of its
payment or credits them in escrow, so what it sends and credits is together what was paid, and every
address has of it what the shares give it.
-/

namespace ShuffleMint

/-- The configuration with other shares of the revenue. -/
def Config.withRevenue (c : Config) (shares : List Share) : Config :=
  { c with royalties := { c.royalties with revenue := shares } }

/-- What a response sends to an address. -/
def Response.sentTo (payee : Address) (r : Response) : Nat :=
  (r.sends.map (Message.sent payee)).sum

/-- What is sent of the parts of a revenue to an address is what it receives of them. -/
theorem sum_sent_parts (c : Config) (parts : List (Address × Nat)) (payee : Address) :
    ((parts.map fun part => Message.send part.1 [c.price part.2]).map (Message.sent payee)).sum =
      received payee parts := by
  induction parts with
  | nil => rfl
  | cons part rest ih =>
    rw [received_cons, List.map_cons, List.map_cons, List.sum_cons, ih]
    simp [Message.sent, Config.price]

variable {c : Config}

/-- A valid configuration stays valid when its shares of the revenue are listed in another order. -/
theorem Config.validate_withRevenue (h : c.validate = .ok ()) {shares : List Share}
    (hperm : shares.Perm c.royalties.revenue) : (c.withRevenue shares).validate = .ok () := by
  have hvalid := Config.validate_eq_ok_iff.mp h
  refine Config.validate_eq_ok_iff.mpr { hvalid with revenue := ?_ }
  show Share.sumPoints shares ≤ 10000 ∧ Share.primaries shares = 1
  rw [Share.sumPoints_perm hperm, Share.primaries, hperm.countP_eq]
  exact hvalid.revenue

/-- Shares that are listed in another order give every address the same of an amount. -/
theorem exists_splitRevenue_perm (h : c.validate = .ok ()) {amount : Nat}
    (hamount : amount < amountBound) {parts : List (Address × Nat)}
    (hparts : splitRevenue c amount = .ok parts) {shares : List Share}
    (hperm : shares.Perm c.royalties.revenue) :
    ∃ parts', splitRevenue (c.withRevenue shares) amount = .ok parts' ∧
      ∀ payee, received payee parts' = received payee parts := by
  have hvalid := Config.validate_withRevenue h hperm
  obtain ⟨parts', hparts'⟩ := exists_splitRevenue hvalid hamount
  have hdivided' : Share.Divided shares amount parts' := divided_splitRevenue hvalid hparts'
  exact ⟨parts', hparts', received_perm ((divided_splitRevenue h hparts).perm hdivided' hperm)⟩

namespace Store

variable {s t : Store} {r : Response}

/-- A payment is passed on: what is sent in the denomination of the settings and what is credited in
escrow is together the payment, nothing is sent in another denomination, and every address is sent
or credited what it receives of the parts into which the revenue shares divide the payment. -/
structure PassedOn (s : Store) (c : Config) (payment : Nat) (r : Response) (t : Store) : Prop where
  total : r.sentIn c.denom + t.balances.sum = s.balances.sum + payment
  elsewhere : ∀ denom, denom ≠ c.denom → r.sentIn denom = 0
  shared : ∃ parts, splitRevenue c payment = .ok parts ∧
    Share.Divided c.royalties.revenue payment parts ∧
    ∀ payee, r.sentTo payee + t.balanceOf payee = s.balanceOf payee + received payee parts

/-- A payment that is settled under a valid configuration is passed on. -/
theorem Settled.passedOn {payment : Nat} (h : s.Settled c payment r t)
    (hvalid : c.validate = .ok ()) : s.PassedOn c payment r t := by
  obtain ⟨parts, hparts, hsettled⟩ := h
  have hdivided := divided_splitRevenue hvalid hparts
  split at hsettled
  · obtain ⟨hsends, hbalances, -⟩ := hsettled
    have hsilent (denom : String) : r.sentIn denom = 0 := sentIn_of_silence hsends denom
    refine ⟨?_, fun denom _ => hsilent denom, parts, hparts, hdivided, fun payee => ?_⟩
    · rw [hsilent, hbalances, sum_withDeposits, hdivided.sum, Nat.zero_add]
    · rw [balanceOf, hbalances, ← balanceOf, balanceOf_withDeposits, Response.sentTo, hsends]
      exact Nat.zero_add _
  · obtain ⟨hsends, hbalances, -⟩ := hsettled
    refine ⟨?_, fun denom hother => ?_, parts, hparts, hdivided, fun payee => ?_⟩
    · rw [Response.sentIn, hsends, sum_sentIn_parts, if_pos rfl, hdivided.sum, hbalances,
        Nat.add_comm]
    · rw [Response.sentIn, hsends, sum_sentIn_parts, if_neg (Ne.symm hother)]
    · rw [Response.sentTo, hsends, sum_sent_parts, balanceOf, hbalances, ← balanceOf, Nat.add_comm]

end Store

/-- A valid configuration splits every amount of money into parts that divide it among the revenue
shares, and every address receives the same of them in whichever order the shares are listed. On
every reachable store, what comes with a command that mints is of the denomination of the settings
and is passed on in full. -/
theorem payment_passed_on :
    (∀ c : Config, c.validate = .ok () → ∀ amount < amountBound,
      ∃ parts, splitRevenue c amount = .ok parts ∧
        Share.Divided c.royalties.revenue amount parts ∧
        ∀ shares, shares.Perm c.royalties.revenue →
          ∃ parts', splitRevenue (c.withRevenue shares) amount = .ok parts' ∧
            ∀ payee, received payee parts' = received payee parts) ∧
    ∀ s, Reachable s → ∀ (call : Call) (command : Command) (r : Response) (t : Store),
      (Transaction.command call command).isMinting = true →
      (Transaction.command call command).perform s = (.ok r, t) →
      ∃ c, s.config = some c ∧ (∀ coin ∈ call.funds, coin.denom = c.denom) ∧
        s.PassedOn c call.paid r t := by
  constructor
  · intro c hvalid amount hamount
    obtain ⟨parts, hparts⟩ := exists_splitRevenue hvalid hamount
    exact ⟨parts, hparts, divided_splitRevenue hvalid hparts,
      fun shares hperm => exists_splitRevenue_perm hvalid hamount hparts hperm⟩
  · intro s hs call command r t hminting hperform
    obtain ⟨c, _, _, _, hminted⟩ := hs.sound.exists_minted hminting hperform
    exact ⟨c, hminted.config, hminted.denoms,
      hminted.settled.passedOn (hs.sound.validate_eq_ok hminted.config)⟩

/-- The hundred that the second buyer of a first sale pays raises what is held in escrow by a hundred,
whose parts are three quarters for the owner and one for the guild. -/
theorem payment_passed_on_second_sale :
    ∃ c r t parts, FirstSale.sold.config = some c ∧ c.validate = .ok () ∧
      splitRevenue c 100 = .ok parts ∧ received "owner" parts = 75 ∧ received "guild" parts = 25 ∧
      (Transaction.command (FirstSale.call "stranger" [⟨"ustars", 100⟩]) (.mint false none)).perform
        FirstSale.sold = (.ok r, t) ∧
      FirstSale.sold.PassedOn c 100 r t := by
  have hs : Reachable FirstSale.sold :=
    ⟨_, _, FirstSale.founded_founded, FirstSale.run_events.1⟩
  have hok : ((Transaction.command (FirstSale.call "stranger" [⟨"ustars", 100⟩])
      (.mint false none)).perform FirstSale.sold).1.isOk = true := by decide +kernel
  obtain ⟨r, t, hperform⟩ := Transaction.exists_of_isOk hok
  obtain ⟨c, hc, -, hpassed⟩ := payment_passed_on.2 _ hs _ _ r t rfl hperform
  have hvalid := hs.sound.validate_eq_ok hc
  obtain ⟨parts, hparts, -⟩ := payment_passed_on.1 c hvalid 100 (by decide)
  have hcredit : FirstSale.sold.config.bind (fun c => (splitRevenue c 100).toOption.map
      fun parts => (received "owner" parts, received "guild" parts)) = some (75, 25) := by
    decide +kernel
  rw [hc, Option.bind_some, hparts, Except.toOption, Option.map_some, Option.some.injEq,
    Prod.mk.injEq] at hcredit
  exact ⟨c, r, t, parts, hc, hvalid, hparts, hcredit.1, hcredit.2, hperform, hpassed⟩

end ShuffleMint
