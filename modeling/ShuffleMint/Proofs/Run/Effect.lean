import ShuffleMint.Proofs.Command.Standing
import ShuffleMint.Proofs.Escrow.Split
import ShuffleMint.Proofs.Store.Reading
import ShuffleMint.Proofs.Store.Soundness

/-!
# What a successful transaction does to a sound store

The minting commands differ in which tokens they take and on which channel they count. All of them
issue tokens to one recipient, send one mint message for each token, count the mint and pass the
payment on. The other transactions write to one or two places of the store each. What every
transaction does is said here once, as a relation between the stores before and after it, and the
properties of runs are read off that relation.
-/

namespace ShuffleMint

/-- The ways in which a token can stand that is minted on a channel. -/
def Channel.takesFrom : Channel → List SlotStatus
  | publicSale => [.pending]
  | whitelist => [.pending]
  | airdrop => [.pending, .reserved]
  | bundle => [.pending]
  | customBundle => [.staged]

/-- How many mints a channel counts for so many tokens: a bundle of any size is one mint. -/
def Channel.units (tokens : Nat) : Channel → Nat
  | bundle => 1
  | customBundle => 1
  | _ => tokens

namespace Command

/-- The channel that a minting command is booked on: promised mints on that of the airdropper, other
random mints on that of the whitelist, if there is one, until the sale starts. -/
def channel? (c : Config) (now : Nat) : Command → Option Channel
  | mint promised _ =>
    if promised then some .airdrop
    else if now < c.startTime ∧ c.whitelist.isSome then some .whitelist
    else some .publicSale
  | mintBundle => some .bundle
  | claimAirdrop _ _ => some .airdrop
  | mintCustomBundle => some .customBundle
  | _ => none

/-- Whom a minting command names as the recipient. -/
def named? : Command → Option String
  | mint _ named => named
  | claimAirdrop _ named => named
  | _ => none

/-- How many tokens a minting command issues: one at random, some of those that are promised, one of
every collection, or as many staged ones as a custom bundle has. -/
def Yields (c : Config) (a : Allocator) (n : Nat) : Command → Prop
  | mint _ _ => n = 1
  | claimAirdrop _ _ => 0 < n
  | mintBundle => n = a.collectionIds.length
  | mintCustomBundle => n = c.customCount
  | _ => False

end Command

/-- Whom a message has a token minted to. -/
def Message.owner? : Message → Option Address
  | execute _ (.mintToken _ owner _) => some owner
  | _ => none

/-- Whether a message sends coins to an account. -/
def Message.isSend : Message → Bool
  | send _ _ => true
  | _ => false

namespace Response

/-- The messages of a response that send coins to an account. -/
def sends (r : Response) : List Message :=
  (r.dispatches.map Dispatch.message).filter Message.isSend

/-- The messages that send coins are those among the messages of a response. -/
@[simp] theorem sends_ofMessages (attributes : List (String × String)) (messages : List Message) :
    (ofMessages attributes messages).sends = messages.filter Message.isSend := by
  simp [sends, ofMessages, Function.comp_def]

/-- A response that neither mints a token nor sends coins. -/
def Idle (r : Response) : Prop := r.mints = [] ∧ r.sends = []

end Response

namespace Store

/-- Two stores have the same escrow. -/
def SameEscrow (s t : Store) : Prop := t.balances = s.balances ∧ t.escrowTotals = s.escrowTotals

/-- A payment is split into parts, which are sent in the denomination of the configuration, or with
escrow are deposited. -/
def Settled (s : Store) (c : Config) (payment : Nat) (r : Response) (t : Store) : Prop :=
  ∃ parts, splitRevenue c payment = .ok parts ∧
    if c.escrowFunds then r.sends = [] ∧ (s.withDeposits parts).SameEscrow t
    else r.sends = (parts.map fun part => .send part.1 [c.price part.2]) ∧ s.SameEscrow t

/-- What a successful minting command has done: as many tokens as it yields are issued to a
recipient, each with its mint message, the mint is counted on the channel and what was paid is
settled. -/
structure Minted (s : Store) (call : Call) (command : Command) (c : Config) (channel : Channel)
    (recipient : Address) (tokens : List Token) (r : Response) (t : Store) : Prop where
  config : s.config = some c
  booked : command.channel? c call.env.time = some channel
  named : resolveRecipient c call.sender command.named? = .ok recipient
  issued : ∃ a b, s.allocator? = some a ∧ t.allocator? = some b ∧
    a.Issues channel.takesFrom tokens b ∧ command.Yields c a tokens.length
  mints : List.Forall₂ (s.Mints recipient) tokens r.mints
  counted : ∃ count,
    s.checkMint c call.env.time channel recipient (channel.units tokens.length) = .ok count ∧
    t.trackers = (s.withMintCount channel recipient count).trackers
  denoms : ∀ coin ∈ call.funds, coin.denom = c.denom
  settled : s.Settled c call.paid r t
  balanced : t.EscrowBalanced
  kept : t.collections = s.collections ∧ t.collectionContracts = s.collectionContracts ∧
    t.contractInfo = s.contractInfo

end Store

/-- What a transaction that succeeds in a store answers and leaves behind it. -/
inductive Transaction.Effect (s : Store) : Transaction → Response → Store → Prop where
  | minted {call : Call} {command : Command} {c : Config} {channel : Channel}
      {recipient : Address} {tokens : List Token} {r : Response} {t : Store} {completed : Bool}
      (hminted : s.Minted call command c channel recipient tokens r t)
      (hchannel : channel ≠ .customBundle) (hstaged : t.staged = s.staged)
      (hcompleted : c.bundleCompleted = true → completed = true)
      (hconfig : t.config = some { c with bundleCompleted := completed }) :
    Effect s (.command call command) r t
  | sold {call : Call} {c : Config} {staged : List Token} {r : Response} {t : Store}
      (hminted : s.Minted call .mintCustomBundle c .customBundle call.sender
        (staged.take c.customCount) r t)
      (hlisted : s.staged = some staged) (henough : c.customCount ≤ staged.length)
      (hstaged : t.staged = some (staged.drop c.customCount))
      (hopen : c.customEnabled = true ∧ c.customCompleted = false)
      (hconfig : t.config = some
        { c with customCompleted := (staged.drop c.customCount).length < c.customCount }) :
    Effect s (.command call .mintCustomBundle) r t
  | configured {call : Call} {patch : ConfigPatch} {c c' : Config} {r : Response}
      (hc : s.config = some c) (hallowed : c.canAdminister call.sender = true)
      (hpatch : patch.apply c = (.ok (), c')) (hvalid : c'.validate = .ok ()) (hidle : r.Idle) :
    Effect s (.command call (.updateConfig patch)) r (s.withConfig c')
  | planned {call : Call} {target : Target} {plan : ModulePlan} {c : Config} {r : Response}
      (hc : s.config = some c) (hallowed : c.canAdminister call.sender = true) (hidle : r.Idle) :
    Effect s (.command call (.initModule target plan)) r s
  | forwarded {call : Call} {target : Target} {message : HookMessage} {c : Config} {r : Response}
      (hc : s.config = some c) (hallowed : c.canAdminister call.sender = true) (hidle : r.Idle) :
    Effect s (.command call (.forward target message)) r s
  | cleaned {call : Call} {c : Config} {a b : Allocator} {assigned : List Token} {r : Response}
      (hc : s.config = some c) (hallowed : c.canAdminister call.sender = true)
      (ha : s.allocator? = some a) (hb : (s.withAllocator b).allocator? = some b)
      (hmoves : a.Moves [] b)
      (hstanding : ∀ t, b.standing t =
        if t ∈ assigned ∧ a.standing t = some .pending then some .reserved else a.standing t)
      (hidle : r.Idle) :
    Effect s (.command call .cleanAssigned) r (s.withAllocator b)
  | shuffled {call : Call} {a b : Allocator} {r : Response}
      (ha : s.allocator? = some a) (hb : (s.withAllocator b).allocator? = some b)
      (hmoves : a.Moves [] b) (hstanding : ∀ t, b.standing t = a.standing t) (hidle : r.Idle) :
    Effect s (.command call .shuffle) r (s.withAllocator b)
  | paidOut {call : Call} {address : String} {payee : Address} {c : Config} {r : Response}
      (hc : s.config = some c) (hallowed : c.canAdminister call.sender = true)
      (hmints : r.mints = [])
      (hsends : r.sends = if s.balanceOf payee = 0 then []
        else [.send payee [c.price (s.balanceOf payee)]]) :
    Effect s (.command call (.disburse address)) r (s.withPayout payee)
  | staged {call : Call} {count price : Nat} {purge : Bool} {tokens : Option (List Token)}
      {c : Config} {a b : Allocator} {kept : List Token} {r : Response} {t : Store}
      (hc : s.config = some c) (hallowed : c.canAdminister call.sender = true)
      (hcount : count ≠ 0) (ha : s.allocator? = some a) (hb : t.allocator? = some b)
      (hmoves : a.Moves [] b)
      (hkept : kept = (if purge then [] else s.stagedTokens) ++ tokens.getD [])
      (hnew : (tokens.getD []).Nodup ∧
        ∀ token ∈ tokens.getD [], token ∉ (if purge then [] else s.stagedTokens))
      (hstanding : ∀ token, b.standing token =
        if token ∈ tokens.getD [] then some .staged
        else if purge = true ∧ token ∈ s.stagedTokens ∧ a.standing token = some .staged then
          some .pending
        else a.standing token)
      (hidle : r.Idle)
      (ht : t = ((s.withAllocator b).withStaged kept).withConfig
        (CustomBundle.withTerms c count price kept.length)) :
    Effect s (.command call (.stageBundle count price purge tokens)) r t
  | attached {id : Nat} {result : CreationResult} {child : ChildContract} {contract : Address}
      {r : Response} (hidle : r.Idle) :
    Effect s (.reply id result) r (s.withChild contract child)
  | migrated {info : Option ContractInfo} {r : Response} (hidle : r.Idle) :
    Effect s .migration r { s with contractInfo := info }

variable {s t u : Store} {r : Response} {c : Config}

/-! ## Messages -/

/-- The mint messages are those that have a token minted to somebody. -/
theorem Message.isMint_eq (m : Message) : m.isMint = m.owner?.isSome := by
  unfold isMint owner?
  split <;> simp_all

/-- Where two lists are related place by place, every entry of the second has one of the first. -/
theorem exists_of_forall₂ {α β : Type} {R : α → β → Prop} {xs : List α} {ys : List β}
    (h : List.Forall₂ R xs ys) {y : β} (hy : y ∈ ys) : ∃ x ∈ xs, R x y := by
  induction h with
  | nil => cases hy
  | cons hfirst _ ih =>
    rcases List.mem_cons.mp hy with rfl | hy
    · exact ⟨_, List.mem_cons_self, hfirst⟩
    · obtain ⟨x, hx, hrelated⟩ := ih hy
      exact ⟨x, List.mem_cons_of_mem _ hx, hrelated⟩

/-- A message that is among those that mint tokens mints one of them. -/
theorem Store.exists_mints {owner : Address} {tokens : List Token} {messages : List Message}
    (h : List.Forall₂ (s.Mints owner) tokens messages) {m : Message} (hm : m ∈ messages) :
    ∃ token ∈ tokens, s.Mints owner token m :=
  exists_of_forall₂ h hm

/-- A token that is among those that messages mint is minted by one of them. -/
theorem Store.exists_mint_of_mem {owner : Address} {tokens : List Token} {messages : List Message}
    (h : List.Forall₂ (s.Mints owner) tokens messages) {token : Token} (ht : token ∈ tokens) :
    ∃ m ∈ messages, s.Mints owner token m :=
  exists_of_forall₂ h.flip ht

/-- Messages that mint tokens to an owner have that owner. -/
theorem Store.owner?_of_mints {owner : Address} {tokens : List Token} {messages : List Message}
    (h : List.Forall₂ (s.Mints owner) tokens messages) :
    ∀ m ∈ messages, m.owner? = some owner := by
  intro m hm
  obtain ⟨_, -, _, _, _, _, rfl⟩ := exists_mints h hm
  rfl

/-- A message that mints a token sends no coins. -/
theorem Store.Mints.isSend_eq {owner : Address} {token : Token} {m : Message}
    (h : s.Mints owner token m) : m.isSend = false := by
  obtain ⟨_, _, _, _, rfl⟩ := h
  rfl

/-- Messages that mint tokens one by one send no coins. -/
theorem Store.filter_isSend_of_mints {owner : Address} {tokens : List Token}
    {messages : List Message} (h : List.Forall₂ (s.Mints owner) tokens messages) :
    messages.filter Message.isSend = [] := by
  induction h with
  | nil => rfl
  | cons hfirst _ ih => rw [List.filter_cons_of_neg (by simp [hfirst.isSend_eq]), ih]

/-- Payments that are sent mint nothing. -/
theorem filter_isMint_sends (c : Config) (parts : List (Address × Nat)) :
    (parts.map fun part => Message.send part.1 [c.price part.2]).filter Message.isMint = [] := by
  induction parts with
  | nil => rfl
  | cons part rest ih => exact ih

/-- Payments that are sent all send coins. -/
theorem filter_isSend_sends (c : Config) (parts : List (Address × Nat)) :
    (parts.map fun part => Message.send part.1 [c.price part.2]).filter Message.isSend =
      parts.map fun part => .send part.1 [c.price part.2] := by
  induction parts with
  | nil => rfl
  | cons part rest ih => exact congrArg _ ih

/-- Tokens that are issued by name are minted by the messages that go with them, when each token's
messages hold one that mints it. -/
theorem Airdrop.Issued.mints {claim : Token → Step Allocator Unit}
    {messages : Token → Step Store (List Message)} {owner : Address} {tokens : List Token}
    {a b : Allocator} {made : List Message} (h : Issued claim messages s tokens a made b)
    (hmessages : ∀ (token : Token) (first : List Message), messages token s = (.ok first, s) →
      ∃ m, s.Mints owner token m ∧ first.filter Message.isMint = [m]) :
    List.Forall₂ (s.Mints owner) tokens (made.filter Message.isMint) := by
  induction h with
  | nil => exact .nil
  | cons _ hfirst _ ih =>
    obtain ⟨m, hm, hfilter⟩ := hmessages _ _ hfirst
    rw [List.filter_append, hfilter]
    exact .cons hm ih

/-- Promised tokens that are claimed are minted to their recipient. -/
theorem Airdrop.Issued.mints_claimed {claim : Token → Step Allocator Unit}
    {contract recipient : Address} {tokens : List Token} {a b : Allocator} {made : List Message}
    (h : Issued claim (claimMessages contract recipient) s tokens a made b) :
    List.Forall₂ (s.Mints recipient) tokens (made.filter Message.isMint) :=
  h.mints fun token first hfirst => by
    obtain ⟨⟨m, hm, rfl⟩, -⟩ := claimMessages_eq_ok_iff.mp hfirst
    exact ⟨m, hm, by rw [List.filter_cons_of_pos hm.isMint]; rfl⟩

/-- Tokens that are issued by name send no coins when the messages of none of them do. -/
theorem Airdrop.Issued.filter_isSend_eq {claim : Token → Step Allocator Unit}
    {messages : Token → Step Store (List Message)} {tokens : List Token}
    {a b : Allocator} {made : List Message} (h : Issued claim messages s tokens a made b)
    (hmessages : ∀ (token : Token) (first : List Message), messages token s = (.ok first, s) →
      first.filter Message.isSend = []) : made.filter Message.isSend = [] := by
  induction h with
  | nil => rfl
  | cons _ hfirst _ ih => rw [List.filter_append, hmessages _ _ hfirst, ih, List.nil_append]

/-! ## Settlements -/

/-- A deposit changes two escrows that are the same in the same way. -/
theorem Store.SameEscrow.withDeposit (h : s.SameEscrow u) (payee : Address) (amount : Nat) :
    (s.withDeposit payee amount).SameEscrow (u.withDeposit payee amount) := by
  obtain ⟨hbalances, htotals⟩ := h
  unfold Store.withDeposit balanceOf totals
  split
  · exact ⟨hbalances, htotals⟩
  · exact ⟨by rw [hbalances], by rw [htotals]⟩

/-- So do deposits one after the other. -/
theorem Store.SameEscrow.withDeposits (h : s.SameEscrow u) (parts : List (Address × Nat)) :
    (s.withDeposits parts).SameEscrow (u.withDeposits parts) := by
  induction parts generalizing s u with
  | nil => exact h
  | cons part rest ih => exact ih (h.withDeposit part.1 part.2)

/-- What is settled by the shares, the escrow switch and the denomination of a configuration is
settled by that configuration. -/
theorem Store.settled_of_settleRevenue {c' : Config} (hroyalties : c'.royalties = c.royalties)
    (hescrow : c'.escrowFunds = c.escrowFunds) (hdenom : c'.denom = c.denom) {payment : Nat}
    {payouts : List Message}
    (hsettle : Escrow.settleRevenue c' payment u = (.ok payouts, t)) (hsame : s.SameEscrow u)
    (hsends : r.sends = payouts.filter Message.isSend) : s.Settled c payment r t := by
  obtain ⟨-, -, parts, hparts, hsettled⟩ := Escrow.settleRevenue_eq_ok hsettle
  have hsplit : splitRevenue c payment = .ok parts := by
    rwa [splitRevenue, hroyalties, ← splitRevenue] at hparts
  refine ⟨parts, hsplit, ?_⟩
  rw [hescrow] at hsettled
  split at hsettled
  · next hon =>
    obtain ⟨rfl, rfl⟩ := hsettled
    rw [if_pos hon]
    exact ⟨hsends, hsame.withDeposits parts⟩
  · next hoff =>
    obtain ⟨rfl, rfl⟩ := hsettled
    rw [if_neg hoff]
    have hprice (amount : Nat) : c'.price amount = c.price amount := by
      rw [Config.price, hdenom, Config.price]
    simp only [hprice] at hsends
    exact ⟨hsends.trans (filter_isSend_sends c parts), hsame⟩

/-- The messages of a settlement mint nothing. -/
theorem filter_isMint_of_settleRevenue {payment : Nat} {payouts : List Message}
    (hsettle : Escrow.settleRevenue c payment u = (.ok payouts, t)) :
    payouts.filter Message.isMint = [] := by
  obtain ⟨-, -, parts, -, hsettled⟩ := Escrow.settleRevenue_eq_ok hsettle
  split at hsettled
  · rw [hsettled.1]
    rfl
  · rw [hsettled.1]
    exact filter_isMint_sends c parts

/-! ## Minting -/

/-- A random mint is booked on the channel of the collaborator that it goes through. -/
theorem Mint.channel?_eq {now : Nat} {promised : Bool} {named : Option String}
    {through : Option Collaborator} (h : gatekeeper c now promised = .ok through) :
    (Command.mint promised named).channel? c now = some (channelOf through) := by
  simp only [gatekeeper] at h
  simp only [Command.channel?]
  split at h
  · next hpromised =>
    rw [if_pos hpromised]
    split at h
    · rw [← Except.ok.inj h]
      rfl
    · cases h
  · next hother =>
    rw [if_neg hother]
    split at h
    · next hearly =>
      rw [← Except.ok.inj h]
      cases hwhitelist : c.whitelist <;> simp [hearly, channelOf, Collaborator.channel]
    · next hlate =>
      rw [if_neg fun hboth => hlate hboth.1, ← Except.ok.inj h]
      rfl

/-- The channel of a random mint counts tokens, takes pending ones and is not that of the custom
bundle. -/
theorem Mint.channelOf_cases (through : Option Collaborator) :
    .pending ∈ (channelOf through).takesFrom ∧ (channelOf through).units 1 = 1 ∧
      channelOf through ≠ .customBundle := by
  cases through with
  | none => simp [channelOf, Channel.takesFrom, Channel.units]
  | some collaborator =>
    cases collaborator <;> simp [channelOf, Collaborator.channel, Channel.takesFrom, Channel.units]

/-- What a collaborator is told of a mint neither mints nor sends. -/
theorem Mint.filter_report (through : Option Collaborator) (recipient : Address) :
    ((through.map fun g => g.recordMint recipient).toList).filter Message.isMint = [] ∧
      ((through.map fun g => g.recordMint recipient).toList).filter Message.isSend = [] := by
  cases through with
  | none => exact ⟨rfl, rfl⟩
  | some collaborator => cases collaborator <;> exact ⟨rfl, rfl⟩

/-- Of the messages of a random mint one mints, which is the one that mints the drawn token. -/
theorem Mint.mints_eq {recipient : Address} {token : Token} {m : Message}
    (hm : s.Mints recipient token m) {payment : Nat} {payouts : List Message}
    (hsettle : Escrow.settleRevenue c payment u = (.ok payouts, t))
    (attributes : List (String × String)) (through : Option Collaborator) :
    (Response.ofMessages attributes
      (m :: (through.map fun g => g.recordMint recipient).toList ++ payouts)).mints = [m] := by
  rw [Response.mints_ofMessages, List.cons_append, List.filter_cons_of_pos hm.isMint,
    List.filter_append, (Mint.filter_report through recipient).1,
    filter_isMint_of_settleRevenue hsettle]
  rfl

namespace Store.Sound

/-- A sale that has issued its tokens on a copy, counts the mint, stores the copy and settles the
payment has minted. The list of staged tokens and the configuration may change in between. -/
theorem minted_of_settle (hs : s.Sound) (call : Call) (command : Command) {channel : Channel}
    {recipient : Address} {tokens : List Token} {a b : Allocator} {count price payment : Nat}
    {staged : Option (List Token)} {config : Option Config} {c' : Config} {payouts : List Message}
    (hc : s.config = some c) (hbooked : command.channel? c call.env.time = some channel)
    (hnamed : resolveRecipient c call.sender command.named? = .ok recipient)
    (ha : s.allocator? = some a) (hissues : a.Issues channel.takesFrom tokens b)
    (hyields : command.Yields c a tokens.length)
    (hmints : List.Forall₂ (s.Mints recipient) tokens r.mints)
    (hcount : s.checkMint c call.env.time channel recipient (channel.units tokens.length) =
      .ok count)
    (hpayment : checkPayment c call.funds price = .ok payment)
    (hsettle : Escrow.settleRevenue c' payment u = (.ok payouts, t))
    (hu : u = { (s.withMintCount channel recipient count).withAllocator b with
      staged := staged, config := config })
    (hroyalties : c'.royalties = c.royalties) (hescrow : c'.escrowFunds = c.escrowFunds)
    (hdenom : c'.denom = c.denom)
    (hsends : r.sends = payouts.filter Message.isSend) :
    s.Minted call command c channel recipient tokens r t ∧ t.staged = staged ∧
      t.config = config := by
  obtain ⟨honly, hbalanced, -⟩ := Escrow.settleRevenue_eq_ok hsettle
  have hstored := allocator?_withAllocator ha (hs.consistent ha) hissues.moves
  have hsettled : s.Settled c payment r t :=
    settled_of_settleRevenue hroyalties hescrow hdenom hsettle (by rw [hu]; exact ⟨rfl, rfl⟩) hsends
  rw [checkPayment_eq_paid hpayment] at hsettled
  have hallocator := honly.view_eq Store.allocator? fun _ _ _ => rfl
  have htrackers := honly.view_eq Store.trackers fun _ _ _ => rfl
  have hcollections := honly.view_eq Store.collections fun _ _ _ => rfl
  have hcontracts := honly.view_eq Store.collectionContracts fun _ _ _ => rfl
  have hinfo := honly.view_eq Store.contractInfo fun _ _ _ => rfl
  have hlisted := honly.view_eq Store.staged fun _ _ _ => rfl
  have hconfigured := honly.view_eq Store.config fun _ _ _ => rfl
  rw [hu] at hallocator htrackers hcollections hcontracts hinfo hlisted hconfigured
  exact ⟨⟨hc, hbooked, hnamed, ⟨a, b, ha, hallocator.trans hstored, hissues, hyields⟩, hmints,
    ⟨count, hcount, htrackers⟩, checkPayment_denom hpayment, hsettled,
    hbalanced (by rw [hu]; exact hs.balanced.congr rfl rfl), ⟨hcollections, hcontracts, hinfo⟩⟩,
    hlisted, hconfigured⟩

/-- What a random mint does. -/
theorem effect_mint (hs : s.Sound) {call : Call} {promised : Bool} {named : Option String}
    {v : CallState} (h : call.mint promised named ⟨s, []⟩ = (.ok r, v)) :
    Transaction.Effect s (.command call (.mint promised named)) r v.store := by
  obtain ⟨c, recipient, through, -, price, payment, w, hc, hrecipient, hthrough, -, hprice,
    hpayment, hdraw⟩ := Call.mint_eq_ok h
  rw [(Mint.keeps_priceOf _ _ _ _).view_eq hprice] at hdraw
  obtain ⟨a, shuffled, b, token, m, count, payouts, ha, hshuffled, hnext, hm, hcount, hsettle, hr⟩ :=
    Mint.draw_eq_ok hdraw
  obtain ⟨hpending, hunits, hcustom⟩ := Mint.channelOf_cases through
  have hsendless := (Mint.filter_report through recipient).2
  have hissues := (hs.consistent ha).issues_of_ensureShuffled hshuffled fun h => h.next_issues hnext
  have hmints : r.mints = [m] := by
    rw [hr]
    exact Mint.mints_eq hm hsettle _ through
  have hsends : r.sends = payouts.filter Message.isSend := by
    rw [hr, Response.sends_ofMessages, List.cons_append,
      List.filter_cons_of_neg (by simp [hm.isSend_eq]), List.filter_append, hsendless,
      List.nil_append]
  obtain ⟨hminted, hstaged, hconfig⟩ := hs.minted_of_settle call _ hc (Mint.channel?_eq hthrough)
    hrecipient ha (hissues.mono (by simpa using hpending)) rfl
    (by rw [hmints]; exact .cons hm .nil) (by rw [List.length_singleton, hunits]; exact hcount)
    hpayment hsettle rfl rfl rfl rfl hsends
  exact .minted hminted hcustom hstaged id (hconfig.trans hc)

/-- What minting a bundle does. -/
theorem effect_mintBundle (hs : s.Sound) {call : Call} (h : call.mintBundle s = (.ok r, t)) :
    Transaction.Effect s (.command call .mintBundle) r t := by
  obtain ⟨c, count, payment, a, shuffled, b, tokens, mints, exhausted, c', closed, payouts, hc,
    hcount, hpayment, ha, hshuffled, hdraw, hmints, -, hclosed, hsettle, hr⟩ :=
    Call.mintBundle_eq_ok h
  have hshuffle := Allocator.Consistent.ensureShuffled_moves hshuffled
  obtain ⟨hdrawn, hlength⟩ :=
    Bundle.drawEach_issues (hshuffle.consistent (hs.consistent ha)) hdraw
  have hissues := (hs.consistent ha).issues_of_ensureShuffled hshuffled fun _ => hdrawn
  have hminted : r.mints = mints := by
    rw [hr, Response.mints_ofMessages, List.filter_append, filter_isMint_of_mints hmints,
      filter_isMint_of_settleRevenue hsettle, List.append_nil]
  have hsends : r.sends = payouts.filter Message.isSend := by
    rw [hr, Response.sends_ofMessages, List.filter_append, filter_isSend_of_mints hmints,
      List.nil_append]
  rw [← hminted] at hmints
  rcases Bundle.close_eq_ok hclosed with ⟨-, rfl, rfl⟩ | ⟨-, rfl, rfl⟩
  · obtain ⟨hdone, hstaged, hconfig⟩ := hs.minted_of_settle call .mintBundle hc rfl rfl ha
      hissues hlength hmints hcount hpayment hsettle rfl rfl rfl rfl hsends
    exact .minted hdone nofun hstaged (fun _ => rfl) hconfig
  · obtain ⟨hdone, hstaged, hconfig⟩ := hs.minted_of_settle call .mintBundle hc rfl rfl ha
      hissues hlength hmints hcount hpayment hsettle rfl rfl rfl rfl hsends
    exact .minted hdone nofun hstaged id (hconfig.trans hc)

/-- What claiming promised tokens does. -/
theorem effect_claimAirdrop (hs : s.Sound) {call : Call} {limit : Option Nat}
    {named : Option String} {v : CallState} (h : call.claimAirdrop limit named ⟨s, []⟩ = (.ok r, v)) :
    Transaction.Effect s (.command call (.claimAirdrop limit named)) r v.store := by
  obtain ⟨c, recipient, contract, promised, w, hfunds, hc, hrecipient, -, hpromised, -, -,
    hsome, hissue⟩ := Call.claimAirdrop_eq_ok h
  rw [(CallState.keeps_ask _ _).view_eq hpromised] at hissue
  obtain ⟨count, a, shuffled, b, made, hcount, ha, hshuffled, hissued, hstore, hr⟩ :=
    Airdrop.issue_eq_ok hissue
  have hissues := (hs.consistent ha).issues_of_ensureShuffled hshuffled hissued.issues_claimed
  have hmints := hissued.mints_claimed
  have hsends : made.filter Message.isSend = [] := hissued.filter_isSend_eq fun _ _ hfirst => by
    obtain ⟨⟨m, hm, rfl⟩, -⟩ := Airdrop.claimMessages_eq_ok_iff.mp hfirst
    rw [List.filter_cons_of_neg (by simp [hm.isSend_eq])]
    rfl
  have hstored := allocator?_withAllocator ha (hs.consistent ha) hissues.moves
  have hsettled : s.Settled c call.paid r v.store := by
    refine ⟨[], by rw [Call.paid_eq_zero hfunds, splitRevenue_zero], ?_⟩
    rw [hr, hstore, Response.sends_ofMessages, hsends]
    split <;> exact ⟨rfl, rfl, rfl⟩
  rw [← Response.mints_ofMessages, ← hr] at hmints
  have hbalanced : v.store.EscrowBalanced := by
    rw [hstore]
    exact hs.balanced.congr rfl rfl
  refine .minted ⟨hc, rfl, hrecipient, ⟨a, b, ha, ?_, hissues, List.length_pos_iff.mpr hsome⟩,
    hmints, ⟨count, hcount, ?_⟩, by simp [hfunds], hsettled, hbalanced, ?_⟩ nofun ?_ id ?_
  · rw [hstore]
    exact hstored
  · rw [hstore]
    rfl
  · rw [hstore]
    exact ⟨rfl, rfl, rfl⟩
  · rw [hstore]
    rfl
  · rw [hstore]
    exact hc

/-- What selling a custom bundle does. -/
theorem effect_mintCustomBundle (hs : s.Sound) {call : Call}
    (h : call.mintCustomBundle s = (.ok r, t)) :
    Transaction.Effect s (.command call .mintCustomBundle) r t := by
  obtain ⟨c, -, payment, staged, hc, -, hpayment, hlisted, henough, hsell⟩ :=
    Call.mintCustomBundle_eq_ok h
  obtain ⟨a, shuffled, b, made, count, c', closed, payouts, ha, hshuffled, hissued, hcount, hclosed,
    hsettle, hr⟩ := CustomBundle.sell_eq_ok hsell
  have hopen := Channel.customBundle_of_active (checkMint_eq_ok_iff.mp hcount).1
  have hissues := (hs.consistent ha).issues_of_ensureShuffled hshuffled <|
    hissued.issues (by simp) fun _ _ _ h hok => h.claimStaged_issues hok
  have hmade := @Airdrop.Issued.mints s _ _ call.sender _ _ _ _ hissued fun token first hfirst => by
    obtain ⟨⟨m, hm, rfl⟩, -⟩ := CustomBundle.sellMessages_eq_ok_iff.mp hfirst
    exact ⟨m, hm, by rw [List.filter_cons_of_pos hm.isMint]; rfl⟩
  have hsendless : made.filter Message.isSend = [] := hissued.filter_isSend_eq fun _ _ hfirst => by
    obtain ⟨⟨m, hm, rfl⟩, -⟩ := CustomBundle.sellMessages_eq_ok_iff.mp hfirst
    rw [List.filter_cons_of_neg (by simp [hm.isSend_eq])]
    rfl
  have hmints : r.mints = made.filter Message.isMint := by
    rw [hr, Response.mints_ofMessages, List.filter_append, filter_isMint_of_settleRevenue hsettle,
      List.append_nil]
  have hsends : r.sends = payouts.filter Message.isSend := by
    rw [hr, Response.sends_ofMessages, List.filter_append, hsendless, List.nil_append]
  rw [← hmints] at hmade
  have hyields : (staged.take c.customCount).length = c.customCount :=
    List.length_take_of_le henough
  rcases CustomBundle.close_eq_ok hclosed with ⟨hfew, rfl, rfl⟩ | ⟨hmany, rfl, rfl⟩
  · obtain ⟨hdone, hstaged, hconfig⟩ := hs.minted_of_settle call .mintCustomBundle hc rfl rfl ha
      hissues hyields hmade hcount hpayment hsettle rfl rfl rfl rfl hsends
    exact .sold hdone hlisted henough hstaged hopen (by rw [hconfig, decide_eq_true hfew])
  · obtain ⟨hdone, hstaged, hconfig⟩ := hs.minted_of_settle call .mintCustomBundle hc rfl rfl ha
      hissues hyields hmade hcount hpayment hsettle rfl rfl rfl rfl hsends
    refine .sold hdone hlisted henough hstaged hopen ?_
    rw [hconfig, decide_eq_false (Nat.not_lt.mpr hmany), ← hopen.2]
    exact hc

/-! ## The other transactions -/

/-- What changing settings does. -/
theorem effect_updateConfig {call : Call} {patch : ConfigPatch}
    (h : call.updateConfig patch s = (.ok r, t)) :
    Transaction.Effect s (.command call (.updateConfig patch)) r t := by
  obtain ⟨before, after, -, hc, hallowed, -, hpatch, hvalid, rfl, rfl⟩ :=
    Call.updateConfig_eq_ok_iff.mp h
  refine .configured hc hallowed hpatch hvalid ?_
  rw [Response.Idle, Response.mints_ofMessages, Response.sends_ofMessages, Config.maintainerMessages]
  split
  · exact ⟨rfl, rfl⟩
  · constructor
    · refine List.filter_eq_nil_iff.mpr fun m hm => ?_
      obtain ⟨collaborator, -, rfl⟩ := List.mem_map.mp hm
      simp [Collaborator.updateMaintainer, Message.isMint]
    · refine List.filter_eq_nil_iff.mpr fun m hm => ?_
      obtain ⟨collaborator, -, rfl⟩ := List.mem_map.mp hm
      simp [Collaborator.updateMaintainer, Message.isSend]

/-- What shuffling does. -/
theorem effect_shuffle (hs : s.Sound) {call : Call} (h : call.shuffle s = (.ok r, t)) :
    Transaction.Effect s (.command call .shuffle) r t := by
  obtain ⟨c, a, b, messages, -, ha, hshuffle, hmessages, rfl, rfl⟩ := Call.shuffle_eq_ok h
  have hmoves := Allocator.Consistent.initializeShuffle_moves hshuffle
  refine .shuffled ha (allocator?_withAllocator ha (hs.consistent ha) hmoves) hmoves
    (Allocator.Consistent.standing_initializeShuffle hshuffle) ?_
  rw [Response.Idle, Response.mints_ofMessages, Response.sends_ofMessages]
  rcases chargeShuffle_eq_ok hmessages with ⟨-, -, rfl⟩ | ⟨-, rfl⟩ <;> exact ⟨rfl, rfl⟩

/-- What reserving the assigned tokens does. -/
theorem effect_cleanAssigned (hs : s.Sound) {call : Call} {v : CallState}
    (h : call.cleanAssigned ⟨s, []⟩ = (.ok r, v)) :
    Transaction.Effect s (.command call .cleanAssigned) r v.store := by
  obtain ⟨c, contract, assigned, w, a, b, removed, -, hc, hallowed, -, hassigned, ha, hreserve,
    hstore, rfl⟩ := Call.cleanAssigned_eq_ok h
  rw [(Airdropper.keeps_assignedAfter _ _ _ _).view_eq hassigned] at ha hstore
  have hmoves := (hs.consistent ha).reserveAll_moves hreserve
  rw [hstore]
  exact .cleaned hc hallowed ha (allocator?_withAllocator ha (hs.consistent ha) hmoves) hmoves
    ((hs.consistent ha).reserveAll_standing hreserve) ⟨rfl, rfl⟩

/-- What paying out does. -/
theorem effect_disburse {call : Call} {address : String}
    (h : call.disburse address s = (.ok r, t)) :
    Transaction.Effect s (.command call (.disburse address)) r t := by
  obtain ⟨c, payee, -, hc, hallowed, -, rfl, rfl⟩ := Call.disburse_eq_ok h
  refine .paidOut hc hallowed ?_ ?_
  · rw [Response.mints_ofMessages]
    split <;> rfl
  · rw [Response.sends_ofMessages]
    split <;> rfl

/-- What staging does. -/
theorem effect_stageBundle (hs : s.Sound) {call : Call} {count price : Nat} {purge : Bool}
    {tokens : Option (List Token)} {v : CallState}
    (h : call.stageBundle count price purge tokens ⟨s, []⟩ = (.ok r, v)) :
    Transaction.Effect s (.command call (.stageBundle count price purge tokens)) r v.store := by
  obtain ⟨c, a, assigned, w, released, kept, b, -, hc, hallowed, hcount, ha, hassigned, hrestage,
    hstore, rfl⟩ := Call.stageBundle_eq_ok h
  rw [(CustomBundle.keeps_assignedTokens _ _ _).view_eq hassigned] at hstore
  have hmoves := CustomBundle.restage_moves (hs.consistent ha) hrestage
  obtain ⟨hkept, hnodup, hnew, hstanding⟩ :=
    CustomBundle.restage_standing (hs.consistent ha) hrestage
  refine .staged hc hallowed hcount ha ?_ hmoves hkept ⟨hnodup, hnew⟩ hstanding ⟨rfl, rfl⟩ hstore
  rw [hstore]
  exact allocator?_withAllocator ha (hs.consistent ha) hmoves

/-- What a command does, in a call that has asked nothing yet. -/
theorem effect_execute (hs : s.Sound) {call : Call} {command : Command} {v : CallState}
    (h : call.execute command ⟨s, []⟩ = (.ok r, v)) :
    Transaction.Effect s (.command call command) r v.store := by
  cases command with
  | mint promised named => exact hs.effect_mint h
  | claimAirdrop limit named => exact hs.effect_claimAirdrop h
  | cleanAssigned => exact hs.effect_cleanAssigned h
  | stageBundle count price purge tokens => exact hs.effect_stageBundle h
  | mintBundle =>
    obtain ⟨t, hmint, rfl⟩ := CallState.onStore_eq_ok_iff.mp h
    exact hs.effect_mintBundle hmint
  | mintCustomBundle =>
    obtain ⟨t, hmint, rfl⟩ := CallState.onStore_eq_ok_iff.mp h
    exact hs.effect_mintCustomBundle hmint
  | updateConfig patch =>
    obtain ⟨t, hupdate, rfl⟩ := CallState.onStore_eq_ok_iff.mp h
    exact effect_updateConfig hupdate
  | shuffle =>
    obtain ⟨t, hshuffle, rfl⟩ := CallState.onStore_eq_ok_iff.mp h
    exact hs.effect_shuffle hshuffle
  | disburse address =>
    obtain ⟨t, hdisburse, rfl⟩ := CallState.onStore_eq_ok_iff.mp h
    exact effect_disburse hdisburse
  | initModule target plan =>
    obtain ⟨t, hinit, rfl⟩ := CallState.onStore_eq_ok_iff.mp h
    obtain ⟨c, id, -, hc, hallowed, -, rfl, rfl⟩ := Call.initModule_eq_ok hinit
    exact .planned hc hallowed ⟨rfl, rfl⟩
  | forward target message =>
    obtain ⟨t, hforward, rfl⟩ := CallState.onStore_eq_ok_iff.mp h
    obtain ⟨c, collaborator, forwarded, -, hc, hallowed, -, hforwarded, rfl, rfl⟩ :=
      Call.forward_eq_ok hforward
    obtain ⟨contract, payload, rfl, -⟩ := Collaborator.forward_eq_ok hforwarded
    exact .forwarded hc hallowed ⟨rfl, rfl⟩

/-- Every transaction that succeeds on a sound store has the effect of its kind. -/
theorem effect (hs : s.Sound) {transaction : Transaction}
    (h : transaction.perform s = (.ok r, t)) : transaction.Effect s r t := by
  cases transaction with
  | command call command =>
    obtain ⟨asked, hexecute⟩ := CallState.fresh_eq_ok_iff.mp h
    exact hs.effect_execute hexecute
  | reply id result =>
    obtain ⟨child, text, contract, -, -, -, rfl, rfl⟩ := receiveReply_eq_ok h
    exact .attached ⟨rfl, rfl⟩
  | migration =>
    obtain ⟨stored, old, new, -, -, -, -, hversion, hdispatches⟩ := migrate_eq_ok h
    have hidle : r.Idle := by
      rw [Response.Idle, Response.mints, Response.sends, hdispatches]
      exact ⟨rfl, rfl⟩
    rcases hversion with ⟨-, rfl⟩ | ⟨-, rfl⟩
    · exact .migrated hidle
    · exact .migrated hidle

end Store.Sound

end ShuffleMint
