import ShuffleMint.Proofs.Run.Gates
import ShuffleMint.Proofs.Run.Issuance

/-!
# Who is sent a message

A mint executes other contracts in three ways: it has the contract of a collection mint a token, it
reports to its collaborators, and it forwards to a collaborator what an administrator wants said.
Nothing keeps a collaborator from being the contract of a collection, which is then told what that
collaborator is told. Apart from that, the contracts of the collections are told to mint the tokens
that are issued, and nothing else.
-/

namespace ShuffleMint

/-- The messages of a response. -/
def Response.messages (r : Response) : List Message := r.dispatches.map Dispatch.message

/-- The messages of a response are those it is made of. -/
@[simp] theorem Response.messages_ofMessages (attributes : List (String × String))
    (messages : List Message) : (ofMessages attributes messages).messages = messages := by
  simp [Response.messages, ofMessages, Function.comp_def]

/-- A contract is attached as a collaborator. -/
def Config.Attaches (c : Config) (contract : Address) : Prop :=
  c.airdropper = some contract ∨ c.whitelist = some contract

namespace Store

/-- A contract is attached as a collaborator in the stored configuration. -/
def Attaches (s : Store) (contract : Address) : Prop :=
  ∃ c, s.config = some c ∧ c.Attaches contract

/-- A contract is stored as that of a collection. -/
def HasContract (s : Store) (contract : Address) : Prop :=
  ∃ id, s.collectionContracts.get? id = some contract

/-- A token is issued between two stores. -/
def NewlyIssues (s : Store) (token : Token) (t : Store) : Prop :=
  ∃ a b, s.allocator? = some a ∧ t.allocator? = some b ∧
    a.standing token ≠ some .issued ∧ b.standing token = some .issued

/-- A message that mints a token which is issued in between. -/
def MintsIssued (s : Store) (m : Message) (t : Store) : Prop :=
  ∃ owner token, s.Mints owner token m ∧ s.NewlyIssues token t

end Store

/-- What a transaction that leads from one store to another tells a collaborator. -/
inductive Transaction.Tells (s t : Store) : Transaction → Address → Payload → Prop where
  /-- A mint before the start tells the whitelist for whom it is. -/
  | whitelistMint {call : Call} {named : Option String} {c : Config}
      {contract recipient : Address} (hc : s.config = some c)
      (hattached : c.whitelist = some contract) (hbefore : call.env.time < c.startTime)
      (hnamed : resolveRecipient c call.sender named = .ok recipient) :
      Tells s t (.command call (.mint false named)) contract (.countWhitelistMint recipient)
  /-- A promised mint tells the airdropper for whom it is. -/
  | promisedMint {call : Call} {named : Option String} {c : Config}
      {contract recipient : Address} (hc : s.config = some c)
      (hattached : c.airdropper = some contract)
      (hnamed : resolveRecipient c call.sender named = .ok recipient) :
      Tells s t (.command call (.mint true named)) contract (.countPromisedMint recipient)
  /-- A claim tells the airdropper for whom it is, and each token that it issues. -/
  | claimedToken {call : Call} {limit : Option Nat} {named : Option String} {c : Config}
      {contract recipient : Address} {token : Token} (hc : s.config = some c)
      (hattached : c.airdropper = some contract)
      (hnamed : resolveRecipient c call.sender named = .ok recipient)
      (hissued : s.NewlyIssues token t) :
      Tells s t (.command call (.claimAirdrop limit named)) contract (.markClaimed recipient token)
  /-- An administrator has bytes forwarded to a collaborator, which are told as they are. -/
  | forwarded {call : Call} {target : Target} {c : Config} {contract : Address}
      {bytes : List UInt8} (hc : s.config = some c)
      (hallowed : c.canAdminister call.sender = true)
      (hattached : (c.attached target).map Collaborator.address = some contract) :
      Tells s t (.command call (.forward target (.execute contract bytes []))) contract (.raw bytes)
  /-- An administrator changes the maintainer, which the collaborators attached afterwards are
  told. -/
  | maintained {call : Call} {patch : ConfigPatch} {c c' : Config} {contract : Address}
      (hc : s.config = some c) (hallowed : c.canAdminister call.sender = true)
      (hc' : t.config = some c') (hchanged : c'.maintainer ≠ c.maintainer)
      (hattached : c'.Attaches contract) :
      Tells s t (.command call (.updateConfig patch)) contract (.setMaintainer c'.maintainer)

/-- A message of a transaction to a contract has it mint a token, or tells a collaborator
something. -/
def Transaction.Addressed (transaction : Transaction) (s t : Store) : Message → Prop
  | .execute contract payload =>
    (Message.execute contract payload).isMint = true ∨ transaction.Tells s t contract payload
  | _ => True

variable {s t u : Store} {r : Response} {c : Config} {transaction : Transaction}

/-! ## Tokens that are issued in between -/

namespace Allocator

variable {a b : Allocator} {tokens : List Token}

/-- The tokens that moves issue were not issued before them and are afterwards. -/
theorem Moves.standing_of_mem (h : a.Moves tokens b) (ha : a.Consistent) {t : Token}
    (ht : t ∈ tokens) : a.standing t ≠ some .issued ∧ b.standing t = some .issued := by
  have hb := h.consistent ha
  obtain ⟨slots, hslots, htokens⟩ := h.exists_issuedSlots_eq ha
  have hmapped : Except.ok t ∈ slots.map a.arena.tokenOf := by
    rw [htokens]
    exact List.mem_map_of_mem ht
  obtain ⟨slot, hslot, htoken⟩ := List.mem_map.mp hmapped
  have hafter := htoken
  rw [← h.tokenOf_eq] at hafter
  have hnodup := hb.arena.issued_nodup
  rw [hslots, List.nodup_append] at hnodup
  have hnew : slot ∉ a.arena.issuedSlots := fun hbefore => hnodup.2.2 slot hbefore slot hslot rfl
  have hdone : slot ∈ b.arena.issuedSlots := by
    rw [hslots]
    exact List.mem_append_right _ hslot
  rw [ha.standing_eq htoken, hb.standing_eq hafter]
  exact ⟨fun hissued => hnew ((ha.arena.issued_iff slot).mpr hissued),
    (hb.arena.issued_iff slot).mp hdone⟩

end Allocator

/-- The tokens that moves issue are issued between the stores that hold the allocators. -/
theorem Store.Sound.newlyIssues (hs : s.Sound) {a b : Allocator} {tokens : List Token}
    (ha : s.allocator? = some a) (hb : t.allocator? = some b) (hmoves : a.Moves tokens b)
    {token : Token} (htoken : token ∈ tokens) : s.NewlyIssues token t :=
  ⟨a, b, ha, hb, hmoves.standing_of_mem (hs.consistent ha) htoken⟩

/-- A mint message of a successful transaction mints a token that it issues. -/
theorem Store.Sound.mintsIssued (hs : s.Sound) (h : transaction.perform s = (.ok r, t))
    {m : Message} (hm : m ∈ r.messages) (hmint : m.isMint = true) : s.MintsIssued m t := by
  obtain ⟨tokens, owner, hadvance, hmints, -⟩ := hs.advances_perform h
  obtain ⟨a, b, ha, hb, hmoves⟩ := hadvance.moved
  obtain ⟨token, htoken, hminted⟩ := exists_mints hmints (List.mem_filter.mpr ⟨hm, hmint⟩)
  exact ⟨owner, token, hminted, hs.newlyIssues ha hb hmoves htoken⟩

/-! ## What collaborators are told -/

/-- The collaborators of a configuration are attached. -/
theorem Config.attaches_of_mem_collaborators {collaborator : Collaborator}
    (h : collaborator ∈ c.collaborators) : c.Attaches collaborator.address := by
  simp only [collaborators, List.mem_append, Option.mem_toList, Option.map_eq_some_iff] at h
  rcases h with ⟨contract, hcontract, rfl⟩ | ⟨contract, hcontract, rfl⟩
  · exact .inl hcontract
  · exact .inr hcontract

/-- The collaborator in the role that a target names is attached. -/
theorem Config.attaches_of_attached {target : Target} {contract : Address}
    (h : (c.attached target).map Collaborator.address = some contract) : c.Attaches contract := by
  obtain ⟨collaborator, hattached, rfl⟩ := Option.map_eq_some_iff.mp h
  apply attaches_of_mem_collaborators
  cases target with
  | nothing => cases hattached
  | airdropper => exact List.mem_append_left _ (Option.mem_toList.mpr hattached)
  | whitelist => exact List.mem_append_right _ (Option.mem_toList.mpr hattached)

namespace Transaction.Tells

variable {contract : Address} {payload : Payload}

/-- Whoever is told something is attached, before the transaction or after it. -/
theorem attaches (h : transaction.Tells s t contract payload) :
    s.Attaches contract ∨ t.Attaches contract := by
  cases h with
  | whitelistMint hc hattached => exact .inl ⟨_, hc, .inr hattached⟩
  | promisedMint hc hattached => exact .inl ⟨_, hc, .inl hattached⟩
  | claimedToken hc hattached => exact .inl ⟨_, hc, .inl hattached⟩
  | forwarded hc _ hattached => exact .inl ⟨_, hc, Config.attaches_of_attached hattached⟩
  | maintained _ _ hc' _ hattached => exact .inr ⟨_, hc', hattached⟩

/-- What a collaborator is told is none of the mint messages. -/
theorem isMint_eq (h : transaction.Tells s t contract payload) :
    (Message.execute contract payload).isMint = false := by
  cases h <;> rfl

end Transaction.Tells

/-! ## What the commands send -/

namespace Transaction

/-- A mint message is addressed as it should be. -/
theorem addressed_of_isMint {m : Message} (h : m.isMint = true) : transaction.Addressed s t m := by
  cases m with
  | execute contract payload => exact .inl h
  | _ => trivial

/-- Messages that mint tokens are addressed as they should be. -/
theorem addressed_of_mints {owner : Address} {tokens : List Token} {messages : List Message}
    (h : List.Forall₂ (s.Mints owner) tokens messages) :
    ∀ m ∈ messages, transaction.Addressed s t m := by
  intro m hm
  obtain ⟨token, -, hmints⟩ := Store.exists_mints h hm
  exact addressed_of_isMint hmints.isMint

/-- The messages of a settlement are no messages to contracts. -/
theorem addressed_of_settleRevenue {payment : Nat} {payouts : List Message} {v : Store}
    (hsettle : Escrow.settleRevenue c payment u = (.ok payouts, v)) :
    ∀ m ∈ payouts, transaction.Addressed s t m := by
  obtain ⟨-, -, parts, -, hsettled⟩ := Escrow.settleRevenue_eq_ok hsettle
  intro m hm
  split at hsettled
  · rw [hsettled.1] at hm
    cases hm
  · rw [hsettled.1] at hm
    obtain ⟨part, -, rfl⟩ := List.mem_map.mp hm
    trivial

end Transaction

open Transaction (addressed_of_isMint addressed_of_mints addressed_of_settleRevenue)

/-- The messages of tokens issued by name are addressed as they should be when those of each token
are. -/
theorem Airdrop.Issued.addressed {claim : Token → Step Allocator Unit}
    {messages : Token → Step Store (List Message)} {tokens : List Token}
    {a b : Allocator} {made : List Message} (h : Issued claim messages s tokens a made b)
    (hmessages : ∀ token ∈ tokens, ∀ first, messages token s = (.ok first, s) →
      ∀ m ∈ first, transaction.Addressed s t m) : ∀ m ∈ made, transaction.Addressed s t m := by
  induction h with
  | nil => simp
  | cons _ hfirst _ ih =>
    rw [List.forall_mem_cons] at hmessages
    rw [List.forall_mem_append]
    exact ⟨hmessages.1 _ hfirst, ih hmessages.2⟩

namespace Call

variable {call : Call}

/-- A random mint mints its token and reports to the collaborator that it goes through. -/
theorem addressed_mint {promised : Bool} {named : Option String} {v : CallState}
    (h : call.mint promised named ⟨s, []⟩ = (.ok r, v)) :
    ∀ m ∈ r.messages,
      (Transaction.command call (.mint promised named)).Addressed s v.store m := by
  obtain ⟨c, recipient, through, _, price, payment, w, hc, hnamed, hthrough, -, hprice, -, hdraw⟩ :=
    mint_eq_ok h
  rw [(Mint.keeps_priceOf _ _ _ _).view_eq hprice] at hdraw
  obtain ⟨_, _, _, token, minted, _, payouts, -, -, -, hminted, -, hsettle, rfl⟩ :=
    Mint.draw_eq_ok hdraw
  have hreport : ∀ m ∈ (through.map fun g => g.recordMint recipient).toList,
      (Transaction.command call (.mint promised named)).Addressed s v.store m := by
    rcases Mint.gatekeeper_eq_ok hthrough with
      ⟨rfl, contract, hattached, rfl⟩ | ⟨rfl, hbefore, contract, hattached, rfl⟩ | ⟨-, rfl⟩
    · rw [Option.map_some, Option.toList_some, List.forall_mem_singleton]
      exact .inr (.promisedMint hc hattached hnamed)
    · rw [Option.map_some, Option.toList_some, List.forall_mem_singleton]
      exact .inr (.whitelistMint hc hattached hbefore hnamed)
    · simp
  rw [Response.messages_ofMessages, List.cons_append, List.forall_mem_cons,
    List.forall_mem_append]
  exact ⟨addressed_of_isMint hminted.isMint, hreport, addressed_of_settleRevenue hsettle⟩

/-- A bundle mints its tokens. -/
theorem addressed_mintBundle (h : call.mintBundle s = (.ok r, t)) :
    ∀ m ∈ r.messages, (Transaction.command call .mintBundle).Addressed s t m := by
  obtain ⟨_, _, _, _, _, _, _, mints, _, _, _, payouts, -, -, -, -, -, -, hmints, -, -, hsettle,
    rfl⟩ := mintBundle_eq_ok h
  rw [Response.messages_ofMessages, List.forall_mem_append]
  exact ⟨addressed_of_mints hmints, addressed_of_settleRevenue hsettle⟩

/-- A claim mints each of its tokens and reports it to the airdropper. -/
theorem addressed_claimAirdrop (hs : s.Sound) {limit : Option Nat} {named : Option String}
    {v : CallState} (h : call.claimAirdrop limit named ⟨s, []⟩ = (.ok r, v)) :
    ∀ m ∈ r.messages,
      (Transaction.command call (.claimAirdrop limit named)).Addressed s v.store m := by
  obtain ⟨c, recipient, contract, _, w, -, hc, hnamed, hattached, hpromises, -, -, -, hissue⟩ :=
    claimAirdrop_eq_ok h
  rw [(CallState.keeps_ask _ _).view_eq hpromises] at hissue
  obtain ⟨_, a, _, b, messages, -, ha, hshuffled, hissued, hstore, rfl⟩ :=
    Airdrop.issue_eq_ok hissue
  have hissues := (hs.consistent ha).issues_of_ensureShuffled hshuffled hissued.issues_claimed
  have hb : v.store.allocator? = some b := by
    rw [hstore]
    exact Store.allocator?_withAllocator ha (hs.consistent ha) hissues.moves
  rw [Response.messages_ofMessages]
  apply hissued.addressed
  intro token htoken first hfirst
  obtain ⟨⟨minted, hminted, rfl⟩, -⟩ := Airdrop.claimMessages_eq_ok_iff.mp hfirst
  rw [List.forall_mem_cons, List.forall_mem_singleton]
  exact ⟨addressed_of_isMint hminted.isMint, .inr <|
    .claimedToken hc hattached hnamed (hs.newlyIssues ha hb hissues.moves htoken)⟩

/-- A custom bundle mints its tokens. -/
theorem addressed_mintCustomBundle (h : call.mintCustomBundle s = (.ok r, t)) :
    ∀ m ∈ r.messages, (Transaction.command call .mintCustomBundle).Addressed s t m := by
  obtain ⟨_, _, _, _, -, -, -, -, -, hsell⟩ := mintCustomBundle_eq_ok h
  obtain ⟨_, _, _, mints, _, _, _, payouts, -, -, hissued, -, -, hsettle, rfl⟩ :=
    CustomBundle.sell_eq_ok hsell
  rw [Response.messages_ofMessages, List.forall_mem_append]
  refine ⟨hissued.addressed ?_, addressed_of_settleRevenue hsettle⟩
  intro token _ first hfirst
  obtain ⟨⟨minted, hminted, rfl⟩, -⟩ := CustomBundle.sellMessages_eq_ok_iff.mp hfirst
  rw [List.forall_mem_singleton]
  exact addressed_of_isMint hminted.isMint

/-- A change of the maintainer is told to the collaborators that are attached now. -/
theorem addressed_updateConfig {patch : ConfigPatch}
    (h : call.updateConfig patch s = (.ok r, t)) :
    ∀ m ∈ r.messages, (Transaction.command call (.updateConfig patch)).Addressed s t m := by
  obtain ⟨before, after, -, hc, hallowed, -, -, -, rfl, rfl⟩ := updateConfig_eq_ok_iff.mp h
  rw [Response.messages_ofMessages, Config.maintainerMessages]
  split
  · simp
  · next hchanged =>
    intro m hm
    obtain ⟨collaborator, hcollaborator, rfl⟩ := List.mem_map.mp hm
    exact .inr <| .maintained hc hallowed rfl hchanged
      (Config.attaches_of_mem_collaborators hcollaborator)

/-- What is forwarded goes to the collaborator that is attached. -/
theorem addressed_forward {target : Target} {message : HookMessage}
    (h : call.forward target message s = (.ok r, t)) :
    ∀ m ∈ r.messages, (Transaction.command call (.forward target message)).Addressed s t m := by
  obtain ⟨c, collaborator, forwarded, -, hc, hallowed, hattached, hforwarded, -, rfl⟩ :=
    forward_eq_ok h
  obtain ⟨contract, payload, rfl, rfl, rfl⟩ := Collaborator.forward_eq_ok hforwarded
  rw [Response.messages_ofMessages, List.forall_mem_singleton]
  exact .inr (.forwarded hc hallowed (by rw [hattached, Option.map_some]))

/-- Every command sends messages to contracts that are mints, or that tell collaborators
something. -/
theorem addressed_execute (hs : s.Sound) {command : Command} {v : CallState}
    (h : call.execute command ⟨s, []⟩ = (.ok r, v)) :
    ∀ m ∈ r.messages, (Transaction.command call command).Addressed s v.store m := by
  cases command with
  | mint promised named => exact addressed_mint h
  | claimAirdrop limit named => exact addressed_claimAirdrop hs h
  | cleanAssigned =>
    obtain ⟨_, _, _, _, _, _, _, -, -, -, -, -, -, -, -, rfl⟩ := cleanAssigned_eq_ok h
    exact fun m hm => nomatch hm
  | stageBundle count price purge tokens =>
    obtain ⟨_, _, _, _, _, _, _, -, -, -, -, -, -, -, -, rfl⟩ := stageBundle_eq_ok h
    exact fun m hm => nomatch hm
  | mintBundle =>
    obtain ⟨t, hmint, rfl⟩ := CallState.onStore_eq_ok_iff.mp h
    exact addressed_mintBundle hmint
  | mintCustomBundle =>
    obtain ⟨t, hmint, rfl⟩ := CallState.onStore_eq_ok_iff.mp h
    exact addressed_mintCustomBundle hmint
  | updateConfig patch =>
    obtain ⟨t, hupdate, rfl⟩ := CallState.onStore_eq_ok_iff.mp h
    exact addressed_updateConfig hupdate
  | forward target message =>
    obtain ⟨t, hforward, rfl⟩ := CallState.onStore_eq_ok_iff.mp h
    exact addressed_forward hforward
  | initModule target plan =>
    obtain ⟨t, hinit, rfl⟩ := CallState.onStore_eq_ok_iff.mp h
    obtain ⟨_, _, -, -, -, -, -, rfl⟩ := initModule_eq_ok hinit
    intro m hm
    obtain rfl := List.mem_singleton.mp hm
    trivial
  | shuffle =>
    obtain ⟨t, hshuffle, rfl⟩ := CallState.onStore_eq_ok_iff.mp h
    obtain ⟨_, _, _, messages, -, -, -, hcharge, -, rfl⟩ := shuffle_eq_ok hshuffle
    rw [Response.messages_ofMessages]
    rcases chargeShuffle_eq_ok hcharge with ⟨-, -, rfl⟩ | ⟨-, rfl⟩ <;>
      simp [fairBurn, Transaction.Addressed]
  | disburse address =>
    obtain ⟨t, hdisburse, rfl⟩ := CallState.onStore_eq_ok_iff.mp h
    obtain ⟨_, payee, -, -, -, -, -, rfl⟩ := disburse_eq_ok hdisburse
    rw [Response.messages_ofMessages]
    split <;> simp [Transaction.Addressed]

end Call

/-- Every successful transaction sends messages to contracts that are mints, or that tell
collaborators something. -/
theorem Store.Sound.addressed (hs : s.Sound) (h : transaction.perform s = (.ok r, t)) :
    ∀ m ∈ r.messages, transaction.Addressed s t m := by
  cases transaction with
  | command call command =>
    obtain ⟨asked, hexecute⟩ := CallState.fresh_eq_ok_iff.mp h
    exact Call.addressed_execute hs hexecute
  | reply id result =>
    obtain ⟨_, _, _, -, -, -, -, rfl⟩ := receiveReply_eq_ok h
    exact fun m hm => nomatch hm
  | migration =>
    obtain ⟨_, _, _, -, -, -, -, -, hsilent⟩ := migrate_eq_ok h
    intro m hm
    rw [Response.messages, hsilent] at hm
    cases hm

/-! ## What the contracts of collections are told -/

/-- A message to a contract mints a token that is issued in the same transaction, or tells a
collaborator something. -/
theorem Store.Sound.mintsIssued_or (hs : s.Sound) (h : transaction.perform s = (.ok r, t))
    {contract : Address} {payload : Payload} (hm : .execute contract payload ∈ r.messages) :
    s.MintsIssued (.execute contract payload) t ∨ transaction.Tells s t contract payload := by
  rcases hs.addressed h _ hm with hmint | htells
  · exact .inl (hs.mintsIssued h hm hmint)
  · exact .inr htells

/-- Over every run of a mint, a message to the contract of a collection mints a token that is issued
in the same transaction, unless the contract is that of a collaborator and is told what the
transaction has to tell it: for whom a mint or a claim is that goes through it, with the tokens that
are claimed, what an administrator has forwarded to it, or whom an administrator has made the
maintainer. So over a run that never attaches the contract of a collection, the contracts of the
collections are told nothing but to mint the tokens that are issued. -/
theorem collections_only_mint {start : Store} {events : List Event} (hstart : Founded start)
    (hrun : Run start events s) :
    (∀ taken e contract payload, (taken, e) ∈ start.replay events →
      .execute contract payload ∈ e.response.messages → taken.HasContract contract →
        taken.MintsIssued (.execute contract payload) (e.transaction.commit taken) ∨
          e.transaction.Tells taken (e.transaction.commit taken) contract payload) ∧
    ((∀ taken e contract, (taken, e) ∈ start.replay events → taken.HasContract contract →
        ¬ taken.Attaches contract ∧ ¬ (e.transaction.commit taken).Attaches contract) →
      ∀ taken e contract payload, (taken, e) ∈ start.replay events →
        .execute contract payload ∈ e.response.messages → taken.HasContract contract →
          taken.MintsIssued (.execute contract payload) (e.transaction.commit taken)) := by
  have hsent : ∀ taken e contract payload, (taken, e) ∈ start.replay events →
      .execute contract payload ∈ e.response.messages →
        taken.MintsIssued (.execute contract payload) (e.transaction.commit taken) ∨
          e.transaction.Tells taken (e.transaction.commit taken) contract payload := by
    intro taken e contract payload hmem hm
    obtain ⟨earlier, hearlier, hperform⟩ := hrun.exists_of_mem_replay hmem
    exact (hearlier.sound hstart.sound.1).mintsIssued_or hperform hm
  refine ⟨fun taken e contract payload hmem hm _ => hsent taken e contract payload hmem hm, ?_⟩
  intro hapart taken e contract payload hmem hm hcontract
  obtain ⟨hbefore, hafter⟩ := hapart taken e contract hmem hcontract
  rcases hsent taken e contract payload hmem hm with hmints | htells
  · exact hmints
  · exact absurd htells.attaches (not_or.mpr ⟨hbefore, hafter⟩)

namespace FirstSale

/-- The transactions of the sale before the purchase: the contract of the collection is there. -/
def opening : Transaction := .reply 101 (.succeeded (some [10, 4, 103, 111, 108, 100]))

/-- The store once the contract of the collection is there. -/
def opened : Store := (founded.play [opening]).2

/-- The contract of the collection is attached as the whitelist. -/
def attachment : Transaction := .command (call "admin" []) <| .updateConfig
  { maintainer := ⟨none, false⟩
    airdropper := ⟨none, false⟩
    whitelist := ⟨some "gold", false⟩
    startTime := none
    endTime := ⟨none, false⟩
    mintCap := none
    bundleCap := none
    mintPrice := none
    bundlePrice := none
    denom := none
    escrowFunds := none
    bundleEnabled := none
    royalties := none }

/-- The store after the attachment. -/
def attached : Store := (founded.play [opening, attachment]).2

/-- The administrator has an empty object forwarded to the whitelist. -/
def hook : Transaction :=
  .command (call "admin" []) (.forward .whitelist (.execute "gold" [123, 125] []))

end FirstSale

/-- In a first sale the contract of the collection is told to mint the token that the purchase
issues. -/
theorem collections_only_mint_first_sale :
    ∃ events r t, Founded FirstSale.founded ∧
      Run FirstSale.founded (events ++ [⟨FirstSale.purchase, r⟩]) t ∧
      FirstSale.opened.HasContract "gold" ∧
      FirstSale.opened.MintsIssued (.execute "gold" (.mintToken 2 "buyer" "ipfs://gold/2")) t := by
  have hopened := FirstSale.founded.run_play [FirstSale.opening]
  have hcontract : FirstSale.opened.HasContract "gold" := ⟨101, by decide +kernel⟩
  have hok : (FirstSale.purchase.perform FirstSale.opened).1.isOk = true := by decide +kernel
  have hsent : (FirstSale.purchase.perform FirstSale.opened).1.toOption.map Response.messages =
      some [.execute "gold" (.mintToken 2 "buyer" "ipfs://gold/2")] := by decide +kernel
  obtain ⟨r, t, hperform⟩ := Transaction.exists_of_isOk hok
  rw [hperform] at hsent
  have hmessages : r.messages = [.execute "gold" (.mintToken 2 "buyer" "ipfs://gold/2")] :=
    Option.some.inj hsent
  have hrun := hopened.next hperform
  have hmem : (FirstSale.opened, ⟨FirstSale.purchase, r⟩) ∈ FirstSale.founded.replay
      ((FirstSale.founded.play [FirstSale.opening]).1 ++ [⟨FirstSale.purchase, r⟩]) := by
    rw [hopened.replay_next]
    exact List.mem_append_right _ List.mem_cons_self
  have hcases := (collections_only_mint FirstSale.founded_founded hrun).1 _ _ "gold"
    (.mintToken 2 "buyer" "ipfs://gold/2") hmem (by rw [hmessages]; simp) hcontract
  refine ⟨_, r, t, FirstSale.founded_founded, hrun, hcontract, ?_⟩
  rcases hcases with hmints | htells
  · rwa [Transaction.commit_of_ok hperform] at hmints
  · exact absurd htells.isMint_eq (by decide)

/-- The contract of a collection that is attached as the whitelist is told whatever the
administrator has forwarded to it. -/
theorem not_collections_only_mint :
    ¬ ∀ (start s t : Store) (events : List Event) (call : Call) (command : Command) (r : Response)
      (contract : Address) (payload : Payload), Founded start → Run start events s →
      (Transaction.command call command).perform s = (.ok r, t) →
      .execute contract payload ∈ r.messages → s.HasContract contract →
        s.MintsIssued (.execute contract payload) t := by
  intro honly
  have hsent : (FirstSale.hook.perform FirstSale.attached).1 = .ok (Response.ofMessages
      [("action", "submodule_hook"), ("sender", "admin"), ("target", "gold")]
      [.execute "gold" (.raw [123, 125])]) := by decide +kernel
  obtain ⟨_, _, ⟨_, _, _, _, hraw⟩, -⟩ := honly _ _ _ _ _ _ _ "gold" (.raw [123, 125])
    FirstSale.founded_founded (FirstSale.founded.run_play [FirstSale.opening, FirstSale.attachment])
    (Step.eq_of_outcome hsent) (by simp) ⟨101, by decide +kernel⟩
  cases hraw

end ShuffleMint
