import ShuffleMint.Proofs.Run.Addressees

/-!
# Collaborators hear of every mint

A mint that a collaborator gates is reported to it: a random mint with the minter alone, a claim of
promised tokens token by token. The counts of the mint are kept by other code than the reports are
written by. Over every run they agree: an address is reported on a channel as often as it is counted
there. What a caller has the mint forward is bytes of the caller's own, and is no report of the mint
whatever it spells.
-/

namespace ShuffleMint

/-- What a collaborator is told of a mint: the channel it gates, who has minted and, where tokens
are reported one by one, which token. -/
structure Report where
  contract : Address
  channel : Channel
  minter : Address
  token : Option Token
  deriving DecidableEq

/-- The report that a message makes, if it makes one. -/
def Message.report? : Message → Option Report
  | execute contract (.countWhitelistMint minter) => some ⟨contract, .whitelist, minter, none⟩
  | execute contract (.countPromisedMint minter) => some ⟨contract, .airdrop, minter, none⟩
  | execute contract (.markClaimed minter token) => some ⟨contract, .airdrop, minter, some token⟩
  | _ => none

/-- The reports that a response makes, in order. -/
def Response.reports (r : Response) : List Report := r.messages.filterMap Message.report?

/-- The collaborator that gates a channel, if one is attached. -/
def Config.gatekeeper? (c : Config) : Channel → Option Address
  | .whitelist => c.whitelist
  | .airdrop => c.airdropper
  | _ => none

/-- How often an event reports an address on a channel. -/
def Event.reported (channel : Channel) (address : Address) (e : Event) : Nat :=
  e.response.reports.countP fun report => report.channel = channel ∧ report.minter = address

/-- How often the events of a run report an address on a channel. -/
def reported (channel : Channel) (address : Address) (start : Store) (events : List Event) : Nat :=
  ((start.replay events).map fun e => e.2.reported channel address).sum

/-- Whether a command is one that reports on a channel. -/
def Command.reportsOn : Channel → Command → Bool
  | .whitelist, mint _ _ => true
  | .airdrop, mint _ _ => true
  | .airdrop, claimAirdrop _ _ => true
  | _, _ => false

/-- What a command that succeeds reports: nothing, the minter of the one token that it mints, or
every token that it mints. -/
inductive Call.Reported (call : Call) (s : Store) (r : Response) : Command → Prop where
  | silent {command : Command} (hsilent : r.reports = [])
      (hchannel : ∀ c, s.config = some c → ∀ channel ∈ command.channel? c call.env.time,
        channel ≠ .whitelist ∧ channel ≠ .airdrop) : Reported call s r command
  | counted {promised : Bool} {named : Option String} {c : Config} {channel : Channel}
      {recipient contract : Address} (hc : s.config = some c)
      (hbooked : (Command.mint promised named).channel? c call.env.time = some channel)
      (hnamed : resolveRecipient c call.sender named = .ok recipient)
      (hgate : c.gatekeeper? channel = some contract) (hone : r.mints.length = 1)
      (hreports : r.reports = [⟨contract, channel, recipient, none⟩]) :
    Reported call s r (.mint promised named)
  | marked {limit : Option Nat} {named : Option String} {c : Config} {recipient contract : Address}
      {tokens : List Token} (hc : s.config = some c)
      (hnamed : resolveRecipient c call.sender named = .ok recipient)
      (hgate : c.airdropper = some contract) (hnodup : tokens.Nodup)
      (hmints : List.Forall₂ (s.Mints recipient) tokens r.mints)
      (hreports : r.reports = tokens.map fun token => ⟨contract, .airdrop, recipient, some token⟩) :
    Reported call s r (.claimAirdrop limit named)

variable {s t u : Store} {r : Response} {c : Config}

/-! ## Messages that make no report -/

/-- The reports of a response are those of its messages. -/
@[simp] theorem Response.reports_ofMessages (attributes : List (String × String))
    (messages : List Message) :
    (ofMessages attributes messages).reports = messages.filterMap Message.report? := by
  rw [reports, messages_ofMessages]

/-- A message that mints a token makes no report. -/
theorem Store.Mints.report?_eq {owner : Address} {token : Token} {m : Message}
    (h : s.Mints owner token m) : m.report? = none := by
  obtain ⟨_, _, _, _, rfl⟩ := h
  rfl

/-- Messages that mint tokens make none. -/
theorem filterMap_report?_of_mints {owner : Address} {tokens : List Token}
    {messages : List Message} (h : List.Forall₂ (s.Mints owner) tokens messages) :
    messages.filterMap Message.report? = [] := by
  refine List.filterMap_eq_nil_iff.mpr fun m hm => ?_
  obtain ⟨_, -, hmints⟩ := Store.exists_mints h hm
  exact hmints.report?_eq

/-- Nor do those of a settlement. -/
theorem filterMap_report?_of_settleRevenue {payment : Nat} {payouts : List Message}
    (hsettle : Escrow.settleRevenue c payment u = (.ok payouts, t)) :
    payouts.filterMap Message.report? = [] := by
  obtain ⟨-, -, parts, -, hsettled⟩ := Escrow.settleRevenue_eq_ok hsettle
  refine List.filterMap_eq_nil_iff.mpr fun m hm => ?_
  split at hsettled
  · rw [hsettled.1] at hm
    cases hm
  · rw [hsettled.1] at hm
    obtain ⟨part, -, rfl⟩ := List.mem_map.mp hm
    rfl

/-- What the messages of tokens issued by name report is what those of each token report. -/
theorem Airdrop.Issued.filterMap_report? {claim : Token → Step Allocator Unit}
    {messages : Token → Step Store (List Message)} {tokens : List Token} {a b : Allocator}
    {made : List Message} (h : Issued claim messages s tokens a made b)
    {f : Token → List Report}
    (hmessages : ∀ (token : Token) (first : List Message), messages token s = (.ok first, s) →
      first.filterMap Message.report? = f token) :
    made.filterMap Message.report? = tokens.flatMap f := by
  induction h with
  | nil => rfl
  | cons _ hfirst _ ih =>
    rw [List.filterMap_append, hmessages _ _ hfirst, ih, List.flatMap_cons]

/-- Promised tokens that are claimed are reported to the airdropper one by one. -/
theorem Airdrop.Issued.reports_claimed {claim : Token → Step Allocator Unit}
    {contract recipient : Address} {tokens : List Token} {a b : Allocator} {made : List Message}
    (h : Issued claim (claimMessages contract recipient) s tokens a made b) :
    made.filterMap Message.report? =
      tokens.map fun token => ⟨contract, .airdrop, recipient, some token⟩ := by
  rw [List.map_eq_flatMap]
  refine h.filterMap_report? fun token first hfirst => ?_
  obtain ⟨⟨m, hm, rfl⟩, -⟩ := claimMessages_eq_ok_iff.mp hfirst
  rw [List.filterMap_cons, hm.report?_eq]
  rfl

/-! ## What each command reports -/

namespace Call

variable {call : Call}

/-- A random mint reports its minter to the collaborator that it goes through. -/
theorem reported_mint {promised : Bool} {named : Option String} {v : CallState}
    (h : call.mint promised named ⟨s, []⟩ = (.ok r, v)) :
    call.Reported s r (.mint promised named) := by
  obtain ⟨c, recipient, through, _, price, payment, w, hc, hnamed, hthrough, -, hprice, -, hdraw⟩ :=
    mint_eq_ok h
  rw [(Mint.keeps_priceOf _ _ _ _).view_eq hprice] at hdraw
  obtain ⟨_, _, _, token, minted, _, payouts, -, -, -, hminted, -, hsettle, hr⟩ :=
    Mint.draw_eq_ok hdraw
  have hbooked : (Command.mint promised named).channel? c call.env.time =
      some (Mint.channelOf through) := Mint.channel?_eq hthrough
  have hreports : r.reports =
      (through.map fun g => g.recordMint recipient).toList.filterMap Message.report? := by
    rw [hr, Response.reports_ofMessages, List.cons_append, List.filterMap_cons, hminted.report?_eq,
      List.filterMap_append, filterMap_report?_of_settleRevenue hsettle, List.append_nil]
  have hone : r.mints.length = 1 := by
    rw [hr, Response.mints_ofMessages, List.cons_append, List.filter_cons_of_pos hminted.isMint,
      List.filter_append, (Mint.filter_report through recipient).1,
      filter_isMint_of_settleRevenue hsettle]
    rfl
  rcases Mint.gatekeeper_eq_ok hthrough with
    ⟨-, contract, hattached, rfl⟩ | ⟨-, -, contract, hattached, rfl⟩ | ⟨-, rfl⟩
  · exact .counted hc hbooked hnamed hattached hone hreports
  · exact .counted hc hbooked hnamed hattached hone hreports
  · refine .silent hreports fun c' hc' channel hchannel => ?_
    obtain rfl := Option.some.inj (hc.symm.trans hc')
    obtain rfl := Option.some.inj (hbooked.symm.trans hchannel)
    exact ⟨nofun, nofun⟩

/-- A claim reports each of its tokens to the airdropper. -/
theorem reported_claimAirdrop (hs : s.Sound) {limit : Option Nat} {named : Option String}
    {v : CallState} (h : call.claimAirdrop limit named ⟨s, []⟩ = (.ok r, v)) :
    call.Reported s r (.claimAirdrop limit named) := by
  obtain ⟨c, recipient, contract, _, w, -, hc, hnamed, hattached, hpromises, -, -, -, hissue⟩ :=
    claimAirdrop_eq_ok h
  rw [(CallState.keeps_ask _ _).view_eq hpromises] at hissue
  obtain ⟨_, a, shuffled, b, made, -, ha, hshuffled, hissued, -, rfl⟩ := Airdrop.issue_eq_ok hissue
  have hissues := (hs.consistent ha).issues_of_ensureShuffled hshuffled hissued.issues_claimed
  have hmints := hissued.mints_claimed
  rw [← Response.mints_ofMessages] at hmints
  refine .marked hc hnamed hattached (hissues.moves.nodup (hs.consistent ha)) hmints ?_
  rw [Response.reports_ofMessages, hissued.reports_claimed]

/-- Bundles report nothing. -/
theorem reported_mintBundle (h : call.mintBundle s = (.ok r, t)) :
    call.Reported s r .mintBundle := by
  obtain ⟨_, _, _, _, _, _, _, mints, _, _, _, payouts, -, -, -, -, -, -, hmints, -, -, hsettle,
    rfl⟩ := mintBundle_eq_ok h
  refine .silent ?_ fun c _ channel hchannel => ?_
  · rw [Response.reports_ofMessages, List.filterMap_append, filterMap_report?_of_mints hmints,
      filterMap_report?_of_settleRevenue hsettle, List.append_nil]
  · obtain rfl := Option.some.inj hchannel
    exact ⟨nofun, nofun⟩

/-- Nor do custom bundles. -/
theorem reported_mintCustomBundle (h : call.mintCustomBundle s = (.ok r, t)) :
    call.Reported s r .mintCustomBundle := by
  obtain ⟨_, _, _, _, -, -, -, -, -, hsell⟩ := mintCustomBundle_eq_ok h
  obtain ⟨_, _, _, mints, _, _, _, payouts, -, -, hissued, -, -, hsettle, rfl⟩ :=
    CustomBundle.sell_eq_ok hsell
  have hmints := hissued.filterMap_report? (f := fun _ => []) fun token first hfirst => by
    obtain ⟨⟨m, hm, rfl⟩, -⟩ := CustomBundle.sellMessages_eq_ok_iff.mp hfirst
    rw [List.filterMap_cons, hm.report?_eq]
    rfl
  refine .silent ?_ fun c _ channel hchannel => ?_
  · rw [Response.reports_ofMessages, List.filterMap_append, hmints,
      filterMap_report?_of_settleRevenue hsettle, List.append_nil, List.flatMap_eq_nil_iff]
    exact fun _ _ => rfl
  · obtain rfl := Option.some.inj hchannel
    exact ⟨nofun, nofun⟩

/-- A change of the settings tells collaborators about the maintainer, and reports no mint. -/
theorem reported_updateConfig {patch : ConfigPatch} (h : call.updateConfig patch s = (.ok r, t)) :
    call.Reported s r (.updateConfig patch) := by
  obtain ⟨before, after, -, -, -, -, -, -, -, rfl⟩ := updateConfig_eq_ok_iff.mp h
  refine .silent ?_ fun _ _ => nofun
  rw [Response.reports_ofMessages, Config.maintainerMessages]
  split
  · rfl
  · refine List.filterMap_eq_nil_iff.mpr fun m hm => ?_
    obtain ⟨collaborator, -, rfl⟩ := List.mem_map.mp hm
    rfl

/-- What is forwarded is no report of this mint. -/
theorem reported_forward {target : Target} {message : HookMessage}
    (h : call.forward target message s = (.ok r, t)) :
    call.Reported s r (.forward target message) := by
  obtain ⟨c, collaborator, forwarded, -, -, -, -, hforwarded, -, rfl⟩ := forward_eq_ok h
  obtain ⟨contract, payload, rfl, rfl, -⟩ := Collaborator.forward_eq_ok hforwarded
  exact .silent rfl fun _ _ => nofun

/-- Every command reports as its kind does. -/
theorem reported_execute (hs : s.Sound) {command : Command} {v : CallState}
    (h : call.execute command ⟨s, []⟩ = (.ok r, v)) : call.Reported s r command := by
  cases command with
  | mint promised named => exact reported_mint h
  | claimAirdrop limit named => exact reported_claimAirdrop hs h
  | cleanAssigned =>
    obtain ⟨_, _, _, _, _, _, _, -, -, -, -, -, -, -, -, rfl⟩ := cleanAssigned_eq_ok h
    exact .silent rfl fun _ _ => nofun
  | stageBundle count price purge tokens =>
    obtain ⟨_, _, _, _, _, _, _, -, -, -, -, -, -, -, -, rfl⟩ := stageBundle_eq_ok h
    exact .silent rfl fun _ _ => nofun
  | mintBundle =>
    obtain ⟨t, hmint, rfl⟩ := CallState.onStore_eq_ok_iff.mp h
    exact reported_mintBundle hmint
  | mintCustomBundle =>
    obtain ⟨t, hmint, rfl⟩ := CallState.onStore_eq_ok_iff.mp h
    exact reported_mintCustomBundle hmint
  | updateConfig patch =>
    obtain ⟨t, hupdate, rfl⟩ := CallState.onStore_eq_ok_iff.mp h
    exact reported_updateConfig hupdate
  | forward target message =>
    obtain ⟨t, hforward, rfl⟩ := CallState.onStore_eq_ok_iff.mp h
    exact reported_forward hforward
  | initModule target plan =>
    obtain ⟨t, hinit, rfl⟩ := CallState.onStore_eq_ok_iff.mp h
    obtain ⟨_, _, -, -, -, -, -, rfl⟩ := initModule_eq_ok hinit
    exact .silent rfl fun _ _ => nofun
  | shuffle =>
    obtain ⟨t, hshuffle, rfl⟩ := CallState.onStore_eq_ok_iff.mp h
    obtain ⟨_, _, _, messages, -, -, -, hcharge, -, rfl⟩ := shuffle_eq_ok hshuffle
    refine .silent ?_ fun _ _ => nofun
    rw [Response.reports_ofMessages]
    rcases chargeShuffle_eq_ok hcharge with ⟨-, -, rfl⟩ | ⟨-, rfl⟩ <;> rfl
  | disburse address =>
    obtain ⟨t, hdisburse, rfl⟩ := CallState.onStore_eq_ok_iff.mp h
    obtain ⟨_, payee, -, -, -, -, -, rfl⟩ := disburse_eq_ok hdisburse
    refine .silent ?_ fun _ _ => nofun
    rw [Response.reports_ofMessages]
    split <;> rfl

end Call

/-- A successful transaction is a command that reports as its kind does, or reports nothing and is
no command. -/
theorem Store.Sound.reported (hs : s.Sound) {transaction : Transaction}
    (h : transaction.perform s = (.ok r, t)) :
    (∃ call command, transaction = .command call command ∧ call.Reported s r command) ∨
      (transaction.isMinting = false ∧ r.reports = []) := by
  cases transaction with
  | command call command =>
    obtain ⟨asked, hexecute⟩ := CallState.fresh_eq_ok_iff.mp h
    exact .inl ⟨call, command, rfl, Call.reported_execute hs hexecute⟩
  | reply id result =>
    obtain ⟨_, _, _, -, -, -, -, rfl⟩ := receiveReply_eq_ok h
    exact .inr ⟨rfl, rfl⟩
  | migration =>
    obtain ⟨_, _, _, -, -, -, -, -, hsilent⟩ := migrate_eq_ok h
    refine .inr ⟨rfl, ?_⟩
    rw [Response.reports, Response.messages, hsilent]
    rfl

/-! ## How often an address is reported -/

/-- Reports that are all of one minter on one channel are reports of it, and of no other. -/
theorem countP_reports {reports : List Report} {channel channel' : Channel}
    {minter address : Address}
    (h : ∀ report ∈ reports, report.channel = channel ∧ report.minter = minter) :
    (reports.countP fun report => report.channel = channel' ∧ report.minter = address) =
      if channel' = channel ∧ address = minter then reports.length else 0 := by
  split
  · next hsame =>
    refine List.countP_eq_length.mpr fun report hreport => decide_eq_true ?_
    rw [hsame.1, hsame.2]
    exact h report hreport
  · next hother =>
    refine List.countP_eq_zero.mpr fun report hreport hboth => hother ?_
    obtain ⟨hchannel, hminter⟩ := of_decide_eq_true hboth
    rw [← hchannel, ← hminter]
    exact h report hreport

/-- A successful transaction reports an address on the channel of a collaborator as often as it
counts it there. -/
theorem Store.Sound.reported_eq (hs : s.Sound) {transaction : Transaction}
    (h : transaction.perform s = (.ok r, t)) {channel : Channel}
    (hgated : channel = .whitelist ∨ channel = .airdrop) (address : Address) :
    Event.reported channel address ⟨transaction, r⟩ =
      Event.counts channel address s ⟨transaction, r⟩ := by
  rcases hs.minted_or h with ⟨call, command, c, channel', recipient, tokens, rfl, hminted, -⟩ |
    ⟨hidle, -⟩
  · -- what is minted is counted for its recipient, and so are as many reports of the recipient
    have hcounted (hlength : r.reports.length = tokens.length)
        (hsame : ∀ report ∈ r.reports, report.channel = channel' ∧ report.minter = recipient) :
        Event.reported channel address ⟨.command call command, r⟩ =
          Event.counts channel address s ⟨.command call command, r⟩ := by
      rw [hminted.counts_eq, Event.reported, countP_reports hsame, hlength]
      split
      · next hboth =>
        rw [← hboth.1]
        rcases hgated with rfl | rfl <;> rfl
      · rfl
    rcases hs.reported h with ⟨call', command', hcommand, hreported⟩ | ⟨hidle, -⟩
    · obtain ⟨rfl, rfl⟩ := Transaction.command.inj hcommand
      cases hreported with
      | silent hsilent hchannel =>
        obtain ⟨hwhitelist, hairdrop⟩ := hchannel c hminted.config channel' hminted.booked
        rw [hminted.counts_eq, Event.reported, hsilent, if_neg]
        · rfl
        · rintro ⟨rfl, -⟩
          exact hgated.elim hwhitelist hairdrop
      | counted hc hbooked hnamed _ hone hreports =>
        obtain rfl := Option.some.inj (hc.symm.trans hminted.config)
        obtain rfl := Option.some.inj (hbooked.symm.trans hminted.booked)
        obtain rfl := Except.ok.inj (hnamed.symm.trans hminted.named)
        refine hcounted ?_ ?_
        · rw [hreports, ← hminted.length_mints, hone]
          rfl
        · rw [hreports]
          exact List.forall_mem_singleton.mpr ⟨rfl, rfl⟩
      | marked hc hnamed _ _ hmints hreports =>
        obtain rfl := Option.some.inj (hc.symm.trans hminted.config)
        obtain rfl := Option.some.inj hminted.booked
        obtain rfl := Except.ok.inj (hnamed.symm.trans hminted.named)
        refine hcounted ?_ ?_
        · rw [hreports, List.length_map, hmints.length_eq, hminted.length_mints]
        · rw [hreports]
          exact List.forall_mem_map.mpr fun _ _ => ⟨rfl, rfl⟩
    · rw [Command.isMinting_of_channel? hminted.booked] at hidle
      cases hidle
  · rw [(Event.counts_eq_zero hidle channel address s).1]
    have hsilent : r.reports = [] := by
      rcases hs.reported h with ⟨call, command, rfl, hreported⟩ | ⟨-, hsilent⟩
      · cases hreported with
        | silent hsilent => exact hsilent
        | counted | marked => cases hidle
      · exact hsilent
    rw [Event.reported, hsilent]
    rfl

/-- Over a run an address is reported on the channel of a collaborator as often as it is counted
there. -/
theorem Run.reported_eq {start : Store} {events : List Event} (hstart : start.Sound)
    (h : Run start events s) {channel : Channel}
    (hgated : channel = .whitelist ∨ channel = .airdrop) (address : Address) :
    reported channel address start events = counted channel address start events := by
  rw [reported, counted]
  refine congrArg List.sum (List.map_congr_left fun entry hentry => ?_)
  obtain ⟨taken, e⟩ := entry
  obtain ⟨earlier, hearlier, hperform⟩ := h.exists_of_mem_replay hentry
  exact (hearlier.sound hstart).reported_eq hperform hgated address

/-! ## Who is told, and of what -/

/-- A report is made by a command that reports on its channel, and goes to the collaborator that
gates the channel. If it names a token, the call has minted the token to whom it names, and reports
it once. -/
theorem Call.Reported.cases_of_mem {call : Call} {command : Command}
    (h : call.Reported s r command) {report : Report} (hreport : report ∈ r.reports) :
    command.reportsOn report.channel = true ∧
      (∃ c, s.config = some c ∧ c.gatekeeper? report.channel = some report.contract) ∧
      ∀ token, report.token = some token →
        (∃ m ∈ r.mints, s.Mints report.minter token m) ∧
          (r.reports.countP fun other => other.token = some token) = 1 := by
  cases h with
  | silent hsilent =>
    rw [hsilent] at hreport
    cases hreport
  | @counted _ _ c channel _ contract hc _ _ hgate _ hreports =>
    rw [hreports] at hreport
    obtain rfl := List.mem_singleton.mp hreport
    refine ⟨?_, ⟨c, hc, hgate⟩, fun _ => nofun⟩
    cases channel with
    | whitelist | airdrop => rfl
    | publicSale | bundle | customBundle => cases hgate
  | @marked _ _ c recipient contract tokens hc _ hgate hnodup hmints hreports =>
    rw [hreports] at hreport ⊢
    obtain ⟨token, htoken, rfl⟩ := List.mem_map.mp hreport
    refine ⟨rfl, ⟨c, hc, hgate⟩, fun named hnamed => ?_⟩
    obtain rfl := Option.some.inj hnamed
    refine ⟨Store.exists_mint_of_mem hmints htoken, ?_⟩
    rw [List.countP_map, ← List.count_eq_one_of_mem hnodup htoken, List.count]
    exact List.countP_congr fun other _ => by simp

/-- Over every run of a mint an address is reported to the whitelist as often as it is counted on
the whitelist's channel, and to the airdropper as often as on the airdropper's. Only random mints
report to the whitelist, and only these and the claims of promised tokens to the airdropper. Every
report goes to the address that is stored for its collaborator when the call is taken. One that
names a token names one that is minted to whom it names in the same call, and is the only report of
the token there; and a claim reports all the tokens that it mints, in their order. -/
theorem mints_reported {start : Store} {events : List Event} (hstart : Founded start)
    (hrun : Run start events s) :
    (∀ address, reported .whitelist address start events = s.mintCount .whitelist address) ∧
    (∀ address, reported .airdrop address start events = s.mintCount .airdrop address) ∧
    ∀ taken e, (taken, e) ∈ start.replay events →
      (∀ report ∈ e.response.reports,
        (∃ call command, e.transaction = .command call command ∧
          command.reportsOn report.channel = true) ∧
        (∃ c, taken.config = some c ∧ c.gatekeeper? report.channel = some report.contract) ∧
        ∀ token, report.token = some token →
          (∃ m ∈ e.response.mints, taken.Mints report.minter token m) ∧
            (e.response.reports.countP fun other => other.token = some token) = 1) ∧
      ∀ call limit named, e.transaction = .command call (.claimAirdrop limit named) →
        ∃ recipient tokens, tokens.Nodup ∧
          List.Forall₂ (taken.Mints recipient) tokens e.response.mints ∧
          (e.response.reports.map fun report => (report.minter, report.token)) =
            tokens.map fun token => (recipient, some token) := by
  have hsound := hstart.sound.1
  have hzero := (Store.mintCount_eq_zero hstart.trackers_eq).1
  have hagree (channel : Channel) (hgated : channel = .whitelist ∨ channel = .airdrop)
      (address : Address) :
      reported channel address start events = s.mintCount channel address := by
    rw [hrun.reported_eq hsound hgated, hrun.mintCount_eq hsound, hzero, Nat.zero_add]
  refine ⟨hagree _ (.inl rfl), hagree _ (.inr rfl), fun taken e hmem => ?_⟩
  obtain ⟨earlier, hearlier, hperform⟩ := hrun.exists_of_mem_replay hmem
  rcases (hearlier.sound hsound).reported hperform with
    ⟨call, command, hcommand, hreported⟩ | ⟨hidle, hsilent⟩
  · refine ⟨fun report hreport => ?_, fun call' limit named hclaim => ?_⟩
    · obtain ⟨hon, hrest⟩ := hreported.cases_of_mem hreport
      exact ⟨⟨call, command, hcommand, hon⟩, hrest⟩
    · obtain ⟨rfl, rfl⟩ := Transaction.command.inj (hcommand.symm.trans hclaim)
      cases hreported with
      | silent hsilent hchannel =>
        obtain ⟨c, hc, -⟩ := (hearlier.sound hsound).config
        exact absurd rfl (hchannel c hc .airdrop rfl).2
      | @marked _ _ _ recipient _ tokens _ _ _ hnodup hmints hreports =>
        refine ⟨recipient, tokens, hnodup, hmints, ?_⟩
        rw [hreports, List.map_map]
        rfl
  · refine ⟨fun report hreport => ?_, fun call limit named hclaim => ?_⟩
    · rw [hsilent] at hreport
      cases hreport
    · rw [hclaim] at hidle
      cases hidle

/-!
## A promised token

A mint has an airdropper, which has promised a token to a buyer. The buyer claims it.
-/

namespace PromisedSale

/-- The store that the setup leaves. -/
def founded : Store :=
  ({ FirstSale.setup with airdropper := some "drop" }.run ⟨5, 1, none, "mint"⟩ "admin"
    Store.empty).2

/-- An airdropper that promises everyone the second token. -/
def answers : Answers :=
  { FirstSale.nobody with
    promisedTokens := fun _ _ _ => .ok ⟨false, true, [⟨101, 2⟩], []⟩ }

/-- The reply that tells the address of the collection's contract, and the claim. -/
def transactions : List Transaction :=
  [.reply 101 (.succeeded (some [10, 4, 103, 111, 108, 100])),
    .command ⟨⟨20, 2, none, "mint"⟩, "buyer", [], answers⟩ (.claimAirdrop none none)]

end PromisedSale

/-- The claim of a promised token is counted for its buyer and reported to the airdropper, once and
with the token. -/
theorem mints_reported_promised_sale :
    ∃ events s, Founded PromisedSale.founded ∧ Run PromisedSale.founded events s ∧
      reported .airdrop "buyer" PromisedSale.founded events = 1 ∧
      s.mintCount .airdrop "buyer" = 1 ∧
      ∃ taken e, (taken, e) ∈ PromisedSale.founded.replay events ∧
        ⟨"drop", .airdrop, "buyer", some ⟨101, 2⟩⟩ ∈ e.response.reports ∧
        ∃ m ∈ e.response.mints, taken.Mints "buyer" ⟨101, 2⟩ m := by
  have hfounded : Founded PromisedSale.founded := Founded.of_isOk (by decide +kernel)
  have hrun := PromisedSale.founded.run_play PromisedSale.transactions
  obtain ⟨-, hairdrop, hevery⟩ := mints_reported hfounded hrun
  have hcount : (PromisedSale.founded.play PromisedSale.transactions).2.mintCount .airdrop "buyer" =
      1 := by decide +kernel
  have hreport : ((PromisedSale.founded.replay
      (PromisedSale.founded.play PromisedSale.transactions).1).any fun entry =>
        decide (⟨"drop", .airdrop, "buyer", some ⟨101, 2⟩⟩ ∈ entry.2.response.reports)) = true := by
    decide +kernel
  obtain ⟨⟨taken, e⟩, hmem, hreports⟩ := List.any_eq_true.mp hreport
  have hreports := of_decide_eq_true hreports
  obtain ⟨-, -, hnamed⟩ := (hevery taken e hmem).1 _ hreports
  exact ⟨_, _, hfounded, hrun, (hairdrop "buyer").trans hcount, hcount, taken, e, hmem, hreports,
    (hnamed _ rfl).1⟩

end ShuffleMint
