import ShuffleMint.Proofs.Run.BundleCoherence
import ShuffleMint.Proofs.Run.Drawing
import ShuffleMint.Proofs.Run.History

/-!
# The life cycle of a slot

A slot is pending until it is issued, and may be reserved or staged in between. Each command turns
the slots of certain tokens in one way and leaves all others alone; replies and migrations turn
none. So an issued slot stays issued, a reserved one can only be claimed, and a staged one is
neither drawn nor claimed. The commands are read back one by one first, since what they turn depends
on what they have drawn, were answered or have found staged; the run follows from the ways of
turning alone.
-/

namespace ShuffleMint

/-- The slots of some tokens turn from one of some statuses to another. All other slots keep theirs.
-/
structure Allocator.Turns (a : Allocator) (before : List SlotStatus) (tokens : List Token)
    (after : SlotStatus) (b : Allocator) : Prop where
  turned : ∀ t ∈ tokens, ∃ slot status, a.arena.tokenOf slot = .ok t ∧ status ∈ before ∧
    a.arena.status[slot]? = some status ∧ b.arena.status[slot]? = some after
  kept : ∀ slot, (∀ t ∈ tokens, a.arena.tokenOf slot ≠ .ok t) →
    b.arena.status[slot]? = a.arena.status[slot]?

/-- What a command that succeeds does to the statuses of slots, by the allocators before and after
it. -/
def Call.Turns (call : Call) (s : Store) (c : Config) (a b : Allocator) : Command → Prop
  | .mint _ _ => ∃ shuffled token,
      Allocator.ensureShuffled (call.env.entropy call.sender) a = (.ok (), shuffled) ∧
      Allocator.next none shuffled = (.ok token, b) ∧
      a.Turns [.pending] [token] .issued b
  | .mintBundle => ∃ shuffled tokens,
      Allocator.ensureShuffled (call.env.entropy call.sender) a = (.ok (), shuffled) ∧
      Bundle.drawEach a.collectionIds shuffled = (.ok tokens, b) ∧
      a.Turns [.pending] tokens .issued b
  | .claimAirdrop limit named => ∃ recipient contract promises,
      resolveRecipient c call.sender named = .ok recipient ∧ c.airdropper = some contract ∧
      call.answers.promisedTokens [] contract recipient = .ok promises ∧
      a.Turns [.pending, .reserved] (Airdrop.unclaimed promises limit) .issued b
  | .mintCustomBundle => ∃ staged, s.staged = some staged ∧ c.customCount ≤ staged.length ∧
      a.Turns [.staged] (staged.take c.customCount) .issued b
  | .cleanAssigned => ∃ contract assigned asked, c.airdropper = some contract ∧
      Airdropper.assignedTokens call.answers contract ⟨s, []⟩ = (.ok assigned, ⟨s, asked⟩) ∧
      a.Turns [.pending] (assigned.filter fun t => a.standing t = some .pending) .reserved b
  | .stageBundle _ _ _ _ => ∀ slot : Nat,
      b.arena.status[slot]? = a.arena.status[slot]? ∨
      (a.arena.status[slot]? = some .pending ∧ b.arena.status[slot]? = some .staged) ∨
      (a.arena.status[slot]? = some .staged ∧ b.arena.status[slot]? = some .pending)
  | .updateConfig _ | .initModule _ _ | .shuffle | .forward _ _ | .disburse _ =>
      b.arena.status = a.arena.status

/-- The ways in which transactions turn slots. -/
inductive Transaction.Turn : Transaction → SlotStatus → SlotStatus → Prop where
  | drawn {call : Call} {promised : Bool} {named : Option String} :
    Turn (.command call (.mint promised named)) .pending .issued
  | bundled {call : Call} : Turn (.command call .mintBundle) .pending .issued
  | claimed {call : Call} {limit : Option Nat} {named : Option String} {old : SlotStatus}
      (hold : old ∈ [SlotStatus.pending, .reserved]) :
    Turn (.command call (.claimAirdrop limit named)) old .issued
  | sold {call : Call} : Turn (.command call .mintCustomBundle) .staged .issued
  | reserved {call : Call} : Turn (.command call .cleanAssigned) .pending .reserved
  | staged {call : Call} {count price : Nat} {purge : Bool} {tokens : Option (List Token)} :
    Turn (.command call (.stageBundle count price purge tokens)) .pending .staged
  | released {call : Call} {count price : Nat} {purge : Bool} {tokens : Option (List Token)} :
    Turn (.command call (.stageBundle count price purge tokens)) .staged .pending

/-- Whether a command draws tokens at random or claims promised ones. -/
def Command.drawsOrClaims : Command → Bool
  | mint _ _ => true
  | mintBundle => true
  | claimAirdrop _ _ => true
  | _ => false

/-- The status of a slot, if there is such a slot. -/
def Store.status? (s : Store) (slot : Nat) : Option SlotStatus :=
  s.arena.bind fun arena => arena.status[slot]?

variable {s t : Store} {r : Response} {c : Config} {a b : Allocator} {tokens : List Token}

/-! ## From tokens to slots -/

namespace Allocator

/-- Where every token stands as it stood or turns in one of some ways, so does every slot. -/
theorem Moves.status_of_standing (hmoves : a.Moves tokens b) (ha : a.Consistent)
    {p : Option SlotStatus → Option SlotStatus → Prop} {slot : Nat}
    (hsame : ∀ status, p status status)
    (hstanding : ∀ t, a.arena.tokenOf slot = .ok t → p (a.standing t) (b.standing t)) :
    p (a.arena.status[slot]?) (b.arena.status[slot]?) := by
  by_cases hslot : slot < a.arena.total
  · obtain ⟨t, htoken⟩ := ha.arena.laid.exists_tokenOf hslot
    have hafter := htoken
    rw [← hmoves.tokenOf_eq] at hafter
    rw [← ha.standing_eq htoken, ← (hmoves.consistent ha).standing_eq hafter]
    exact hstanding t htoken
  · have htotal : b.arena.total = a.arena.total := hmoves.layout_total_eq.2
    rw [List.getElem?_eq_none (Nat.le_of_not_lt hslot),
      List.getElem?_eq_none (by rw [← Arena.total, htotal]; exact Nat.le_of_not_lt hslot)]
    exact hsame none

/-- Tokens that stood in one of some ways and stand in another, while the rest stand as before, turn
their slots. -/
theorem Moves.turns (hmoves : a.Moves tokens b) (ha : a.Consistent) {before : List SlotStatus}
    {after : SlotStatus} {turned : List Token}
    (hstood : ∀ t ∈ turned, ∃ status ∈ before, a.standing t = some status)
    (hturned : ∀ t ∈ turned, b.standing t = some after)
    (hkept : ∀ t, t ∉ turned → b.standing t = a.standing t) : a.Turns before turned after b := by
  constructor
  · intro t ht
    obtain ⟨status, hstatus, hstanding⟩ := hstood t ht
    obtain ⟨slot, htoken, hold⟩ := ha.standing_eq_some_iff.mp hstanding
    have hafter := htoken
    rw [← hmoves.tokenOf_eq] at hafter
    have hnew := hturned t ht
    rw [(hmoves.consistent ha).standing_eq hafter] at hnew
    exact ⟨slot, status, htoken, hstatus, hold, hnew⟩
  · intro slot hother
    apply hmoves.status_of_standing ha (p := fun old new => new = old) (fun _ => rfl)
    intro t htoken
    exact hkept t fun ht => hother t ht htoken

/-- Tokens that are issued turn their slots. -/
theorem Issues.turns {statuses : List SlotStatus} (h : a.Issues statuses tokens b)
    (ha : a.Consistent) : a.Turns statuses tokens .issued b := by
  apply h.moves.turns ha h.stood
  · intro t ht
    rw [h.standing, if_pos ht]
  · intro t ht
    rw [h.standing, if_neg ht]

/-- A slot keeps its status or turns with the token that it stands for, as a transaction turns slots
when it turns those of all the statuses before. -/
theorem Turns.status_cases {before : List SlotStatus} {after : SlotStatus}
    (h : a.Turns before tokens after b) (ha : a.Consistent) {transaction : Transaction}
    (hturn : ∀ old ∈ before, transaction.Turn old after) (slot : Nat) :
    b.arena.status[slot]? = a.arena.status[slot]? ∨
      ∃ old new, a.arena.status[slot]? = some old ∧ b.arena.status[slot]? = some new ∧
        transaction.Turn old new := by
  by_cases hturned : ∃ t ∈ tokens, a.arena.tokenOf slot = .ok t
  · obtain ⟨t, ht, htoken⟩ := hturned
    obtain ⟨slot', old, htoken', hbefore, hold, hnew⟩ := h.turned t ht
    obtain rfl := ha.arena.laid.eq_of_tokenOf htoken htoken'
    exact .inr ⟨old, after, hold, hnew, hturn old hbefore⟩
  · left
    apply h.kept
    intro t ht htoken
    exact hturned ⟨t, ht, htoken⟩

end Allocator

/-- Restaging exchanges pending and staged tokens, and leaves all others alone. -/
theorem CustomBundle.restage_exchanges (ha : a.Consistent) {purge : Bool}
    {staged assigned : List Token} {result : Nat × List Token}
    (hok : restage purge staged assigned tokens a = (.ok result, b)) (t : Token) :
    b.standing t = a.standing t ∨ (a.standing t = some .pending ∧ b.standing t = some .staged) ∨
      (a.standing t = some .staged ∧ b.standing t = some .pending) := by
  obtain ⟨released, hrelease, hstage⟩ := restage_eq_ok hok
  have hreleased : released.Consistent ∧ (released.standing t = a.standing t ∨
      a.standing t = some .staged ∧ released.standing t = some .pending) := by
    cases purge with
    | true =>
      refine ⟨(release_moves ha hrelease).consistent ha, ?_⟩
      rw [release_standing ha hrelease]
      split
      · next hboth => exact .inr ⟨hboth.2, rfl⟩
      · exact .inl rfl
    | false =>
      obtain ⟨-, rfl⟩ := Step.pure_eq_ok_iff.mp hrelease
      exact ⟨ha, .inl rfl⟩
  obtain ⟨hconsistent, hcases⟩ := hreleased
  obtain ⟨-, -, hpending, hstanding⟩ := stageEach_standing hconsistent hstage
  rw [hstanding]
  split
  · next ht =>
    have hready := (hpending t ht).2.2
    rcases hcases with hsame | ⟨hstaged, -⟩
    · exact .inr (.inl ⟨hsame.symm.trans hready, rfl⟩)
    · exact .inl hstaged.symm
  · exact hcases.imp_right .inr

/-! ## What each command turns -/

/-- What a successful command turns, by the allocators that the stores before and after it hold. -/
def Call.Turned (call : Call) (s : Store) (command : Command) (t : Store) : Prop :=
  ∃ c a b, s.config = some c ∧ s.allocator? = some a ∧ t.allocator? = some b ∧
    (∃ tokens, a.Moves tokens b) ∧ call.Turns s c a b command

namespace Store.Sound

variable {call : Call}

/-- A random mint turns the slot that it has drawn. -/
theorem turned_mint (hs : s.Sound) {promised : Bool} {named : Option String} {v : CallState}
    (h : call.mint promised named ⟨s, []⟩ = (.ok r, v)) :
    call.Turned s (.mint promised named) v.store := by
  obtain ⟨a, shuffled, b, token, ha, hb, hshuffled, hnext, hdrawn, -⟩ := hs.draws_mint h
  have hissues := (hs.consistent ha).issues_of_ensureShuffled hshuffled fun _ => hdrawn
  obtain ⟨c, hc, -⟩ := hs.config
  exact ⟨c, a, b, hc, ha, hb, ⟨_, hissues.moves⟩, shuffled, token, hshuffled, hnext,
    hissues.turns (hs.consistent ha)⟩

/-- A bundle turns the slots that it has drawn. -/
theorem turned_mintBundle (hs : s.Sound) (h : call.mintBundle s = (.ok r, t)) :
    call.Turned s .mintBundle t := by
  obtain ⟨c, a, shuffled, b, tokens, _, hc, ha, hb, hshuffled, hdraw, hdrawn, -⟩ :=
    hs.draws_mintBundle h
  have hissues := (hs.consistent ha).issues_of_ensureShuffled hshuffled fun _ => hdrawn
  exact ⟨c, a, b, hc, ha, hb, ⟨_, hissues.moves⟩, shuffled, tokens, hshuffled, hdraw,
    hissues.turns (hs.consistent ha)⟩

/-- A claim turns the slots of the promised tokens that are not claimed yet, up to its limit. -/
theorem turned_claimAirdrop (hs : s.Sound) {limit : Option Nat} {named : Option String}
    {v : CallState} (h : call.claimAirdrop limit named ⟨s, []⟩ = (.ok r, v)) :
    call.Turned s (.claimAirdrop limit named) v.store := by
  obtain ⟨c, recipient, contract, promises, a, shuffled, b, hc, hrecipient, hattached, hpromises,
    ha, hb, hshuffled, hclaimed, -⟩ := hs.draws_claimAirdrop h
  have hissues := (hs.consistent ha).issues_of_ensureShuffled hshuffled fun _ => hclaimed
  exact ⟨c, a, b, hc, ha, hb, ⟨_, hissues.moves⟩, recipient, contract, promises, hrecipient,
    hattached, hpromises, hissues.turns (hs.consistent ha)⟩

/-- A custom bundle turns the slots of the tokens staged first. -/
theorem turned_mintCustomBundle (hs : s.Sound) (h : call.mintCustomBundle s = (.ok r, t)) :
    call.Turned s .mintCustomBundle t := by
  obtain ⟨c, staged, a, shuffled, b, hc, hlisted, henough, ha, hb, hshuffled, hclaimed⟩ :=
    hs.draws_mintCustomBundle h
  have hissues := (hs.consistent ha).issues_of_ensureShuffled hshuffled fun _ => hclaimed
  exact ⟨c, a, b, hc, ha, hb, ⟨_, hissues.moves⟩, staged, hlisted, henough,
    hissues.turns (hs.consistent ha)⟩

/-- Cleaning turns the slots of the assigned tokens that are pending. -/
theorem turned_cleanAssigned (hs : s.Sound) {v : CallState}
    (h : call.cleanAssigned ⟨s, []⟩ = (.ok r, v)) : call.Turned s .cleanAssigned v.store := by
  obtain ⟨c, contract, assigned, w, a, b, _, -, hc, -, hattached, hassigned, ha, hreserve, hstore,
    -⟩ := Call.cleanAssigned_eq_ok h
  have hkept := (Airdropper.keeps_assignedAfter _ _ _ _).view_eq hassigned
  rw [hkept] at ha hstore
  have hmoves := (hs.consistent ha).reserveAll_moves hreserve
  have hstanding := (hs.consistent ha).reserveAll_standing hreserve
  have hturns : a.Turns [.pending] (assigned.filter fun t => a.standing t = some .pending)
      .reserved b := by
    apply hmoves.turns (hs.consistent ha)
    · intro t ht
      simp only [List.mem_filter, decide_eq_true_eq] at ht
      exact ⟨.pending, by simp, ht.2⟩
    · intro t ht
      simp only [List.mem_filter, decide_eq_true_eq] at ht
      rw [hstanding, if_pos ht]
    · intro t ht
      simp only [List.mem_filter, decide_eq_true_eq] at ht
      rw [hstanding, if_neg ht]
  have hstored := allocator?_withAllocator ha (hs.consistent ha) hmoves
  rw [← hstore] at hstored
  obtain ⟨store, asked⟩ := w
  obtain rfl : store = s := hkept
  exact ⟨c, a, b, hc, ha, hstored, ⟨_, hmoves⟩, contract, assigned, asked, hattached, hassigned,
    hturns⟩

/-- Staging exchanges pending and staged slots. -/
theorem turned_stageBundle (hs : s.Sound) {count price : Nat} {purge : Bool}
    {tokens : Option (List Token)} {v : CallState}
    (h : call.stageBundle count price purge tokens ⟨s, []⟩ = (.ok r, v)) :
    call.Turned s (.stageBundle count price purge tokens) v.store := by
  obtain ⟨c, a, assigned, w, _, _, b, -, hc, -, -, ha, hassigned, hrestage, hstore, -⟩ :=
    Call.stageBundle_eq_ok h
  rw [(CustomBundle.keeps_assignedTokens _ _ _).view_eq hassigned] at hstore
  have hmoves := CustomBundle.restage_moves (hs.consistent ha) hrestage
  have hstored : v.store.allocator? = some b := by
    rw [hstore]
    exact allocator?_withAllocator ha (hs.consistent ha) hmoves
  refine ⟨c, a, b, hc, ha, hstored, ⟨_, hmoves⟩, ?_⟩
  intro slot
  apply hmoves.status_of_standing (hs.consistent ha) (p := fun old new => new = old ∨
    (old = some .pending ∧ new = some .staged) ∨ (old = some .staged ∧ new = some .pending))
  · exact fun _ => .inl rfl
  · exact fun t _ => CustomBundle.restage_exchanges (hs.consistent ha) hrestage t

/-- A command that leaves the allocator alone turns nothing. -/
theorem turned_of_allocator?_eq (hs : s.Sound) {command : Command} (hc : s.config = some c)
    (hsame : t.allocator? = s.allocator?) (hidle : ∀ a, call.Turns s c a a command) :
    call.Turned s command t := by
  obtain ⟨a, ha, -⟩ := hs.allocator
  exact ⟨c, a, a, hc, ha, hsame.trans ha, ⟨_, .refl⟩, hidle a⟩

/-- Shuffling turns nothing. -/
theorem turned_shuffle (hs : s.Sound) (h : call.shuffle s = (.ok r, t)) :
    call.Turned s .shuffle t := by
  obtain ⟨c, a, b, _, hc, ha, hshuffle, -, rfl, -⟩ := Call.shuffle_eq_ok h
  have hmoves := Allocator.Consistent.initializeShuffle_moves hshuffle
  refine ⟨c, a, b, hc, ha, allocator?_withAllocator ha (hs.consistent ha) hmoves, ⟨_, hmoves⟩, ?_⟩
  apply List.ext_getElem?
  intro slot
  apply hmoves.status_of_standing (hs.consistent ha) (p := fun old new => new = old) (fun _ => rfl)
  exact fun t _ => Allocator.Consistent.standing_initializeShuffle hshuffle t

/-- Every command turns what its kind turns, and nothing else. -/
theorem turned_execute (hs : s.Sound) {command : Command} {v : CallState}
    (h : call.execute command ⟨s, []⟩ = (.ok r, v)) : call.Turned s command v.store := by
  cases command with
  | mint promised named => exact hs.turned_mint h
  | claimAirdrop limit named => exact hs.turned_claimAirdrop h
  | cleanAssigned => exact hs.turned_cleanAssigned h
  | stageBundle count price purge tokens => exact hs.turned_stageBundle h
  | mintBundle =>
    obtain ⟨t, hmint, rfl⟩ := CallState.onStore_eq_ok_iff.mp h
    exact hs.turned_mintBundle hmint
  | mintCustomBundle =>
    obtain ⟨t, hmint, rfl⟩ := CallState.onStore_eq_ok_iff.mp h
    exact hs.turned_mintCustomBundle hmint
  | shuffle =>
    obtain ⟨t, hshuffle, rfl⟩ := CallState.onStore_eq_ok_iff.mp h
    exact hs.turned_shuffle hshuffle
  | updateConfig patch =>
    obtain ⟨t, hupdate, rfl⟩ := CallState.onStore_eq_ok_iff.mp h
    obtain ⟨c, after, -, hc, -, -, -, -, rfl, -⟩ := Call.updateConfig_eq_ok_iff.mp hupdate
    exact hs.turned_of_allocator?_eq hc rfl fun _ => rfl
  | initModule target plan =>
    obtain ⟨t, hinit, rfl⟩ := CallState.onStore_eq_ok_iff.mp h
    obtain ⟨c, id, -, hc, -, -, rfl, -⟩ := Call.initModule_eq_ok hinit
    exact hs.turned_of_allocator?_eq hc rfl fun _ => rfl
  | forward target message =>
    obtain ⟨t, hforward, rfl⟩ := CallState.onStore_eq_ok_iff.mp h
    obtain ⟨c, _, _, -, hc, -, -, -, rfl, -⟩ := Call.forward_eq_ok hforward
    exact hs.turned_of_allocator?_eq hc rfl fun _ => rfl
  | disburse address =>
    obtain ⟨t, hdisburse, rfl⟩ := CallState.onStore_eq_ok_iff.mp h
    obtain ⟨c, payee, -, hc, -, -, rfl, -⟩ := Call.disburse_eq_ok hdisburse
    have hsame := (s.escrowOnly_withPayout payee).view_eq Store.allocator? fun _ _ _ => rfl
    exact hs.turned_of_allocator?_eq hc hsame fun _ => rfl

end Store.Sound

/-! ## What a transaction can turn -/

/-- The status of a slot is that of the allocator. -/
theorem Store.status?_eq (ha : s.allocator? = some a) (slot : Nat) :
    s.status? slot = a.arena.status[slot]? := by
  obtain ⟨harena, -⟩ := Store.allocator?_eq_some_iff.mp ha
  rw [status?, harena]
  rfl

/-- A command keeps the status of a slot or turns it in its way. -/
theorem Call.Turns.cases {call : Call} {command : Command}
    (h : call.Turns s c a b command) (ha : a.Consistent) (slot : Nat) :
    b.arena.status[slot]? = a.arena.status[slot]? ∨
      ∃ old new, a.arena.status[slot]? = some old ∧ b.arena.status[slot]? = some new ∧
        (Transaction.command call command).Turn old new := by
  cases command with
  | mint promised named =>
    obtain ⟨_, _, -, -, hturns⟩ := h
    exact hturns.status_cases ha (by simpa using Transaction.Turn.drawn) slot
  | mintBundle =>
    obtain ⟨_, _, -, -, hturns⟩ := h
    exact hturns.status_cases ha (by simpa using Transaction.Turn.bundled) slot
  | claimAirdrop limit named =>
    obtain ⟨_, _, _, -, -, -, hturns⟩ := h
    exact hturns.status_cases ha (fun _ => .claimed) slot
  | mintCustomBundle =>
    obtain ⟨_, -, -, hturns⟩ := h
    exact hturns.status_cases ha (by simpa using Transaction.Turn.sold) slot
  | cleanAssigned =>
    obtain ⟨_, _, _, -, -, hturns⟩ := h
    exact hturns.status_cases ha (by simpa using Transaction.Turn.reserved) slot
  | stageBundle count price purge tokens =>
    rcases h slot with hsame | ⟨hold, hnew⟩ | ⟨hold, hnew⟩
    · exact .inl hsame
    · exact .inr ⟨_, _, hold, hnew, .staged⟩
    · exact .inr ⟨_, _, hold, hnew, .released⟩
  | updateConfig _ | initModule _ _ | shuffle | forward _ _ | disburse _ =>
    have hsame : b.arena.status = a.arena.status := h
    exact .inl (by rw [hsame])

/-- What a call turns is told by the store before and after it. -/
theorem Store.Sound.turned (hs : s.Sound) {call : Call} {command : Command}
    (h : (Transaction.command call command).perform s = (.ok r, t)) : call.Turned s command t := by
  obtain ⟨asked, hexecute⟩ := CallState.fresh_eq_ok_iff.mp h
  exact hs.turned_execute hexecute

/-- A successful transaction keeps the status of a slot or turns it in its way. -/
theorem Store.Sound.status?_cases (hs : s.Sound) {transaction : Transaction}
    (h : transaction.perform s = (.ok r, t)) (slot : Nat) :
    t.status? slot = s.status? slot ∨
      ∃ old new, s.status? slot = some old ∧ t.status? slot = some new ∧
        transaction.Turn old new := by
  cases transaction with
  | command call command =>
    obtain ⟨c, a, b, -, ha, hb, -, hturns⟩ := hs.turned h
    rw [Store.status?_eq ha, Store.status?_eq hb]
    exact hturns.cases (hs.consistent ha) slot
  | reply id result =>
    obtain ⟨child, _, contract, -, -, -, rfl, -⟩ := receiveReply_eq_ok h
    exact .inl (by cases child <;> rfl)
  | migration =>
    obtain ⟨_, _, _, -, -, -, -, hversion, -⟩ := migrate_eq_ok h
    rcases hversion with ⟨-, rfl⟩ | ⟨-, rfl⟩ <;> exact .inl rfl

/-! ## Over a run -/

namespace Run

variable {start : Store} {events : List Event} {slot : Nat}

/-- An issued slot stays issued. -/
theorem status?_issued (hstart : start.Sound) (h : Run start events s)
    (hissued : start.status? slot = some .issued) : s.status? slot = some .issued := by
  induction h with
  | start => exact hissued
  | next hrun hperform ih =>
    rcases (hrun.sound hstart).status?_cases hperform slot with
      hsame | ⟨old, new, hold, hnew, hturn⟩
    · rw [hsame, ih]
    · obtain rfl := Option.some.inj (ih.symm.trans hold)
      cases hturn with
      | claimed hready => simp at hready

/-- A reserved slot stays reserved until a claim issues it. -/
theorem status?_reserved (hstart : start.Sound) (h : Run start events s)
    (hreserved : start.status? slot = some .reserved) :
    s.status? slot = some .reserved ∨ s.status? slot = some .issued ∧
      ∃ taken call limit named r,
        (taken, ⟨.command call (.claimAirdrop limit named), r⟩) ∈ start.replay events ∧
        taken.status? slot = some .reserved ∧
        ((Transaction.command call (.claimAirdrop limit named)).commit taken).status? slot =
          some .issued := by
  induction h with
  | start => exact .inl hreserved
  | @next events m t transaction r hrun hperform ih =>
    have hreplay := hrun.replay_next ⟨transaction, r⟩
    have hcases := (hrun.sound hstart).status?_cases hperform slot
    rcases ih with hstill | ⟨hissued, taken, call, limit, named, r', hmem, hbefore, hafter⟩
    · rcases hcases with hsame | ⟨old, new, hold, hnew, hturn⟩
      · exact .inl (hsame.trans hstill)
      · obtain rfl := Option.some.inj (hstill.symm.trans hold)
        cases hturn with
        | claimed =>
          rw [← Transaction.commit_of_ok hperform] at hnew ⊢
          exact .inr ⟨hnew, m, _, _, _, r, by rw [hreplay]; simp, hstill, hnew⟩
    · have hfinal := status?_issued (hrun.sound hstart) (Run.start.next hperform) hissued
      exact .inr ⟨hfinal, taken, call, limit, named, r', by rw [hreplay]; simp [hmem], hbefore,
        hafter⟩

/-- A staged slot stays staged where a run draws tokens or claims them. -/
theorem status?_staged (hstart : start.Sound) (h : Run start events s) {taken : Store}
    {call : Call} {command : Command} {r : Response} (hdraws : command.drawsOrClaims = true)
    (hmem : (taken, ⟨.command call command, r⟩) ∈ start.replay events)
    (hstaged : taken.status? slot = some .staged) :
    ((Transaction.command call command).commit taken).status? slot = some .staged := by
  obtain ⟨earlier, hearlier, hperform⟩ := h.exists_of_mem_replay hmem
  rcases (hearlier.sound hstart).status?_cases hperform slot with
    hsame | ⟨old, new, hold, hnew, hturn⟩
  · exact hsame.trans hstaged
  · obtain rfl := Option.some.inj (hstaged.symm.trans hold)
    cases hturn with
    | claimed hready => simp at hready
    | sold => cases hdraws
    | released => cases hdraws

end Run

/-- From every reachable store a successful call turns exactly the slots that are its own to turn:
random mints and bundles the pending ones that they have drawn, claims the pending and reserved ones
of the tokens that they claim, custom bundles the staged ones of the tokens staged first, cleaning
the pending ones of the assigned tokens. Staging exchanges pending and staged ones, and all other
commands turn none. So over every run an issued slot stays issued, a reserved one stays so until a
claim issues it, and a staged one stays so through every draw and every claim. -/
theorem slot_life_cycle (hs : Reachable s) :
    (∀ call command r t, (Transaction.command call command).perform s = (.ok r, t) →
      ∃ c a b, s.config = some c ∧ s.allocator? = some a ∧ t.allocator? = some b ∧
        b.arena.tokenOf = a.arena.tokenOf ∧ b.arena.total = a.arena.total ∧
        call.Turns s c a b command) ∧
    ∀ events t, Run s events t → ∀ slot,
      (s.status? slot = some .issued → t.status? slot = some .issued) ∧
      (s.status? slot = some .reserved →
        t.status? slot = some .reserved ∨ t.status? slot = some .issued ∧
          ∃ taken call limit named r,
            (taken, ⟨.command call (.claimAirdrop limit named), r⟩) ∈ s.replay events ∧
            taken.status? slot = some .reserved ∧
            ((Transaction.command call (.claimAirdrop limit named)).commit taken).status? slot =
              some .issued) ∧
      ∀ taken call command r, command.drawsOrClaims = true →
        (taken, ⟨.command call command, r⟩) ∈ s.replay events →
        taken.status? slot = some .staged →
          ((Transaction.command call command).commit taken).status? slot = some .staged := by
  refine ⟨fun call command r t hperform => ?_, fun events t hrun slot => ⟨?_, ?_, ?_⟩⟩
  · obtain ⟨c, a, b, hc, ha, hb, ⟨tokens, hmoves⟩, hturns⟩ := hs.sound.turned hperform
    exact ⟨c, a, b, hc, ha, hb, hmoves.tokenOf_eq, hmoves.layout_total_eq.2, hturns⟩
  · exact hrun.status?_issued hs.sound
  · exact hrun.status?_reserved hs.sound
  · intro taken call command r hdraws hmem hstaged
    exact hrun.status?_staged hs.sound hdraws hmem hstaged

/-- With two of the three tokens staged, a purchase turns the slot that it has drawn, and the first
token stays staged. -/
theorem slot_life_cycle_restaged :
    ∃ r t, Reachable FirstSale.restaged ∧
      FirstSale.purchase.perform FirstSale.restaged = (.ok r, t) ∧
      (∃ a b token, FirstSale.restaged.allocator? = some a ∧ t.allocator? = some b ∧
        a.Turns [.pending] [token] .issued b) ∧
      FirstSale.restaged.status? 0 = some .staged ∧ t.status? 0 = some .staged := by
  have hs : Reachable FirstSale.restaged :=
    ⟨_, _, FirstSale.founded_founded, FirstSale.founded.run_play _⟩
  have hok : (FirstSale.purchase.perform FirstSale.restaged).1.isOk = true := by decide +kernel
  have hstaged : FirstSale.restaged.status? 0 = some .staged := by decide +kernel
  obtain ⟨r, t, hperform⟩ := Transaction.exists_of_isOk hok
  obtain ⟨hcalls, hruns⟩ := slot_life_cycle hs
  obtain ⟨c, a, b, -, ha, hb, -, -, shuffled, token, -, -, hturns⟩ := hcalls _ _ _ _ hperform
  have hkept := (hruns _ _ (Run.start.next hperform) 0).2.2 FirstSale.restaged
    (FirstSale.call "buyer" [⟨"ustars", 100⟩]) (.mint false none) r rfl
    (by simp [Store.replay, FirstSale.purchase]) hstaged
  have hcommit : (Transaction.command (FirstSale.call "buyer" [⟨"ustars", 100⟩])
      (.mint false none)).commit FirstSale.restaged = t := Transaction.commit_of_ok hperform
  rw [hcommit] at hkept
  exact ⟨r, t, hs, hperform, ⟨a, b, token, ha, hb, hturns⟩, hstaged, hkept⟩

end ShuffleMint
