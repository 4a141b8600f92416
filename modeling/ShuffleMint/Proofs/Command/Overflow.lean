import ShuffleMint.Proofs.Command.Refusal
import ShuffleMint.Proofs.Config.Failure

/-!
# Commands that abort

A command aborts only where a sum of numbers from outside is no count: the points of the shares that
a patch sets, the mints that a collaborator tells of with one more, or the tokens claimed at once
with those claimed before. Everything else that a command adds up, counts or looks up stays in its
bounds on a sound store with small counts, so all its other failures are rejections. The reading of
the airdropper's pages has to end, and no denomination may come twice among the coins.
-/

namespace ShuffleMint

open Step (FailsOnly RejectsUnless)

/-- What the chain and the collaborators see to: no denomination comes twice among the coins, every
coin is an amount, and the reading of the assigned tokens ends. -/
structure Call.WellFormed (call : Call) (s : Store) : Prop where
  distinct : (call.funds.map Coin.denom).Nodup
  amounts : ∀ coin ∈ call.funds, coin.amount < amountBound
  pages : ∀ c contract, s.config = some c → c.airdropper = some contract →
    (Airdropper.assignedTokens call.answers contract ⟨s, []⟩).1 ≠ .error .exhausted

/-- The sums of a command that are no count, of which nothing has bounded a part. -/
inductive Call.Overflows (call : Call) (s : Store) : Command → Prop where
  /-- The points of the shares that a patch sets. -/
  | points {patch : ConfigPatch} {request : RoyaltiesRequest}
    (hset : patch.royalties = some request) (hsum : request.Overflows) :
    Overflows call s (.updateConfig patch)
  /-- One mint more than the collaborator tells of, which is open to the recipient. -/
  | told {c : Config} {promised : Bool} {named : Option String} {recipient : Address}
    {collaborator : Collaborator} {e : Eligibility} (hconfig : s.config = some c)
    (hrecipient : resolveRecipient c call.sender named = .ok recipient)
    (hthrough : Mint.gatekeeper c call.env.time promised = .ok (some collaborator))
    (htold : (collaborator.eligibility call.answers recipient ⟨s, []⟩).1 = .ok e)
    (hopen : e.isOpen = true ∧ e.listed = true) (hsum : countBound ≤ e.minted + 1) :
    Overflows call s (.mint promised named)
  /-- The promised tokens that are claimed at once, after those claimed before. -/
  | claimed {c : Config} {limit : Option Nat} {named : Option String} {recipient contract : Address}
    {p : PromisedTokens} (hconfig : s.config = some c)
    (hrecipient : resolveRecipient c call.sender named = .ok recipient)
    (hairdropper : c.airdropper = some contract)
    (htold : call.answers.promisedTokens [] contract recipient = .ok p)
    (hsum : countBound ≤ s.mintCount .airdrop recipient + (Airdrop.unclaimed p limit).length) :
    Overflows call s (.claimAirdrop limit named)

variable {overflow : Prop} {s : Store} {c : Config} {a : Allocator} {call : Call}

/-! ## The allocator -/

namespace Allocator

/-- A shuffle is rejected once it is done or a token is issued. -/
theorem rejectsUnless_initializeShuffle (seed : Seed) :
    RejectsUnless overflow (initializeShuffle seed) a := by
  intro e b he
  rw [initializeShuffle_apply] at he
  split at he
  · cases he
    exact .rejected _
  · split at he
    · cases he
      exact .rejected _
    · cases he

/-- So is one that is only done once. -/
theorem rejectsUnless_ensureShuffled (seed : Seed) :
    RejectsUnless overflow (ensureShuffled seed) a := by
  intro e b he
  rw [ensureShuffled_apply] at he
  split at he
  · cases he
  · exact rejectsUnless_initializeShuffle seed e b he

/-- A draw is rejected for want of tokens. -/
theorem Consistent.rejectsUnless_next (h : a.Consistent) (collection : Option Nat) :
    RejectsUnless overflow (next collection) a := by
  intro e b he
  obtain rfl : e = .rejected .soldOut := h.eq_soldOut_of_next (by rw [he])
  exact .rejected _

/-- A step after the shuffle is rejected when it is so on the shuffled allocator. -/
theorem Consistent.rejectsUnless_shuffled {α : Type} {step : Step Allocator α} (h : a.Consistent)
    (seed : Seed) (hstep : ∀ b : Allocator, b.Consistent → RejectsUnless overflow step b) :
    RejectsUnless overflow (ensureShuffled seed >>= fun _ => step) a :=
  (rejectsUnless_ensureShuffled seed).bind fun _ b hshuffled =>
    hstep b ((ensureShuffled_moves hshuffled).consistent h)

end Allocator

/-- A bundle is rejected for want of tokens. -/
theorem Bundle.rejectsUnless_drawEach (h : a.Consistent) (collections : List Nat) :
    RejectsUnless overflow (drawEach collections) a := by
  refine FailsOnly.forEach (p := Allocator.Consistent) (fun collection b hb => ?_)
    (fun collection t b b' hb hnext => (hb.next_issues hnext).moves.consistent hb) _ h
  exact hb.rejectsUnless_next _

namespace CustomBundle

/-- Releasing tokens is rejected for one of them. -/
theorem rejectsUnless_release (h : a.Consistent) (tokens : List Token) :
    RejectsUnless overflow (release tokens) a := by
  induction tokens generalizing a with
  | nil => exact Step.failsOnly_of_ok rfl
  | cons t rest ih =>
    refine (Step.rejectsUnless_of_outcome (h.unstage_failsAsCheck t)).bind fun _ b hunstage => ?_
    exact (ih ((h.unstage_moves hunstage).consistent h)).bind fun _ _ _ => Step.failsOnly_of_ok rfl

/-- So is staging tokens. -/
theorem rejectsUnless_stageEach (h : a.Consistent) (assigned tokens staged : List Token) :
    RejectsUnless overflow (stageEach assigned tokens staged) a := by
  induction tokens generalizing a staged with
  | nil => exact Step.failsOnly_of_ok rfl
  | cons t rest ih =>
    unfold stageEach
    split
    · exact Step.rejectsUnless_reject _
    · split
      · exact Step.rejectsUnless_reject _
      · refine (Step.rejectsUnless_of_outcome (h.hold_failsAsCheck .staged t)).bind
          fun _ b hstage => ?_
        exact ih ((h.stage_moves hstage).consistent h) _

/-- So is staging others in their place. -/
theorem rejectsUnless_restage (h : a.Consistent) (purge : Bool)
    (staged assigned tokens : List Token) :
    RejectsUnless overflow (restage purge staged assigned tokens) a := by
  cases purge with
  | false =>
    refine FailsOnly.bind (Step.failsOnly_of_ok rfl) fun _ b hkept => ?_
    obtain ⟨-, rfl⟩ := Step.pure_eq_ok_iff.mp hkept
    exact (rejectsUnless_stageEach h _ _ _).bind fun _ _ _ => Step.failsOnly_of_ok rfl
  | true =>
    refine (rejectsUnless_release h staged).bind fun _ b hrelease => ?_
    have hb := (release_moves h hrelease).consistent h
    exact (rejectsUnless_stageEach hb _ _ _).bind fun _ _ _ => Step.failsOnly_of_ok rfl

end CustomBundle

/-! ## What commands begin with -/

namespace Store

variable {α β : Type}

/-- A missing part of the store is rejected, and the next step is taken on what is there. -/
theorem rejectsUnless_require_bind {part : Store → Option α} {next : α → Step Store β}
    (hnext : ∀ a, part s = some a → RejectsUnless overflow (next a) s) :
    RejectsUnless overflow (require part >>= next) s := by
  refine (Step.rejectsUnless_check (s.demand_failsAsCheck part)).bind fun a t hmade => ?_
  obtain ⟨ha, rfl⟩ := require_eq_ok_iff.mp hmade
  exact hnext a ha

/-- On a sound store the configuration that is read is valid. -/
theorem Sound.rejectsUnless_loadConfig_bind (hs : s.Sound) {next : Config → Step Store β}
    (hnext : ∀ c, c.validate = .ok () → RejectsUnless overflow (next c) s) :
    RejectsUnless overflow (loadConfig >>= next) s :=
  rejectsUnless_require_bind fun c hc => hnext c (hs.validate_eq_ok hc)

/-- The allocator that is read there is consistent. -/
theorem Sound.rejectsUnless_loadAllocator_bind (hs : s.Sound) {next : Allocator → Step Store β}
    (hnext : ∀ a, a.Consistent → RejectsUnless overflow (next a) s) :
    RejectsUnless overflow (loadAllocator >>= next) s :=
  rejectsUnless_require_bind fun a ha => hnext a (hs.consistent ha)

/-- While a count stays in its bound, the check of it is rejected, if it fails. -/
theorem checkMint_failsAsCheck_of_lt {channel : Channel} {address : Address} {units : Nat}
    (hcount : s.mintCount channel address + units < countBound) (c : Config) (now : Nat) :
    (s.checkMint c now channel address units).FailsAsCheck overflow :=
  (s.checkMint_failsAsCheck c now channel address units).imp fun hsum =>
    absurd hcount (Nat.not_lt.mpr hsum)

end Store

/-- The payment of a well-formed call is rejected when it is not the price, and otherwise it is an
amount. -/
theorem Call.WellFormed.rejectsUnless_checkPayment_bind {σ β : Type} {u : σ}
    (hwell : call.WellFormed s) {price : Nat} {next : Nat → Step σ β}
    (hnext : ∀ payment, payment < amountBound → RejectsUnless overflow (next payment) u) :
    RejectsUnless overflow (liftM (checkPayment c call.funds price) >>= next) u := by
  have hcheck : (checkPayment c call.funds price).FailsAsCheck overflow :=
    (checkPayment_failsAsCheck c call.funds price).imp (absurd hwell.distinct)
  exact Step.rejectsUnless_check_bind hcheck fun payment hpayment =>
    hnext payment (checkPayment_lt hwell.amounts hpayment)

/-! ## Writes and questions -/

/-- Counting mints is rejected while the count stays in its bound. -/
theorem rejectsUnless_recordMint {channel : Channel} {address : Address} {units : Nat}
    (hcount : s.mintCount channel address + units < countBound) (c : Config) (now : Nat) :
    RejectsUnless overflow (recordMint c now channel address units) s := by
  refine failsOnly_recordMint fun e he => ?_
  exact (Store.checkMint_failsAsCheck_of_lt hcount c now e he).rejectedUnless

/-- Settling an amount of money by a valid configuration is rejected for a deposit. -/
theorem Escrow.rejectsUnless_settleRevenue (hvalid : c.validate = .ok ()) {amount : Nat}
    (hamount : amount < amountBound) : RejectsUnless overflow (settleRevenue c amount) s := by
  refine (failsOnly_settleRevenue hvalid hamount s).imp fun e t hfailed => ?_
  obtain ⟨x, y, rfl, -⟩ := hfailed.2.overflow
  exact .rejected _

namespace CallState

/-- A step of a call is rejected as it is on the store. -/
theorem rejectsUnless_onStore {α : Type} {step : Step Store α} {u : CallState}
    (h : RejectsUnless overflow step u.store) :
    RejectsUnless overflow (liftM step : Step CallState α) u := failsOnly_onStore h

/-- In a call, too, a missing part of the store is rejected. -/
theorem rejectsUnless_require_bind {α β : Type} {part : Store → Option α}
    {next : α → Step CallState β} {u : CallState}
    (hnext : ∀ a, part u.store = some a → RejectsUnless overflow (next a) u) :
    RejectsUnless overflow ((liftM (Store.require part) : Step CallState α) >>= next) u := by
  refine (rejectsUnless_onStore (Step.rejectsUnless_check (u.store.demand_failsAsCheck part))).bind
    fun a v hmade => ?_
  obtain ⟨_, hread, rfl⟩ := onStore_eq_ok_iff.mp hmade
  obtain ⟨ha, rfl⟩ := Store.require_eq_ok_iff.mp hread
  exact hnext a ha

/-- A question without an answer is rejected. -/
theorem rejectsUnless_ask {α : Type} (q : Question)
    (answer : List Question → Except QueryFault α) (u : CallState) :
    RejectsUnless overflow (ask q answer) u :=
  Step.rejectsUnless_of_outcome (ask_failsAsCheck q answer u)

end CallState

/-- Asking a collaborator about an address is rejected without an answer. -/
theorem Collaborator.rejectsUnless_eligibility (collaborator : Collaborator) (answers : Answers)
    (minter : Address) (u : CallState) :
    RejectsUnless overflow (collaborator.eligibility answers minter) u := by
  cases collaborator <;>
    exact (CallState.rejectsUnless_ask _ _ u).bind fun _ _ _ => Step.failsOnly_of_ok rfl

/-- Finding the price of a mint is rejected, unless one mint more than the collaborator tells of is
no count. -/
theorem Mint.rejectsUnless_priceOf (answers : Answers) (recipient : Address)
    (through : Option Collaborator) (u : CallState) :
    RejectsUnless (∃ collaborator e, through = some collaborator ∧
        (collaborator.eligibility answers recipient u).1 = .ok e ∧
        e.isOpen = true ∧ e.listed = true ∧ countBound ≤ e.minted + 1)
      (priceOf answers c recipient through) u := by
  cases through with
  | none => exact Step.failsOnly_of_ok rfl
  | some collaborator =>
    refine (collaborator.rejectsUnless_eligibility answers recipient u).bind fun e v htold => ?_
    refine FailsOnly.bind (Step.rejectsUnless_check ?_) fun _ _ _ => Step.failsOnly_of_ok rfl
    exact (e.verify_failsAsCheck _ 1).imp fun ⟨hopen, hlisted, hsum⟩ =>
      ⟨collaborator, e, rfl, by rw [htold], hopen, hlisted, hsum⟩

/-- Reading the assigned tokens is rejected without an answer, as far as it ends. -/
theorem Airdropper.rejectsUnless_assignedAfter (answers : Answers) (contract : Address)
    (pages : Nat) (start : Option Token) (u : CallState) :
    FailsOnly (fun e _ => e.RejectedUnless overflow ∨ e = .exhausted)
      (assignedAfter answers contract pages start) u := by
  induction pages generalizing start u with
  | zero =>
    rintro e v ⟨⟩
    exact .inr rfl
  | succ pages ih =>
    refine FailsOnly.bind ((CallState.rejectsUnless_ask _ _ u).imp fun _ _ => .inl) fun page v _ => ?_
    split
    · exact Step.failsOnly_of_ok rfl
    · exact (ih _ v).bind fun _ _ _ => Step.failsOnly_of_ok rfl

/-- Where it ends, it is rejected without an answer. -/
theorem Airdropper.rejectsUnless_assignedTokens {answers : Answers} {contract : Address}
    {u : CallState} (hends : (assignedTokens answers contract u).1 ≠ .error .exhausted) :
    RejectsUnless overflow (assignedTokens answers contract) u := by
  intro e v he
  rcases rejectsUnless_assignedAfter answers contract _ none u e v he with hrejected | rfl
  · exact hrejected
  · exact absurd (by rw [he]) hends

/-! ## The commands -/

namespace Store.Sound

/-- Drawing a token is rejected while the count of its recipient is small. -/
theorem rejectsUnless_draw (hs : s.Sound) (hvalid : c.validate = .ok ()) {payment : Nat}
    (hpayment : payment < amountBound) {recipient : Address} {through : Option Collaborator}
    (hcount : s.mintCount (Mint.channelOf through) recipient + 1 < countBound) (env : Env)
    (sender : Address) :
    RejectsUnless overflow (Mint.draw c env sender recipient through payment) s := by
  refine hs.rejectsUnless_loadAllocator_bind fun a hconsistent => ?_
  refine Step.rejectsUnless_onCopy_bind (hconsistent.rejectsUnless_shuffled (env.entropy sender)
    fun b hb => hb.rejectsUnless_next none) fun token b _ => ?_
  refine FailsOnly.bind_of_keeps (Step.rejectsUnless_of_outcome
    (mintMessage_failsAsCheck recipient token s)) (keeps_mintMessage _ _) fun m _ => ?_
  refine (rejectsUnless_recordMint hcount c env.time).bind fun _ _ _ => ?_
  refine FailsOnly.bind (Step.failsOnly_of_ok rfl) fun _ _ _ => ?_
  exact (Escrow.rejectsUnless_settleRevenue hvalid hpayment).bind fun _ _ _ =>
    Step.failsOnly_of_ok rfl

/-- Minting a token is rejected, unless one mint more than its collaborator tells of is no count. -/
theorem rejectsUnless_mint (hs : s.Sound) (hwell : call.WellFormed s)
    (hcounts : ∀ channel address, s.mintCount channel address + 1 < countBound) (promised : Bool)
    (named : Option String) :
    RejectsUnless (call.Overflows s (.mint promised named)) (call.mint promised named) ⟨s, []⟩ := by
  refine CallState.rejectsUnless_require_bind fun c hc => ?_
  refine Step.rejectsUnless_check_bind (resolveRecipient_failsAsCheck _ _ _)
    fun recipient hrecipient => ?_
  refine Step.rejectsUnless_check_bind (Mint.gatekeeper_failsAsCheck _ _ _)
    fun through hthrough => ?_
  refine Step.failsOnly_get_bind (Step.rejectsUnless_check_bind
    (Store.checkMint_failsAsCheck_of_lt (hcounts _ _) c _) fun count _ => ?_)
  -- What is asked for the price leaves the store alone.
  refine CallState.failsOnly_bind (s := s) ((Mint.rejectsUnless_priceOf _ _ _ _).imp fun _ _ h =>
    h.imp ?_) (Mint.keeps_priceOf _ _ _ _) rfl fun price v hv => ?_
  · rintro ⟨collaborator, e, rfl, htold, hopen, hlisted, hsum⟩
    exact .told hc hrecipient hthrough htold ⟨hopen, hlisted⟩ hsum
  refine hwell.rejectsUnless_checkPayment_bind fun payment hamount => ?_
  refine CallState.rejectsUnless_onStore ?_
  rw [hv]
  exact hs.rejectsUnless_draw (hs.validate_eq_ok hc) hamount (hcounts _ _) _ _

/-- Minting a bundle is rejected. -/
theorem rejectsUnless_mintBundle (hs : s.Sound) (hwell : call.WellFormed s)
    (hcounts : ∀ channel address, s.mintCount channel address + 1 < countBound) :
    RejectsUnless overflow call.mintBundle s := by
  refine hs.rejectsUnless_loadConfig_bind fun c hvalid => ?_
  refine Step.failsOnly_get_bind (Step.rejectsUnless_check_bind
    (Store.checkMint_failsAsCheck_of_lt (hcounts _ _) c _) fun count _ => ?_)
  refine hwell.rejectsUnless_checkPayment_bind fun payment hamount => ?_
  refine hs.rejectsUnless_loadAllocator_bind fun a hconsistent => ?_
  refine Step.rejectsUnless_onCopy_bind (hconsistent.rejectsUnless_shuffled
    (call.env.entropy call.sender) fun b hb => Bundle.rejectsUnless_drawEach hb a.collectionIds)
    fun tokens b hdraw => ?_
  obtain ⟨exhausted, hexhausted⟩ :=
    Bundle.exists_anyExhausted (Bundle.consistent_of_draw hconsistent hdraw) a.collectionIds
  refine FailsOnly.bind_of_keeps ?_ (Step.Keeps.forEach (keeps_mintMessage call.sender) _)
    fun mints _ => ?_
  · exact FailsOnly.forEach (p := fun _ => True)
      (fun token u _ => Step.rejectsUnless_of_outcome (mintMessage_failsAsCheck call.sender token u))
      (fun _ _ _ _ _ _ => trivial) _ trivial
  refine (rejectsUnless_recordMint (hcounts _ _) c _).bind fun _ _ _ => ?_
  refine FailsOnly.bind (Step.failsOnly_of_ok rfl) fun _ _ _ => ?_
  refine FailsOnly.bind (Step.failsOnly_of_ok (Step.lift_eq_ok_iff.mpr ⟨hexhausted, rfl⟩))
    fun exhausted' _ _ => ?_
  refine (Bundle.failsOnly_close c exhausted').bind fun closed _ hclosed => ?_
  have hvalidity := (Bundle.close_keeps hclosed).1.trans hvalid
  exact (Escrow.rejectsUnless_settleRevenue hvalidity hamount).bind fun _ _ _ =>
    Step.failsOnly_of_ok rfl

/-- Issuing promised tokens is rejected, unless they take the count of their recipient out of its
bound. -/
theorem rejectsUnless_issue (hs : s.Sound) (env : Env) (sender recipient contract : Address)
    (tokens : List Token) :
    RejectsUnless (countBound ≤ s.mintCount .airdrop recipient + tokens.length)
      (Airdrop.issue c env sender recipient contract tokens) s := by
  refine Step.failsOnly_get_bind (Step.rejectsUnless_check_bind (s.checkMint_failsAsCheck _ _ _ _ _)
    fun count hcount => ?_)
  obtain ⟨-, rfl, hbound, -⟩ := checkMint_eq_ok_iff.mp hcount
  refine hs.rejectsUnless_loadAllocator_bind fun a hconsistent => ?_
  refine Step.rejectsUnless_onCopy_bind (Allocator.rejectsUnless_ensureShuffled _)
    fun _ shuffled hshuffled => ?_
  have hmoves := Allocator.Consistent.ensureShuffled_moves hshuffled
  refine FailsOnly.bind_of_keeps (Step.rejectsUnless_of_outcome (Airdrop.issueClaimed_failsAsCheck
    (hmoves.consistent hconsistent) contract recipient tokens s))
    (Airdrop.keeps_issueEach (Airdrop.keeps_claimMessages contract recipient) _ _) fun issued _ => ?_
  refine (rejectsUnless_recordMint hbound c env.time).bind fun _ _ _ => ?_
  exact FailsOnly.bind (Step.failsOnly_of_ok rfl) fun _ _ _ => Step.failsOnly_of_ok rfl

/-- So is a claim. -/
theorem rejectsUnless_claimAirdrop (hs : s.Sound) (call : Call) (limit : Option Nat)
    (named : Option String) :
    RejectsUnless (call.Overflows s (.claimAirdrop limit named)) (call.claimAirdrop limit named)
      ⟨s, []⟩ := by
  refine Step.rejectsUnless_check_bind (requireNoFunds_failsAsCheck _) fun _ _ => ?_
  refine CallState.rejectsUnless_require_bind fun c hc => ?_
  refine Step.rejectsUnless_check_bind (resolveRecipient_failsAsCheck _ _ _)
    fun recipient hrecipient => ?_
  cases hairdropper : c.airdropper with
  | none => exact Step.rejectsUnless_reject _
  | some contract =>
    refine (CallState.rejectsUnless_ask _ _ _).bind fun promised u hasked => ?_
    have htold := CallState.ask_eq_ok hasked
    have hu : u.store = s := (CallState.keeps_ask _ _).view_eq hasked
    split
    · exact Step.rejectsUnless_reject _
    · dsimp only
      split
      · exact Step.rejectsUnless_reject _
      · refine CallState.rejectsUnless_onStore ?_
        rw [hu]
        exact (hs.rejectsUnless_issue _ _ _ _ _).imp fun _ _ h => h.imp fun hsum =>
          .claimed hc hrecipient hairdropper htold hsum

/-- Selling a custom bundle is rejected while the count of its buyer is small. -/
theorem rejectsUnless_sell (hs : s.Sound) (hvalid : c.validate = .ok ()) {payment : Nat}
    (hpayment : payment < amountBound) {buyer : Address}
    (hcount : s.mintCount .customBundle buyer + 1 < countBound) (env : Env)
    (bundle left : List Token) :
    RejectsUnless overflow (CustomBundle.sell c env buyer payment bundle left) s := by
  refine hs.rejectsUnless_loadAllocator_bind fun a hconsistent => ?_
  refine Step.rejectsUnless_onCopy_bind (Allocator.rejectsUnless_ensureShuffled _)
    fun _ shuffled hshuffled => ?_
  have hmoves := Allocator.Consistent.ensureShuffled_moves hshuffled
  refine FailsOnly.bind_of_keeps (Step.rejectsUnless_of_outcome
    (CustomBundle.issueStaged_failsAsCheck (hmoves.consistent hconsistent) buyer bundle s))
    (Airdrop.keeps_issueEach (CustomBundle.keeps_sellMessages buyer) _ _) fun issued _ => ?_
  refine (rejectsUnless_recordMint hcount c env.time).bind fun _ _ _ => ?_
  refine FailsOnly.bind (Step.failsOnly_of_ok rfl) fun _ _ _ => ?_
  refine FailsOnly.bind (Step.failsOnly_of_ok rfl) fun _ _ _ => ?_
  refine (CustomBundle.failsOnly_close c left).bind fun closed _ hclosed => ?_
  have hvalidity := (CustomBundle.close_keeps hclosed).1.trans hvalid
  exact (Escrow.rejectsUnless_settleRevenue hvalidity hpayment).bind fun _ _ _ =>
    Step.failsOnly_of_ok rfl

/-- Minting a custom bundle is rejected. -/
theorem rejectsUnless_mintCustomBundle (hs : s.Sound) (hwell : call.WellFormed s)
    (hcounts : ∀ channel address, s.mintCount channel address + 1 < countBound) :
    RejectsUnless overflow call.mintCustomBundle s := by
  refine hs.rejectsUnless_loadConfig_bind fun c hvalid => ?_
  refine Step.failsOnly_get_bind (Step.rejectsUnless_check_bind
    (Store.checkMint_failsAsCheck_of_lt (hcounts _ _) c _) fun count _ => ?_)
  refine hwell.rejectsUnless_checkPayment_bind fun payment hamount => ?_
  refine rejectsUnless_require_bind fun staged _ => ?_
  split
  · exact Step.rejectsUnless_reject _
  · exact hs.rejectsUnless_sell hvalid hamount (hcounts _ _) _ _ _

/-- Changing settings is rejected, unless the points of the shares that are set add up to no count.
-/
theorem rejectsUnless_updateConfig (hs : s.Sound) (call : Call) (patch : ConfigPatch) :
    RejectsUnless (call.Overflows s (.updateConfig patch)) (call.updateConfig patch) s := by
  refine Step.rejectsUnless_check_bind (requireNoFunds_failsAsCheck _) fun _ _ => ?_
  refine rejectsUnless_require_bind fun _ _ => ?_
  refine FailsOnly.bind ?_ fun _ _ _ => Step.failsOnly_of_ok rfl
  refine hs.rejectsUnless_loadConfig_bind fun c hvalid => ?_
  refine Step.rejectsUnless_check_bind (c.requireAdministrator_failsAsCheck _) fun _ _ => ?_
  split
  · exact Step.rejectsUnless_reject _
  · refine Step.rejectsUnless_onCopy_bind patch.rejectsUnless_apply fun _ patched happlied => ?_
    refine Step.rejectsUnless_check_bind (patched.validate_failsAsCheck.imp fun hsum => ?_)
      fun _ _ => FailsOnly.bind (Step.failsOnly_of_ok rfl) fun _ _ _ => Step.failsOnly_of_ok rfl
    rcases patch.royalties_apply happlied with ⟨request, hset, hrequest⟩ | hkept
    · exact .points hset ((RoyaltiesRequest.overflows_iff hrequest).mp hsum)
    · rw [hkept] at hsum
      exact absurd hsum (Config.not_overflows_of_validate hvalid)

/-- Asking for a collaborator is rejected. -/
theorem rejectsUnless_initModule (call : Call) (target : Target) (plan : ModulePlan) :
    RejectsUnless overflow (call.initModule target plan) s := by
  refine Step.rejectsUnless_check_bind (requireNoFunds_failsAsCheck _) fun _ _ => ?_
  refine rejectsUnless_require_bind fun c _ => ?_
  refine Step.rejectsUnless_check_bind (c.requireAdministrator_failsAsCheck _) fun _ _ => ?_
  cases target.replyId? with
  | none => exact Step.rejectsUnless_reject _
  | some id => exact Step.failsOnly_of_ok rfl

/-- So is forwarding a message. -/
theorem rejectsUnless_forward (call : Call) (target : Target) (message : HookMessage) :
    RejectsUnless overflow (call.forward target message) s := by
  refine Step.rejectsUnless_check_bind (requireNoFunds_failsAsCheck _) fun _ _ => ?_
  refine rejectsUnless_require_bind fun c _ => ?_
  refine Step.rejectsUnless_check_bind (c.requireAdministrator_failsAsCheck _) fun _ _ => ?_
  cases c.attached target with
  | none => exact Step.rejectsUnless_reject _
  | some collaborator =>
    exact Step.rejectsUnless_check_bind (collaborator.forward_failsAsCheck message) fun _ _ =>
      Step.failsOnly_of_ok rfl

/-- So is shuffling. -/
theorem rejectsUnless_shuffle (call : Call) : RejectsUnless overflow call.shuffle s := by
  refine rejectsUnless_require_bind fun c _ => ?_
  refine rejectsUnless_require_bind fun a _ => ?_
  refine Step.rejectsUnless_onCopy_bind (Allocator.rejectsUnless_initializeShuffle _) fun _ _ _ => ?_
  refine Step.rejectsUnless_check_bind (chargeShuffle_failsAsCheck _ _ _) fun _ _ => ?_
  exact FailsOnly.bind (Step.failsOnly_of_ok rfl) fun _ _ _ => Step.failsOnly_of_ok rfl

/-- So is a payout. -/
theorem rejectsUnless_disburse (hs : s.Sound) (call : Call) (address : String) :
    RejectsUnless overflow (call.disburse address) s := by
  refine Step.rejectsUnless_check_bind (requireNoFunds_failsAsCheck _) fun _ _ => ?_
  refine rejectsUnless_require_bind fun c _ => ?_
  refine Step.rejectsUnless_check_bind (c.requireAdministrator_failsAsCheck _) fun _ _ => ?_
  refine Step.rejectsUnless_check_bind (validateAddress_failsAsCheck _) fun payee _ => ?_
  exact FailsOnly.bind (Step.failsOnly_of_ok (Escrow.disburse_apply hs.balanced payee))
    fun _ _ _ => Step.failsOnly_of_ok rfl

/-- Taking assigned tokens out of the draw is rejected. -/
theorem rejectsUnless_cleanAssigned (hs : s.Sound) (hwell : call.WellFormed s) :
    RejectsUnless overflow call.cleanAssigned ⟨s, []⟩ := by
  refine Step.rejectsUnless_check_bind (requireNoFunds_failsAsCheck _) fun _ _ => ?_
  refine CallState.rejectsUnless_require_bind fun c hc => ?_
  refine Step.rejectsUnless_check_bind (c.requireAdministrator_failsAsCheck _) fun _ _ => ?_
  cases hairdropper : c.airdropper with
  | none => exact Step.rejectsUnless_reject _
  | some contract =>
    refine CallState.failsOnly_bind (s := s)
      (Airdropper.rejectsUnless_assignedTokens (hwell.pages c contract hc hairdropper))
      (Airdropper.keeps_assignedAfter _ _ _ _) rfl fun assigned u hu => ?_
    refine CallState.rejectsUnless_onStore ?_
    rw [hu]
    refine hs.rejectsUnless_loadAllocator_bind fun a hconsistent => ?_
    obtain ⟨n, b, hreserved, -⟩ := hconsistent.reserveAll_cases assigned
    refine Step.rejectsUnless_onCopy_bind (Step.failsOnly_of_ok hreserved) fun _ _ _ => ?_
    exact FailsOnly.bind (Step.failsOnly_of_ok rfl) fun _ _ _ => Step.failsOnly_of_ok rfl

/-- Staging tokens is rejected. -/
theorem rejectsUnless_stageBundle (hs : s.Sound) (hwell : call.WellFormed s) (count price : Nat)
    (purge : Bool) (tokens : Option (List Token)) :
    RejectsUnless overflow (call.stageBundle count price purge tokens) ⟨s, []⟩ := by
  refine Step.rejectsUnless_check_bind (requireNoFunds_failsAsCheck _) fun _ _ => ?_
  refine CallState.rejectsUnless_require_bind fun c hc => ?_
  refine Step.rejectsUnless_check_bind (c.requireAdministrator_failsAsCheck _) fun _ _ => ?_
  split
  · exact Step.rejectsUnless_reject _
  · refine CallState.rejectsUnless_require_bind fun a ha => ?_
    have hconsistent := hs.consistent ha
    refine Step.failsOnly_get_bind (FailsOnly.bind ?_ fun assigned v _ => ?_)
    · unfold CustomBundle.assignedTokens
      cases hairdropper : c.airdropper with
      | none => exact Step.failsOnly_of_ok rfl
      | some contract =>
        dsimp only
        split
        · exact Step.failsOnly_of_ok rfl
        · exact Airdropper.rejectsUnless_assignedTokens (hwell.pages c contract hc hairdropper)
    · refine Step.rejectsUnless_onCopy_bind (CustomBundle.rejectsUnless_restage hconsistent purge _
        assigned _) fun restaged _ _ => ?_
      -- What is left writes to the store.
      refine FailsOnly.bind (Step.failsOnly_of_ok rfl) fun _ _ _ => ?_
      refine FailsOnly.bind (Step.failsOnly_of_ok rfl) fun _ _ _ => ?_
      exact FailsOnly.bind (Step.failsOnly_of_ok rfl) fun _ _ _ => Step.failsOnly_of_ok rfl

/-- A command that fails is rejected, unless one of its sums is no count. -/
theorem rejectsUnless_execute (hs : s.Sound) (hwell : call.WellFormed s)
    (hcounts : ∀ channel address, s.mintCount channel address + 1 < countBound)
    (command : Command) :
    RejectsUnless (call.Overflows s command) (call.execute command) ⟨s, []⟩ := by
  cases command with
  | updateConfig patch =>
    exact CallState.rejectsUnless_onStore (hs.rejectsUnless_updateConfig call patch)
  | initModule target plan =>
    exact CallState.rejectsUnless_onStore (rejectsUnless_initModule call target plan)
  | mint promised named => exact hs.rejectsUnless_mint hwell hcounts promised named
  | mintBundle => exact CallState.rejectsUnless_onStore (hs.rejectsUnless_mintBundle hwell hcounts)
  | claimAirdrop limit named => exact hs.rejectsUnless_claimAirdrop call limit named
  | cleanAssigned => exact hs.rejectsUnless_cleanAssigned hwell
  | shuffle => exact CallState.rejectsUnless_onStore (rejectsUnless_shuffle call)
  | forward target message =>
    exact CallState.rejectsUnless_onStore (rejectsUnless_forward call target message)
  | disburse address =>
    exact CallState.rejectsUnless_onStore (hs.rejectsUnless_disburse call address)
  | stageBundle count price purge tokens =>
    exact hs.rejectsUnless_stageBundle hwell count price purge tokens
  | mintCustomBundle =>
    exact CallState.rejectsUnless_onStore (hs.rejectsUnless_mintCustomBundle hwell hcounts)

end Store.Sound

end ShuffleMint
