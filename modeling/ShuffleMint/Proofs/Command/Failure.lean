import ShuffleMint.Proofs.Command.Standing
import ShuffleMint.Proofs.Escrow.Failure
import ShuffleMint.Proofs.Store.Reading
import ShuffleMint.Proofs.Store.Soundness

/-!
# How commands fail

Every command checks before it writes. Up to its first write it only reads the store, its questions
and a copy of the allocator; the first write is the count of the mint, whose check is the one that
passed before; and what comes after the first write cannot fail on a sound store, except for a
deposit that would leave the bound of amounts.
-/

namespace ShuffleMint

open Step (FailsOnly Keeps)

/-- A failure leaves the store as it was. -/
def NoTrace (s : Store) (_ : Failure) (t : Store) : Prop := t = s

/-- A failure leaves the store as it was, or is one of a deposit into the escrow. -/
def NoTraceButDeposit (c : Config) (s : Store) (e : Failure) (t : Store) : Prop :=
  t = s ∨ c.escrowFunds = true ∧ Escrow.FailedDeposit e t

/-- The payment of a mint is an amount when the coins that are sent are. -/
theorem checkPayment_lt {c : Config} {funds : List Coin} {price payment : Nat}
    (hcoins : ∀ coin ∈ funds, coin.amount < amountBound)
    (h : checkPayment c funds price = .ok payment) : payment < amountBound := by
  obtain ⟨paid, hpaid, hprice⟩ := Outcome.bind_eq_ok_iff.mp h
  have hlt : paid < amountBound := by
    unfold mayPay at hpaid
    split at hpaid
    · rw [← Except.ok.inj hpaid]
      decide
    · next coin =>
      split at hpaid
      · rw [← Except.ok.inj hpaid]
        exact hcoins coin (List.mem_singleton_self coin)
      · cases hpaid
    · split at hpaid <;> cases hpaid
  split at hprice
  · rwa [← Except.ok.inj hprice]
  · cases hprice

/-- A step of the store fails in a call as it does on the store. -/
theorem CallState.failsOnly_onStore {α : Type} {kind : Failure → Store → Prop} {step : Step Store α}
    {u : CallState} (h : FailsOnly kind step u.store) :
    FailsOnly (fun e v => kind e v.store) (liftM step : Step CallState α) u := by
  intro e v hrun
  change CallState.onStore step u = _ at hrun
  unfold CallState.onStore Step.focus at hrun
  cases hstep : step u.store with
  | mk outcome t =>
    rw [hstep] at hrun
    obtain ⟨rfl, rfl⟩ := Prod.mk.inj hrun
    exact h e t hstep

section Writes

variable {kind : Failure → Store → Prop} {s t : Store}

/-- Counting a mint fails where its check does, before anything is written. -/
theorem failsOnly_recordMint {c : Config} {now : Nat} {channel : Channel} {address : Address}
    {units : Nat}
    (hkind : ∀ e, s.checkMint c now channel address units = .error e → kind e s) :
    FailsOnly kind (recordMint c now channel address units) s := by
  refine FailsOnly.bind_of_keeps (Step.failsOnly_of_ok rfl) Step.keeps_get fun s' hread => ?_
  obtain rfl := Except.ok.inj (Prod.mk.inj hread).1
  refine FailsOnly.bind_of_keeps (Step.failsOnly_lift hkind) (Step.keeps_lift _) fun _ _ => ?_
  exact FailsOnly.bind (Step.failsOnly_of_ok rfl) fun _ _ _ => Step.failsOnly_of_ok rfl

/-- Drawing a bundle after the shuffle leaves a consistent allocator. -/
theorem Bundle.consistent_of_draw {a b : Allocator} (ha : a.Consistent) {seed : Seed}
    {collections : List Nat} {tokens : List Token}
    (h : (Allocator.ensureShuffled seed >>= fun _ => drawEach collections) a = (.ok tokens, b)) :
    b.Consistent := by
  obtain ⟨_, shuffled, hshuffled, hdraw⟩ := Step.bind_eq_ok_iff.mp h
  have hissues := ha.issues_of_ensureShuffled hshuffled fun h => (drawEach_issues h hdraw).1
  exact hissues.moves.consistent ha

/-- Closing the bundle channel cannot fail. -/
theorem Bundle.failsOnly_close (c : Config) (exhausted : Bool) :
    FailsOnly kind (close c exhausted) s := by
  cases exhausted <;> exact Step.failsOnly_of_ok rfl

/-- Closing the channel of the custom bundle cannot fail. -/
theorem CustomBundle.failsOnly_close (c : Config) (left : List Token) :
    FailsOnly kind (close c left) s := by
  unfold close
  split <;> exact Step.failsOnly_of_ok rfl

/-- Issuing tokens by name fails where claiming them one after the other does, or where the messages
of one of them do. -/
theorem Airdrop.failsOnly_issueEach {claim : Token → Step Allocator Unit}
    {messages : Token → Step Store (List Message)} (hkeeps : ∀ t, Step.Keeps id (messages t))
    (tokens : List Token) (a : Allocator) :
    FailsOnly (fun e _ => (Step.forEach claim tokens a).1 = .error e ∨
      ∃ t ∈ tokens, (messages t s).1 = .error e) (issueEach claim messages tokens a) s := by
  induction tokens generalizing a with
  | nil => exact Step.failsOnly_of_ok rfl
  | cons t rest ih =>
    refine FailsOnly.bind_of_keeps (Step.failsOnly_onCopy fun e he => ?_) (Step.keeps_onCopy _ _)
      fun claimed hclaimed => ?_
    · exact .inl (by rw [Step.forEach_cons, Step.bind_of_error (Step.eq_of_outcome he)])
    obtain ⟨hclaim, -⟩ := Step.onCopy_eq_ok_pair_iff.mp hclaimed
    refine FailsOnly.bind_of_keeps (fun e u he => ?_) (hkeeps t) fun first _ => ?_
    · exact .inr ⟨t, List.mem_cons_self .., by rw [he]⟩
    refine FailsOnly.bind ((ih claimed.2).imp fun e _ he => ?_) fun _ _ _ => Step.failsOnly_of_ok rfl
    rcases he with hlater | ⟨t', ht', hmessages⟩
    · exact .inl (by rw [Step.forEach_cons, Step.bind_of_ok hclaim,
        Step.bind_of_error (Step.eq_of_outcome hlater)])
    · exact .inr ⟨t', List.mem_cons_of_mem _ ht', hmessages⟩

end Writes

namespace Store.Sound

variable {s : Store} {c : Config}

/-- A random mint fails without a trace until it has counted the mint, and then only where a deposit
does. -/
theorem failsOnly_draw (hvalid : c.validate = .ok ()) {payment : Nat}
    (hpayment : payment < amountBound) (env : Env) (sender recipient : Address)
    (through : Option Collaborator) :
    FailsOnly (NoTraceButDeposit c s) (Mint.draw c env sender recipient through payment) s := by
  have hkind : ∀ e, NoTraceButDeposit c s e s := fun _ => .inl rfl
  refine (Store.keeps_require _).failsOnly_bind_id hkind fun a _ => ?_
  refine (Step.keeps_onCopy _ _).failsOnly_bind_id hkind fun drawn _ => ?_
  refine (keeps_mintMessage _ _).failsOnly_bind_id hkind fun m _ => ?_
  refine (failsOnly_recordMint fun e _ => hkind e).bind fun count counted _ => ?_
  -- From here on the mint is counted, and only the settlement can fail.
  refine FailsOnly.bind (Step.failsOnly_of_ok rfl) fun _ saved _ => ?_
  refine FailsOnly.bind ?_ fun payouts settled _ => Step.failsOnly_of_ok rfl
  exact (Escrow.failsOnly_settleRevenue hvalid hpayment saved).imp fun _ _ => .inr

/-- A bundle fails without a trace until it has counted the mint, and then only where a deposit
does: on a consistent allocator it can be told whether a collection is exhausted. -/
theorem failsOnly_mintBundle (hs : s.Sound) (hc : s.config = some c) {call : Call}
    (hcoins : ∀ coin ∈ call.funds, coin.amount < amountBound) :
    FailsOnly (NoTraceButDeposit c s) call.mintBundle s := by
  have hkind : ∀ e, NoTraceButDeposit c s e s := fun _ => .inl rfl
  have hvalid := hs.validate_eq_ok hc
  refine (Store.keeps_require _).failsOnly_bind_id hkind fun c' hc' => ?_
  obtain rfl := Option.some.inj (hc.symm.trans (Store.loadConfig_eq_ok_iff.mp hc').1)
  refine Step.keeps_get.failsOnly_bind_id hkind fun _ _ => ?_
  refine (Step.keeps_lift _).failsOnly_bind_id hkind fun count _ => ?_
  refine (Step.keeps_lift _).failsOnly_bind_id hkind fun payment hpayment => ?_
  have hamount := checkPayment_lt hcoins (Step.lift_eq_ok_iff.mp hpayment).1
  refine (Store.keeps_require _).failsOnly_bind_id hkind fun a ha => ?_
  refine (Step.keeps_onCopy _ _).failsOnly_bind_id hkind fun drawn hdrawn => ?_
  refine (Keeps.forEach (keeps_mintMessage call.sender) _).failsOnly_bind_id hkind fun mints _ => ?_
  refine (failsOnly_recordMint fun e _ => hkind e).bind fun _ counted _ => ?_
  -- From here on the mint is counted, and only the settlement can fail.
  refine FailsOnly.bind (Step.failsOnly_of_ok rfl) fun _ saved _ => ?_
  have hconsistent : drawn.2.Consistent :=
    Bundle.consistent_of_draw (hs.consistent (Store.loadAllocator_eq_ok_iff.mp ha).1)
      (Step.onCopy_eq_ok_pair_iff.mp hdrawn).1
  obtain ⟨exhausted, hexhausted⟩ := Bundle.exists_anyExhausted hconsistent a.collectionIds
  refine FailsOnly.bind (Step.failsOnly_of_ok (Step.lift_eq_ok_iff.mpr ⟨hexhausted, rfl⟩))
    fun exhausted' saved' _ => ?_
  refine (Bundle.failsOnly_close c exhausted').bind fun closed s' hclosed => ?_
  refine FailsOnly.bind ?_ fun payouts settled _ => Step.failsOnly_of_ok rfl
  obtain ⟨hvalidity, -, hescrow, -⟩ := Bundle.close_keeps hclosed
  have hsettle := Escrow.failsOnly_settleRevenue (hvalidity.trans hvalid) hamount s'
  rw [hescrow] at hsettle
  exact hsettle.imp fun _ _ => .inr

/-- A claim fails without a trace. -/
theorem failsOnly_issue (env : Env) (sender recipient contract : Address) (tokens : List Token) :
    FailsOnly (NoTrace s) (Airdrop.issue c env sender recipient contract tokens) s := by
  have hkind : ∀ e, NoTrace s e s := fun _ => rfl
  refine Step.keeps_get.failsOnly_bind_id hkind fun _ _ => ?_
  refine (Step.keeps_lift _).failsOnly_bind_id hkind fun count _ => ?_
  refine (Store.keeps_require _).failsOnly_bind_id hkind fun a _ => ?_
  refine (Step.keeps_onCopy _ _).failsOnly_bind_id hkind fun shuffled _ => ?_
  refine (Airdrop.keeps_issueEach (Airdrop.keeps_claimMessages contract recipient) _
    _).failsOnly_bind_id hkind fun issued _ => ?_
  refine (failsOnly_recordMint fun e _ => hkind e).bind fun _ counted _ => ?_
  exact FailsOnly.bind (Step.failsOnly_of_ok rfl) fun _ saved _ => Step.failsOnly_of_ok rfl

/-- The sale of a custom bundle fails without a trace until it has counted the mint, and then only
where a deposit does. -/
theorem failsOnly_sell (hvalid : c.validate = .ok ()) {payment : Nat}
    (hpayment : payment < amountBound) (env : Env) (buyer : Address) (bundle left : List Token) :
    FailsOnly (NoTraceButDeposit c s) (CustomBundle.sell c env buyer payment bundle left) s := by
  have hkind : ∀ e, NoTraceButDeposit c s e s := fun _ => .inl rfl
  refine (Store.keeps_require _).failsOnly_bind_id hkind fun a _ => ?_
  refine (Step.keeps_onCopy _ _).failsOnly_bind_id hkind fun shuffled _ => ?_
  refine (Airdrop.keeps_issueEach (CustomBundle.keeps_sellMessages buyer) _ _).failsOnly_bind_id
    hkind fun issued _ => ?_
  refine (failsOnly_recordMint fun e _ => hkind e).bind fun _ counted _ => ?_
  -- From here on the mint is counted, and only the settlement can fail.
  refine FailsOnly.bind (Step.failsOnly_of_ok rfl) fun _ saved _ => ?_
  refine FailsOnly.bind (Step.failsOnly_of_ok rfl) fun _ staged _ => ?_
  refine (CustomBundle.failsOnly_close c left).bind fun closed s' hclosed => ?_
  refine FailsOnly.bind ?_ fun payouts settled _ => Step.failsOnly_of_ok rfl
  obtain ⟨hvalidity, -, hescrow, -⟩ := CustomBundle.close_keeps hclosed
  have hsettle := Escrow.failsOnly_settleRevenue (hvalidity.trans hvalid) hpayment s'
  rw [hescrow] at hsettle
  exact hsettle.imp fun _ _ => .inr

/-- A custom bundle fails as its sale does. -/
theorem failsOnly_mintCustomBundle (hs : s.Sound) (hc : s.config = some c) {call : Call}
    (hcoins : ∀ coin ∈ call.funds, coin.amount < amountBound) :
    FailsOnly (NoTraceButDeposit c s) call.mintCustomBundle s := by
  have hkind : ∀ e, NoTraceButDeposit c s e s := fun _ => .inl rfl
  refine (Store.keeps_require _).failsOnly_bind_id hkind fun c' hc' => ?_
  obtain rfl := Option.some.inj (hc.symm.trans (Store.loadConfig_eq_ok_iff.mp hc').1)
  refine Step.keeps_get.failsOnly_bind_id hkind fun _ _ => ?_
  refine (Step.keeps_lift _).failsOnly_bind_id hkind fun count _ => ?_
  refine (Step.keeps_lift _).failsOnly_bind_id hkind fun payment hpayment => ?_
  have hamount := checkPayment_lt hcoins (Step.lift_eq_ok_iff.mp hpayment).1
  refine (Store.keeps_require _).failsOnly_bind_id hkind fun staged _ => ?_
  split
  · exact (Step.keeps_reject _).failsOnly_id hkind
  · exact failsOnly_sell (hs.validate_eq_ok hc) hamount _ _ _ _

/-- Changing settings fails without a trace. -/
theorem failsOnly_updateConfig (call : Call) (patch : ConfigPatch) :
    FailsOnly (NoTrace s) (call.updateConfig patch) s := by
  have hkind : ∀ e, NoTrace s e s := fun _ => rfl
  refine (Step.keeps_lift _).failsOnly_bind_id hkind fun _ _ => ?_
  refine (Store.keeps_require _).failsOnly_bind_id hkind fun before _ => ?_
  refine FailsOnly.bind ?_ fun after updated _ => Step.failsOnly_of_ok rfl
  refine (Store.keeps_require _).failsOnly_bind_id hkind fun _ _ => ?_
  refine (Step.keeps_lift _).failsOnly_bind_id hkind fun _ _ => ?_
  split
  · exact (Step.keeps_reject _).failsOnly_id hkind
  · refine (Step.keeps_onCopy _ _).failsOnly_bind_id hkind fun patched _ => ?_
    refine (Step.keeps_lift _).failsOnly_bind_id hkind fun _ _ => ?_
    exact FailsOnly.bind (Step.failsOnly_of_ok rfl) fun _ saved _ => Step.failsOnly_of_ok rfl

/-- Asking for a collaborator writes nothing. -/
theorem keeps_initModule (call : Call) (target : Target) (plan : ModulePlan) :
    Keeps id (call.initModule target plan) := by
  refine (Step.keeps_lift _).bind fun _ => (Store.keeps_require _).bind fun c => ?_
  refine (Step.keeps_lift _).bind fun _ => ?_
  cases target.replyId? with
  | none => exact Step.keeps_reject _
  | some id => exact Step.keeps_pure _

/-- Forwarding a message writes nothing. -/
theorem keeps_forward (call : Call) (target : Target) (message : HookMessage) :
    Keeps id (call.forward target message) := by
  refine (Step.keeps_lift _).bind fun _ => (Store.keeps_require _).bind fun c => ?_
  refine (Step.keeps_lift _).bind fun _ => ?_
  cases c.attached target with
  | none => exact Step.keeps_reject _
  | some collaborator => exact (Step.keeps_lift _).bind fun _ => Step.keeps_pure _

/-- Taking assigned tokens out of the draw fails without a trace. -/
theorem failsOnly_reserve (sender : Address) (tokens : List Token) :
    FailsOnly (NoTrace s) (Airdrop.reserve sender tokens) s := by
  have hkind : ∀ e, NoTrace s e s := fun _ => rfl
  refine (Store.keeps_require _).failsOnly_bind_id hkind fun a _ => ?_
  refine (Step.keeps_onCopy _ _).failsOnly_bind_id hkind fun reserved _ => ?_
  exact FailsOnly.bind (Step.failsOnly_of_ok rfl) fun _ saved _ => Step.failsOnly_of_ok rfl

/-- Shuffling fails without a trace. -/
theorem failsOnly_shuffle (call : Call) : FailsOnly (NoTrace s) call.shuffle s := by
  have hkind : ∀ e, NoTrace s e s := fun _ => rfl
  refine (Store.keeps_require _).failsOnly_bind_id hkind fun c' _ => ?_
  refine (Store.keeps_require _).failsOnly_bind_id hkind fun a _ => ?_
  refine (Step.keeps_onCopy _ _).failsOnly_bind_id hkind fun shuffled _ => ?_
  refine (Step.keeps_lift _).failsOnly_bind_id hkind fun _ _ => ?_
  exact FailsOnly.bind (Step.failsOnly_of_ok rfl) fun _ saved _ => Step.failsOnly_of_ok rfl

/-- A payout fails without a trace. -/
theorem failsOnly_disburse (hs : s.Sound) (call : Call) (address : String) :
    FailsOnly (NoTrace s) (call.disburse address) s := by
  have hkind : ∀ e, NoTrace s e s := fun _ => rfl
  refine (Step.keeps_lift _).failsOnly_bind_id hkind fun _ _ => ?_
  refine (Store.keeps_require _).failsOnly_bind_id hkind fun c' _ => ?_
  refine (Step.keeps_lift _).failsOnly_bind_id hkind fun _ _ => ?_
  refine (Step.keeps_lift _).failsOnly_bind_id hkind fun payee _ => ?_
  exact FailsOnly.bind (Step.failsOnly_of_ok (Escrow.disburse_apply hs.balanced payee))
    fun _ paid _ => Step.failsOnly_of_ok rfl

end Store.Sound

end ShuffleMint
