import ShuffleMint.Proofs.Allocator.Pending
import ShuffleMint.Proofs.Allocator.Queue

/-!
# When an allocator refuses, and that a refusal changes nothing

An operation on a token is refused as the standing of the token says, a draw when there is nothing
left to draw, and a shuffle once the order is shuffled or a token is issued. There is no other
failure: some operations move a slot to the cursor before they issue it, and could fail after that,
but the parts of an allocator of collections fit together, so that they do not. Hence a failure
always leaves the allocator as it was.
-/

namespace ShuffleMint

namespace Token

/-- Why a token that stands in some way cannot be claimed. -/
def claimFault? (t : Token) : Option SlotStatus → Option Rejection
  | none => some (.invalidToken t)
  | some .issued => some (.notEligible (.alreadyMinted t))
  | some .staged => some (.notEligible (.staged t))
  | some .pending | some .reserved => none

/-- Why a token that stands in some way cannot be claimed from the custom bundle. -/
def claimStagedFault? (t : Token) : Option SlotStatus → Option Rejection
  | none => some (.invalidToken t)
  | some .issued => some (.notEligible (.alreadyMinted t))
  | some .pending | some .reserved => some (.notEligible (.notStaged t))
  | some .staged => none

/-- Why a token that stands in some way cannot be held back. -/
def holdFault? (t : Token) : Option SlotStatus → Option Rejection
  | none => some (.invalidToken t)
  | some .pending => none
  | some _ => some (.invalidConfig (.tokenUnavailable t))

/-- Why a token that stands in some way cannot be asked to be released: only an unknown one cannot. -/
def unstageFault? (t : Token) : Option SlotStatus → Option Rejection
  | none => some (.invalidToken t)
  | some _ => none

end Token

/-- The token that an operation names. -/
def Operation.token? : Operation → Option Token
  | claim t | claimStaged t | reserve t | stage t | unstage t => some t
  | _ => none

namespace Allocator

/-- Why the order cannot be shuffled. -/
def shuffleFault? (a : Allocator) : Option Rejection :=
  if 0 < a.arena.cursor then some .orderLocked
  else if a.arena.shuffled then some .alreadyShuffled
  else none

/-- No token is pending, of one collection or of any. -/
def NothingPending (a : Allocator) (collection : Option Nat) : Prop :=
  ∀ t, (collection = none ∨ collection = some t.collection) → a.standing t ≠ some .pending

/-- The cause for which an operation is refused. -/
def Refuses (a : Allocator) (cause : Rejection) : Operation → Prop
  | .initializeShuffle _ => a.shuffleFault? = some cause
  | .ensureShuffled _ => a.arena.shuffled = false ∧ a.shuffleFault? = some cause
  | .ensureUnlocked => 0 < a.arena.cursor ∧ cause = .orderLocked
  | .next collection => a.NothingPending collection ∧ cause = .soldOut
  | .claim t => t.claimFault? (a.standing t) = some cause
  | .claimStaged t => t.claimStagedFault? (a.standing t) = some cause
  | .reserve t => t.holdFault? (a.standing t) = some cause
  | .stage t => t.holdFault? (a.standing t) = some cause
  | .unstage t => t.unstageFault? (a.standing t) = some cause
  | .reserveAll _ => False

/-- An operation is rejected for a cause and changes nothing, or succeeds where there is no cause. -/
def Answers (a : Allocator) (operation : Operation) : Option Rejection → Prop
  | some cause => operation.perform a = (.error (.rejected cause), a)
  | none => ∃ result b, operation.perform a = (.ok result, b)

variable {a : Allocator} {slot : Nat} {t : Token} {operation : Operation}

/-- An operation that is rejected for the cause that there is, if there is one, fails in that way
only. -/
theorem Answers.failure_iff {fault : Option Rejection} (h : a.Answers operation fault)
    (hfault : ∀ cause, a.Refuses cause operation ↔ fault = some cause) (e : Failure)
    (b : Allocator) :
    operation.perform a = (.error e, b) ↔
      b = a ∧ ∃ cause, e = .rejected cause ∧ a.Refuses cause operation := by
  cases fault with
  | some cause =>
    have hperform : operation.perform a = (.error (.rejected cause), a) := h
    rw [hperform, Prod.mk.injEq, Except.error.injEq]
    constructor
    · rintro ⟨rfl, rfl⟩
      exact ⟨rfl, cause, rfl, (hfault cause).mpr rfl⟩
    · rintro ⟨rfl, cause', rfl, hrefuses⟩
      rw [Option.some.inj ((hfault cause').mp hrefuses)]
      exact ⟨rfl, rfl⟩
  | none =>
    obtain ⟨result, c, hperform⟩ := h
    rw [hperform]
    constructor
    · intro herror
      cases herror
    · rintro ⟨-, cause, -, hrefuses⟩
      cases (hfault cause).mp hrefuses

/-! ## What each operation answers -/

/-- Shuffling is refused once a token is issued or the order is shuffled. -/
theorem answers_initializeShuffle (seed : Seed) (a : Allocator) :
    a.Answers (.initializeShuffle seed) a.shuffleFault? := by
  have happly := initializeShuffle_apply seed a
  unfold shuffleFault?
  split at happly
  · next hcursor =>
    rw [if_pos hcursor]
    exact Step.bind_of_error happly _
  · next hcursor =>
    rw [if_neg hcursor]
    split at happly
    · next hshuffled =>
      rw [if_pos hshuffled]
      exact Step.bind_of_error happly _
    · next hshuffled =>
      rw [if_neg hshuffled]
      exact ⟨_, _, Step.bind_of_ok happly _⟩

/-- Shuffling unless that is done is refused as shuffling is, where it is still to be done. -/
theorem answers_ensureShuffled (seed : Seed) (a : Allocator) :
    a.Answers (.ensureShuffled seed) (if a.arena.shuffled then none else a.shuffleFault?) := by
  have happly := ensureShuffled_apply seed a
  split at happly
  · next hshuffled =>
    rw [if_pos hshuffled]
    exact ⟨_, _, Step.bind_of_ok happly _⟩
  · next hshuffled =>
    have hsame : Operation.perform (.ensureShuffled seed) a =
        Operation.perform (.initializeShuffle seed) a := by
      rw [Operation.perform, Operation.perform, Step.bind_apply, Step.bind_apply, happly]
    have hanswers := answers_initializeShuffle seed a
    rw [if_neg hshuffled]
    cases hfault : a.shuffleFault? with
    | none => simpa only [Answers, hsame, hfault] using hanswers
    | some cause => simpa only [Answers, hsame, hfault] using hanswers

/-- The order is locked once a token is issued. -/
theorem answers_ensureUnlocked (a : Allocator) :
    a.Answers .ensureUnlocked (if 0 < a.arena.cursor then some .orderLocked else none) := by
  have happly := ensureUnlocked_apply a
  split at happly
  · next hcursor =>
    rw [if_pos hcursor]
    exact Step.bind_of_error happly _
  · next hcursor =>
    rw [if_neg hcursor]
    exact ⟨_, _, Step.bind_of_ok happly _⟩

namespace Consistent

/-- An operation on a token answers as the standing of the token says when it does so for a token
without a slot and for every status of a slot. -/
theorem answers_of_token (h : a.Consistent) (fault : Option SlotStatus → Option Rejection)
    (hinvalid : ∀ e, a.arena.slotOf t = .error e → a.Answers operation (fault none))
    (hslot : ∀ slot status, a.arena.tokenOf slot = .ok t → a.arena.status[slot]? = some status →
      a.Answers operation (fault (some status))) :
    a.Answers operation (fault (a.standing t)) := by
  rcases h.token_cases t with ⟨e, hnone⟩ | ⟨slot, status, htoken, hstatus⟩
  · rw [standing, hnone]
    exact hinvalid e hnone
  · rw [h.standing_eq htoken, hstatus]
    exact hslot slot status htoken hstatus

/-- A claim is refused as the standing of the token says. -/
theorem answers_claim (h : a.Consistent) (t : Token) :
    a.Answers (.claim t) (t.claimFault? (a.standing t)) := by
  refine h.answers_of_token _ (fun e hnone => ?_) fun slot status htoken hstatus => ?_
  · exact Step.bind_of_error (h.claim_apply_invalid hnone) _
  · have hclaim := h.claim_apply htoken hstatus
    cases status with
    | issued | staged => exact Step.bind_of_error hclaim _
    | pending | reserved => exact ⟨_, _, Step.bind_of_ok hclaim _⟩

/-- A claim of a staged token is refused as the standing of the token says. -/
theorem answers_claimStaged (h : a.Consistent) (t : Token) :
    a.Answers (.claimStaged t) (t.claimStagedFault? (a.standing t)) := by
  refine h.answers_of_token _ (fun e hnone => ?_) fun slot status htoken hstatus => ?_
  · exact Step.bind_of_error (h.claimStaged_apply_invalid hnone) _
  · have hclaim := h.claimStaged_apply htoken hstatus
    cases status with
    | issued | pending | reserved => exact Step.bind_of_error hclaim _
    | staged => exact ⟨_, _, Step.bind_of_ok hclaim _⟩

/-- Holding a token back is refused as the standing of the token says. -/
theorem answers_hold (h : a.Consistent) {held : SlotStatus}
    (hperform : operation.perform = Allocator.hold held t >>= fun _ => pure .nothing) :
    a.Answers operation (t.holdFault? (a.standing t)) := by
  refine h.answers_of_token _ (fun e hnone => ?_) fun slot status htoken hstatus => ?_
  · show operation.perform a = _
    rw [hperform]
    exact Step.bind_of_error (h.hold_apply_invalid hnone held) _
  · have hhold := h.hold_apply htoken hstatus held
    cases status with
    | issued | reserved | staged =>
      show operation.perform a = _
      rw [hperform]
      exact Step.bind_of_error hhold _
    | pending =>
      refine ⟨.nothing, a.holdSlot slot held, ?_⟩
      rw [hperform]
      exact Step.bind_of_ok hhold _

/-- Releasing a token is refused for an unknown one only. -/
theorem answers_unstage (h : a.Consistent) (t : Token) :
    a.Answers (.unstage t) (t.unstageFault? (a.standing t)) := by
  refine h.answers_of_token _ (fun e hnone => ?_) fun slot status htoken hstatus => ?_
  · exact Step.bind_of_error (h.unstage_apply_invalid hnone) _
  · have hunstage := h.unstage_apply htoken hstatus
    cases status <;> exact ⟨_, _, Step.bind_of_ok hunstage _⟩

/-- There is a slot to draw exactly when some token is pending. -/
theorem nextSlot?_eq_none_iff (h : a.Consistent) (collection : Option Nat) :
    a.arena.nextSlot? collection = none ↔ a.NothingPending collection := by
  constructor
  · intro hnone t ht hpending
    obtain ⟨slot, htoken, hstatus⟩ := h.standing_eq_some_iff.mp hpending
    have hmem := (h.arena.pending_iff slot).mpr hstatus
    cases collection with
    | none => exact List.ne_nil_of_mem hmem (List.head?_eq_none_iff.mp hnone)
    | some collection =>
      have hcollection := h.arena.laid.collection?_of_tokenOf htoken
      rw [Option.some.inj (ht.resolve_left (by simp))] at hnone
      simpa [hcollection] using List.find?_eq_none.mp hnone slot hmem
  · intro hnone
    cases hnext : a.arena.nextSlot? collection with
    | none => rfl
    | some slot =>
      obtain ⟨t, htoken, hpending⟩ := h.arena.exists_of_nextSlot? hnext
      refine absurd ((h.standing_eq htoken).trans hpending) (hnone t ?_)
      cases collection with
      | none => exact .inl rfl
      | some collection =>
        have hcollection := Arena.collection?_of_nextSlot? hnext
        rw [h.arena.laid.collection?_of_tokenOf htoken] at hcollection
        exact .inr hcollection.symm

/-- A draw is refused when there is nothing left to draw. -/
theorem answers_next (h : a.Consistent) (collection : Option Nat) :
    ∃ fault, a.Answers (.next collection) fault ∧
      ∀ cause, a.Refuses cause (.next collection) ↔ fault = some cause := by
  rcases h.next_apply_cases collection with ⟨hnext, happly⟩ | ⟨slot, t, hnext, -, -, happly⟩
  · have hnone := (h.nextSlot?_eq_none_iff collection).mp hnext
    exact ⟨some .soldOut, Step.bind_of_error happly _,
      fun cause => by simp [Refuses, hnone, eq_comm]⟩
  · have hsome : ¬ a.NothingPending collection := by
      rw [← h.nextSlot?_eq_none_iff, hnext]
      simp
    exact ⟨none, ⟨_, _, Step.bind_of_ok happly _⟩, fun cause => by simp [Refuses, hsome]⟩

/-- Every operation answers as the cause says for which it is refused, if there is one. -/
theorem exists_answers (h : a.Consistent) (operation : Operation) :
    ∃ fault, a.Answers operation fault ∧
      ∀ cause, a.Refuses cause operation ↔ fault = some cause := by
  cases operation with
  | initializeShuffle seed => exact ⟨_, answers_initializeShuffle seed a, fun _ => Iff.rfl⟩
  | ensureShuffled seed =>
    exact ⟨_, answers_ensureShuffled seed a, fun _ => by cases hflag : a.arena.shuffled <;>
      simp [Refuses, hflag]⟩
  | ensureUnlocked =>
    exact ⟨_, answers_ensureUnlocked a, fun _ => by by_cases hcursor : 0 < a.arena.cursor <;>
      simp [Refuses, hcursor, eq_comm]⟩
  | next collection => exact h.answers_next collection
  | claim t => exact ⟨_, h.answers_claim t, fun _ => Iff.rfl⟩
  | claimStaged t => exact ⟨_, h.answers_claimStaged t, fun _ => Iff.rfl⟩
  | reserve t => exact ⟨_, h.answers_hold rfl, fun _ => Iff.rfl⟩
  | stage t => exact ⟨_, h.answers_hold rfl, fun _ => Iff.rfl⟩
  | unstage t => exact ⟨_, h.answers_unstage t, fun _ => Iff.rfl⟩
  | reserveAll tokens =>
    obtain ⟨n, b, hreserve, -⟩ := h.reserveAll_cases tokens
    exact ⟨none, ⟨_, _, Step.bind_of_ok hreserve _⟩, fun cause => by simp [Refuses]⟩

/-- An operation fails exactly when there is a cause to refuse it, with that cause and without a
change. -/
theorem failure_iff (h : a.Consistent) (operation : Operation) (e : Failure) (b : Allocator) :
    operation.perform a = (.error e, b) ↔
      b = a ∧ ∃ cause, e = .rejected cause ∧ a.Refuses cause operation := by
  obtain ⟨fault, hanswers, hfault⟩ := h.exists_answers operation
  exact hanswers.failure_iff hfault e b

/-- A token stands in no way when it has no slot. -/
theorem standing_eq_none_iff (h : a.Consistent) :
    a.standing t = none ↔ ¬ ∃ slot, a.arena.slotOf t = .ok slot := by
  rcases h.token_cases t with ⟨e, hslot⟩ | ⟨slot, status, htoken, hstatus⟩
  · simp [standing, hslot]
  · simp [h.standing_eq htoken, hstatus, h.arena.laid.slotOf_eq_ok_iff.mpr htoken]

/-- A slot that is not issued can be, as far as its token and the supply of the collection go. -/
theorem exists_issuable (h : a.Consistent) {status : SlotStatus}
    (hstatus : a.arena.status[slot]? = some status) (hfresh : status ≠ .issued) :
    ∃ t supply, a.arena.tokenOf slot = .ok t ∧ a.supplies.get? t.collection = some supply ∧
      supply.issued < supply.total := by
  obtain ⟨t, htoken⟩ := h.arena.exists_tokenOf_of_status hstatus
  have hnew : slot ∉ a.arena.issuedSlots := by
    rw [h.arena.issued_iff, hstatus]
    simpa using hfresh
  obtain ⟨supply, hsupply, hroom⟩ := h.exists_room htoken hnew
  exact ⟨t, supply, htoken, hsupply, hroom⟩

/-- An operation is rejected for the causes for which it is refused. -/
theorem rejected_iff (h : a.Consistent) (operation : Operation) (cause : Rejection) :
    (∃ b, operation.perform a = (.error (.rejected cause), b)) ↔ a.Refuses cause operation := by
  simp only [h.failure_iff, exists_eq_left, Failure.rejected.injEq, exists_eq_left']

end Consistent

/-! ## The causes -/

/-- Where a token without a standing is the only one that is refused as invalid, it is refused so
exactly when it has none. -/
theorem eq_invalidToken_iff {fault : Option SlotStatus → Option Rejection}
    (hnone : fault none = some (.invalidToken t))
    (hsome : ∀ status, fault (some status) ≠ some (.invalidToken t))
    (standing : Option SlotStatus) :
    fault standing = some (.invalidToken t) ↔ standing = none := by
  cases standing with
  | none => simp [hnone]
  | some status => simp [hsome]

/-- An operation on a token refuses the token as invalid when the token stands in no way. -/
theorem refuses_invalidToken_iff (htoken : operation.token? = some t) :
    a.Refuses (.invalidToken t) operation ↔ a.standing t = none := by
  cases operation with
  | initializeShuffle | ensureShuffled | ensureUnlocked | next | reserveAll => cases htoken
  | claim t =>
    obtain rfl := Option.some.inj htoken
    exact eq_invalidToken_iff rfl (fun status => by cases status <;> simp [Token.claimFault?]) _
  | claimStaged t =>
    obtain rfl := Option.some.inj htoken
    exact eq_invalidToken_iff rfl
      (fun status => by cases status <;> simp [Token.claimStagedFault?]) _
  | reserve t | stage t =>
    obtain rfl := Option.some.inj htoken
    exact eq_invalidToken_iff rfl (fun status => by cases status <;> simp [Token.holdFault?]) _
  | unstage t =>
    obtain rfl := Option.some.inj htoken
    exact eq_invalidToken_iff rfl (fun status => by simp [Token.unstageFault?]) _

/-- The causes for which operations are refused, by the operation: those of the shuffle, the sold out
draw, and those about the token that an operation names. -/
theorem refuses_cases {cause : Rejection} (h : a.Refuses cause operation) :
    cause = .orderLocked ∨ cause = .alreadyShuffled ∨
      (∃ collection, operation = .next collection ∧ a.NothingPending collection ∧
        cause = .soldOut) ∨
      ∃ t, operation.token? = some t ∧ (cause = .invalidToken t ∨
        (∃ fault, cause = .notEligible fault) ∨ cause = .invalidConfig (.tokenUnavailable t)) := by
  have hshuffle (hfault : a.shuffleFault? = some cause) :
      cause = .orderLocked ∨ cause = .alreadyShuffled := by
    unfold shuffleFault? at hfault
    split at hfault
    · exact .inl (Option.some.inj hfault).symm
    · split at hfault
      · exact .inr (Option.some.inj hfault).symm
      · cases hfault
  cases operation with
  | initializeShuffle seed => exact (hshuffle h).imp_right .inl
  | ensureShuffled seed => exact (hshuffle h.2).imp_right .inl
  | ensureUnlocked => exact .inl h.2
  | next collection => exact .inr (.inr (.inl ⟨collection, rfl, h.1, h.2⟩))
  | claim t =>
    refine .inr (.inr (.inr ⟨t, rfl, ?_⟩))
    rcases hstanding : a.standing t with _ | (_ | _ | _ | _) <;>
      simp_all [Refuses, Token.claimFault?, eq_comm]
  | claimStaged t =>
    refine .inr (.inr (.inr ⟨t, rfl, ?_⟩))
    rcases hstanding : a.standing t with _ | (_ | _ | _ | _) <;>
      simp_all [Refuses, Token.claimStagedFault?, eq_comm]
  | reserve t | stage t =>
    refine .inr (.inr (.inr ⟨t, rfl, ?_⟩))
    rcases hstanding : a.standing t with _ | (_ | _ | _ | _) <;>
      simp_all [Refuses, Token.holdFault?, eq_comm]
  | unstage t =>
    refine .inr (.inr (.inr ⟨t, rfl, ?_⟩))
    cases hstanding : a.standing t <;> simp_all [Refuses, Token.unstageFault?, eq_comm]
  | reserveAll tokens => cases h

/-- What is refused on an allocator of collections. An operation fails exactly when there is a cause to
refuse it, with that cause and without a change; the cause depends on whether there is something to
draw, on the standing of the token that is named and on whether the order is shuffled and locked. A
token is invalid when it is not one of the collections, and only a draw without pending tokens is
sold out. The failures that would tell of parts that do not fit together never come up: slots that
are marked pending are found in the window, slots that are not issued can be, all look-ups stay within
their lists, and what is left can be counted. -/
structure RefusesExactly (collections : List (Nat × Nat)) (a : Allocator) : Prop where
  failure_iff : ∀ (operation : Operation) (e : Failure) (b : Allocator),
    operation.perform a = (.error e, b) ↔
      b = a ∧ ∃ cause, e = .rejected cause ∧ a.Refuses cause operation
  invalid_iff : ∀ (operation : Operation) (t : Token), operation.token? = some t →
    ((∃ b, operation.perform a = (.error (.rejected (.invalidToken t)), b)) ↔
      ¬ ∃ c ∈ collections, c.1 = t.collection ∧ 1 ≤ t.number ∧ t.number ≤ c.2)
  soldOut_iff : ∀ operation : Operation,
    (∃ b, operation.perform a = (.error (.rejected .soldOut), b)) ↔
      ∃ collection, operation = .next collection ∧ a.NothingPending collection
  coherent : ∀ (operation : Operation) (e : Failure) (b : Allocator),
    operation.perform a = (.error e, b) → e ≠ .aborted ∧ ∀ fault, e ≠ .rejected (.general fault)
  found : ∀ slot, a.arena.status[slot]? = some .pending →
    ∃ position, a.arena.pendingPosition slot = .ok position
  issuable : ∀ slot status, a.arena.status[slot]? = some status → status ≠ .issued →
    ∃ t supply, a.arena.tokenOf slot = .ok t ∧ a.supplies.get? t.collection = some supply ∧
      supply.issued < supply.total
  within : a.arena.cursor ≤ a.arena.order.length ∧
    ∀ slot ∈ a.arena.order, slot < a.arena.status.length
  counted : (∃ n, a.arena.remaining = .ok n) ∧ (∃ n, a.arena.pending = .ok n) ∧
    ∀ collection, ∃ n, a.arena.pendingIn collection = .ok n

/-- A consistent allocator that is laid out as its collections say refuses exactly what it must. -/
theorem Consistent.refusesExactly (h : a.Consistent) {collections : List (Nat × Nat)}
    (hcollections : a.arena.layout.map (fun r => (r.collection, r.supply)) = collections) :
    a.RefusesExactly collections where
  failure_iff := h.failure_iff
  invalid_iff := fun operation t htoken => by
    rw [h.rejected_iff, refuses_invalidToken_iff htoken, h.standing_eq_none_iff,
      h.exists_slotOf_iff hcollections]
  soldOut_iff := fun operation => by
    rw [h.rejected_iff]
    constructor
    · intro hrefuses
      rcases refuses_cases hrefuses with hcause | hcause | ⟨collection, hnext, hnone, -⟩ |
        ⟨t, -, hcause | ⟨fault, hcause⟩ | hcause⟩
      case inr.inr.inl => exact ⟨collection, hnext, hnone⟩
      all_goals cases hcause
    · rintro ⟨collection, rfl, hnone⟩
      exact ⟨hnone, rfl⟩
  coherent := fun operation e b hfails => by
    obtain ⟨-, cause, rfl, hrefuses⟩ := (h.failure_iff operation e b).mp hfails
    refine ⟨by simp, fun fault hgeneral => ?_⟩
    obtain rfl := Failure.rejected.inj hgeneral
    rcases refuses_cases hrefuses with hcause | hcause | ⟨-, -, -, hcause⟩ |
      ⟨t, -, hcause | ⟨fault, hcause⟩ | hcause⟩ <;> cases hcause
  found := fun slot hslot => by
    obtain ⟨position, hposition, -⟩ := h.arena.searchable.pendingPosition_eq hslot
    exact ⟨position, hposition⟩
  issuable := fun _ _ hstatus hfresh => h.exists_issuable hstatus hfresh
  within := ⟨h.arena.cursor_le, fun _ => h.arena.lt_total_of_mem⟩
  counted := ⟨⟨_, h.arena.remaining_eq⟩, ⟨_, if_pos h.arena.cursor_le⟩,
    fun collection => ⟨_, h.arena.pendingIn_eq collection⟩⟩

/-- However an allocator of collections is used, it refuses exactly what it must, and a refusal
changes nothing. -/
theorem refusesExactly_after (collections : List (Nat × Nat))
    (hdistinct : (collections.map Prod.fst).Nodup)
    (hbounded : (collections.map Prod.snd).sum < countBound) :
    ∃ start, ofCollections collections = .ok start ∧
      ∀ history : List Operation, (start.after history).RefusesExactly collections := by
  obtain ⟨start, hstart, hconsistent, -, -, hcollections⟩ :=
    exists_ofCollections hdistinct hbounded
  refine ⟨start, hstart, fun history => ?_⟩
  obtain ⟨hafter, tokens, hmoves⟩ := hconsistent.after history
  exact hafter.refusesExactly (by rw [hmoves.layout_total_eq.1]; exact hcollections)

/-- Of three collections, one of them without tokens, the tokens of the last are both drawn. A third
draw from it is sold out, while the first collection still has tokens to draw. -/
theorem refusesExactly_after_draws :
    ∃ start, ofCollections [(101, 3), (7, 0), (102, 2)] = .ok start ∧
      (start.after [.next (some 102), .next (some 102)]).RefusesExactly
        [(101, 3), (7, 0), (102, 2)] ∧
      Operation.perform (.next (some 102)) (start.after [.next (some 102), .next (some 102)]) =
        (.error (.rejected .soldOut), start.after [.next (some 102), .next (some 102)]) ∧
      (Operation.perform (.next (some 101))
        (start.after [.next (some 102), .next (some 102)])).1 = .ok (.token ⟨101, 1⟩) := by
  obtain ⟨start, hstart, hexact⟩ :=
    refusesExactly_after [(101, 3), (7, 0), (102, 2)] (by decide) (by decide)
  have hlaid : ofCollections [(101, 3), (7, 0), (102, 2)] = .ok _ := rfl
  obtain rfl := Except.ok.inj (hlaid.symm.trans hstart)
  exact ⟨_, rfl, hexact _, by decide +kernel, by decide +kernel⟩

end Allocator

end ShuffleMint
