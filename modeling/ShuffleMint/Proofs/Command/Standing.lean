import ShuffleMint.Proofs.Allocator.Standing
import ShuffleMint.Proofs.Command.Allocation

/-!
# How commands change the standing of tokens

The commands work through lists of tokens. What such a loop does is told token by token: which ones
are issued, reserved, released or staged, and that all the others stand as they did before.
-/

namespace ShuffleMint

open Allocator (Issues)

/-- Where the first token is turned from one status to another and then the rest are, all that are
listed are turned. -/
theorem SlotStatus.turn_cons {t first : Token} {rest : List Token} {old new : SlotStatus}
    {stood turned : Option SlotStatus} (hne : new ≠ old)
    (hfirst : turned = if t = first ∧ stood = some old then some new else stood) :
    (if t ∈ rest ∧ turned = some old then some new else turned) =
      if t ∈ first :: rest ∧ stood = some old then some new else stood := by
  simp only [hfirst, List.mem_cons]
  by_cases hold : stood = some old
  · by_cases hsame : t = first <;> simp [hold, hsame, hne]
  · simp [hold]

namespace Allocator.Consistent

variable {a b c : Allocator}

/-- What is issued after shuffling, unless that was done, is issued. -/
theorem issues_of_ensureShuffled (h : a.Consistent) {seed : Seed} {statuses : List SlotStatus}
    {tokens : List Token} (hshuffled : ensureShuffled seed a = (.ok (), b))
    (hissues : b.Consistent → b.Issues statuses tokens c) : a.Issues statuses tokens c := by
  have hmoves := ensureShuffled_moves hshuffled
  have hafter := hissues (hmoves.consistent h)
  exact hafter.of_standing_eq hmoves (standing_ensureShuffled hshuffled)

/-- Of the tokens listed, those that are pending are reserved. -/
theorem reserveAll_standing (h : a.Consistent) {tokens : List Token} {removed : Nat}
    (hok : reserveAll tokens a = (.ok removed, b)) (t : Token) :
    b.standing t =
      if t ∈ tokens ∧ a.standing t = some .pending then some .reserved else a.standing t := by
  induction tokens generalizing a removed with
  | nil =>
    obtain ⟨-, rfl⟩ := Step.pure_eq_ok_iff.mp hok
    simp
  | cons first rest ih =>
    simp only [reserveAll, Step.bind_eq_ok_iff, Step.pure_eq_ok_iff] at hok
    obtain ⟨reserved, c, hfirst, more, d, hrest, -, rfl⟩ := hok
    have hmoves := moves_of_cases (.inr (h.reserveIfPending_cases first)) hfirst
    rw [ih (hmoves.consistent h) hrest]
    exact SlotStatus.turn_cons (by simp) (h.reserveIfPending_standing hfirst t)

end Allocator.Consistent

/-- A bundle issues pending tokens, as many as there are collections to draw from. -/
theorem Bundle.drawEach_issues {a b : Allocator} (h : a.Consistent) {collections : List Nat}
    {tokens : List Token} (hok : drawEach collections a = (.ok tokens, b)) :
    a.Issues [.pending] tokens b ∧ tokens.length = collections.length := by
  induction collections generalizing a tokens with
  | nil =>
    obtain ⟨rfl, rfl⟩ := Step.pure_eq_ok_iff.mp hok
    exact ⟨.refl, rfl⟩
  | cons collection rest ih =>
    obtain ⟨t, c, hfirst, hrest⟩ := Step.bind_eq_ok_iff.mp hok
    obtain ⟨others, d, hothers, hdone⟩ := Step.bind_eq_ok_iff.mp hrest
    obtain ⟨rfl, rfl⟩ := Step.pure_eq_ok_iff.mp hdone
    have hissues := h.next_issues hfirst
    obtain ⟨hlater, hlength⟩ := ih (hissues.moves.consistent h) hothers
    exact ⟨hissues.trans hlater (by simp), congrArg (· + 1) hlength⟩

/-- A bundle is drawn only while every collection that it draws from has a pending token. -/
theorem Bundle.exists_pending_of_drawEach {a b : Allocator} (h : a.Consistent)
    {collections : List Nat} {tokens : List Token}
    (hok : drawEach collections a = (.ok tokens, b)) :
    ∀ id ∈ collections, ∃ t : Token, t.collection = id ∧ a.standing t = some .pending := by
  induction collections generalizing a tokens with
  | nil => exact fun id hid => nomatch hid
  | cons collection rest ih =>
    obtain ⟨t, c, hfirst, hrest⟩ := Step.bind_eq_ok_iff.mp hok
    obtain ⟨others, d, hothers, hdone⟩ := Step.bind_eq_ok_iff.mp hrest
    obtain ⟨rfl, rfl⟩ := Step.pure_eq_ok_iff.mp hdone
    have hissues := h.next_issues hfirst
    refine List.forall_mem_cons.mpr ⟨⟨t, h.collection_of_next hfirst, ?_⟩, fun id hid => ?_⟩
    · obtain ⟨status, hstatus, hstood⟩ := hissues.stood t (List.mem_singleton_self t)
      rwa [List.mem_singleton.mp hstatus] at hstood
    · -- what is pending after the first draw was pending before it
      obtain ⟨later, hcollection, hpending⟩ := ih (hissues.moves.consistent h) hothers id hid
      rw [hissues.standing] at hpending
      split at hpending
      · cases hpending
      · exact ⟨later, hcollection, hpending⟩

/-- Tokens that are claimed one after the other are issued, each as a single claim issues it. -/
theorem Airdrop.Issued.issues {claim : Token → Step Allocator Unit}
    {messages : Token → Step Store (List Message)} {s : Store} {tokens : List Token}
    {a b : Allocator} {made : List Message} (h : Issued claim messages s tokens a made b)
    {statuses : List SlotStatus} (hissued : .issued ∉ statuses)
    (hclaim : ∀ (t : Token) (a b : Allocator), a.Consistent → claim t a = (.ok (), b) →
      a.Issues statuses [t] b)
    (ha : a.Consistent) : a.Issues statuses tokens b := by
  induction h with
  | nil => exact .refl
  | cons hfirst _ _ ih =>
    have hissues := hclaim _ _ _ ha hfirst
    exact hissues.trans (ih (hissues.moves.consistent ha)) hissued

/-- Promised tokens that are claimed were pending or reserved. -/
theorem Airdrop.Issued.issues_claimed {messages : Token → Step Store (List Message)} {s : Store}
    {tokens : List Token} {a b : Allocator} {made : List Message}
    (h : Issued Allocator.claim messages s tokens a made b) (ha : a.Consistent) :
    a.Issues [.pending, .reserved] tokens b :=
  h.issues (by simp) (fun _ _ _ hconsistent hok => hconsistent.claim_issues hok) ha

namespace CustomBundle

variable {a b : Allocator}

/-- Of the tokens listed, those that are staged are released. -/
theorem release_standing (h : a.Consistent) {tokens : List Token} {released : Nat}
    (hok : release tokens a = (.ok released, b)) (t : Token) :
    b.standing t =
      if t ∈ tokens ∧ a.standing t = some .staged then some .pending else a.standing t := by
  induction tokens generalizing a released with
  | nil =>
    obtain ⟨-, rfl⟩ := Step.pure_eq_ok_iff.mp hok
    simp
  | cons first rest ih =>
    simp only [release, Step.bind_eq_ok_iff, Step.pure_eq_ok_iff] at hok
    obtain ⟨wasStaged, c, hfirst, more, d, hrest, -, rfl⟩ := hok
    have hmoves := h.unstage_moves hfirst
    rw [ih (hmoves.consistent h) hrest]
    exact SlotStatus.turn_cons (by simp) (h.unstage_standing hfirst t)

/-- Staging lists the tokens after those already staged. Each of them was pending and neither listed
nor assigned, none comes twice, and all of them are staged. -/
theorem stageEach_standing (h : a.Consistent) {assigned tokens staged kept : List Token}
    (hok : stageEach assigned tokens staged a = (.ok kept, b)) :
    kept = staged ++ tokens ∧ tokens.Nodup ∧
      (∀ t ∈ tokens, t ∉ staged ∧ t ∉ assigned ∧ a.standing t = some .pending) ∧
      ∀ t, b.standing t = if t ∈ tokens then some .staged else a.standing t := by
  induction tokens generalizing a staged with
  | nil =>
    obtain ⟨rfl, rfl⟩ := Step.pure_eq_ok_iff.mp hok
    simp
  | cons first rest ih =>
    rw [stageEach] at hok
    split at hok
    · simp at hok
    · next hnew =>
      split at hok
      · simp at hok
      · next hfree =>
        rw [List.contains_iff_mem] at hnew hfree
        obtain ⟨_, c, hfirst, hrest⟩ := Step.bind_eq_ok_iff.mp hok
        obtain ⟨hpending, hstage⟩ := h.stage_standing hfirst
        obtain ⟨rfl, hnodup, hstood, hstanding⟩ :=
          ih ((h.stage_moves hfirst).consistent h) hrest
        refine ⟨by simp, List.nodup_cons.mpr ⟨fun hmem => ?_, hnodup⟩, fun t ht => ?_, fun t => ?_⟩
        · exact (hstood first hmem).1 (by simp)
        · rcases List.mem_cons.mp ht with rfl | ht
          · exact ⟨hnew, hfree, hpending⟩
          · obtain ⟨hlisted, hassigned, hlater⟩ := hstood t ht
            simp only [List.mem_append, List.mem_singleton, not_or] at hlisted
            rw [hstage, if_neg hlisted.2] at hlater
            exact ⟨hlisted.1, hassigned, hlater⟩
        · rw [hstanding, hstage]
          by_cases hsame : t = first <;> simp [hsame]

/-- Restaging lists the tokens after those that stay staged. What was staged stays so, or with a
purge is pending again, unless it is one of the tokens. -/
theorem restage_standing (h : a.Consistent) {purge : Bool} {staged assigned tokens : List Token}
    {result : Nat × List Token} (hok : restage purge staged assigned tokens a = (.ok result, b)) :
    result.2 = (if purge then [] else staged) ++ tokens ∧ tokens.Nodup ∧
      (∀ t ∈ tokens, t ∉ (if purge then [] else staged)) ∧
      ∀ t, b.standing t =
        if t ∈ tokens then some .staged
        else if purge = true ∧ t ∈ staged ∧ a.standing t = some .staged then some .pending
        else a.standing t := by
  obtain ⟨c, hrelease, hstage⟩ := restage_eq_ok hok
  cases purge with
  | true =>
    have hc := (release_moves h hrelease).consistent h
    obtain ⟨hkept, hnodup, hstood, hstanding⟩ := stageEach_standing hc hstage
    refine ⟨hkept, hnodup, fun t ht => (hstood t ht).1, fun t => ?_⟩
    rw [hstanding, release_standing h hrelease]
    simp only [true_and]
  | false =>
    obtain ⟨-, rfl⟩ := Step.pure_eq_ok_iff.mp hrelease
    obtain ⟨hkept, hnodup, hstood, hstanding⟩ := stageEach_standing h hstage
    refine ⟨hkept, hnodup, fun t ht => (hstood t ht).1, fun t => ?_⟩
    rw [hstanding]
    simp

end CustomBundle

end ShuffleMint
