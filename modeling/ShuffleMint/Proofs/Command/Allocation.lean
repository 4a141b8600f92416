import ShuffleMint.Proofs.Command.Administering

/-!
# What commands do to the allocator without issuing

Every command works on a copy of a consistent allocator and makes moves on it. The moves here issue
nothing: they hold, release or stage tokens anew, or shuffle the order.
-/

namespace ShuffleMint

namespace Allocator

namespace Consistent

variable {a b : Allocator}

/-- A step that fails or makes moves has made moves when it succeeds. -/
theorem moves_of_cases {α : Type} {step : Step Allocator α} {tokens : α → List Token} {x : α}
    (hcases : (∃ e, step a = (.error e, a)) ∨
      ∃ y c, step a = (.ok y, c) ∧ a.Moves (tokens y) c)
    (hok : step a = (.ok x, b)) : a.Moves (tokens x) b := by
  rcases hcases with ⟨e, hfails⟩ | ⟨y, c, hmade, hmoves⟩
  · rw [hfails] at hok
    cases hok
  · rw [hmade] at hok
    obtain ⟨hvalue, rfl⟩ := Prod.mk.inj hok
    rwa [← Except.ok.inj hvalue]

/-- The same for a step that yields nothing. -/
theorem moves_of_unit_cases {step : Step Allocator Unit} {tokens : List Token}
    (hcases : (∃ e, step a = (.error e, a)) ∨ ∃ c, step a = (.ok (), c) ∧ a.Moves tokens c)
    (hok : step a = (.ok (), b)) : a.Moves tokens b :=
  @moves_of_cases a b Unit step (fun _ => tokens) ()
    (hcases.imp_right fun ⟨c, hc⟩ => ⟨(), c, hc⟩) hok

/-- Staging a token that succeeds has issued nothing. -/
theorem stage_moves (h : a.Consistent) {t : Token} (hok : stage t a = (.ok (), b)) :
    a.Moves [] b :=
  moves_of_unit_cases (h.hold_cases t (.inr rfl)) hok

/-- Releasing a token that succeeds has issued nothing. -/
theorem unstage_moves (h : a.Consistent) {t : Token} {wasStaged : Bool}
    (hok : unstage t a = (.ok wasStaged, b)) : a.Moves [] b :=
  moves_of_cases (h.unstage_cases t) hok

/-- Reserving tokens issues nothing. -/
theorem reserveAll_moves (h : a.Consistent) {tokens : List Token} {removed : Nat}
    (hok : reserveAll tokens a = (.ok removed, b)) : a.Moves [] b :=
  moves_of_cases (.inr (h.reserveAll_cases tokens)) hok

/-- Shuffling issues nothing. -/
theorem initializeShuffle_moves {seed : Seed} (hok : initializeShuffle seed a = (.ok (), b)) :
    a.Moves [] b :=
  moves_of_unit_cases (initializeShuffle_cases seed a) hok

/-- Shuffling unless that is done issues nothing. -/
theorem ensureShuffled_moves {seed : Seed} (hok : ensureShuffled seed a = (.ok (), b)) :
    a.Moves [] b :=
  moves_of_unit_cases (ensureShuffled_cases seed a) hok

end Consistent

end Allocator

/-- Whether a collection is exhausted can be told of every consistent allocator. -/
theorem Bundle.exists_anyExhausted {a : Allocator} (h : a.Consistent) (collections : List Nat) :
    ∃ exhausted, anyExhausted a collections = .ok exhausted := by
  induction collections with
  | nil => exact ⟨false, rfl⟩
  | cons collection rest ih =>
    simp only [anyExhausted, Outcome.bind_eq_ok_iff, h.arena.pendingIn_eq, Except.ok.injEq,
      exists_eq_left']
    split
    · exact ⟨true, rfl⟩
    · exact ih

/-- Where some collection is exhausted, it is one of those that were looked at. -/
theorem Bundle.exists_of_anyExhausted {a : Allocator} {collections : List Nat}
    (h : anyExhausted a collections = .ok true) :
    ∃ id ∈ collections, a.arena.pendingIn id = .ok 0 := by
  induction collections with
  | nil => cases h
  | cons collection rest ih =>
    obtain ⟨n, hn, hrest⟩ := Outcome.bind_eq_ok_iff.mp h
    split at hrest
    · next hzero => exact ⟨collection, List.mem_cons_self, hzero ▸ hn⟩
    · obtain ⟨id, hid, hnone⟩ := ih hrest
      exact ⟨id, List.mem_cons_of_mem _ hid, hnone⟩

namespace CustomBundle

variable {a b : Allocator}

/-- Releasing tokens issues nothing. -/
theorem release_moves (h : a.Consistent) {tokens : List Token} {released : Nat}
    (hok : release tokens a = (.ok released, b)) : a.Moves [] b := by
  induction tokens generalizing a released with
  | nil =>
    obtain ⟨rfl, rfl⟩ := Step.pure_eq_ok_iff.mp hok
    exact .refl
  | cons t rest ih =>
    simp only [release, Step.bind_eq_ok_iff, Step.pure_eq_ok_iff] at hok
    obtain ⟨wasStaged, c, hfirst, more, d, hrest, -, rfl⟩ := hok
    have hmoves := h.unstage_moves hfirst
    exact hmoves.trans (ih (hmoves.consistent h) hrest)

/-- Staging tokens issues nothing. -/
theorem stageEach_moves (h : a.Consistent) {assigned tokens staged kept : List Token}
    (hok : stageEach assigned tokens staged a = (.ok kept, b)) : a.Moves [] b := by
  induction tokens generalizing a staged with
  | nil =>
    obtain ⟨rfl, rfl⟩ := Step.pure_eq_ok_iff.mp hok
    exact .refl
  | cons t rest ih =>
    rw [stageEach] at hok
    split at hok
    · simp at hok
    · split at hok
      · simp at hok
      · obtain ⟨_, c, hfirst, hrest⟩ := Step.bind_eq_ok_iff.mp hok
        have hmoves := h.stage_moves hfirst
        exact hmoves.trans (ih (hmoves.consistent h) hrest)

/-- Restaging tokens issues nothing. -/
theorem restage_moves (h : a.Consistent) {purge : Bool} {staged assigned tokens : List Token}
    {result : Nat × List Token} (hok : restage purge staged assigned tokens a = (.ok result, b)) :
    a.Moves [] b := by
  obtain ⟨c, hrelease, hstage⟩ := restage_eq_ok hok
  have hmoves : a.Moves [] c := by
    cases purge with
    | true => exact release_moves h hrelease
    | false =>
      obtain ⟨-, rfl⟩ := Step.pure_eq_ok_iff.mp hrelease
      exact .refl
  exact hmoves.trans (stageEach_moves (hmoves.consistent h) hstage)

end CustomBundle

end ShuffleMint
