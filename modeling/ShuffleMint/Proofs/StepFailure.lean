import ShuffleMint.Proofs.StepInversion

/-!
# How steps fail

Nothing undoes what a step wrote before it failed. So a sequence of steps fails without a trace only
when nothing is written before its last step that can fail. The rules below follow that order: a
step that keeps a view of the state may come first, and after the first write nothing may fail any
more.
-/

namespace ShuffleMint

namespace Step

variable {σ τ α β : Type}

/-- Whatever comes of the step, a view of the state stays the same. -/
def Keeps (view : σ → τ) (step : Step σ α) : Prop := ∀ s, view (step s).2 = view s

/-- Every failure of the step from a state, with the state in which it ends, is of a certain kind.
-/
def FailsOnly (kind : Failure → σ → Prop) (step : Step σ α) (s : σ) : Prop :=
  ∀ e t, step s = (.error e, t) → kind e t

section Keeps

variable {view : σ → τ}

/-- A run of a step that keeps a view ends with the same view. -/
theorem Keeps.view_eq {step : Step σ α} (h : Keeps view step) {s t : σ} {o : Outcome α}
    (hrun : step s = (o, t)) : view t = view s := by
  have hkept := h s
  rwa [hrun] at hkept

/-- A value is yielded without a change. -/
theorem keeps_pure (a : α) : Keeps view (pure a : Step σ α) := fun _ => rfl

/-- A calculation changes nothing. -/
theorem keeps_lift (o : Outcome α) : Keeps view (liftM o : Step σ α) := fun _ => rfl

/-- A rejection changes nothing. -/
theorem keeps_reject (cause : Rejection) : Keeps view (reject cause : Step σ α) := fun _ => rfl

/-- A failing step changes nothing. -/
theorem keeps_fail (e : Failure) : Keeps view (fail e : Step σ α) := fun _ => rfl

/-- Reading the state changes nothing. -/
theorem keeps_get : Keeps view (get : Step σ σ) := fun _ => rfl

/-- A step on a copy changes nothing. -/
theorem keeps_onCopy {υ : Type} (step : Step υ α) (copy : υ) :
    Keeps view (onCopy step copy : Step σ (α × υ)) :=
  fun s => congrArg view (onCopy_apply_snd step copy s)

/-- Two steps that keep a view keep it one after the other. -/
theorem Keeps.bind {first : Step σ α} {next : α → Step σ β} (hfirst : Keeps view first)
    (hnext : ∀ a, Keeps view (next a)) : Keeps view (first >>= next) := by
  intro s
  rw [bind_apply]
  cases hrun : first s with
  | mk outcome s' =>
    have hs' : view s' = view s := hfirst.view_eq hrun
    cases outcome with
    | ok a => exact (hnext a s').trans hs'
    | error e => exact hs'

/-- A step that is taken for every entry of a list keeps what each of them keeps. -/
theorem Keeps.forEach {f : α → Step σ β} (h : ∀ x, Keeps view (f x)) (xs : List α) :
    Keeps view (forEach f xs) := by
  induction xs with
  | nil => exact keeps_pure []
  | cons x rest ih => exact (h x).bind fun y => ih.bind fun ys => keeps_pure (y :: ys)

/-- Saying whether a step succeeds keeps what the step keeps. -/
theorem Keeps.succeeds {step : Step σ α} (h : Keeps view step) : Keeps view (succeeds step) := by
  intro s
  have hkept := h s
  unfold Step.succeeds
  cases hrun : step s with
  | mk outcome t =>
    rw [hrun] at hkept
    cases outcome with
    | ok a => exact hkept
    | error e => cases e <;> exact hkept

end Keeps

section FailsOnly

variable {kind : Failure → σ → Prop} {s : σ}

/-- Failures of a kind are of every wider kind. -/
theorem FailsOnly.imp {wider : Failure → σ → Prop} {step : Step σ α} (h : FailsOnly kind step s)
    (hwider : ∀ e t, kind e t → wider e t) : FailsOnly wider step s :=
  fun e t hrun => hwider e t (h e t hrun)

/-- Two steps fail as the first does, or as the second does where the first ends. -/
theorem FailsOnly.bind {first : Step σ α} {next : α → Step σ β} (hfirst : FailsOnly kind first s)
    (hnext : ∀ a s', first s = (.ok a, s') → FailsOnly kind (next a) s') :
    FailsOnly kind (first >>= next) s := by
  intro e t hrun
  rcases bind_eq_error_iff.mp hrun with hearly | ⟨a, s', hmade, hlate⟩
  · exact hfirst e t hearly
  · exact hnext a s' hmade e t hlate

/-- A step that keeps a view fails with that view. -/
theorem Keeps.failsOnly {view : σ → τ} {v : τ} {step : Step σ α} (h : Keeps view step)
    (hkind : ∀ e t, view t = v → kind e t) (hs : view s = v) : FailsOnly kind step s :=
  fun e t hrun => hkind e t ((h.view_eq hrun).trans hs)

/-- After a step that keeps a view, the failures of the next one count, where the view is the same.
-/
theorem Keeps.failsOnly_bind {view : σ → τ} {v : τ} {first : Step σ α} (h : Keeps view first)
    {next : α → Step σ β} (hkind : ∀ e t, view t = v → kind e t) (hs : view s = v)
    (hnext : ∀ a s', first s = (.ok a, s') → view s' = v → FailsOnly kind (next a) s') :
    FailsOnly kind (first >>= next) s :=
  FailsOnly.bind (h.failsOnly hkind hs) fun a s' hmade =>
    hnext a s' hmade ((h.view_eq hmade).trans hs)

/-- A step that keeps the state fails in it. -/
theorem Keeps.failsOnly_id {step : Step σ α} (h : Keeps id step) (hkind : ∀ e, kind e s) :
    FailsOnly kind step s := by
  intro e t hrun
  obtain rfl : t = s := h.view_eq hrun
  exact hkind e

/-- Two steps of which the first keeps the state fail as the first does, or as the second does in the
same state. -/
theorem FailsOnly.bind_of_keeps {first : Step σ α} {next : α → Step σ β}
    (hfirst : FailsOnly kind first s) (h : Keeps id first)
    (hnext : ∀ a, first s = (.ok a, s) → FailsOnly kind (next a) s) :
    FailsOnly kind (first >>= next) s := by
  refine hfirst.bind fun a s' hmade => ?_
  obtain rfl : s' = s := h.view_eq hmade
  exact hnext a hmade

/-- A step that reads the state first fails as what it does with the state. -/
theorem failsOnly_get_bind {next : σ → Step σ β} (h : FailsOnly kind (next s) s) :
    FailsOnly kind (get >>= next) s := by
  intro e t hrun
  rw [get_bind_apply] at hrun
  exact h e t hrun

/-- A calculation fails as its outcome says. -/
theorem failsOnly_lift {o : Outcome α} (h : ∀ e, o = .error e → kind e s) :
    FailsOnly kind (liftM o : Step σ α) s := by
  intro e t hrun
  obtain ⟨herror, rfl⟩ := Prod.mk.inj hrun
  exact h e herror

/-- A step on a copy fails as it does there. -/
theorem failsOnly_onCopy {υ : Type} {step : Step υ α} {copy : υ}
    (h : ∀ e, (step copy).1 = .error e → kind e s) :
    FailsOnly kind (onCopy step copy : Step σ (α × υ)) s := by
  intro e t hrun
  unfold onCopy at hrun
  cases hstep : step copy with
  | mk outcome after =>
    rw [hstep] at hrun h
    cases outcome with
    | ok a => cases hrun
    | error e' =>
      obtain ⟨herror, rfl⟩ := Prod.mk.inj hrun
      exact h e (congrArg Except.error (Except.error.inj herror))

/-- After a step that keeps the state, the failures of the next one count, in the same state. -/
theorem Keeps.failsOnly_bind_id {first : Step σ α} (h : Keeps id first) {next : α → Step σ β}
    (hkind : ∀ e, kind e s) (hnext : ∀ a, first s = (.ok a, s) → FailsOnly kind (next a) s) :
    FailsOnly kind (first >>= next) s :=
  (h.failsOnly_id hkind).bind_of_keeps h hnext

/-- A step that is taken for every entry of a list fails as it does for one of them, from a state with
what each of them leaves true. -/
theorem FailsOnly.forEach {f : α → Step σ β} {p : σ → Prop}
    (hfails : ∀ x s, p s → FailsOnly kind (f x) s)
    (hkept : ∀ x y s t, p s → f x s = (.ok y, t) → p t) (xs : List α) (hs : p s) :
    FailsOnly kind (forEach f xs) s := by
  induction xs generalizing s with
  | nil =>
    intro e t hrun
    cases hrun
  | cons x rest ih =>
    refine (hfails x s hs).bind fun y t hmade => ?_
    refine (ih (hkept x y s t hs hmade)).bind fun ys u _ => ?_
    intro e v hrun
    cases hrun

/-- A step that succeeds has no failure. -/
theorem failsOnly_of_ok {step : Step σ α} {a : α} {t : σ} (h : step s = (.ok a, t)) :
    FailsOnly kind step s := by
  intro e u hrun
  rw [h] at hrun
  cases hrun

end FailsOnly

end Step

end ShuffleMint
