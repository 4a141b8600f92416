import ShuffleMint.Proofs.Run.Reconfiguration

/-!
# When the public sale is open

The public sale of a configuration is open from its start on and until before its end, if it has
one. Setups and patches are checked as a whole, so whatever they store does not start after it ends;
then a sale waits, is open, and is over, and never goes back. The check lets a sale end at the
instant at which it starts. Such a sale is never open, and every other one is.
-/

namespace ShuffleMint

/-- A configuration that a setup or a change of settings has stored. -/
inductive Config.Accepted (c : Config) : Prop where
  | founded {setup : Setup} {env : Env} {sender : Address} {s t : Store} {r : Response} :
    setup.run env sender s = (.ok r, t) → t.config = some c → c.Accepted
  | patched {call : Call} {patch : ConfigPatch} {s t : Store} {r : Response} :
    (Transaction.command call (.updateConfig patch)).perform s = (.ok r, t) → t.config = some c →
      c.Accepted

/-- How far a channel has got in its life. -/
def ChannelState.stage : ChannelState → Nat
  | notStarted => 0
  | active => 1
  | completed => 2
  | expired => 3

variable {c : Config} {now later : Nat}

/-- What a setup or a change of settings has stored fits together. -/
theorem Config.Accepted.valid (h : c.Accepted) : c.Valid := by
  cases h with
  | founded hrun hc =>
    obtain ⟨collections, c', a, -, -, -, hvalid, -, rfl, -⟩ := Setup.run_eq_ok hrun
    rw [← Option.some.inj hc]
    exact Config.validate_eq_ok_iff.mp hvalid
  | @patched call patch s t r hperform hc =>
    have hupdate : call.updateConfig patch s = (.ok r, t) :=
      (CallState.fresh_onStore (call.updateConfig patch) s).symm.trans hperform
    obtain ⟨_, after, -, -, -, -, -, hvalid, rfl, -⟩ := Call.updateConfig_eq_ok_iff.mp hupdate
    rw [← Option.some.inj hc]
    exact Config.validate_eq_ok_iff.mp hvalid

namespace Channel

/-- The public sale is over from its end on. -/
theorem publicSale_expired_iff :
    publicSale.state c now = .expired ↔ ∃ stop, c.endTime = some stop ∧ stop ≤ now := by
  have hended : c.endTime.any (· ≤ now) = true ↔ ∃ stop, c.endTime = some stop ∧ stop ≤ now := by
    simp [Option.any_eq_true]
  rw [state, ← hended]
  split
  · next hover => simp [hover]
  · next hahead =>
    simp only [bundleState?, hahead]
    split <;> simp

/-- Before its end the public sale waits for its start, and is then open. -/
theorem publicSale_state_of_not_expired (h : publicSale.state c now ≠ .expired) :
    publicSale.state c now = if now < c.startTime then .notStarted else .active := by
  rw [state] at h ⊢
  split
  · next hover => exact absurd (if_pos hover) h
  · simp [bundleState?, waitsForStart]

/-- The public sale is open from its start on and until before its end. -/
theorem publicSale_active_iff :
    publicSale.state c now = .active ↔
      c.startTime ≤ now ∧ ∀ stop, c.endTime = some stop → now < stop := by
  have hflags : publicSale.bundleState? c = none := rfl
  have hwaits : publicSale.waitsForStart = true := rfl
  rw [state_eq_active_iff, hflags, hwaits]
  simp [and_comm]

/-- A public sale that does not start after it ends waits for its start and not longer. -/
theorem publicSale_notStarted_iff (hwindow : ∀ stop, c.endTime = some stop → c.startTime ≤ stop) :
    publicSale.state c now = .notStarted ↔ now < c.startTime := by
  by_cases hover : publicSale.state c now = .expired
  · obtain ⟨stop, hstop, hpast⟩ := publicSale_expired_iff.mp hover
    have hstart := hwindow stop hstop
    rw [hover]
    exact iff_of_false nofun (by omega)
  · rw [publicSale_state_of_not_expired hover]
    split
    · next hearly => simp [hearly]
    · next hlate => simp [hlate]

/-- As time goes by the public sale does not go back. -/
theorem publicSale_stage_le (h : now ≤ later) :
    (publicSale.state c now).stage ≤ (publicSale.state c later).stage := by
  by_cases hover : publicSale.state c later = .expired
  · rw [hover]
    cases publicSale.state c now <;> decide
  · have hbefore : publicSale.state c now ≠ .expired := by
      intro hover'
      obtain ⟨stop, hstop, hpast⟩ := publicSale_expired_iff.mp hover'
      exact hover (publicSale_expired_iff.mpr ⟨stop, hstop, Nat.le_trans hpast h⟩)
    rw [publicSale_state_of_not_expired hover, publicSale_state_of_not_expired hbefore]
    split
    · exact Nat.zero_le _
    · next hstarted =>
      have hopen : ¬ later < c.startTime := by omega
      exact Nat.le_of_eq (by rw [if_neg hopen])

end Channel

/-- Whatever configuration a setup or a change of settings has stored, its public sale is open from
the start on and until before the end, not started before the start, over from the end on, and never
goes back. It does not start after it ends, and it is open at some instant exactly when it does not
end at its start. -/
theorem sale_opens_unless_ending_at_start (h : c.Accepted) :
    (∀ now, Channel.publicSale.state c now = .active ↔
      c.startTime ≤ now ∧ ∀ stop, c.endTime = some stop → now < stop) ∧
    (∀ now, Channel.publicSale.state c now = .notStarted ↔ now < c.startTime) ∧
    (∀ now, Channel.publicSale.state c now = .expired ↔
      ∃ stop, c.endTime = some stop ∧ stop ≤ now) ∧
    (∀ now later, now ≤ later →
      (Channel.publicSale.state c now).stage ≤ (Channel.publicSale.state c later).stage) ∧
    (∀ stop, c.endTime = some stop → c.startTime ≤ stop) ∧
    ((∃ now, Channel.publicSale.state c now = .active) ↔ c.endTime ≠ some c.startTime) := by
  have hwindow := h.valid.window
  refine ⟨fun _ => Channel.publicSale_active_iff,
    fun _ => Channel.publicSale_notStarted_iff hwindow, fun _ => Channel.publicSale_expired_iff,
    fun _ _ => Channel.publicSale_stage_le, hwindow, ?_⟩
  simp only [Channel.publicSale_active_iff]
  constructor
  · rintro ⟨now, hstarted, hahead⟩ hempty
    exact Nat.not_lt.mpr hstarted (hahead _ hempty)
  · intro hends
    refine ⟨c.startTime, Nat.le_refl _, fun stop hstop => ?_⟩
    refine Nat.lt_of_le_of_ne (hwindow stop hstop) fun hsame => hends ?_
    rw [hstop, hsame]

/-- A patch that sets an end gives the first sale a window. -/
theorem sale_opens_unless_ending_at_start_handover :
    ∃ c : Config, c.Accepted ∧
      ∀ now, Channel.publicSale.state c now = .active ↔ 10 ≤ now ∧ now < 100 := by
  have hdone : ((Transaction.command (FirstSale.call "admin" []) (.updateConfig
      FirstSale.handover)).perform FirstSale.founded).1.isOk = true := by decide +kernel
  obtain ⟨r, t, h⟩ := Transaction.exists_of_isOk hdone
  have htimes : ((Transaction.command (FirstSale.call "admin" []) (.updateConfig
      FirstSale.handover)).perform FirstSale.founded).2.config.map
        (fun c => (c.startTime, c.endTime)) = some (10, some 100) := by decide +kernel
  rw [h] at htimes
  obtain ⟨c, hc, htimes⟩ := Option.map_eq_some_iff.mp htimes
  obtain ⟨hstart, hstop⟩ := Prod.mk.inj htimes
  have haccepted : c.Accepted := .patched h hc
  obtain ⟨hactive, -⟩ := sale_opens_unless_ending_at_start haccepted
  refine ⟨c, haccepted, fun now => ?_⟩
  rw [hactive, hstart, hstop]
  simp

namespace FirstSale

/-- The setup of the mint with an end at the instant of the start. -/
def emptyWindow : Setup := { setup with endTime := some 10 }

end FirstSale

/-- Not every accepted configuration has a public sale that is ever open: a setup is accepted whose
sale ends at the instant at which it starts. -/
theorem not_every_sale_opens :
    ¬ ∀ c : Config, c.Accepted → ∃ now, Channel.publicSale.state c now = .active := by
  intro hopens
  have hdone : ((FirstSale.emptyWindow.run ⟨5, 1, none, "mint"⟩ "admin" Store.empty).1.isOk,
      (FirstSale.emptyWindow.run ⟨5, 1, none, "mint"⟩ "admin" Store.empty).2.config.map
        fun c => (c.startTime, c.endTime)) = (true, some (10, some 10)) := by decide +kernel
  obtain ⟨hok, htimes⟩ := Prod.mk.inj hdone
  obtain ⟨c, hc, htimes⟩ := Option.map_eq_some_iff.mp htimes
  obtain ⟨hstart, hstop⟩ := Prod.mk.inj htimes
  obtain ⟨setup, env, sender, r, hrun⟩ := Founded.of_isOk hok
  obtain ⟨now, hactive⟩ := hopens c (.founded hrun hc)
  obtain ⟨hstarted, hahead⟩ := Channel.publicSale_active_iff.mp hactive
  have hbefore := hahead 10 hstop
  omega

end ShuffleMint
