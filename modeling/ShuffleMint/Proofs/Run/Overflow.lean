import ShuffleMint.Proofs.Command.Overflow
import ShuffleMint.Proofs.Run.MintCounts
import ShuffleMint.Proofs.Run.Settings

/-!
# What aborts, and what does not

Over every run the counts of mints stay far below the bound of counts: a channel with a cap never
counts beyond the highest cap, and the others count tokens that are issued, of which there are no
more than a mint may have. So no sum of what the mint itself has stored leaves its bound. What is
left are sums of what a request or a collaborator gives, and three of these are formed before
anything has bounded their parts: there a setup or a command aborts, where it should have been
rejected.
-/

namespace ShuffleMint

variable {start s : Store} {events : List Event}

/-! ## Counts stay small -/

/-- A mint has no more slots than a mint may have tokens. -/
theorem Reachable.total_le (h : Reachable s) {a : Allocator} (ha : s.allocator? = some a) :
    a.arena.total ≤ maxSupply := by
  obtain ⟨start, events, hfounded, hrun⟩ := h
  obtain ⟨c, b, hc, hb, htotal⟩ := hfounded.exists_total_eq
  have hvalid := Config.validate_eq_ok_iff.mp (hfounded.sound.1.validate_eq_ok hc)
  rw [hrun.total_eq hfounded.sound.1 hb ha, htotal]
  exact hvalid.supply.2

/-- No more slots are issued than there are. -/
theorem Arena.Consistent.length_issuedSlots_le {a : Arena} (h : a.Consistent) :
    a.issuedSlots.length ≤ a.total := by
  have hslots : a.issuedSlots ⊆ List.range a.total := fun slot hslot =>
    List.mem_range.mpr (h.lt_total_of_mem (List.mem_of_mem_take hslot))
  simpa using (List.subperm_of_subset h.issued_nodup hslots).length_le

/-- The counts account for no more tokens than a mint may have. -/
theorem Reachable.countedTokens_le (h : Reachable s) : s.countedTokens ≤ maxSupply := by
  have hs := h.sound
  obtain ⟨b, hb, hconsistent, -⟩ := hs.allocator
  have htotal := h.total_le hb
  have hissued := hconsistent.arena.length_issuedSlots_le
  obtain ⟨start, events, hfounded, hrun⟩ := h
  obtain ⟨hsound, a, ha, hnothing⟩ := hfounded.sound
  obtain ⟨a', b', ha', hb', hcounted⟩ := hrun.countedTokens_eq hsound
  obtain rfl := Option.some.inj (ha.symm.trans ha')
  obtain rfl := Option.some.inj (hb.symm.trans hb')
  rw [hnothing, (Store.mintCount_eq_zero hfounded.trackers_eq).2] at hcounted
  simp only [List.length_nil] at hcounted
  omega

/-- A channel with a cap never counts beyond the highest cap. -/
theorem Reachable.mintCount_le_of_capped (h : Reachable s) {channel : Channel}
    (hcapped : ∀ c, ∃ cap, channel.cap? c = some cap ∧ (c.Valid → cap ≤ c.totalSupply))
    (address : Address) : s.mintCount channel address ≤ maxSupply := by
  refine h.induct (p := fun s => s.mintCount channel address ≤ maxSupply)
    (fun s hfounded => ?_) (fun transaction r s t hreachable ih hperform => ?_)
  · rw [(Store.mintCount_eq_zero hfounded.trackers_eq).1]
    exact Nat.zero_le _
  · have hs := hreachable.sound
    rcases hs.minted_or hperform with
      ⟨call, command, c, booked, recipient, tokens, -, hminted, -⟩ | ⟨-, hsame⟩
    · by_cases hboth : channel = booked ∧ address = recipient
      · obtain ⟨rfl, rfl⟩ := hboth
        obtain ⟨cap, hcap, hwithin⟩ := hcapped c
        have hvalid := Config.validate_eq_ok_iff.mp (hs.validate_eq_ok hminted.config)
        calc t.mintCount channel address ≤ cap := hminted.mintCount_le_cap hcap
          _ ≤ c.totalSupply := hwithin hvalid
          _ ≤ maxSupply := hvalid.supply.2
      · rwa [hminted.mintCount_eq, if_neg hboth, Nat.add_zero]
    · rwa [Store.mintCount, hsame, ← Store.mintCount]

/-- Over every run every count is small: no more than a mint may have tokens. -/
theorem Reachable.mintCount_le (h : Reachable s) (channel : Channel) (address : Address) :
    s.mintCount channel address ≤ maxSupply := by
  have hcounted := h.countedTokens_le
  have hsum : s.mintCount channel address ≤ (s.trackers.of channel).sum := SortedMap.le_sum _ _
  unfold Store.countedTokens at hcounted
  cases channel with
  | publicSale => exact h.mintCount_le_of_capped (fun c => ⟨_, rfl, fun hc => hc.mintCap.2⟩) address
  | bundle | customBundle =>
    exact h.mintCount_le_of_capped (fun c => ⟨_, rfl, fun hc => hc.bundleCap.2⟩) address
  | whitelist | airdrop => omega

/-! ## A setup and a mint that abort -/

namespace FirstSale

/-- The setup with shares of which the points of the owner are the largest count. -/
def overdrawnSetup : Setup :=
  { setup with royalties := ⟨[⟨"owner", 4294967295, true⟩, ⟨"guild", 1, false⟩], []⟩ }

/-- The setup with a whitelist, at a club. -/
def gatedSetup : Setup := { setup with whitelist := some "club" }

/-- The store that it leaves. -/
def gated : Store := (gatedSetup.run ⟨5, 1, none, "mint"⟩ "admin" Store.empty).2

/-- The setup with a whitelist succeeds. -/
theorem gated_founded : Founded gated := Founded.of_isOk (by decide +kernel)

/-- The club tells everyone that they have minted as often as can be counted, and may do so. -/
def club : Answers :=
  { nobody with
    whitelistStatus := fun _ _ _ => .ok ⟨false, true, true, 4294967295, 4294967295, 100⟩ }

/-- A member mints before the start. -/
def memberCall : Call := ⟨⟨7, 2, none, "mint"⟩, "member", [⟨"ustars", 100⟩], club⟩

/-- The call of the member is well formed: it brings one coin, and there is no airdropper to ask. -/
theorem memberCall_wellFormed : memberCall.WellFormed gated := by
  refine ⟨by decide, by decide, fun c contract hc hairdropper => ?_⟩
  have hnone : gated.config.map Config.airdropper = some none := by decide +kernel
  rw [hc, Option.map_some, hairdropper] at hnone
  cases hnone

/-- The setup with too many points aborts. -/
theorem overdrawnSetup_aborts :
    (overdrawnSetup.run ⟨5, 1, none, "mint"⟩ "admin" Store.empty).1 = .error .aborted := by
  decide +kernel

/-- The mint of the member aborts. -/
theorem memberCall_aborts :
    ((Transaction.command memberCall (.mint false none)).perform gated).1 = .error .aborted := by
  decide +kernel

end FirstSale

/-! ## What fails is rejected -/

/-- A setup on an empty store that fails is rejected by a rule, unless the points of its revenue
shares or those of its royalties add up to no count: then it aborts. On every reachable store a
command that fails is rejected by a rule, whatever the collaborators answer, unless it is one of
three: a patch that sets shares with such points; a mint through a collaborator that is open to the
recipient and of which one mint more than it tells of is no count; and a claim of so many promised
tokens at once that with those claimed before they are no count. -/
theorem rejected_unless_overflow (h : Reachable s) :
    (∀ (m : Setup) (env : Env) (sender : Address) (e : Failure) (t : Store),
      m.run env sender Store.empty = (.error e, t) → e.RejectedUnless m.royalties.Overflows) ∧
    ∀ (call : Call) (command : Command) (e : Failure) (t : Store), call.WellFormed s →
      (Transaction.command call command).perform s = (.error e, t) →
        e.RejectedUnless (call.Overflows s command) := by
  refine ⟨fun m env sender => m.rejectsUnless_run env sender, ?_⟩
  intro call command e t hwell hfails
  have hcounts : ∀ channel address, s.mintCount channel address + 1 < countBound := by
    intro channel address
    have hsmall := h.mintCount_le channel address
    have hsupply : maxSupply = 50000 := rfl
    have hcount : countBound = 0x100000000 := rfl
    omega
  obtain ⟨asked, hrun⟩ := CallState.fresh_eq_iff.mp hfails
  exact h.sound.rejectsUnless_execute hwell hcounts command e _ hrun

/-- The setup that aborts has points that add up to no count, and the mint of the member that aborts
is one of which the whitelist tells too much. -/
theorem rejected_unless_overflow_member :
    FirstSale.overdrawnSetup.royalties.Overflows ∧ Reachable FirstSale.gated ∧
      FirstSale.memberCall.WellFormed FirstSale.gated ∧
      ((Transaction.command FirstSale.memberCall (.mint false none)).perform FirstSale.gated).1 =
        .error .aborted ∧
      FirstSale.memberCall.Overflows FirstSale.gated (.mint false none) := by
  have hreachable : Reachable FirstSale.gated := .of_founded FirstSale.gated_founded
  obtain ⟨hsetups, hcommands⟩ := rejected_unless_overflow hreachable
  have hsetup := hsetups _ _ _ _ _ (Step.eq_of_outcome FirstSale.overdrawnSetup_aborts)
  have hcommand := hcommands _ _ _ _ FirstSale.memberCall_wellFormed
    (Step.eq_of_outcome FirstSale.memberCall_aborts)
  refine ⟨?_, hreachable, FirstSale.memberCall_wellFormed, FirstSale.memberCall_aborts, ?_⟩
  · cases hsetup with
    | aborted hsum => exact hsum
  · cases hcommand with
    | aborted hsum => exact hsum

/-- Neither setups nor commands fail by rejection alone. A setup aborts whose two revenue shares have
one point more than a count can tell, and on a reachable store a mint aborts before the sale of
which the whitelist tells that the member has minted as often as a count can tell. -/
theorem not_always_rejected :
    ¬ (∀ (m : Setup) (env : Env) (sender : Address) (e : Failure) (t : Store),
      m.run env sender Store.empty = (.error e, t) → ∃ cause, e = .rejected cause) ∧
    ¬ ∀ s, Reachable s → ∀ (call : Call) (command : Command) (e : Failure) (t : Store),
      call.WellFormed s → (Transaction.command call command).perform s = (.error e, t) →
        ∃ cause, e = .rejected cause := by
  constructor
  · intro hclaim
    obtain ⟨cause, hcause⟩ :=
      hclaim _ _ _ _ _ (Step.eq_of_outcome FirstSale.overdrawnSetup_aborts)
    cases hcause
  · intro hclaim
    obtain ⟨cause, hcause⟩ := hclaim _ (.of_founded FirstSale.gated_founded) _ _ _ _
      FirstSale.memberCall_wellFormed (Step.eq_of_outcome FirstSale.memberCall_aborts)
    cases hcause

end ShuffleMint
