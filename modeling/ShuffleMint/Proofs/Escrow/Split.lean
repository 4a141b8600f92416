import Mathlib.Algebra.GroupWithZero.Nat
import ShuffleMint.Escrow
import ShuffleMint.Proofs.Config.Validity

/-!
# Splitting a revenue

The shares of a valid configuration split every amount of money: no part leaves the bound of
amounts, since no share has more than a whole. The parts are together the amount, since the primary
share, which comes last, takes what the others leave.
-/

namespace ShuffleMint

namespace Share

/-- No share has more points than all shares together. -/
theorem points_le_sumPoints {shares : List Share} {share : Share} (h : share ∈ shares) :
    share.points ≤ sumPoints shares := by
  induction shares with
  | nil => cases h
  | cons first rest ih =>
    rw [sumPoints]
    rcases List.mem_cons.mp h with rfl | h
    · exact Nat.le_add_right ..
    · have hrest := ih h
      omega

/-- The part of an amount that the points of a share give, rounded down. -/
def floor (amount : Nat) (share : Share) : Nat := amount * share.points / wholePoints

/-- A share of at most a whole gives a part of an amount that is an amount. -/
theorem portion_eq_ok {amount points : Nat} (hamount : amount < amountBound)
    (hpoints : points ≤ wholePoints) :
    portion amount points = .ok (amount * points / wholePoints) := by
  have hpart : amount * points / wholePoints ≤ amount := by
    refine Nat.div_le_of_le_mul ?_
    rw [Nat.mul_comm]
    exact Nat.mul_le_mul_right amount hpoints
  exact if_pos (Nat.lt_of_le_of_lt hpart hamount)

/-- A share of at most a whole receives a part of every amount of money. -/
theorem exists_part {amount : Nat} (hamount : amount < amountBound) (left : Nat) {share : Share}
    (hpoints : share.points ≤ wholePoints) : ∃ own, part amount left share = .ok own := by
  unfold part
  split
  · exact ⟨left, rfl⟩
  · exact ⟨_, portion_eq_ok hamount hpoints⟩

/-- Shares of at most a whole each split every amount of money. -/
theorem exists_portions {amount : Nat} (hamount : amount < amountBound) {shares : List Share}
    (hshares : ∀ share ∈ shares, share.points ≤ wholePoints) (left : Nat) :
    ∃ parts, portions amount left shares = .ok parts := by
  induction shares generalizing left with
  | nil => exact ⟨[], rfl⟩
  | cons share rest ih =>
    obtain ⟨own, hown⟩ := exists_part hamount left (hshares share (List.mem_cons_self ..))
    obtain ⟨others, hothers⟩ :=
      ih (fun s hs => hshares s (List.mem_cons_of_mem _ hs)) (left - own)
    refine ⟨(share.address, own) :: others, ?_⟩
    simp only [portions, Outcome.bind_eq_ok_iff]
    exact ⟨own, hown, others, hothers, rfl⟩

/-- Parts rounded down are together no more than the part of all points. -/
theorem sum_floor_le (amount : Nat) (shares : List Share) :
    (shares.map (floor amount)).sum ≤ amount * sumPoints shares / wholePoints := by
  induction shares with
  | nil => simp
  | cons share rest ih =>
    have hadd : amount * share.points / wholePoints + amount * sumPoints rest / wholePoints ≤
        (amount * share.points + amount * sumPoints rest) / wholePoints := Nat.div_add_div_le_add_div
    rw [List.map_cons, List.sum_cons, sumPoints, Nat.mul_add, floor]
    omega

/-- Parts rounded down are together no more than the amount when the points are at most a whole. -/
theorem sum_floor_le_amount (amount : Nat) {shares : List Share}
    (h : sumPoints shares ≤ wholePoints) : (shares.map (floor amount)).sum ≤ amount := by
  refine Nat.le_trans (sum_floor_le amount shares) (Nat.div_le_of_le_mul ?_)
  rw [Nat.mul_comm]
  exact Nat.mul_le_mul_right amount h

/-- The order of shares has no part in the sum of their points. -/
theorem sumPoints_perm {shares shares' : List Share} (h : shares.Perm shares') :
    sumPoints shares = sumPoints shares' := by
  induction h with
  | nil => rfl
  | cons share _ ih => rw [sumPoints, sumPoints, ih]
  | swap => simp only [sumPoints, Nat.add_left_comm]
  | trans _ _ ih ih' => rw [ih, ih']

/-- Putting the primary shares last puts the shares into another order. -/
theorem primaryLast_perm (shares : List Share) : (primaryLast shares).Perm shares :=
  List.perm_append_comm.trans (List.filter_append_perm Share.primary shares)

/-- Shares of which only the last is primary have their parts rounded down, except for the last,
which has what the others leave. -/
theorem portions_eq {amount : Nat} {others : List Share} {last : Share} {left : Nat}
    {parts : List (Address × Nat)} (hothers : ∀ share ∈ others, share.primary = false)
    (hlast : last.primary = true) (h : portions amount left (others ++ [last]) = .ok parts) :
    parts = (others.map fun share => (share.address, floor amount share)) ++
      [(last.address, left - (others.map (floor amount)).sum)] := by
  induction others generalizing left parts with
  | nil =>
    simp only [List.nil_append, portions, part, hlast, if_true, Outcome.bind_eq_ok_iff] at h
    obtain ⟨own, hown, rest, hrest, hparts⟩ := h
    obtain rfl := Except.ok.inj hown
    obtain rfl := Except.ok.inj hrest
    exact (Except.ok.inj hparts).symm
  | cons share rest ih =>
    have hshare := hothers share (List.mem_cons_self ..)
    simp only [List.cons_append, portions, part, hshare, Bool.false_eq_true, if_false,
      Outcome.bind_eq_ok_iff] at h
    obtain ⟨own, hown, later, hlater, hparts⟩ := h
    have hportion : own = floor amount share := by
      simp only [portion] at hown
      split at hown
      · exact (Except.ok.inj hown).symm
      · cases hown
    rw [← Except.ok.inj hparts, ih (fun s hs => hothers s (List.mem_cons_of_mem _ hs)) hlater,
      hportion, List.map_cons, List.cons_append, List.map_cons, List.sum_cons, Nat.sub_sub]

/-- Every share receives nothing of nothing. -/
theorem portions_zero (shares : List Share) :
    portions 0 0 shares = .ok (shares.map fun share => (share.address, 0)) := by
  induction shares with
  | nil => rfl
  | cons share rest ih =>
    have hown : part 0 0 share = .ok 0 := by
      unfold part portion
      split <;> simp [amountBound]
    simp only [portions, Outcome.bind_eq_ok_iff]
    exact ⟨0, hown, _, ih, rfl⟩

end Share

/-- Nothing is split into no parts. -/
theorem splitRevenue_zero (c : Config) : splitRevenue c 0 = .ok [] := by
  rw [splitRevenue, Share.portions_zero]
  show Except.ok _ = _
  simp [List.filter_map]

/-- A valid configuration splits every amount of money. -/
theorem exists_splitRevenue {c : Config} (h : c.validate = .ok ()) {amount : Nat}
    (hamount : amount < amountBound) : ∃ parts, splitRevenue c amount = .ok parts := by
  have hshares : ∀ share ∈ Share.primaryLast c.royalties.revenue,
      share.points ≤ wholePoints := by
    intro share hshare
    have hpoints := Share.points_le_sumPoints ((Share.primaryLast_perm _).mem_iff.mp hshare)
    exact Nat.le_trans hpoints (Config.validate_eq_ok_iff.mp h).revenue.1
  obtain ⟨parts, hparts⟩ := Share.exists_portions hamount hshares amount
  exact ⟨_, Outcome.bind_eq_ok_iff.mpr ⟨parts, hparts, rfl⟩⟩

/-- Leaving parts of nothing out leaves the sum alone. -/
theorem sum_filter_ne_zero (parts : List (Address × Nat)) :
    ((parts.filter fun part => part.2 ≠ 0).map Prod.snd).sum = (parts.map Prod.snd).sum := by
  induction parts with
  | nil => rfl
  | cons part rest ih =>
    by_cases hzero : part.2 = 0 <;> simp_all

namespace Share

/-- Parts divide an amount among shares. Every share that is not primary has its part rounded down;
the one primary share comes last and has what the others leave, which is no less than its own part
rounded down. Parts of nothing are left out, and the others are together the amount. -/
structure Divided (shares : List Share) (amount : Nat) (parts : List (Address × Nat)) : Prop where
  sum : (parts.map Prod.snd).sum = amount
  positive : ∀ part ∈ parts, part.2 ≠ 0
  dealt : ∃ others primary, others = shares.filter (fun s => !s.primary) ∧
    shares.filter Share.primary = [primary] ∧
    floor amount primary ≤ amount - (others.map (floor amount)).sum ∧
    parts = ((others.map fun s => (s.address, floor amount s)) ++
      [(primary.address, amount - (others.map (floor amount)).sum)]).filter fun part => part.2 ≠ 0

/-- Shares in another order divide an amount into the same parts in another order. -/
theorem Divided.perm {shares shares' : List Share} {amount : Nat}
    {parts parts' : List (Address × Nat)} (h : Divided shares amount parts)
    (h' : Divided shares' amount parts') (hperm : shares'.Perm shares) : parts'.Perm parts := by
  obtain ⟨others, primary, rfl, hprimary, -, rfl⟩ := h.dealt
  obtain ⟨others', primary', rfl, hprimary', -, rfl⟩ := h'.dealt
  have hothers := hperm.filter fun s => !s.primary
  have hsame := hperm.filter Share.primary
  rw [hprimary, hprimary', List.perm_singleton, List.singleton_inj] at hsame
  rw [hsame, (hothers.map (floor amount)).sum_nat]
  exact ((hothers.map _).append_right _).filter _

end Share

/-- The parts of a revenue divide it among the shares of the configuration. -/
theorem divided_splitRevenue {c : Config} (hvalid : c.validate = .ok ()) {amount : Nat}
    {parts : List (Address × Nat)} (h : splitRevenue c amount = .ok parts) :
    Share.Divided c.royalties.revenue amount parts := by
  obtain ⟨all, hall, hparts⟩ := Outcome.bind_eq_ok_iff.mp h
  obtain rfl := Except.ok.inj hparts
  obtain ⟨hpoints, hprimaries⟩ := (Config.validate_eq_ok_iff.mp hvalid).revenue
  rw [Share.primaries, List.countP_eq_length_filter] at hprimaries
  obtain ⟨last, hlast⟩ := List.length_eq_one_iff.mp hprimaries
  have hprimary : last.primary = true := by
    have hmem : last ∈ c.royalties.revenue.filter Share.primary := by rw [hlast]; simp
    exact (List.mem_filter.mp hmem).2
  have horder : Share.primaryLast c.royalties.revenue =
      (c.royalties.revenue.filter fun s => !s.primary) ++ [last] := by
    rw [Share.primaryLast, hlast]
  -- The rounded parts of all shares, the primary one among them, leave nothing below zero.
  have hfloors : (((c.royalties.revenue.filter fun s => !s.primary) ++ [last]).map
      (Share.floor amount)).sum ≤ amount := by
    refine Share.sum_floor_le_amount amount ?_
    rwa [← horder, Share.sumPoints_perm (Share.primaryLast_perm _)]
  rw [List.map_append, List.sum_append, List.map_singleton, List.sum_singleton] at hfloors
  rw [horder] at hall
  have hparts := Share.portions_eq
    (fun share hshare => by simpa using (List.mem_filter.mp hshare).2) hprimary hall
  refine ⟨?_, fun part hpart => by simpa using (List.mem_filter.mp hpart).2,
    ⟨_, last, rfl, hlast, by omega, by rw [hparts]⟩⟩
  have hrounded (others : List Share) :
      ((others.map fun s => (s.address, Share.floor amount s)).map Prod.snd) =
        others.map (Share.floor amount) := by
    rw [List.map_map]
    rfl
  rw [sum_filter_ne_zero, hparts, List.map_append, List.sum_append, hrounded]
  simp only [List.map_cons, List.map_nil, List.sum_singleton]
  omega

/-- The parts of a revenue are together the revenue. -/
theorem sum_splitRevenue {c : Config} (hvalid : c.validate = .ok ()) {amount : Nat}
    {parts : List (Address × Nat)} (h : splitRevenue c amount = .ok parts) :
    (parts.map Prod.snd).sum = amount :=
  (divided_splitRevenue hvalid h).sum

end ShuffleMint
