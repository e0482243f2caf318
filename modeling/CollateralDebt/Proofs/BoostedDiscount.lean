import CollateralDebt.Proofs.Interpolation
import CollateralDebt.Proofs.LiquidationQuote

/-!
# Boosts and discounts

The discount of a liquidation grows with the distance of the health factor from one, and is
multiplied by a boost that is read off the curve at the balance of the liquidator. Both caps on the
discount are the same for everybody, so boosts and discounts are in the order of the balances. What
is quoted is the share of the price that is left to pay, and these are in the opposite order.

The quote is a word. Where the parameters do not go together, the least share that may be left to
pay can be more than a word holds; but it is more than all of the price then, and everybody is
quoted the same.

## What is proved

- `Engine.oneMinusDiscount_anti`, `Engine.liquidationBoost_mono`: from balances to boosts, and from
  boosts to quotes;
- `Engine.discount_anti`: a larger balance is never quoted a larger share of the price;
- `BoostCurve.piecewise_linear`: accepted curves, and what is quoted with them;
- `World.Reachable.discount_anti`: the quotes of reachable worlds.
-/

namespace CollateralDebt

namespace Engine

variable {e : Engine} {id : VaultId} {v : Vault} {l l' : Address} {price accumulator : Amount}
  {terms terms' : Opportunity}

/-- A larger boost leaves no larger share of the price to pay, also as a word. -/
theorem oneMinusDiscount_anti {params : Parameters} {boost boost' : UInt64} {health : Amount}
    {d d' : Nat} (h : oneMinusDiscount params boost health = .ok d)
    (h' : oneMinusDiscount params boost' health = .ok d') (more : boost ≤ boost') :
    UInt64.ofNat d' ≤ UInt64.ofNat d := by
  simp only [oneMinusDiscount, Outcome.bind_eq_ok, Wide.sub_eq_ok, Outcome.pure_eq_ok] at h h'
  obtain ⟨distance, ⟨_, rfl⟩, raw, hraw, least, hleast, _, ⟨_, rfl⟩, rfl⟩ := h
  obtain ⟨_, ⟨_, rfl⟩, raw', hraw', least', hleast', _, ⟨_, rfl⟩, rfl⟩ := h'
  cases hleast.symm.trans hleast'
  have larger : raw.toNat ≤ raw'.toNat := by
    rw [(mulDiv_eq_ok.mp hraw).2, (mulDiv_eq_ok.mp hraw').2]
    exact Nat.div_le_div_right (Nat.mul_le_mul_right _ (UInt64.le_iff_toNat_le.mp more))
  rcases Nat.lt_or_ge ratioOne least.toNat with beyond | small
  · -- both shares are the least one, whatever word that is
    rw [Nat.max_eq_right (by omega), Nat.max_eq_right (by omega)]
    exact UInt64.le_refl _
  · have word : ratioOne < UInt64.size := by decide
    rw [UInt64.le_iff_toNat_le, UInt64.toNat_ofNat_of_lt' (by omega),
      UInt64.toNat_ofNat_of_lt' (by omega)]
    omega

/-- A larger balance has no smaller boost; without a source of balances, all boosts are the same. -/
theorem liquidationBoost_mono (accepted : e.state.boostCurve.Accepted) {y y' : UInt64}
    (h : e.liquidationBoost l = .ok y) (h' : e.liquidationBoost l' = .ok y')
    (more : ∀ balance, e.boostSource = some balance → balance l ≤ balance l') : y ≤ y' := by
  unfold liquidationBoost at h h'
  cases source : e.boostSource with
  | some balance =>
    rw [source] at h h'
    exact (BoostCurve.reading_of_boostAt accepted h).mono (BoostCurve.rising_of_ofPoints accepted)
      (BoostCurve.reading_of_boostAt accepted h') (more balance source)
  | none =>
    rw [source] at h h'
    exact UInt64.le_of_eq (Except.ok.inj (h.symm.trans h'))

/-- How the quoted share of the price comes from the health factor and the boost. -/
theorem discount_of_opportunity (h : e.opportunity id v l price accumulator = .ok terms) :
    ∃ health boost d, healthAt e.state v price accumulator = .ok health ∧
      e.liquidationBoost l = .ok boost ∧ oneMinusDiscount e.state.params boost health = .ok d ∧
      terms.discount = UInt64.ofNat d := by
  simp only [opportunity, Outcome.bind_eq_ok, Outcome.pure_eq_ok] at h
  obtain ⟨debt, owes, value, valued, health, rated, _, _, boost, boosted, d, hd, _, _, _, _,
    rfl⟩ := h
  refine ⟨health, boost, d, ?_, boosted, hd, rfl⟩
  simp only [healthAt, Outcome.bind_eq_ok]
  exact ⟨debt, owes, value, valued, rated⟩

/-- A larger balance is never quoted a larger share of the price. -/
theorem discount_anti (accepted : e.state.boostCurve.Accepted)
    (h : e.opportunity id v l price accumulator = .ok terms)
    (h' : e.opportunity id v l' price accumulator = .ok terms')
    (more : ∀ balance, e.boostSource = some balance → balance l ≤ balance l') :
    terms'.discount ≤ terms.discount := by
  obtain ⟨health, boost, d, rated, boosted, hd, same⟩ := discount_of_opportunity h
  obtain ⟨_, boost', d', rated', boosted', hd', same'⟩ := discount_of_opportunity h'
  cases rated.symm.trans rated'
  rw [same, same']
  exact oneMinusDiscount_anti hd hd' (liquidationBoost_mono accepted boosted boosted' more)

end Engine

/-- **The boost curve.** A curve that is accepted has a multiplier for every balance, and together
they are the piecewise-linear function through its points. So if an engine reads boosts off such a
curve, and two liquidators are quoted terms for the same vault at the same price, then the one with
the larger balance is not quoted a larger share of the price. -/
theorem BoostCurve.piecewise_linear {thresholds : List Amount} {multipliers : List UInt64}
    {c : BoostCurve} (accepted : ofPoints thresholds multipliers = .ok c) :
    ∃ f : Amount → UInt64, (∀ b, c.boostAt b = .ok (f b)) ∧
      Interpolates thresholds multipliers f ∧
      ∀ (e : Engine) (id : VaultId) (v : Vault) (l l' : Address) (price accumulator : Amount)
        (terms terms' : Opportunity), e.state.boostCurve = c →
        (∀ balance, e.boostSource = some balance → balance l ≤ balance l') →
        e.opportunity id v l price accumulator = .ok terms →
        e.opportunity id v l' price accumulator = .ok terms' →
        terms'.discount ≤ terms.discount := by
  choose f read using boostAt_of_accepted (accepted_of_ofPoints accepted)
  refine ⟨f, read, interpolates_of_ofPoints accepted read, ?_⟩
  rintro e id v l l' price accumulator terms terms' rfl more quoted quoted'
  exact Engine.discount_anti (accepted_of_ofPoints accepted) quoted quoted' more

namespace World

/-- In a reachable world, of two liquidators who ask for the terms of a vault at the same time, the
one with the larger balance is not quoted a larger share of the price. -/
theorem Reachable.discount_anti {w : World} {place : Nat} {seat : Seat} {quote : Outcome Amount}
    {id : VaultId} {l l' : Address} {now : Timestamp} {terms terms' : Opportunity}
    (reachable : w.Reachable) (standing : w.seats[place]? = some seat)
    (h : seat.engine.checkLiquidation quote id l now = .ok terms)
    (h' : seat.engine.checkLiquidation quote id l' now = .ok terms')
    (more : ∀ balance, seat.engine.boostSource = some balance → balance l ≤ balance l') :
    terms'.discount ≤ terms.discount := by
  obtain ⟨v, price, accumulator, found, known, current, quoted⟩ :=
    Engine.checkLiquidation_eq_ok.mp h
  obtain ⟨_, _, _, found', known', current', quoted'⟩ := Engine.checkLiquidation_eq_ok.mp h'
  cases found.symm.trans found'
  cases known.symm.trans known'
  cases current.symm.trans current'
  have fit := reachable.fit _ (List.mem_of_getElem? standing)
  exact Engine.discount_anti fit.curve quoted quoted' more

/-- The account 5 has a boost balance of two thousand, and everybody else one of five hundred. -/
def boostBalances : BoostSource := fun holder =>
  if holder = account 5 then ⟨2000, by decide⟩ else ⟨500, by decide⟩

/-- The thresholds of a curve with two segments. -/
def boostThresholds : List Amount := [.zero, ⟨1000, by decide⟩, ⟨3000, by decide⟩]

/-- The multipliers of that curve. -/
def boostMultipliers : List UInt64 := [1000000000, 1500000000, 2500000000]

/-- The small market, where boosts are read off the curve with two segments. -/
def boostedMarket : List Call := smallMarket ++ [
  .engine 0 (account 3) 0 [] (.setBoost (some boostBalances) boostThresholds boostMultipliers)]

set_option maxRecDepth 10000 in
/-- At a price of 1.2, the boost of the account 5 is two, halfway through the second segment, and it
is quoted less of the price than the account 6. -/
theorem piecewise_linear_boosted :
    ∃ e v balance terms terms', engine? (history boostedMarket).seats 0 = some e ∧
      e.vault? 1 = some v ∧
      BoostCurve.ofPoints boostThresholds boostMultipliers = .ok e.state.boostCurve ∧
      e.boostSource = some balance ∧ balance (account 6) ≤ balance (account 5) ∧
      e.opportunity 1 v (account 6) (tenths 12) e.state.accumulator = .ok terms ∧
      e.opportunity 1 v (account 5) (tenths 12) e.state.accumulator = .ok terms' ∧
      terms'.discount ≠ terms.discount ∧ terms'.discount ≤ terms.discount ∧
      ∃ boost, e.state.boostCurve.boostAt ⟨2000, by decide⟩ = .ok boost ∧
        boost.toNat = 2000000000 := by
  have facts : ((engine? (history boostedMarket).seats 0).any fun e => (e.vault? 1).any fun v =>
      e.boostSource.any fun balance =>
        (e.opportunity 1 v (account 6) (tenths 12) e.state.accumulator).toOption.any fun terms =>
          (e.opportunity 1 v (account 5) (tenths 12) e.state.accumulator).toOption.any
            fun terms' => decide (
              BoostCurve.ofPoints boostThresholds boostMultipliers = .ok e.state.boostCurve ∧
              balance (account 6) ≤ balance (account 5) ∧
              terms'.discount ≠ terms.discount)) = true := by
    decide +kernel
  simp only [Option.any_eq_true, Outcome.toOption_eq_some, decide_eq_true_eq] at facts
  obtain ⟨e, standing, v, found, balance, source, terms, quoted, terms', quoted', accepted, more,
    apart⟩ := facts
  obtain ⟨f, read, linear, quotes⟩ := BoostCurve.piecewise_linear accepted
  have less : terms'.discount ≤ terms.discount :=
    quotes e 1 v _ _ _ _ terms terms' rfl
      (fun _ known => Option.some.inj (source.symm.trans known) ▸ more) quoted quoted'
  have halfway := linear.between ⟨2000, by decide⟩ 1 (by decide)
    (show 1000 ≤ 2000 by decide) (show 2000 < 3000 by decide)
  refine ⟨e, v, balance, terms, terms', standing, found, accepted, source, more, quoted, quoted',
    apart, less, f ⟨2000, by decide⟩, read _, halfway.trans ?_⟩
  show 1500000000 + ⌊(((2500000000 : ℕ) : ℚ) - (1500000000 : ℕ)) * ((2000 : ℕ) - (1000 : ℕ)) /
    ((3000 : ℕ) - (1000 : ℕ))⌋₊ = 2000000000
  norm_num

end World

end CollateralDebt
