import CollateralDebt.Proofs.Engine.Exchange
import CollateralDebt.Proofs.World.Step

/-!
# The price of a liquidation

A liquidator who repays the largest amount is given at most all of the collateral, so the largest
amount should not be more than the collateral is worth at the discounted price. In each regime this
has its own reason. What exhausts a vault is that price by definition; what restores it or completes
its liquidation is less, because the target is only within reach if the price covers the debt.

The last step divides by the collateral factor. Without one, every vault with debt is as unhealthy
as can be, and the test passes with zero on both sides: the largest amount is all of the debt,
whatever collateral there is.

## What is proved

- `maxRepay_bounded`: how large the largest amount is, with and without a collateral factor.
-/

namespace CollateralDebt

namespace Engine

variable {e : Engine} {id : VaultId} {v : Vault} {liquidator : Address}
  {price accumulator value health : Amount} {terms : Opportunity} {regime : Regime}

/-- With a collateral factor, the largest amount is at most the price of all collateral, up to
rounding. -/
theorem Offer.maxRepay_le (offer : Offer e.state v price accumulator value health terms regime)
    (consistent : e.state.params.Consistent)
    (appraised : e.Appraised v price accumulator value health terms)
    (borrowable : 0 < e.state.params.collateralFactor.toNat) :
    (terms.maxRepay.toNat : ℚ) ≤
      v.worth price e.state.collateralUnit * billionths terms.discount +
        1 / billionths e.state.params.liquidationSurcharge + 1 := by
  have surcharge := consistent.billionths_surcharge_pos
  have spare : 0 ≤ 1 / billionths e.state.params.liquidationSurcharge := by positivity
  have worth := mul_le_mul_of_nonneg_right appraised.value_bounds.1 (billionths_nonneg terms.discount)
  cases offer with
  | restoring reached most =>
    have enough := restoring_le most appraised.discount_pos
      (appraised.covered borrowable reached)
    linarith
  | completing reached most =>
    have covered := appraised.covered borrowable reached
    have least := (completing_bounds most).1
    have owed := appraised.debt_bounds.2
    have enough : v.owed accumulator / billionths e.state.params.liquidationSurcharge ≤
        value.toNat * billionths terms.discount +
          1 / billionths e.state.params.liquidationSurcharge := by
      rw [div_le_iff₀ surcharge, add_mul, one_div, inv_mul_cancel₀ surcharge.ne']
      linarith
    linarith
  | exhausting _ most =>
    have least := (exhausting_bounds most).1
    linarith

/-- Without a collateral factor, the largest amount is what repays all of the debt after the
surcharge, up to rounding. -/
theorem Offer.maxRepay_near (offer : Offer e.state v price accumulator value health terms regime)
    (consistent : e.state.params.Consistent)
    (appraised : e.Appraised v price accumulator value health terms)
    (unborrowable : e.state.params.collateralFactor.toNat = 0) :
    regime ≠ .exhausting ∧
      v.owed accumulator / billionths e.state.params.liquidationSurcharge -
          1 / billionths e.state.params.liquidationSurcharge - 1 < terms.maxRepay.toNat ∧
      terms.maxRepay.toNat ≤
        v.owed accumulator / billionths e.state.params.liquidationSurcharge + 1 := by
  have surcharge := consistent.billionths_surcharge_pos
  have spare : 0 ≤ 1 / billionths e.state.params.liquidationSurcharge := by positivity
  cases offer with
  | restoring reached most =>
    obtain ⟨-, lower, upper⟩ := restoring_bounds most
    obtain ⟨owed_ge, owed_lt⟩ := appraised.debt_bounds
    have nothing : billionths e.state.params.collateralFactor = 0 := by
      simp [billionths, unborrowable]
    simp only [Parameters.gain, Parameters.missing, nothing, zero_mul, sub_zero] at lower upper
    -- the target is on both sides, so it cancels
    have target := consistent.billionths_target_pos
    have repaid := le_of_mul_le_mul_left lower target
    have missed := lt_of_mul_lt_mul_left upper target.le
    have most' : terms.maxRepay.toNat ≤
        v.owed accumulator / billionths e.state.params.liquidationSurcharge := by
      rw [le_div_iff₀ surcharge]
      linarith
    have least' : v.owed accumulator / billionths e.state.params.liquidationSurcharge -
        1 / billionths e.state.params.liquidationSurcharge < terms.maxRepay.toNat + 1 := by
      rw [← sub_div, div_lt_iff₀ surcharge]
      linarith
    exact ⟨by decide, by linarith, by linarith⟩
  | completing reached most =>
    obtain ⟨lower, upper⟩ := completing_bounds most
    exact ⟨by decide, by linarith, by linarith⟩
  | exhausting short =>
    rw [unborrowable, Nat.zero_mul, Nat.zero_mul] at short
    exact absurd short (Nat.not_lt_zero _)

/-- **The price of a liquidation.** Take an engine with parameters that go together, and the terms
of any of its vaults, for any liquidator and at any price and accumulator. With a collateral factor,
the largest amount is at most what all of the collateral is worth at the discounted price, up to a
rounding of one before the surcharge and of one after it. Without a collateral factor no vault is
exhausted, and the largest amount is what repays all of the debt after the surcharge, up to the same
rounding, whatever the collateral is worth. -/
theorem maxRepay_bounded (accepted : e.state.params.validate = .ok ())
    (h : e.opportunity id v liquidator price accumulator = .ok terms) :
    (0 < e.state.params.collateralFactor.toNat →
      (terms.maxRepay.toNat : ℚ) ≤
        v.worth price e.state.collateralUnit * billionths terms.discount +
          1 / billionths e.state.params.liquidationSurcharge + 1) ∧
    (e.state.params.collateralFactor.toNat = 0 →
      ∃ regime, e.regime v liquidator price accumulator = .ok regime ∧ regime ≠ .exhausting ∧
        v.owed accumulator / billionths e.state.params.liquidationSurcharge -
            1 / billionths e.state.params.liquidationSurcharge - 1 < terms.maxRepay.toNat ∧
        terms.maxRepay.toNat ≤
          v.owed accumulator / billionths e.state.params.liquidationSurcharge + 1) := by
  have consistent := Parameters.validate_eq_ok.mp accepted
  obtain ⟨value, health, regime, appraised, known, offer⟩ := opportunity_offer consistent h
  exact ⟨offer.maxRepay_le consistent appraised, fun unborrowable =>
    ⟨regime, known, offer.maxRepay_near consistent appraised unborrowable⟩⟩

end Engine

namespace World

set_option maxRecDepth 10000 in
/-- At a price of 1.1, what buys the collateral of the small market is within the bound. -/
theorem maxRepay_bounded_buyout :
    ∃ e v terms, engine? (history smallMarket).seats 0 = some e ∧ e.vault? 1 = some v ∧
      e.opportunity 1 v (account 5) (tenths 11) e.state.accumulator = .ok terms ∧
      terms.maxRepay = buyout ∧
      (buyout.toNat : ℚ) ≤
        v.worth (tenths 11) e.state.collateralUnit * billionths terms.discount +
          1 / billionths e.state.params.liquidationSurcharge + 1 := by
  have facts : ((engine? (history smallMarket).seats 0).any fun e => (e.vault? 1).any fun v =>
      (e.opportunity 1 v (account 5) (tenths 11) e.state.accumulator).toOption.any fun terms =>
        decide (e.state.params.validate.toOption = some () ∧
          0 < e.state.params.collateralFactor.toNat ∧ terms.maxRepay = buyout)) = true := by
    decide +kernel
  simp only [Option.any_eq_true, Outcome.toOption_eq_some, decide_eq_true_eq] at facts
  obtain ⟨e, standing, v, found, terms, quoted, accepted, borrowable, same⟩ := facts
  have bound := (Engine.maxRepay_bounded accepted quoted).1 borrowable
  rw [same] at bound
  exact ⟨e, v, terms, standing, found, quoted, same, bound⟩

/-- The small market, after its collateral has lost its collateral factor. -/
def unborrowable : List Call := smallMarket ++ [
  .engine 0 (account 3) 0 [] (.setParameter "CF" 0)]

set_option maxRecDepth 10000 in
/-- At a price of one, the largest amount is then more than the price of all collateral. -/
theorem maxRepay_unborrowable :
    ∃ e v terms, engine? (history unborrowable).seats 0 = some e ∧ e.vault? 1 = some v ∧
      e.state.params.validate = .ok () ∧ e.state.collateralUnit.toNat = Nat.pow 10 18 ∧
      accumulatorOne ≤ e.state.accumulator.toNat ∧
      e.opportunity 1 v (account 5) (tenths 10) e.state.accumulator = .ok terms ∧
      ¬ (terms.maxRepay.toNat : ℚ) ≤
        v.worth (tenths 10) e.state.collateralUnit * billionths terms.discount +
          1 / billionths e.state.params.liquidationSurcharge + 1 := by
  have facts : ((engine? (history unborrowable).seats 0).any fun e => (e.vault? 1).any fun v =>
      (e.opportunity 1 v (account 5) (tenths 10) e.state.accumulator).toOption.any fun terms =>
        decide (e.state.params.validate.toOption = some () ∧
          e.state.collateralUnit.toNat = Nat.pow 10 18 ∧
          accumulatorOne ≤ e.state.accumulator.toNat ∧
          ¬ (terms.maxRepay.toNat : ℚ) ≤
            v.worth (tenths 10) e.state.collateralUnit * billionths terms.discount +
              1 / billionths e.state.params.liquidationSurcharge + 1)) = true := by
    decide +kernel
  simp only [Option.any_eq_true, Outcome.toOption_eq_some, decide_eq_true_eq] at facts
  obtain ⟨e, standing, v, found, terms, quoted, accepted, unit, grown, more⟩ := facts
  exact ⟨e, v, terms, standing, found, accepted, unit, grown, quoted, more⟩

end World

end CollateralDebt
