import CollateralDebt.Proofs.Engine.Exchange
import CollateralDebt.Proofs.World.Midway

/-!
# Liquidating towards the target

A liquidation that restores a vault gives some of its collateral at the discounted price for some of
its debt after the surcharge. Every amount of it brings the vault closer to its target, and the
largest one is what closes the distance. So the target is not passed, the vault does not get less
healthy, and with the largest amount the target is reached.

All of this is up to rounding, and how much that is follows from where it happens: the value and the
debt are rounded before the terms are computed, the collateral that is given, the debt that is
repaid and its normalized part when they are applied.

## What is proved

- `not_past_target`, `not_less_healthy`, `reaches_target`: the three bounds for one vault;
- `restoring_accurate`: what a liquidation that restores a vault comes to.
-/

namespace CollateralDebt

namespace Engine

section Accuracy

variable {e : Engine} {v w : Vault} {amount price accumulator value health : Amount}
  {terms : Opportunity}

/-- No amount up to the largest one brings a vault past its target. -/
theorem not_past_target (appraised : e.Appraised v price accumulator value health terms)
    (most : targetRepay e.state.params value terms.currentDebt terms.discount.toNat =
      .ok terms.maxRepay) (below : amount ≤ terms.maxRepay)
    (parted : Parted v w price e.state.collateralUnit accumulator
      (amount.toNat / billionths terms.discount)
      (amount.toNat * billionths e.state.params.liquidationSurcharge)) :
    billionths e.state.params.collateralFactor * w.worth price e.state.collateralUnit ≤
      billionths e.state.params.targetHealthFactor * w.owed accumulator +
        billionths e.state.params.collateralFactor *
          (1 + price.toNat / e.state.collateralUnit.toNat) := by
  obtain ⟨positive, lower, -⟩ := restoring_bounds most
  have gained : e.state.params.gain terms.discount amount.toNat ≤
      e.state.params.missing value terms.currentDebt :=
    ((gain_le_gain positive).mpr (by exact_mod_cast below)).trans lower
  unfold Parameters.gain Parameters.missing at gained
  have factor := billionths_nonneg e.state.params.collateralFactor
  have target := billionths_nonneg e.state.params.targetHealthFactor
  -- the sides of the vault before and after, each with its weight
  have value := mul_le_mul_of_nonneg_left appraised.value_bounds.2.le factor
  have worth := mul_le_mul_of_nonneg_left parted.worth_lt.le factor
  have debt := mul_le_mul_of_nonneg_left appraised.debt_bounds.1 target
  have owed := mul_le_mul_of_nonneg_left parted.owed_ge target
  linarith

/-- As long as its collateral covers its debt, no amount up to the largest one makes a vault less
healthy. -/
theorem not_less_healthy (appraised : e.Appraised v price accumulator value health terms)
    (most : targetRepay e.state.params value terms.currentDebt terms.discount.toNat =
      .ok terms.maxRepay) (below : amount ≤ terms.maxRepay)
    (covered : (terms.currentDebt.toNat : ℚ) ≤ value.toNat * billionths terms.discount *
      billionths e.state.params.liquidationSurcharge)
    (parted : Parted v w price e.state.collateralUnit accumulator
      (amount.toNat / billionths terms.discount)
      (amount.toNat * billionths e.state.params.liquidationSurcharge)) :
    v.worth price e.state.collateralUnit *
        (w.owed accumulator - 2 - accumulator.toNat / accumulatorOne) ≤
      w.worth price e.state.collateralUnit * v.owed accumulator := by
  have share := appraised.discount_pos
  have worth_nonneg := v.worth_nonneg price e.state.collateralUnit
  have owed_nonneg := v.owed_nonneg accumulator
  rcases parted.owed_lt with clear | less
  · have right := mul_nonneg (w.worth_nonneg price e.state.collateralUnit) owed_nonneg
    have rest : w.owed accumulator - 2 - accumulator.toNat / accumulatorOne ≤ 0 := by
      rw [Vault.owed_eq_zero clear, zero_sub, sub_nonpos]
      exact le_trans (by norm_num) (by positivity : (0 : ℚ) ≤ accumulator.toNat / accumulatorOne)
    exact (mul_nonpos_of_nonneg_of_nonpos worth_nonneg rest).trans right
  · -- what is given away is no more than the value, and it is given for its share of the debt
    have given_le : (amount.toNat : ℚ) / billionths terms.discount ≤ value.toNat := by
      rw [div_le_iff₀ share]
      exact le_trans (by exact_mod_cast below) (restoring_le most share covered)
    have given_nonneg : 0 ≤ (amount.toNat : ℚ) / billionths terms.discount := by positivity
    have repaid_nonneg : 0 ≤ amount.toNat * billionths e.state.params.liquidationSurcharge :=
      mul_nonneg (by positivity) (billionths_nonneg _)
    have fair : (amount.toNat : ℚ) / billionths terms.discount * v.owed accumulator ≤
        v.worth price e.state.collateralUnit *
          (amount.toNat * billionths e.state.params.liquidationSurcharge + 1) :=
      calc (amount.toNat : ℚ) / billionths terms.discount * v.owed accumulator
          ≤ amount.toNat / billionths terms.discount * (value.toNat * billionths terms.discount *
              billionths e.state.params.liquidationSurcharge + 1) :=
            mul_le_mul_of_nonneg_left (by linarith [appraised.debt_bounds.2]) given_nonneg
        _ = value.toNat * (amount.toNat * billionths e.state.params.liquidationSurcharge) +
              amount.toNat / billionths terms.discount := by field_simp
        _ ≤ value.toNat * (amount.toNat * billionths e.state.params.liquidationSurcharge + 1) := by
            linarith
        _ ≤ v.worth price e.state.collateralUnit *
              (amount.toNat * billionths e.state.params.liquidationSurcharge + 1) :=
            mul_le_mul_of_nonneg_right appraised.value_bounds.1 (by linarith)
    calc v.worth price e.state.collateralUnit *
          (w.owed accumulator - 2 - accumulator.toNat / accumulatorOne)
        ≤ v.worth price e.state.collateralUnit * (v.owed accumulator -
            (amount.toNat * billionths e.state.params.liquidationSurcharge + 1)) :=
          mul_le_mul_of_nonneg_left (by linarith) worth_nonneg
      _ ≤ (v.worth price e.state.collateralUnit - amount.toNat / billionths terms.discount) *
            v.owed accumulator := by linarith
      _ ≤ w.worth price e.state.collateralUnit * v.owed accumulator :=
          mul_le_mul_of_nonneg_right parted.worth_ge owed_nonneg

/-- The largest amount brings a vault to its target. -/
theorem reaches_target (appraised : e.Appraised v price accumulator value health terms)
    (consistent : e.state.params.Consistent)
    (most : targetRepay e.state.params value terms.currentDebt terms.discount.toNat =
      .ok terms.maxRepay)
    (parted : Parted v w price e.state.collateralUnit accumulator
      (terms.maxRepay.toNat / billionths terms.discount)
      (terms.maxRepay.toNat * billionths e.state.params.liquidationSurcharge)) :
    billionths e.state.params.targetHealthFactor * w.owed accumulator -
        billionths e.state.params.targetHealthFactor *
          (3 + accumulator.toNat / accumulatorOne) ≤
      billionths e.state.params.collateralFactor * w.worth price e.state.collateralUnit := by
  have factor := billionths_nonneg e.state.params.collateralFactor
  have target := consistent.billionths_target_pos.le
  have grown : (0 : ℚ) ≤ accumulator.toNat / accumulatorOne := by positivity
  rcases parted.owed_lt with clear | less
  · have right := mul_nonneg factor (w.worth_nonneg price e.state.collateralUnit)
    have slack := mul_nonneg target grown
    rw [Vault.owed_eq_zero clear]
    linarith
  · obtain ⟨-, -, upper⟩ := restoring_bounds most
    unfold Parameters.gain Parameters.missing at upper
    have share := appraised.discount_pos
    have one_more : billionths e.state.params.collateralFactor *
          (terms.maxRepay.toNat / billionths terms.discount) ≤
        billionths e.state.params.collateralFactor *
          ((terms.maxRepay.toNat + 1) / billionths terms.discount) :=
      mul_le_mul_of_nonneg_left (div_le_div_of_nonneg_right (by linarith) share.le) factor
    -- the sides of the vault before and after, each with its weight
    have surcharge := mul_le_mul_of_nonneg_left consistent.billionths_surcharge_le target
    have value := mul_le_mul_of_nonneg_left appraised.value_bounds.1 factor
    have worth := mul_le_mul_of_nonneg_left parted.worth_ge factor
    have debt := mul_le_mul_of_nonneg_left appraised.debt_bounds.2.le target
    have owed := mul_le_mul_of_nonneg_left less.le target
    linarith

end Accuracy

/-- **Accuracy of the target.** Take an engine with parameters that go together and a collateral
factor, and a vault that the largest amount would restore, and let the vault be liquidated with any
amount that is accepted. Up to rounding, the vault is not brought past its target health factor, its
health does not fall, and with the largest amount it reaches its target. -/
theorem restoring_accurate {ctx : Context} {id : VaultId} {amount price accumulator : Amount}
    {outcome : VaultLiquidation} {e e' : Engine} {v : Vault}
    (accepted : e.state.params.validate = .ok ())
    (borrowable : 0 < e.state.params.collateralFactor.toNat)
    (found : e.vault? id = some v)
    (aim : e.regime v ctx.caller price accumulator = .ok .restoring)
    (done : liquidateVault ctx id amount price accumulator e = .ok outcome e') :
    ∃ w terms, e'.vault? id = some w ∧
      e.opportunity id v ctx.caller price accumulator = .ok terms ∧
      billionths e.state.params.collateralFactor * w.worth price e.state.collateralUnit ≤
        billionths e.state.params.targetHealthFactor * w.owed accumulator +
          billionths e.state.params.collateralFactor *
            (1 + price.toNat / e.state.collateralUnit.toNat) ∧
      v.worth price e.state.collateralUnit *
          (w.owed accumulator - 2 - accumulator.toNat / accumulatorOne) ≤
        w.worth price e.state.collateralUnit * v.owed accumulator ∧
      (amount = terms.maxRepay →
        billionths e.state.params.targetHealthFactor * w.owed accumulator -
            billionths e.state.params.targetHealthFactor *
              (3 + accumulator.toNat / accumulatorOne) ≤
          billionths e.state.params.collateralFactor * w.worth price e.state.collateralUnit) := by
  have consistent := Parameters.validate_eq_ok.mp accepted
  obtain ⟨u, w, terms, deal⟩ := liquidateVault_deal done
  cases found.symm.trans deal.revised.found
  obtain ⟨value, health, regime, appraised, known, offer⟩ := opportunity_offer consistent deal.quoted
  cases aim.symm.trans known
  have kept : e'.vault? id = some w := by rw [deal.revised.vault?, if_pos rfl]
  refine ⟨w, terms, kept, deal.quoted, ?_⟩
  cases offer with
  | restoring reached most =>
    rcases deal.emptied_or_parted appraised with ⟨rfl, -⟩ | parted
    · have factor := billionths_nonneg e.state.params.collateralFactor
      have target := billionths_nonneg e.state.params.targetHealthFactor
      have worth := v.worth_nonneg price e.state.collateralUnit
      have grown : (0 : ℚ) ≤ accumulator.toNat / accumulatorOne := by positivity
      have slack := mul_nonneg target grown
      simp only [Vault.worth_empty, Vault.owed_empty, mul_zero, zero_mul, zero_add]
      exact ⟨by positivity, mul_nonpos_of_nonneg_of_nonpos worth (by linarith),
        fun _ => by linarith⟩
    · refine ⟨not_past_target appraised most deal.most parted,
        not_less_healthy appraised most deal.most (appraised.covered borrowable reached) parted,
        ?_⟩
      rintro rfl
      exact reaches_target appraised consistent most parted

end Engine

namespace World

/-- A price at which the vault of the small market is a little unhealthy. -/
def dip : Amount := ⟨124 * tokenOne / 100, by decide⟩

set_option maxRecDepth 10000 in
/-- Liquidated with the largest amount at that price, the vault keeps a part of its collateral and
reaches its target. -/
theorem restoring_accurate_dip :
    ∃ ctx accumulator e v terms outcome e' left,
      (history smallMarket).Midway 0 ctx dip accumulator e ∧ e.vault? 1 = some v ∧
      e.opportunity 1 v ctx.caller dip accumulator = .ok terms ∧
      Engine.liquidateVault ctx 1 terms.maxRepay dip accumulator e = .ok outcome e' ∧
      e'.vault? 1 = some left ∧ left ≠ .empty ∧
      billionths e.state.params.targetHealthFactor * left.owed accumulator -
          billionths e.state.params.targetHealthFactor *
            (3 + accumulator.toNat / accumulatorOne) ≤
        billionths e.state.params.collateralFactor * left.worth dip e.state.collateralUnit := by
  have facts : ((midst smallMarket 0).any fun (ctx, accumulator, e) => (e.vault? 1).any fun v =>
      (e.opportunity 1 v ctx.caller dip accumulator).toOption.any fun terms =>
        (leftAfter ctx accumulator e dip terms.maxRepay).any fun (_, _, left) =>
          decide (left ≠ .empty ∧ e.state.params.validate.toOption = some () ∧
            0 < e.state.params.collateralFactor.toNat ∧
            (e.regime v ctx.caller dip accumulator).toOption = some .restoring)) = true := by
    decide +kernel
  simp only [Option.any_eq_true, Outcome.toOption_eq_some, decide_eq_true_eq] at facts
  obtain ⟨⟨ctx, accumulator, e⟩, reached, v, found, terms, quoted, ⟨outcome, e', left⟩, ended, some',
    accepted, borrowable, aim⟩ := facts
  obtain ⟨done, kept⟩ := leftAfter_eq_some ended
  obtain ⟨left', terms', kept', quoted', -, -, reaches⟩ :=
    Engine.restoring_accurate accepted borrowable found aim done
  cases kept.symm.trans kept'
  cases quoted.symm.trans quoted'
  exact ⟨ctx, accumulator, e, v, terms, outcome, e', left, midway_of_midst _ reached, found, quoted,
    done, kept, some', reaches rfl⟩

end World

end CollateralDebt
