import CollateralDebt.Proofs.BoostCurve
import CollateralDebt.Proofs.Engine.Basic

/-!
# Fit engines

An engine is *fit* if its settings go together: its parameters are consistent, its boost curve is
one that would be accepted and starts with the base boost, one whole unit of collateral is a power
of ten that is not too large, and its accumulator has not fallen below where it started. This is
what the formulas of debt and liquidation rely on.

Nothing of it depends on the vaults, and the accumulator only rises, so whatever leaves the settings
alone keeps an engine fit.

## What is proved

- `Parameters.validate_eq_ok`: what it means that parameters are consistent;
- `Fit.congr`: being fit depends on the settings and the accumulator alone;
- `Fit.of_frame`, `Fit.accrued`: actions and accrual keep an engine fit.
-/

namespace CollateralDebt

/-! ## Consistent parameters -/

/-- Parameters that go together. -/
structure Parameters.Consistent (p : Parameters) : Prop where
  surcharge_pos : 0 < p.liquidationSurcharge.toNat
  surcharge_le : p.liquidationSurcharge.toNat ≤ ratioOne
  factor_le : p.collateralFactor.toNat ≤ p.liquidationSurcharge.toNat
  target_ge : ratioOne ≤ p.targetHealthFactor.toNat
  discount_lt : p.maxLiquidationDiscount.toNat < ratioOne
  boost_ne_zero : p.baseBoost ≠ 0
  borrowFee_le : p.borrowFee.toNat ≤ ratioOne
  repayFee_le : p.repayFee.toNat + p.liquidationSurcharge.toNat ≤ ratioOne
  dust_le : p.dust ≤ p.dustLiquidation

/-- The check accepts consistent parameters, and no others. -/
theorem Parameters.validate_eq_ok {p : Parameters} {u : Unit} :
    p.validate = .ok u ↔ p.Consistent := by
  simp only [validate, Outcome.bind_eq_ok, Outcome.require_eq_ok]
  constructor
  · rintro ⟨_, ⟨pos, le⟩, _, factor, _, target, _, discount, _, boost, _, borrow, _, repay, dust⟩
    exact ⟨pos, le, factor, target, discount, boost, borrow, repay, dust⟩
  · intro h
    exact ⟨(), ⟨h.surcharge_pos, h.surcharge_le⟩, (), h.factor_le, (), h.target_ge, (),
      h.discount_lt, (), h.boost_ne_zero, (), h.borrowFee_le, (), h.repayFee_le, h.dust_le⟩

namespace Engine

/-! ## Fit engines -/

/-- The settings of an engine: its parameters, its boost curve, and the precision and the whole unit
of its collateral. -/
def settings (e : Engine) : Parameters × BoostCurve × UInt8 × Amount :=
  (e.state.params, e.state.boostCurve, e.state.collateralDecimals, e.state.collateralUnit)

/-- The settings are part of the frame, so actions leave them alone. -/
theorem settings_of_frame {e e' : Engine} (h : e'.frame = e.frame) : e'.settings = e.settings :=
  congrArg (fun f => (f.1.params, f.1.boostCurve, f.1.collateralDecimals, f.1.collateralUnit)) h

/-- The settings of the engine go together. -/
structure Fit (e : Engine) : Prop where
  params : e.state.params.Consistent
  curve : e.state.boostCurve.Accepted
  baseBoost : e.state.params.baseBoost = e.state.boostCurve.baseBoost
  decimals : e.state.collateralDecimals ≤ maxCollateralDecimals
  unit : Amount.pow10 e.state.collateralDecimals = .ok e.state.collateralUnit
  accumulator : accumulatorOne ≤ e.state.accumulator.toNat

namespace Fit

variable {e e' : Engine}

/-- The same settings, and an accumulator that has not fallen. -/
theorem congr (h : e.Fit) (same : e'.settings = e.settings)
    (grown : e.state.accumulator ≤ e'.state.accumulator) : e'.Fit := by
  simp only [settings, Prod.mk.injEq] at same
  obtain ⟨params, curve, decimals, unit⟩ := same
  refine ⟨params ▸ h.params, curve ▸ h.curve, ?_, decimals ▸ h.decimals, ?_,
    Nat.le_trans h.accumulator grown⟩
  · rw [params, curve]
    exact h.baseBoost
  · rw [decimals, unit]
    exact h.unit

/-- Being fit depends on the frame alone. -/
theorem of_frame (h : e.Fit) (same : e'.frame = e.frame) : e'.Fit :=
  h.congr (settings_of_frame same) (Nat.le_of_eq (congrArg Amount.toNat
    (accumulator_of_frame same).symm))

/-- Accrual changes no setting, and the accumulator only grows. -/
theorem accrued {now : Timestamp} {accumulator : Amount} (h : e.Fit)
    (booked : Accrued e now accumulator e') : e'.Fit := by
  apply h.congr
  · unfold settings
    rw [booked.state]
  · rw [booked.accumulator]
    exact booked.grown

/-- What an accrual books, and hands on, is above zero. -/
theorem accumulator_pos {now : Timestamp} {accumulator : Amount} (h : e.Fit)
    (booked : Accrued e now accumulator e') : 0 < accumulator.toNat := by
  have least := (h.accrued booked).accumulator
  rw [booked.accumulator] at least
  exact Nat.lt_of_lt_of_le accumulatorOne_pos least

/-- The whole unit of collateral is at least one and at most `10 ^ 27`. -/
theorem unit_bounds (h : e.Fit) :
    1 ≤ e.state.collateralUnit.toNat ∧ e.state.collateralUnit.toNat ≤ 10 ^ 27 := by
  obtain ⟨unit, known, value⟩ := Amount.pow10_of_le h.decimals
  cases h.unit.symm.trans known
  rw [value]
  exact ⟨Nat.pow_pos (by decide), Nat.pow_le_pow_right (by decide) h.decimals⟩

end Fit

end Engine

end CollateralDebt
