import Mathlib.Algebra.Order.Field.Basic
import Mathlib.Algebra.Order.Field.Rat
import Mathlib.Tactic.FieldSimp
import Mathlib.Tactic.Linarith
import Mathlib.Tactic.NormNum
import Mathlib.Tactic.Positivity
import Mathlib.Tactic.Ring
import CollateralDebt.Proofs.Engine.Regime

/-!
# What a liquidation exchanges

The same formulas over the rationals. A vault has collateral of some exact worth and owes some exact
debt, and the ratios of the terms are numbers, so that the inequalities about whole numbers become
inequalities about what a repayment buys and what it takes off the debt. Each rounding leaves some
slack: the price of the smallest part of the collateral, the smallest part of a stablecoin, or what
a unit of normalized debt has grown to.

## What is proved

- `Appraised.debt_bounds`, `Appraised.value_bounds`, `Appraised.covered`: what a vault is judged by;
- `restoring_bounds`, `completing_bounds`, `exhausting_bounds`: the largest amounts;
- `gain_le_gain`, `restoring_le`: what brings a vault closer to its target, and for how much;
- `Deal.emptied_or_parted`: what a deal does to the worth and to the debt of a vault.
-/

namespace CollateralDebt

/-! ## Exact values -/

/-- What the collateral is worth, not rounded. -/
def Vault.worth (v : Vault) (price unit : Amount) : ℚ :=
  v.collateral.toNat * price.toNat / unit.toNat

/-- What is owed, not rounded. -/
def Vault.owed (v : Vault) (accumulator : Amount) : ℚ :=
  v.normalizedDebt.toNat * accumulator.toNat / accumulatorOne

/-- A number of billionths. -/
def billionths (n : UInt64) : ℚ := n.toNat / ratioOne

/-- How much closer an amount brings a vault to its target: the debt that it takes off, weighted with
the target, less the borrowable part of what is given for it. -/
def Parameters.gain (params : Parameters) (discount : UInt64) (amount : ℚ) : ℚ :=
  billionths params.targetHealthFactor * (amount * billionths params.liquidationSurcharge) -
    billionths params.collateralFactor * (amount / billionths discount)

/-- How far a vault is from its target. -/
def Parameters.missing (params : Parameters) (value debt : Amount) : ℚ :=
  billionths params.targetHealthFactor * debt.toNat -
    billionths params.collateralFactor * value.toNat

theorem Vault.worth_nonneg (v : Vault) (price unit : Amount) : 0 ≤ v.worth price unit := by
  unfold worth
  positivity

theorem Vault.owed_nonneg (v : Vault) (accumulator : Amount) : 0 ≤ v.owed accumulator := by
  unfold owed
  positivity

/-- A vault without normalized debt owes nothing at any accumulator. -/
theorem Vault.owed_eq_zero {v : Vault} {accumulator : Amount} (h : v.normalizedDebt = .zero) :
    v.owed accumulator = 0 := by
  simp [owed, h]

/-- A vault without collateral is worth nothing at any price. -/
@[simp] theorem Vault.worth_empty (price unit : Amount) : Vault.empty.worth price unit = 0 := by
  simp [worth, empty]

@[simp] theorem Vault.owed_empty (accumulator : Amount) : Vault.empty.owed accumulator = 0 := by
  simp [owed, empty]

/-- Collateral that is taken out takes its worth with it. -/
theorem Vault.worth_of_add {v w : Vault} {released : Nat} (price unit : Amount)
    (h : w.collateral.toNat + released = v.collateral.toNat) :
    w.worth price unit = v.worth price unit - released * price.toNat / unit.toNat := by
  unfold worth
  rw [← h, Nat.cast_add, add_mul, add_div, add_sub_cancel_right]

/-- Debt that is taken off is owed no more. -/
theorem Vault.owed_of_add {v w : Vault} {change : Nat} (accumulator : Amount)
    (h : w.normalizedDebt.toNat + change = v.normalizedDebt.toNat) :
    w.owed accumulator = v.owed accumulator - change * accumulator.toNat / accumulatorOne := by
  unfold owed
  rw [← h, Nat.cast_add, add_mul, add_div, add_sub_cancel_right]

/-- The unit of ratios is above zero, also as a rational number. -/
theorem cast_ratioOne_pos : (0 : ℚ) < ratioOne := by exact_mod_cast ratioOne_pos

theorem cast_accumulatorOne_pos : (0 : ℚ) < accumulatorOne := by exact_mod_cast accumulatorOne_pos

theorem billionths_nonneg (n : UInt64) : 0 ≤ billionths n := by
  unfold billionths
  positivity

namespace Parameters.Consistent

variable {p : Parameters}

/-- Consistent parameters keep a part of each repayment for the debt. -/
theorem billionths_surcharge_pos (h : p.Consistent) : 0 < billionths p.liquidationSurcharge :=
  div_pos (by exact_mod_cast h.surcharge_pos) cast_ratioOne_pos

/-- The surcharge keeps back no more than there is. -/
theorem billionths_surcharge_le (h : p.Consistent) : billionths p.liquidationSurcharge ≤ 1 := by
  unfold billionths
  rw [div_le_one cast_ratioOne_pos]
  exact_mod_cast h.surcharge_le

/-- Consistent parameters have a target above zero. -/
theorem billionths_target_pos (h : p.Consistent) : 0 < billionths p.targetHealthFactor :=
  div_pos (by exact_mod_cast Nat.lt_of_lt_of_le ratioOne_pos h.target_ge) cast_ratioOne_pos

end Parameters.Consistent

/-- A quotient rounded down is at most the exact one, and less than one below it. -/
theorem cast_quotient {n d c : Nat} (lower : c * d ≤ n) (upper : n < (c + 1) * d) :
    (c : ℚ) ≤ n / d ∧ (n : ℚ) / d < c + 1 := by
  have positive : (0 : ℚ) < d := by
    exact_mod_cast Nat.pos_of_mul_pos_left (Nat.zero_lt_of_lt upper)
  constructor
  · rw [le_div_iff₀ positive]
    exact_mod_cast lower
  · rw [div_lt_iff₀ positive]
    exact_mod_cast upper

/-- The quotient rounded down and one more is above the exact one, and by at most one. -/
theorem cast_quotient_pred {n d m : Nat} (lower : (m - 1) * d ≤ n) (upper : n < m * d) :
    (m : ℚ) - 1 ≤ n / d ∧ (n : ℚ) / d < m := by
  obtain ⟨c, rfl⟩ := Nat.exists_eq_add_one.mpr
    (Nat.pos_of_mul_pos_right (Nat.zero_lt_of_lt upper))
  have bounds := cast_quotient lower upper
  rwa [Nat.cast_succ, add_sub_cancel_right]

/-- A quotient that was rounded down is less than one below the exact one. -/
theorem mulDiv_cast {a b d : Nat} {c : Amount} (h : mulDiv a b d = .ok c) :
    (c.toNat : ℚ) ≤ a * b / d ∧ (a * b / d : ℚ) < c.toNat + 1 := by
  obtain ⟨lower, upper⟩ := mulDiv_bounds h
  have bounds := cast_quotient lower (upper.trans_eq (Nat.succ_mul _ _).symm)
  simpa only [Nat.cast_mul] using bounds

namespace Engine

variable {e e' : Engine} {id : VaultId} {v w : Vault} {liquidator : Address}
  {amount price accumulator value health : Amount} {terms : Opportunity}
  {outcome : VaultLiquidation}

/-! ## What a vault is judged by -/

namespace Appraised

/-- The debt in the terms is what the vault owes, rounded down. -/
theorem debt_bounds (h : e.Appraised v price accumulator value health terms) :
    (terms.currentDebt.toNat : ℚ) ≤ v.owed accumulator ∧
      v.owed accumulator < terms.currentDebt.toNat + 1 :=
  mulDiv_cast h.owes

/-- The value in the terms is what the collateral is worth, rounded down. -/
theorem value_bounds (h : e.Appraised v price accumulator value health terms) :
    (value.toNat : ℚ) ≤ v.worth price e.state.collateralUnit ∧
      v.worth price e.state.collateralUnit < value.toNat + 1 :=
  mulDiv_cast h.valued

/-- The health factor of an unhealthy vault is a quotient by a debt above zero. -/
theorem health_bounds (h : e.Appraised v price accumulator value health terms) :
    0 < terms.currentDebt.toNat ∧
      health.toNat * terms.currentDebt.toNat ≤
        value.toNat * e.state.params.collateralFactor.toNat ∧
      value.toNat * e.state.params.collateralFactor.toNat <
        (health.toNat + 1) * terms.currentDebt.toNat := by
  have rated := h.rated
  have unhealthy := h.unhealthy
  unfold healthFactor at rated
  split at rated
  · cases rated
    exact absurd unhealthy (by decide)
  · rename_i owes
    obtain ⟨lower, upper⟩ := mulDiv_bounds rated
    rw [Nat.succ_mul]
    exact ⟨Nat.pos_of_ne_zero owes, lower, upper⟩

/-- No terms give collateral away for nothing. -/
theorem discount_pos (h : e.Appraised v price accumulator value health terms) :
    0 < billionths terms.discount :=
  div_pos (by exact_mod_cast h.share.pos) cast_ratioOne_pos

/-- The whole unit of the collateral is above zero, as terms have divided by it. -/
theorem unit_pos (h : e.Appraised v price accumulator value health terms) :
    0 < e.state.collateralUnit.toNat :=
  Nat.pos_of_ne_zero (mulDiv_eq_ok.mp h.valued).1

/-- If the target is within reach and something can be borrowed, then all of the collateral at the
discounted price repays the debt. -/
theorem covered (h : e.Appraised v price accumulator value health terms)
    (borrowable : 0 < e.state.params.collateralFactor.toNat)
    (reached : e.state.params.collateralFactor.toNat * ratioOne * ratioOne ≤
      health.toNat * terms.discount.toNat * e.state.params.liquidationSurcharge.toNat) :
    (terms.currentDebt.toNat : ℚ) ≤ value.toNat * billionths terms.discount *
      billionths e.state.params.liquidationSurcharge := by
  have lower := h.health_bounds.2.1
  have whole : terms.currentDebt.toNat * (ratioOne * ratioOne) ≤
      value.toNat * terms.discount.toNat * e.state.params.liquidationSurcharge.toNat := by
    refine Nat.le_of_mul_le_mul_left ?_ borrowable
    calc e.state.params.collateralFactor.toNat * (terms.currentDebt.toNat * (ratioOne * ratioOne))
        = e.state.params.collateralFactor.toNat * ratioOne * ratioOne *
            terms.currentDebt.toNat := by ring
      _ ≤ health.toNat * terms.discount.toNat * e.state.params.liquidationSurcharge.toNat *
            terms.currentDebt.toNat := Nat.mul_le_mul_right _ reached
      _ = health.toNat * terms.currentDebt.toNat *
            (terms.discount.toNat * e.state.params.liquidationSurcharge.toNat) := by ring
      _ ≤ value.toNat * e.state.params.collateralFactor.toNat *
            (terms.discount.toNat * e.state.params.liquidationSurcharge.toNat) :=
          Nat.mul_le_mul_right _ lower
      _ = e.state.params.collateralFactor.toNat *
            (value.toNat * terms.discount.toNat *
              e.state.params.liquidationSurcharge.toNat) := by ring
  have split : (value.toNat : ℚ) * billionths terms.discount *
      billionths e.state.params.liquidationSurcharge =
      value.toNat * terms.discount.toNat * e.state.params.liquidationSurcharge.toNat /
        (ratioOne * ratioOne) := by
    unfold billionths
    ring
  rw [split, le_div_iff₀ (mul_pos cast_ratioOne_pos cast_ratioOne_pos)]
  exact_mod_cast whole

end Appraised

/-! ## The largest amounts -/


section Restoring

variable {params : Parameters} {value debt repay : Amount} {discount : UInt64} {a b : ℚ}

/-- The gain is linear in the amount. -/
theorem gain_eq_mul : params.gain discount a = a * params.gain discount 1 := by
  unfold Parameters.gain
  ring

/-- Where a repayment of one gains something, a larger repayment gains more. -/
theorem gain_le_gain (positive : 0 < params.gain discount 1) :
    params.gain discount a ≤ params.gain discount b ↔ a ≤ b := by
  rw [gain_eq_mul, gain_eq_mul (a := b), mul_le_mul_iff_left₀ positive]

/-- The amount that restores a vault is the largest one that gains no more than what is missing. -/
theorem restoring_bounds (h : targetRepay params value debt discount.toNat = .ok repay) :
    0 < params.gain discount 1 ∧ params.gain discount repay.toNat ≤ params.missing value debt ∧
      params.missing value debt < params.gain discount (repay.toNat + 1) := by
  obtain ⟨positive, lower, upper⟩ := targetRepay_bounds h
  have share : 0 < discount.toNat := Nat.pos_of_mul_pos_left (Nat.zero_lt_of_lt positive)
  have scale : 0 < ratioOne * ratioOne * discount.toNat :=
    Nat.mul_pos (Nat.mul_pos ratioOne_pos ratioOne_pos) share
  have gains (x : ℚ) : params.gain discount x =
      (x * (params.liquidationSurcharge.toNat * params.targetHealthFactor.toNat *
          discount.toNat : Nat) - x * (ratioOne * ratioOne * params.collateralFactor.toNat : Nat)) /
        (ratioOne * ratioOne * discount.toNat : Nat) := by
    have K := cast_ratioOne_pos.ne'
    have d : (discount.toNat : ℚ) ≠ 0 := by exact_mod_cast share.ne'
    simp only [Parameters.gain, billionths, Nat.cast_mul]
    field_simp
  have misses : params.missing value debt =
      ((params.targetHealthFactor.toNat * debt.toNat * (ratioOne * discount.toNat) : Nat) -
        (value.toNat * params.collateralFactor.toNat * (ratioOne * discount.toNat) : Nat)) /
        (ratioOne * ratioOne * discount.toNat : Nat) := by
    have K := cast_ratioOne_pos.ne'
    have d : (discount.toNat : ℚ) ≠ 0 := by exact_mod_cast share.ne'
    simp only [Parameters.missing, billionths, Nat.cast_mul]
    field_simp
  rw [gains 1, gains repay.toNat, gains (repay.toNat + 1), misses, one_mul, one_mul,
    div_le_div_iff_of_pos_right (by exact_mod_cast scale),
    div_lt_div_iff_of_pos_right (by exact_mod_cast scale), sub_le_sub_iff, sub_lt_sub_iff]
  exact ⟨div_pos (sub_pos.mpr (by exact_mod_cast positive)) (by exact_mod_cast scale),
    by exact_mod_cast lower, by exact_mod_cast upper⟩

/-- The amount that restores a vault is at most the discounted value of its collateral, if that covers
the debt. -/
theorem restoring_le (h : targetRepay params value debt discount.toNat = .ok repay)
    (share : 0 < billionths discount)
    (covered : (debt.toNat : ℚ) ≤
      value.toNat * billionths discount * billionths params.liquidationSurcharge) :
    repay.toNat ≤ value.toNat * billionths discount := by
  obtain ⟨positive, most, -⟩ := restoring_bounds h
  rw [← gain_le_gain positive]
  calc params.gain discount repay.toNat
      ≤ params.missing value debt := most
    _ ≤ billionths params.targetHealthFactor * (value.toNat * billionths discount *
            billionths params.liquidationSurcharge) -
          billionths params.collateralFactor * value.toNat :=
        sub_le_sub_right (mul_le_mul_of_nonneg_left covered (billionths_nonneg _)) _
    _ = params.gain discount (value.toNat * billionths discount) := by
        rw [Parameters.gain, mul_div_cancel_right₀ _ share.ne']

end Restoring

/-- The amount that completes a liquidation is the least one of which the surcharge leaves more than
the debt. -/
theorem completing_bounds {params : Parameters} {repay : Amount}
    (h : fullRepay params v accumulator = .ok repay) :
    repay.toNat - 1 ≤ v.owed accumulator / billionths params.liquidationSurcharge ∧
      v.owed accumulator / billionths params.liquidationSurcharge < repay.toNat := by
  obtain ⟨lower, upper⟩ := fullRepay_bounds h
  have quotient : v.owed accumulator / billionths params.liquidationSurcharge =
      (v.normalizedDebt.toNat * accumulator.toNat * ratioOne : Nat) /
        (params.liquidationSurcharge.toNat * accumulatorOne : Nat) := by
    unfold Vault.owed billionths
    rw [div_div_div_eq, mul_comm (accumulatorOne : ℚ)]
    norm_cast
  rw [quotient]
  exact cast_quotient_pred lower upper

/-- The amount that exhausts a vault is the least one that is above the discounted worth of its
collateral. -/
theorem exhausting_bounds {s : EngineState} {discount : UInt64} {repay : Amount}
    (h : exhaustingRepay s v price discount.toNat = .ok repay) :
    repay.toNat - 1 ≤ v.worth price s.collateralUnit * billionths discount ∧
      v.worth price s.collateralUnit * billionths discount < repay.toNat := by
  obtain ⟨lower, upper⟩ := exhaustingRepay_bounds h
  have quotient : v.worth price s.collateralUnit * billionths discount =
      (v.collateral.toNat * discount.toNat * price.toNat : Nat) /
        (ratioOne * s.collateralUnit.toNat : Nat) := by
    unfold Vault.worth billionths
    rw [div_mul_div_comm, mul_right_comm, mul_comm (s.collateralUnit.toNat : ℚ)]
    norm_cast
  rw [quotient]
  exact cast_quotient_pred lower upper

/-! ## Deals -/

/-- What an amount buys at the discounted price is worth the amount over the discounted price, up to
the last unit of collateral. -/
theorem bought_bounds {unit : Amount} {discount : UInt64} {bought : Nat} (whole : 0 < unit.toNat)
    (h : Wide.checkedDiv (amount.toNat * ratioOne * unit.toNat) (discount.toNat * price.toNat) =
      .ok bought) :
    bought * price.toNat / unit.toNat ≤ (amount.toNat : ℚ) / billionths discount ∧
      (amount.toNat : ℚ) / billionths discount < (bought + 1) * price.toNat / unit.toNat := by
  obtain ⟨lower, upper⟩ := Wide.checkedDiv_bounds h
  have share : (0 : ℚ) < discount.toNat := by
    exact_mod_cast Nat.pos_of_mul_pos_right (Nat.pos_of_ne_zero (Wide.checkedDiv_eq_ok.mp h).1)
  have unit_pos : (0 : ℚ) < unit.toNat := by exact_mod_cast whole
  rw [billionths, div_div_eq_mul_div, div_le_div_iff₀ unit_pos share,
    div_lt_div_iff₀ share unit_pos, mul_assoc (bought : ℚ), mul_assoc (bought + 1 : ℚ),
    mul_comm (price.toNat : ℚ)]
  exact ⟨by exact_mod_cast lower, by exact_mod_cast upper⟩

/-- What the surcharge leaves of an amount is taken off the debt, up to less than
one and one unit of normalized debt. -/
theorem repaid_bounds {surcharge : UInt64} {debtRepaid normalized : Amount}
    (repaid : mulDiv amount.toNat surcharge.toNat ratioOne = .ok debtRepaid)
    (normal : normalize debtRepaid accumulator = .ok normalized) :
    normalized.toNat * accumulator.toNat / accumulatorOne ≤ amount.toNat * billionths surcharge ∧
      amount.toNat * billionths surcharge <
        (normalized.toNat + 1) * accumulator.toNat / accumulatorOne + 1 := by
  obtain ⟨lower, upper⟩ := mulDiv_cast repaid
  obtain ⟨least, most⟩ := mulDiv_bounds normal
  rw [← Nat.succ_mul] at most
  rw [mul_div_assoc] at lower upper
  have down : (normalized.toNat * accumulator.toNat / accumulatorOne : ℚ) ≤ debtRepaid.toNat := by
    rw [div_le_iff₀ cast_accumulatorOne_pos]
    exact_mod_cast least
  have up : (debtRepaid.toNat : ℚ) <
      (normalized.toNat + 1) * accumulator.toNat / accumulatorOne := by
    rw [lt_div_iff₀ cast_accumulatorOne_pos]
    exact_mod_cast most
  exact ⟨down.trans lower, by unfold billionths; linarith⟩

/-- A part of the collateral went for a part of the debt, up to rounding. -/
structure Parted (v w : Vault) (price unit accumulator : Amount) (bought repaid : ℚ) : Prop where
  worth_ge : v.worth price unit - bought ≤ w.worth price unit
  worth_lt : w.worth price unit < v.worth price unit - bought + price.toNat / unit.toNat
  owed_ge : v.owed accumulator - repaid ≤ w.owed accumulator
  owed_lt : w.normalizedDebt = .zero ∨
    w.owed accumulator < v.owed accumulator - repaid + 1 + accumulator.toNat / accumulatorOne

/-- An amount empties a vault if all of its collateral is worth no more, and else takes its share
of both sides. -/
theorem Deal.emptied_or_parted
    (deal : Deal e liquidator id amount price accumulator v w terms outcome e')
    (appraised : e.Appraised v price accumulator value health terms) :
    (w = .empty ∧
      v.worth price e.state.collateralUnit ≤ amount.toNat / billionths terms.discount) ∨
    Parted v w price e.state.collateralUnit accumulator
      (amount.toNat / billionths terms.discount)
      (amount.toNat * billionths e.state.params.liquidationSurcharge) := by
  obtain ⟨bought, debtRepaid, hbought, hrepaid, exchanged⟩ := deal.exchanged
  obtain ⟨worth_le, lt_worth⟩ := bought_bounds appraised.unit_pos hbought
  cases exchanged with
  | exhausted enough =>
    refine .inl ⟨rfl, le_trans ?_ worth_le⟩
    unfold Vault.worth
    gcongr
  | @reduced _ released normalized exact less collateral normal debt =>
    obtain ⟨owed_le, lt_owed⟩ := repaid_bounds hrepaid normal
    have rest := Vault.worth_of_add price e.state.collateralUnit collateral
    rw [exact] at rest
    rw [add_mul, one_mul, add_div] at lt_worth lt_owed
    -- either the whole debt goes, or what goes is not cut off
    rcases Nat.le_total normalized.toNat v.normalizedDebt.toNat with part | all
    · rw [Nat.min_eq_left part] at debt
      have due := Vault.owed_of_add accumulator debt
      exact .inr ⟨by linarith, by linarith, by linarith, .inr (by linarith)⟩
    · rw [Nat.min_eq_right all] at debt
      have due := Vault.owed_of_add accumulator debt
      have most : (v.normalizedDebt.toNat : ℚ) * accumulator.toNat / accumulatorOne ≤
          normalized.toNat * accumulator.toNat / accumulatorOne := by gcongr
      refine .inr ⟨by linarith, by linarith, by linarith, .inl (Amount.ext ?_)⟩
      rw [Amount.toNat_zero]
      omega

end Engine

end CollateralDebt
