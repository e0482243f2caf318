import CollateralDebt.Proofs.Engine.Terms

/-!
# The regimes of a liquidation

Which formula gives the largest amount of a liquidation depends on what the collateral is enough
for. If it reaches the target, the largest amount restores the vault, or completes its liquidation
where restoring would leave dust; if it does not, the largest amount exhausts the vault. The terms
of a vault are those of one regime, which is read off the same numbers.

Each formula ends in a quotient that is rounded down, and is read here as the two inequalities that
pin the quotient down, without differences.

## What is proved

- `targetRepay_bounds`, `fullRepay_bounds`, `exhaustingRepay_bounds`: the three formulas;
- `opportunity_offer`: the terms of a vault are an offer of its regime.
-/

namespace CollateralDebt

/-- A quotient rounded down, as two inequalities. -/
theorem Wide.checkedDiv_bounds {a b c : Nat} (h : checkedDiv a b = .ok c) :
    c * b ≤ a ∧ a < (c + 1) * b := by
  obtain ⟨nonzero, rfl⟩ := checkedDiv_eq_ok.mp h
  exact ⟨Nat.div_mul_le_self a b, Nat.lt_mul_of_div_lt (Nat.lt_succ_self _) (by omega)⟩

/-- What the largest amount of a liquidation is for. -/
inductive Regime where
  /-- The vault is brought back to its target. -/
  | restoring
  /-- All debt is repaid, because restoring would leave dust. -/
  | completing
  /-- All collateral is bought, because it is not enough to reach the target. -/
  | exhausting
deriving DecidableEq

namespace Engine

/-- The regime of a vault for a liquidator. -/
def regime (e : Engine) (v : Vault) (liquidator : Address) (price accumulator : Amount) :
    Outcome Regime := do
  let params := e.state.params
  let debt ← debtOf v.normalizedDebt accumulator
  let value ← collateralValue v.collateral price e.state.collateralUnit
  let health ← healthFactor value params.collateralFactor debt
  let d ← oneMinusDiscount params (← e.liquidationBoost liquidator) health
  if ← reachesTarget params health d then
    let dusty ← leavesDust params debt (← targetRepay params value debt d)
    return if dusty then .completing else .restoring
  else return .exhausting

/-! ## Formulas -/

section Formulas

variable {s : EngineState} {params : Parameters} {v : Vault}
  {value debt health price accumulator repay : Amount} {d : Nat} {answer : Bool}

/-- The test for the target compares two products, both computed without rounding. -/
theorem reachesTarget_eq_ok (h : reachesTarget params health d = .ok answer) :
    answer = decide (params.collateralFactor.toNat * ratioOne * ratioOne ≤
      health.toNat * d * params.liquidationSurcharge.toNat) := by
  simp only [reachesTarget, Outcome.bind_eq_ok, Wide.mul_eq_ok, Outcome.pure_eq_ok] at h
  obtain ⟨_, ⟨_, rfl⟩, _, ⟨_, rfl⟩, _, ⟨_, rfl⟩, _, ⟨_, rfl⟩, same⟩ := h
  exact same.symm

/-- The test for dust adds the bound to what is repaid, so that nothing is subtracted. -/
theorem leavesDust_eq_ok (h : leavesDust params debt repay = .ok answer) :
    answer = decide (debt.toNat * ratioOne ≤ repay.toNat * params.liquidationSurcharge.toNat +
      params.dustLiquidation.toNat * ratioOne) := by
  simp only [leavesDust, Outcome.bind_eq_ok, Wide.mul_eq_ok, Wide.add_eq_ok,
    Outcome.pure_eq_ok] at h
  obtain ⟨_, ⟨_, rfl⟩, _, ⟨_, rfl⟩, _, ⟨_, rfl⟩, _, ⟨_, rfl⟩, same⟩ := h
  exact same.symm

/-- Repaying the amount that restores a vault does not bring it past its target, and repaying one
more does. The divisor in the amount is above zero. -/
theorem targetRepay_bounds (h : targetRepay params value debt d = .ok repay) :
    ratioOne * ratioOne * params.collateralFactor.toNat <
        params.liquidationSurcharge.toNat * params.targetHealthFactor.toNat * d ∧
      repay.toNat * (params.liquidationSurcharge.toNat * params.targetHealthFactor.toNat * d) +
          value.toNat * params.collateralFactor.toNat * (ratioOne * d) ≤
        params.targetHealthFactor.toNat * debt.toNat * (ratioOne * d) +
          repay.toNat * (ratioOne * ratioOne * params.collateralFactor.toNat) ∧
      params.targetHealthFactor.toNat * debt.toNat * (ratioOne * d) +
          (repay.toNat + 1) * (ratioOne * ratioOne * params.collateralFactor.toNat) <
        (repay.toNat + 1) *
            (params.liquidationSurcharge.toNat * params.targetHealthFactor.toNat * d) +
          value.toNat * params.collateralFactor.toNat * (ratioOne * d) := by
  simp only [targetRepay, Outcome.bind_eq_ok, Wide.mul_eq_ok, Wide.checkedSub_eq_ok,
    Wide.checkedMul_eq_ok, narrow_eq_ok] at h
  obtain ⟨_, ⟨_, rfl⟩, _, ⟨_, rfl⟩, missing, ⟨most, hmissing⟩, _, ⟨_, rfl⟩, _, ⟨_, rfl⟩, _,
    ⟨_, rfl⟩, _, ⟨_, rfl⟩, _, ⟨_, rfl⟩, divisor, ⟨least, hdivisor⟩, _, quotient, rfl⟩ := h
  obtain ⟨nonzero, -⟩ := Wide.checkedDiv_eq_ok.mp quotient
  obtain ⟨lower, upper⟩ := Wide.checkedDiv_bounds quotient
  have weighted := (Nat.sub_eq_iff_eq_add most).mp hmissing
  have divided := (Nat.sub_eq_iff_eq_add least).mp hdivisor
  rw [Nat.mul_assoc] at lower upper
  rw [weighted, divided, Nat.add_mul, Nat.mul_add, Nat.mul_add]
  omega

/-- The amount that repays all debt is the least one of which the surcharge leaves more than the
debt. -/
theorem fullRepay_bounds (h : fullRepay params v accumulator = .ok repay) :
    (repay.toNat - 1) * (params.liquidationSurcharge.toNat * accumulatorOne) ≤
        v.normalizedDebt.toNat * accumulator.toNat * ratioOne ∧
      v.normalizedDebt.toNat * accumulator.toNat * ratioOne <
        repay.toNat * (params.liquidationSurcharge.toNat * accumulatorOne) := by
  simp only [fullRepay, Outcome.bind_eq_ok, Wide.mul_eq_ok, Wide.checkedMul_eq_ok,
    narrow_eq_ok, Amount.add_eq_ok] at h
  obtain ⟨_, ⟨_, rfl⟩, _, ⟨_, rfl⟩, _, ⟨_, rfl⟩, _, quotient, whole, rfl, more⟩ := h
  rw [more]
  exact Wide.checkedDiv_bounds quotient

/-- The amount that buys all collateral is the least one that is more than its price. -/
theorem exhaustingRepay_bounds (h : exhaustingRepay s v price d = .ok repay) :
    (repay.toNat - 1) * (ratioOne * s.collateralUnit.toNat) ≤
        v.collateral.toNat * d * price.toNat ∧
      v.collateral.toNat * d * price.toNat <
        repay.toNat * (ratioOne * s.collateralUnit.toNat) := by
  simp only [exhaustingRepay, Outcome.bind_eq_ok, Wide.mul_eq_ok, Wide.checkedMul_eq_ok,
    narrow_eq_ok, Amount.add_eq_ok] at h
  obtain ⟨_, ⟨_, rfl⟩, _, ⟨_, rfl⟩, _, ⟨_, rfl⟩, _, quotient, whole, rfl, more⟩ := h
  rw [more]
  exact Wide.checkedDiv_bounds quotient

end Formulas

/-! ## Offers -/

/-- What the terms of a vault are computed from: its debt, the value of its collateral, and how
unhealthy that makes it. -/
structure Appraised (e : Engine) (v : Vault) (price accumulator value health : Amount)
    (terms : Opportunity) : Prop where
  owes : debtOf v.normalizedDebt accumulator = .ok terms.currentDebt
  valued : collateralValue v.collateral price e.state.collateralUnit = .ok value
  rated : healthFactor value e.state.params.collateralFactor terms.currentDebt = .ok health
  unhealthy : health.toNat < ratioOne
  share : Share e.state.params terms.discount.toNat

/-- How a threshold is chosen: it is worth what is above a limit, or one if nothing is. -/
structure Gap (limit whole : Amount) (a b : Nat) (threshold : Amount) : Prop where
  above : limit < whole → mulDiv (whole.toNat - limit.toNat) a b = .ok threshold
  below : ¬ limit < whole → threshold.toNat = 1

/-- Both regimes that limit a liquidation choose their threshold in the same way. -/
theorem gap_of_eq_ok {limit whole all one repay threshold : Amount} {a b : Nat}
    (single : one.toNat = 1)
    (h : (if limit < whole then do
        let t ← mulDiv (whole.toNat - limit.toNat) a b
        pure (all, t)
      else do
        let t ← pure one
        pure (all, t)) = (.ok (repay, threshold) : Outcome (Amount × Amount))) :
    all = repay ∧ Gap limit whole a b threshold := by
  by_cases above : limit < whole
  · rw [if_pos above] at h
    simp only [Outcome.bind_eq_ok, Outcome.pure_eq_ok, Prod.mk.injEq] at h
    obtain ⟨_, known, rfl, rfl⟩ := h
    exact ⟨rfl, fun _ => known, fun none' => absurd above none'⟩
  · rw [if_neg above] at h
    cases h
    exact ⟨rfl, fun some' => absurd some' above, fun _ => single⟩

/-- What a regime offers: when it applies, its largest amount, and its threshold. -/
inductive Offer (s : EngineState) (v : Vault) (price accumulator value health : Amount)
    (terms : Opportunity) : Regime → Prop
  | restoring
      (reached : s.params.collateralFactor.toNat * ratioOne * ratioOne ≤
        health.toNat * terms.discount.toNat * s.params.liquidationSurcharge.toNat)
      (most : targetRepay s.params value terms.currentDebt terms.discount.toNat =
        .ok terms.maxRepay)
      (rest : terms.maxRepay.toNat * s.params.liquidationSurcharge.toNat +
        s.params.dustLiquidation.toNat * ratioOne < terms.currentDebt.toNat * ratioOne)
      (free : terms.threshold = .zero) :
      Offer s v price accumulator value health terms .restoring
  | completing
      (reached : s.params.collateralFactor.toNat * ratioOne * ratioOne ≤
        health.toNat * terms.discount.toNat * s.params.liquidationSurcharge.toNat)
      (most : fullRepay s.params v accumulator = .ok terms.maxRepay)
      (gap : Gap s.params.dustLiquidation terms.currentDebt ratioOne
        s.params.liquidationSurcharge.toNat terms.threshold) :
      Offer s v price accumulator value health terms .completing
  | exhausting
      (short : health.toNat * terms.discount.toNat * s.params.liquidationSurcharge.toNat <
        s.params.collateralFactor.toNat * ratioOne * ratioOne)
      (most : exhaustingRepay s v price terms.discount.toNat = .ok terms.maxRepay)
      (gap : Gap s.params.dustCollateral value terms.discount.toNat ratioOne terms.threshold) :
      Offer s v price accumulator value health terms .exhausting

/-- The terms of a vault are an offer of its regime. -/
theorem opportunity_offer {e : Engine} {id : VaultId} {v : Vault} {liquidator : Address}
    {price accumulator : Amount} {terms : Opportunity} (consistent : e.state.params.Consistent)
    (h : e.opportunity id v liquidator price accumulator = .ok terms) :
    ∃ value health regime, e.Appraised v price accumulator value health terms ∧
      e.regime v liquidator price accumulator = .ok regime ∧
      Offer e.state v price accumulator value health terms regime := by
  simp only [opportunity, Outcome.bind_eq_ok, Outcome.require_eq_ok, Outcome.pure_eq_ok] at h
  obtain ⟨debt, hdebt, value, hvalue, health, hhealth, _, insolvent, boost, hboost, d, hd,
    ⟨repay, threshold⟩, bounded, collateral, hcollateral, rfl⟩ := h
  have share := oneMinusDiscount_bounds consistent hd
  obtain ⟨discount, rfl⟩ : ∃ discount : UInt64, discount.toNat = d :=
    ⟨.ofNat d, UInt64.toNat_ofNat_of_lt' (Nat.lt_trans share.lt (by decide))⟩
  rw [UInt64.ofNat_toNat]
  have appraised : e.Appraised v price accumulator value health
      ⟨repay, collateral, threshold, discount, debt⟩ :=
    ⟨hdebt, hvalue, hhealth, lt_of_not_isSolvent insolvent, share⟩
  refine ⟨value, health, ?_⟩
  -- the regime asks the questions that the bounds ask, so each answer decides both
  simp only [repayBounds, regime, Outcome.bind_eq_ok, hdebt, hvalue, hhealth, hboost, hd,
    Except.ok.injEq, exists_eq_left'] at bounded ⊢
  obtain ⟨reached, hreached, bounded⟩ := bounded
  have reaches := reachesTarget_eq_ok hreached
  simp only [hreached, Except.ok.injEq, exists_eq_left']
  cases reached with
  | false =>
    have short := Nat.lt_of_not_le (of_decide_eq_false reaches.symm)
    rw [if_neg Bool.false_ne_true] at bounded
    obtain ⟨all, hall, bounded⟩ := Outcome.bind_eq_ok.mp bounded
    obtain ⟨rfl, gap⟩ := gap_of_eq_ok rfl bounded
    exact ⟨.exhausting, appraised, rfl, .exhausting short hall gap⟩
  | true =>
    have enough := of_decide_eq_true reaches.symm
    rw [if_pos rfl] at bounded ⊢
    simp only [Outcome.bind_eq_ok] at bounded ⊢
    obtain ⟨target, htarget, dusty, hdusty, bounded⟩ := bounded
    have leaves := leavesDust_eq_ok hdusty
    simp only [htarget, hdusty, Except.ok.injEq, exists_eq_left']
    cases dusty with
    | false =>
      have rest := Nat.lt_of_not_le (of_decide_eq_false leaves.symm)
      cases bounded
      exact ⟨.restoring, appraised, rfl, .restoring enough htarget rest rfl⟩
    | true =>
      rw [if_pos rfl] at bounded
      obtain ⟨all, hall, bounded⟩ := Outcome.bind_eq_ok.mp bounded
      obtain ⟨rfl, gap⟩ := gap_of_eq_ok rfl bounded
      exact ⟨.completing, appraised, rfl, .completing enough hall gap⟩

end Engine

end CollateralDebt
