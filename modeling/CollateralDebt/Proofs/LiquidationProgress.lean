import CollateralDebt.Proofs.LeftoverDebt
import CollateralDebt.Proofs.LiquidationQuote

/-!
# Unhealthy vaults can be liquidated

An unhealthy vault has terms, unless some number in them is too large: the check of its health is the
only one that terms make, and the arithmetic behind it neither falls below zero nor divides by zero.
Its terms accept the largest amount, unless that is zero.

What completes a liquidation or exhausts a vault is a quotient and one more, and so never zero. What
restores a vault is a quotient alone. It is zero if less is missing from the target than what a
repayment of one brings, and then no amount is accepted. This needs a target next to one, because an
unhealthy vault misses a target above one by its share of the debt; and it needs a debt that is small
against that share.

## What is proved

- `Outcome.Numeric`: computations that fail for reasons of arithmetic only;
- `Offer.maxRepay_eq_zero_iff`: when the largest amount is zero;
- `unhealthy_liquidated`: unhealthy vaults have terms, and which of them can be liquidated.
-/

namespace CollateralDebt

open Engine

/-! ## Failures of the arithmetic -/

/-- A failure of an operation on numbers. -/
@[simp] def Failure.Numeric : Failure → Prop
  | .rejected e => e = .overflow ∨ e = .underflow ∨ e = .divisionByZero
  | .fault => True
  | .absent => False

/-- An overflow is the only failure of the arithmetic that is tame. -/
theorem Failure.Numeric.overflow {f : Failure} (numeric : f.Numeric) (tame : f.Tame False) :
    f = .rejected .overflow := by
  cases f with
  | rejected e =>
    obtain ⟨above, nonzero⟩ := tame
    rcases numeric with rfl | rfl | rfl
    · rfl
    · exact absurd rfl above
    · exact absurd rfl nonzero
  | fault => exact tame.elim
  | absent => exact numeric.elim

/-- Every failure of the computation is one of the arithmetic. -/
abbrev Outcome.Numeric {α : Type} (x : Outcome α) : Prop := x.FailsOnly Failure.Numeric

namespace Engine

open Outcome (Numeric)

/-! ## Terms -/

section Terms

variable {e : Engine} {id : VaultId} {v : Vault} {liquidator : Address}
  {price accumulator debt value health : Amount} {d : Nat}

/-- Whatever the regime, its bounds fail only for numbers. -/
theorem numeric_repayBounds :
    Numeric (repayBounds e.state v price accumulator debt value health d) := by
  simp [repayBounds, reachesTarget, targetRepay, leavesDust, fullRepay, exhaustingRepay]

/-- The terms of an unhealthy vault fail for reasons of arithmetic only. -/
theorem numeric_opportunity (fit : e.Fit)
    (rated : healthAt e.state v price accumulator = .ok health) (unhealthy : health.toNat < ratioOne) :
    Numeric (e.opportunity id v liquidator price accumulator) := by
  simp only [healthAt, Outcome.bind_eq_ok] at rated
  obtain ⟨debt, owes, value, valued, rated⟩ := rated
  have boosted : Numeric (e.liquidationBoost liquidator) := by
    unfold liquidationBoost
    split
    · obtain ⟨y, known⟩ := BoostCurve.boostAt_of_accepted fit.curve _
      rw [known]
      exact Outcome.failsOnly_ok y
    · exact Outcome.failsOnly_ok _
  have insolvent : ¬ isSolvent health = true := fun solvent =>
    absurd unhealthy (Nat.not_lt.mpr (of_decide_eq_true solvent))
  simp [opportunity, owes, valued, rated, insolvent, boosted, oneMinusDiscount, numeric_repayBounds,
    collateralFor, Outcome.require]

/-- The terms of an unhealthy vault only fail if a number in them is too large. -/
theorem opportunity_eq_error (fit : e.Fit) (priced : 0 < price.toNat)
    (rated : healthAt e.state v price accumulator = .ok health) (unhealthy : health.toNat < ratioOne)
    {f : Failure} (h : e.opportunity id v liquidator price accumulator = .error f) :
    f = .rejected .overflow :=
  (numeric_opportunity fit rated unhealthy f h).overflow (tame_opportunity fit priced f h)

end Terms

/-! ## The largest amount -/

section Progress

variable {e : Engine} {id : VaultId} {v : Vault} {liquidator : Address}
  {price accumulator value health : Amount} {terms : Opportunity} {regime : Regime}

/-- A repayment of one gains no more than the target. -/
theorem gain_one_le {params : Parameters} {discount : UInt64} (consistent : params.Consistent) :
    params.gain discount 1 ≤ billionths params.targetHealthFactor := by
  have given : 0 ≤ billionths params.collateralFactor * (1 / billionths discount) :=
    mul_nonneg (billionths_nonneg _) (one_div_nonneg.mpr (billionths_nonneg _))
  have kept := mul_le_mul_of_nonneg_left consistent.billionths_surcharge_le
    (billionths_nonneg params.targetHealthFactor)
  unfold Parameters.gain
  linarith

/-- An unhealthy vault is farther from its target than the part of the debt by which the target is
above one. -/
theorem Appraised.missing_gt (h : e.Appraised v price accumulator value health terms) :
    (billionths e.state.params.targetHealthFactor - 1) * terms.currentDebt.toNat <
      e.state.params.missing value terms.currentDebt := by
  obtain ⟨-, -, upper⟩ := h.health_bounds
  have below : value.toNat * e.state.params.collateralFactor.toNat <
      ratioOne * terms.currentDebt.toNat :=
    Nat.lt_of_lt_of_le upper (Nat.mul_le_mul_right _ h.unhealthy)
  have borrowable : billionths e.state.params.collateralFactor * value.toNat <
      terms.currentDebt.toNat := by
    rw [billionths, div_mul_eq_mul_div, div_lt_iff₀ cast_ratioOne_pos, mul_comm,
      mul_comm (terms.currentDebt.toNat : ℚ)]
    exact_mod_cast below
  unfold Parameters.missing
  linarith

/-- The largest amount is zero if it is to restore the vault, and less is missing from the target
than what a repayment of one gains; and only then. -/
theorem Offer.maxRepay_eq_zero_iff
    (offer : Offer e.state v price accumulator value health terms regime) :
    terms.maxRepay = .zero ↔ regime = .restoring ∧
      e.state.params.missing value terms.currentDebt < e.state.params.gain terms.discount 1 := by
  cases offer with
  | restoring _ most =>
    obtain ⟨positive, lower, upper⟩ := restoring_bounds most
    rw [Amount.ext_iff, Amount.toNat_zero]
    constructor
    · intro none'
      rw [none', Nat.cast_zero, zero_add] at upper
      exact ⟨rfl, upper⟩
    · rintro ⟨-, little⟩
      have gains : e.state.params.gain terms.discount terms.maxRepay.toNat <
          e.state.params.gain terms.discount 1 := lower.trans_lt little
      have less : (terms.maxRepay.toNat : ℚ) < 1 :=
        lt_of_not_ge fun some' => absurd ((gain_le_gain positive).mpr some') gains.not_ge
      exact Nat.lt_one_iff.mp (by exact_mod_cast less)
  | completing _ most =>
    have some' := Nat.pos_of_mul_pos_right (Nat.zero_lt_of_lt (fullRepay_bounds most).2)
    exact ⟨fun none' => absurd none' (Amount.ne_zero_iff.mpr some'), nofun⟩
  | exhausting _ most =>
    have some' := Nat.pos_of_mul_pos_right (Nat.zero_lt_of_lt (exhaustingRepay_bounds most).2)
    exact ⟨fun none' => absurd none' (Amount.ne_zero_iff.mpr some'), nofun⟩

/-- A target that is above one by enough of the debt, or of the least debt that is not dust, leaves
more to repay than nothing. -/
theorem Offer.maxRepay_ne_zero
    (offer : Offer e.state v price accumulator value health terms regime)
    (consistent : e.state.params.Consistent)
    (appraised : e.Appraised v price accumulator value health terms)
    (clear : e.state.params.targetHealthFactor.toNat ≤
      (e.state.params.targetHealthFactor.toNat - ratioOne) *
        max terms.currentDebt.toNat (e.state.params.dustLiquidation.toNat + 1)) :
    terms.maxRepay ≠ .zero := by
  intro none'
  obtain ⟨rfl, little⟩ := offer.maxRepay_eq_zero_iff.mp none'
  have more : e.state.params.dustLiquidation.toNat + 1 ≤ terms.currentDebt.toNat := by
    cases offer with
    | restoring _ _ rest =>
      exact Nat.lt_of_mul_lt_mul_right ((Nat.le_add_left _ _).trans_lt rest)
  rw [Nat.max_eq_left more] at clear
  have apart : billionths e.state.params.targetHealthFactor ≤
      (billionths e.state.params.targetHealthFactor - 1) * terms.currentDebt.toNat := by
    have K := cast_ratioOne_pos
    have scaled : ((e.state.params.targetHealthFactor.toNat : ℚ) - ratioOne) *
        terms.currentDebt.toNat / ratioOne =
        (billionths e.state.params.targetHealthFactor - 1) * terms.currentDebt.toNat := by
      rw [billionths]
      field_simp
    rw [← scaled, billionths, div_le_div_iff_of_pos_right K, ← Nat.cast_sub consistent.target_ge]
    exact_mod_cast clear
  have missing := appraised.missing_gt
  have gain : e.state.params.gain terms.discount 1 ≤ _ := gain_one_le consistent
  linarith

end Progress

end Engine

namespace World

variable {w : World} {place : Nat} {ctx : Context} {price accumulator health : Amount}
  {e : Engine} {id : VaultId} {v : Vault}

/-- **Unhealthy vaults.** Take an engine of a reachable world in the midst of a liquidation, and a
vault of it with a health factor below one. It has terms, unless a number in them is too large. If
their largest amount is not zero, the vault can be liquidated with it; if it is, the vault cannot be
liquidated with any amount. It is zero exactly if the vault is to be restored and misses less of its
target than what a repayment of one gains. So it is not zero where the target is above one by enough
of the debt, or of the least debt that is not dust. -/
theorem unhealthy_liquidated (reachable : w.Reachable)
    (midway : w.Midway place ctx price accumulator e) (found : e.vault? id = some v)
    (priced : 0 < price.toNat) (rated : healthAt e.state v price accumulator = .ok health)
    (unhealthy : health.toNat < ratioOne) :
    (∀ f, e.opportunity id v ctx.caller price accumulator = .error f →
      f = .rejected .overflow) ∧
    ∀ terms, e.opportunity id v ctx.caller price accumulator = .ok terms →
      (terms.maxRepay ≠ .zero →
        ∃ outcome e', liquidateVault ctx id terms.maxRepay price accumulator e =
          .ok outcome e') ∧
      (terms.maxRepay = .zero → ∀ amount outcome e',
        liquidateVault ctx id amount price accumulator e ≠ .ok outcome e') ∧
      (∃ value regime, collateralValue v.collateral price e.state.collateralUnit = .ok value ∧
        e.regime v ctx.caller price accumulator = .ok regime ∧
        (terms.maxRepay = .zero ↔ regime = .restoring ∧
          e.state.params.missing value terms.currentDebt <
            e.state.params.gain terms.discount 1)) ∧
      (e.state.params.targetHealthFactor.toNat ≤
          (e.state.params.targetHealthFactor.toNat - ratioOne) *
            max terms.currentDebt.toNat (e.state.params.dustLiquidation.toNat + 1) →
        terms.maxRepay ≠ .zero) := by
  obtain ⟨exact', fit, same⟩ := midway.fit reachable
  refine ⟨fun f failed => opportunity_eq_error fit priced rated unhealthy failed,
    fun terms quoted => ?_⟩
  obtain ⟨value, health', regime, appraised, known, offer⟩ := opportunity_offer fit.params quoted
  refine ⟨fun some' => ?_, fun none' amount outcome e' done => ?_,
    ⟨value, regime, appraised.valued, known, offer.maxRepay_eq_zero_iff⟩,
    offer.maxRepay_ne_zero fit.params appraised⟩
  · have accepts : terms.Accepts terms.maxRepay :=
      Opportunity.accepts_iff.mpr ⟨some', Nat.le_refl _, fun past => Nat.lt_irrefl _ past.2.2⟩
    have grown : accumulatorOne ≤ accumulator.toNat := same ▸ fit.accumulator
    obtain ⟨r, judged⟩ := exists_verdict fit grown found quoted accepts
    exact ⟨r.outcome, e.enact id r, (liquidateVault_eq_ok_iff exact').mpr ⟨r, judged, rfl, rfl⟩⟩
  · obtain ⟨_, deal, -⟩ := deal_of_quoted found quoted done
    have most : amount.toNat ≤ terms.maxRepay.toNat := deal.most
    rw [none', Amount.toNat_zero] at most
    exact deal.nonzero (Amount.ext (Nat.le_zero.mp most))

set_option maxRecDepth 10000 in
/-- At a price of 1.1 the vault of the small market is unhealthy, and it can be liquidated with the
largest amount. -/
theorem unhealthy_liquidated_buyout :
    ∃ ctx accumulator e v health terms outcome e',
      (history smallMarket).Midway 0 ctx (tenths 11) accumulator e ∧ e.vault? 1 = some v ∧
      healthAt e.state v (tenths 11) accumulator = .ok health ∧ health.toNat < ratioOne ∧
      e.opportunity 1 v ctx.caller (tenths 11) accumulator = .ok terms ∧
      terms.maxRepay = buyout ∧
      liquidateVault ctx 1 buyout (tenths 11) accumulator e = .ok outcome e' := by
  have facts : ((midst smallMarket 0).any fun (ctx, accumulator, e) => (e.vault? 1).any fun v =>
      (healthAt e.state v (tenths 11) accumulator).toOption.any fun health =>
        (e.opportunity 1 v ctx.caller (tenths 11) accumulator).toOption.any fun terms =>
          decide (health.toNat < ratioOne ∧ terms.maxRepay = buyout)) = true := by
    decide +kernel
  simp only [Option.any_eq_true, Outcome.toOption_eq_some, decide_eq_true_eq] at facts
  obtain ⟨⟨ctx, accumulator, e⟩, reached, v, found, health, rated, terms, quoted, unhealthy, most⟩ :=
    facts
  have midway := midway_of_midst (tenths 11) reached
  obtain ⟨outcome, e', done⟩ := ((unhealthy_liquidated ⟨smallMarket, rfl⟩ midway found (by decide)
    rated unhealthy).2 terms quoted).1 (by rw [most]; decide)
  rw [most] at done
  exact ⟨ctx, accumulator, e, v, health, terms, outcome, e', midway, found, rated, unhealthy, quoted,
    most, done⟩

/-- The small market after its target was set to one, and the collateral factor to 0.7. -/
def lowTarget : List Call := smallMarket ++ [
  .engine 0 (account 5) 0 [] (.batch borrower
    [.addCollateral 1 ⟨5, by decide⟩, .borrow 1 ⟨2, by decide⟩]),
  .engine 0 (account 3) 0 [] (.setParameter "CF" 700000000),
  .engine 0 (account 3) 0 [] (.setParameter "THF" 1000000000)]

/-- A price at which the vault of the small market then just fails to be healthy. -/
def hairline : Amount := ⟨1428571428571428571, by decide⟩

set_option maxRecDepth 10000 in
/-- At that price the largest amount for the unhealthy vault is zero, and it is refused. -/
theorem stuck_hairline :
    ∃ ctx accumulator e v health terms,
      (history lowTarget).Midway 0 ctx hairline accumulator e ∧ e.vault? 1 = some v ∧
      healthAt e.state v hairline accumulator = .ok health ∧ health.toNat < ratioOne ∧
      e.opportunity 1 v ctx.caller hairline accumulator = .ok terms ∧ terms.maxRepay = .zero ∧
      ¬ ∃ outcome e', liquidateVault ctx 1 terms.maxRepay hairline accumulator e =
        .ok outcome e' := by
  have facts : ((midst lowTarget 0).any fun (ctx, accumulator, e) => (e.vault? 1).any fun v =>
      (healthAt e.state v hairline accumulator).toOption.any fun health =>
        (e.opportunity 1 v ctx.caller hairline accumulator).toOption.any fun terms =>
          decide (health.toNat < ratioOne ∧ terms.maxRepay = .zero)) = true := by
    decide +kernel
  simp only [Option.any_eq_true, Outcome.toOption_eq_some, decide_eq_true_eq] at facts
  obtain ⟨⟨ctx, accumulator, e⟩, reached, v, found, health, rated, terms, quoted, unhealthy, none'⟩ :=
    facts
  refine ⟨ctx, accumulator, e, v, health, terms, midway_of_midst hairline reached, found, rated,
    unhealthy, quoted, none', ?_⟩
  rintro ⟨outcome, e', done⟩
  obtain ⟨_, _, _, deal⟩ := liquidateVault_deal done
  exact deal.nonzero none'

end World

end CollateralDebt
