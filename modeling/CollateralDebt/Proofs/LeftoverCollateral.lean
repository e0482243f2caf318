import CollateralDebt.Proofs.LeftoverDebt
import CollateralDebt.Proofs.LiquidationQuote

/-!
# What a liquidation leaves of the collateral

An amount on the way to exhausting a vault buys collateral at a discounted price. Below the largest
amount it is to leave as much collateral as the dust of collateral is worth. The threshold says so:
it is the discounted price of all that is above this dust, and where a quotient in it is rounded, it
is rounded in favour of the vault, so that an amount up to it keeps the promise in full.

The threshold has two special values, and each takes something away from this. A threshold of zero
means that there is none. If what is above the dust has a discounted price of less than one, the
threshold is rounded to zero, and then every amount up to the largest one is accepted. A threshold of
one stands for the case in which nothing is above the dust, and only the largest amount is meant to
be accepted. An amount of one is not above it either.

## What is proved

- `rest_above_collateral_dust`: what an amount below the largest one leaves, and which amounts are
  accepted.
-/

namespace CollateralDebt

open Engine

/-- What less collateral is worth is an amount, if that of more is. -/
theorem exists_mulDiv_of_ge {a a' b d : Nat} {c : Amount} (less : a' ≤ a)
    (h : mulDiv a b d = .ok c) : ∃ c', mulDiv a' b d = .ok c' := by
  obtain ⟨nonzero, whole⟩ := mulDiv_eq_ok.mp h
  have part : a' * b / d ≤ c.toNat := whole ▸ Nat.div_le_div_right (Nat.mul_le_mul_right b less)
  exact ⟨⟨_, Nat.lt_of_le_of_lt part c.isLt⟩, mulDiv_eq_ok.mpr ⟨nonzero, rfl⟩⟩

namespace Engine

variable {e e' : Engine} {id : VaultId} {v w : Vault} {liquidator : Address} {ctx : Context}
  {amount price accumulator value health rest : Amount} {terms : Opportunity}
  {outcome : VaultLiquidation}

/-- A liquidation gives no more collateral than what the amount pays for at the discounted price. -/
theorem Deal.worth_ge
    (deal : Deal e liquidator id amount price accumulator v w terms outcome e')
    (appraised : e.Appraised v price accumulator value health terms) :
    v.worth price e.state.collateralUnit - amount.toNat / billionths terms.discount ≤
      w.worth price e.state.collateralUnit := by
  rcases deal.emptied_or_parted appraised with ⟨rfl, all⟩ | parted
  · rw [Vault.worth_empty]
    linarith
  · exact parted.worth_ge

/-- What is left of the collateral has a value. -/
theorem Deal.valued
    (deal : Deal e liquidator id amount price accumulator v w terms outcome e')
    (appraised : e.Appraised v price accumulator value health terms) :
    ∃ rest, collateralValue w.collateral price e.state.collateralUnit = .ok rest := by
  refine exists_mulDiv_of_ge ?_ appraised.valued
  obtain ⟨_, _, _, _, exchanged⟩ := deal.exchanged
  cases exchanged with
  | exhausted => exact Nat.zero_le _
  | reduced _ _ collateral => omega

/-- Collateral that is worth an amount has at least that value. -/
theorem le_collateralValue {unit limit : Amount} (h : (limit.toNat : ℚ) ≤ w.worth price unit)
    (valued : collateralValue w.collateral price unit = .ok rest) : limit ≤ rest := by
  have below : (limit.toNat : ℚ) < rest.toNat + 1 := lt_of_le_of_lt h (mulDiv_cast valued).2
  exact Nat.le_of_lt_succ (by exact_mod_cast below)

/-- If what is above the dust of collateral has a discounted price of at least one, then no amount
that is accepted below the largest one pays for more than that. -/
theorem Offer.exhausting_spares
    (offer : Offer e.state v price accumulator value health terms .exhausting)
    (discounted : 0 < billionths terms.discount)
    (whole : ratioOne ≤
      (value.toNat - e.state.params.dustCollateral.toNat) * terms.discount.toNat)
    (outside : ¬ (terms.threshold ≠ .zero ∧ terms.threshold < amount)) :
    amount.toNat / billionths terms.discount ≤
      value.toNat - e.state.params.dustCollateral.toNat := by
  cases offer with
  | exhausting _ _ gap =>
    have more : e.state.params.dustCollateral < value :=
      Nat.lt_of_sub_pos (Nat.pos_of_mul_pos_right (Nat.lt_of_lt_of_le ratioOne_pos whole))
    have above := gap.above more
    -- a price of at least one is not rounded to none
    have some' : terms.threshold ≠ .zero := by
      rintro none'
      have upper := (mulDiv_bounds above).2
      rw [none', Amount.toNat_zero] at upper
      omega
    have below : (amount.toNat : ℚ) ≤ terms.threshold.toNat := by
      exact_mod_cast Nat.le_of_not_lt fun past => outside ⟨some', past⟩
    have paid := below.trans (mulDiv_cast above).1
    rw [Nat.cast_sub (Nat.le_of_lt more), mul_div_assoc] at paid
    rwa [div_le_iff₀ discounted]

/-- Where all of the collateral is dust, what is accepted is the largest amount, and one. -/
theorem Offer.accepts_dust
    (offer : Offer e.state v price accumulator value health terms .exhausting)
    (dust : value ≤ e.state.params.dustCollateral) :
    terms.Accepts amount ↔ amount = terms.maxRepay ∨ amount.toNat = 1 := by
  cases offer with
  | exhausting _ most gap =>
    have single : terms.threshold.toNat = 1 := gap.below (Nat.not_lt_of_le dust)
    have some' : 0 < terms.maxRepay.toNat :=
      Nat.pos_of_mul_pos_right (Nat.zero_lt_of_lt (exhaustingRepay_bounds most).2)
    simp only [Opportunity.Accepts, Amount.lt_iff, Amount.le_iff, Amount.ext_iff,
      Amount.toNat_zero, single]
    omega

/-- Where the threshold is rounded to zero, every amount up to the largest one is accepted. -/
theorem Offer.accepts_unguarded
    (offer : Offer e.state v price accumulator value health terms .exhausting)
    (more : e.state.params.dustCollateral < value)
    (little : (value.toNat - e.state.params.dustCollateral.toNat) * terms.discount.toNat <
      ratioOne) :
    terms.Accepts amount ↔ .zero < amount ∧ amount ≤ terms.maxRepay := by
  cases offer with
  | exhausting _ _ gap =>
    have nothing : terms.threshold.toNat = 0 := by
      rw [(mulDiv_eq_ok.mp (gap.above more)).2]
      exact Nat.div_eq_of_lt little
    simp only [Opportunity.Accepts, Amount.lt_iff, Amount.le_iff, Amount.toNat_zero, nothing]
    omega

/-- **Collateral dust in partial liquidations.** Take an engine with parameters that go together, and
the terms of a vault that is to be exhausted, for any liquidator and at any price and accumulator. If
what is above the dust of collateral has a discounted price of at least one, every liquidation with
an amount below the largest one leaves collateral of at least the value of the dust. If it has a
lower price, no amount up to the largest one is refused. If all of the collateral is dust, only the
largest amount and one are accepted, and one pays for no more than its share. -/
theorem rest_above_collateral_dust (accepted : e.state.params.validate = .ok ())
    (found : e.vault? id = some v)
    (quoted : e.opportunity id v ctx.caller price accumulator = .ok terms)
    (aim : e.regime v ctx.caller price accumulator = .ok .exhausting) :
    ∃ value, collateralValue v.collateral price e.state.collateralUnit = .ok value ∧
      (∀ amount outcome e', amount < terms.maxRepay →
        liquidateVault ctx id amount price accumulator e = .ok outcome e' →
        ∃ left rest, e'.vault? id = some left ∧
          collateralValue left.collateral price e.state.collateralUnit = .ok rest ∧
          (ratioOne ≤
              (value.toNat - e.state.params.dustCollateral.toNat) * terms.discount.toNat →
            e.state.params.dustCollateral ≤ rest) ∧
          (value ≤ e.state.params.dustCollateral → amount.toNat = 1 ∧
            v.worth price e.state.collateralUnit - 1 / billionths terms.discount ≤
              left.worth price e.state.collateralUnit)) ∧
      (e.state.params.dustCollateral < value →
        (value.toNat - e.state.params.dustCollateral.toNat) * terms.discount.toNat < ratioOne →
        ∀ amount, terms.Accepts amount ↔ .zero < amount ∧ amount ≤ terms.maxRepay) ∧
      (value ≤ e.state.params.dustCollateral →
        ∀ amount, terms.Accepts amount ↔ amount = terms.maxRepay ∨ amount.toNat = 1) := by
  obtain ⟨value, health, regime, appraised, known, offer⟩ :=
    opportunity_offer (Parameters.validate_eq_ok.mp accepted) quoted
  cases aim.symm.trans known
  refine ⟨value, appraised.valued, fun amount outcome e' partly done => ?_,
    fun more little _ => offer.accepts_unguarded more little, fun dust _ => offer.accepts_dust dust⟩
  obtain ⟨left, deal, kept⟩ := deal_of_quoted found quoted done
  obtain ⟨rest, valued⟩ := deal.valued appraised
  have worth := deal.worth_ge appraised
  refine ⟨left, rest, kept, valued, fun whole => ?_, fun dust => ?_⟩
  · have outside : ¬ (terms.threshold ≠ .zero ∧ terms.threshold < amount) := fun past =>
      deal.outside ⟨past.1, past.2, partly⟩
    have spared := offer.exhausting_spares appraised.discount_pos whole outside
    have lower := appraised.value_bounds.1
    exact le_collateralValue (by linarith) valued
  · have accepts : terms.Accepts amount :=
      Opportunity.accepts_iff.mpr ⟨deal.nonzero, deal.most, deal.outside⟩
    have one : amount.toNat = 1 := by
      refine ((offer.accepts_dust dust).mp accepts).resolve_left ?_
      rintro rfl
      exact Nat.lt_irrefl _ partly
    rw [one, Nat.cast_one] at worth
    exact ⟨one, worth⟩

end Engine

namespace World

set_option maxRecDepth 10000 in
/-- At a price of 1.1, five of the stablecoins are accepted for the vault of the small market, and
they leave collateral above its dust. -/
theorem rest_above_collateral_dust_five :
    ∃ ctx accumulator e v terms outcome e' left rest,
      (history smallMarket).Midway 0 ctx (tenths 11) accumulator e ∧ e.vault? 1 = some v ∧
      e.opportunity 1 v ctx.caller (tenths 11) accumulator = .ok terms ∧
      e.regime v ctx.caller (tenths 11) accumulator = .ok .exhausting ∧
      tenths 50 < terms.maxRepay ∧
      liquidateVault ctx 1 (tenths 50) (tenths 11) accumulator e = .ok outcome e' ∧
      e'.vault? 1 = some left ∧ left.collateral < v.collateral ∧
      collateralValue left.collateral (tenths 11) e.state.collateralUnit = .ok rest ∧
      e.state.params.dustCollateral ≤ rest := by
  have facts : ((midst smallMarket 0).any fun (ctx, accumulator, e) => (e.vault? 1).any fun v =>
      (e.opportunity 1 v ctx.caller (tenths 11) accumulator).toOption.any fun terms =>
        (leftAfter ctx accumulator e (tenths 11) (tenths 50)).any fun (_, _, left) =>
          (collateralValue v.collateral (tenths 11) e.state.collateralUnit).toOption.any fun value =>
            decide (e.state.params.validate.toOption = some () ∧ tenths 50 < terms.maxRepay ∧
              left.collateral < v.collateral ∧
              ratioOne ≤ (value.toNat - e.state.params.dustCollateral.toNat) *
                terms.discount.toNat ∧
              (e.regime v ctx.caller (tenths 11) accumulator).toOption = some .exhausting)) =
      true := by
    decide +kernel
  simp only [Option.any_eq_true, Outcome.toOption_eq_some, decide_eq_true_eq] at facts
  obtain ⟨⟨ctx, accumulator, e⟩, reached, v, found, terms, quoted, ⟨outcome, e', left⟩, ended, value,
    valued, accepted, partly, less, whole, aim⟩ := facts
  obtain ⟨done, kept⟩ := leftAfter_eq_some ended
  obtain ⟨value', valued', rests, -⟩ := rest_above_collateral_dust accepted found quoted aim
  cases valued.symm.trans valued'
  obtain ⟨left', rest, kept', remains, above, -⟩ := rests _ _ _ partly done
  cases kept.symm.trans kept'
  exact ⟨ctx, accumulator, e, v, terms, outcome, e', left, rest, midway_of_midst _ reached, found,
    quoted, aim, partly, done, kept, less, remains, above whole⟩

/-- The small market, with another dust of collateral. -/
def withCollateralDust (dust : Amount) : List Call := smallMarket ++ [
  .engine 0 (account 3) 0 [] (.setDusts (tenths 10) (tenths 10) dust)]

/-- After some calls, at a price of one, a liquidation of the first vault is to exhaust it. An amount
below the largest one is accepted, and leaves less collateral than the dust. -/
def LeavesCollateralDust (calls : List Call) (amount : Amount) : Prop :=
  ∃ ctx accumulator e v terms outcome e' left rest,
    (history calls).Midway 0 ctx (tenths 10) accumulator e ∧ e.vault? 1 = some v ∧
    e.state.params.validate = .ok () ∧ accumulatorOne ≤ accumulator.toNat ∧
    e.opportunity 1 v ctx.caller (tenths 10) accumulator = .ok terms ∧
    e.regime v ctx.caller (tenths 10) accumulator = .ok .exhausting ∧ amount < terms.maxRepay ∧
    liquidateVault ctx 1 amount (tenths 10) accumulator e = .ok outcome e' ∧
    e'.vault? 1 = some left ∧
    collateralValue left.collateral (tenths 10) e.state.collateralUnit = .ok rest ∧
    rest < e.state.params.dustCollateral

/-- A dust of collateral that is one unit short of what the collateral of the vault is worth. -/
def shortDust : Amount := ⟨10 * tokenOne - 1, by decide⟩

set_option maxRecDepth 10000 in
/-- If the dust of collateral is one unit short of what the collateral is worth, half of the price
passes; and if it is twice what the collateral is worth, a single unit does. -/
theorem collateral_dust_left :
    LeavesCollateralDust (withCollateralDust shortDust) (tenths 50) ∧
      LeavesCollateralDust (withCollateralDust (tenths 200)) ⟨1, by decide⟩ := by
  have facts : ([(shortDust, tenths 50), (tenths 200, ⟨1, by decide⟩)].all fun given =>
      (midst (withCollateralDust given.1) 0).any fun (ctx, accumulator, e) =>
        (e.vault? 1).any fun v =>
          (e.opportunity 1 v ctx.caller (tenths 10) accumulator).toOption.any fun terms =>
            (leftAfter ctx accumulator e (tenths 10) given.2).any fun (_, _, left) =>
              (collateralValue left.collateral (tenths 10)
                  e.state.collateralUnit).toOption.any fun rest =>
                decide (e.state.params.validate.toOption = some () ∧
                  accumulatorOne ≤ accumulator.toNat ∧ given.2 < terms.maxRepay ∧
                  rest < e.state.params.dustCollateral ∧
                  (e.regime v ctx.caller (tenths 10) accumulator).toOption =
                    some .exhausting)) = true := by
    decide +kernel
  have leaves (given : Amount × Amount)
      (mem : given ∈ [(shortDust, tenths 50), (tenths 200, ⟨1, by decide⟩)]) :
      LeavesCollateralDust (withCollateralDust given.1) given.2 := by
    have passed := List.all_eq_true.mp facts given mem
    simp only [Option.any_eq_true, Outcome.toOption_eq_some, decide_eq_true_eq] at passed
    obtain ⟨⟨ctx, accumulator, e⟩, reached, v, found, terms, quoted, ⟨outcome, e', left⟩, ended,
      rest, remains, accepted, grown, partly, less, aim⟩ := passed
    obtain ⟨done, kept⟩ := leftAfter_eq_some ended
    exact ⟨ctx, accumulator, e, v, terms, outcome, e', left, rest, midway_of_midst _ reached, found,
      accepted, grown, quoted, aim, partly, done, kept, remains, less⟩
  exact ⟨leaves (shortDust, tenths 50) (by simp), leaves (tenths 200, ⟨1, by decide⟩) (by simp)⟩

end World

end CollateralDebt
