import CollateralDebt.Proofs.Dust
import CollateralDebt.Proofs.Engine.Exchange
import CollateralDebt.Proofs.World.Midway

/-!
# What a liquidation leaves of a debt

The rules about dust are made for debt, and a liquidation takes debt away. Below the largest amount
it keeps to them in one way or another. An amount on the way to the target leaves more debt than the
dust of liquidations, or is refused. An amount on the way to exhausting a vault is held to the dust
of collateral instead: it leaves so much collateral that the debt on the other side is worth as much,
after the discount and the surcharge, up to the rounding of the health factor. Nothing compares this
debt with the dust of debt, and `dusty_pinch` is a vault that falls below it. Where what is to be
kept is dust already, an amount of one still gets by. It is rounded to nothing, unless there is no
surcharge and the accumulator has not grown.

The largest amount of a forced liquidation is meant to leave nothing. What exhausts a vault does, as
an exhausted vault is emptied. What completes a liquidation is rounded up, but then the surcharge is
rounded down, and so is the share of the accumulator; together they can miss the last unit of
normalized debt.

## What is proved

- `leftover_above_dust`: what an amount below the largest one leaves;
- `forced_leaves_at_most_one`: what the largest amount leaves if everything is to go.
-/

namespace CollateralDebt

open Engine

namespace Engine

variable {e e' : Engine} {id : VaultId} {v w : Vault} {liquidator : Address}
  {amount price accumulator value health : Amount} {terms : Opportunity}
  {outcome : VaultLiquidation}

/-! ## Below the largest amount -/

/-- The rule about dust, for the debt as a rational number. -/
theorem aboveDust_of_owed (h : (e.state.params.dust.toNat : ℚ) ≤ v.owed e.state.accumulator) :
    e.AboveDust v := by
  unfold Vault.owed at h
  rw [le_div_iff₀ cast_accumulatorOne_pos] at h
  exact .inr (by exact_mod_cast h)

/-- On the way to the target, what is left of the debt is more than the dust of liquidations. -/
theorem Offer.restoring_leaves
    (offer : Offer e.state v price accumulator value health terms .restoring)
    (appraised : e.Appraised v price accumulator value health terms)
    (below : amount ≤ terms.maxRepay) :
    (e.state.params.dustLiquidation.toNat : ℚ) <
      v.owed accumulator - amount.toNat * billionths e.state.params.liquidationSurcharge := by
  cases offer with
  | restoring _ _ rest =>
    have owed := appraised.debt_bounds.1
    have less : amount.toNat * e.state.params.liquidationSurcharge.toNat +
        e.state.params.dustLiquidation.toNat * ratioOne < terms.currentDebt.toNat * ratioOne :=
      Nat.lt_of_le_of_lt (Nat.add_le_add_right (Nat.mul_le_mul_right _ below) _) rest
    have repaid : amount.toNat * billionths e.state.params.liquidationSurcharge <
        terms.currentDebt.toNat - e.state.params.dustLiquidation.toNat := by
      rw [billionths, mul_div_assoc', div_lt_iff₀ cast_ratioOne_pos, sub_mul, lt_sub_iff_add_lt]
      exact_mod_cast less
    linarith

/-- An amount that is not in the gap of a forced completion leaves the dust of liquidations. -/
theorem Offer.completing_leaves
    (offer : Offer e.state v price accumulator value health terms .completing)
    (consistent : e.state.params.Consistent)
    (appraised : e.Appraised v price accumulator value health terms)
    (more : e.state.params.dustLiquidation < terms.currentDebt)
    (outside : ¬ (terms.threshold ≠ .zero ∧ terms.threshold < amount)) :
    (e.state.params.dustLiquidation.toNat : ℚ) ≤
      v.owed accumulator - amount.toNat * billionths e.state.params.liquidationSurcharge := by
  cases offer with
  | completing _ _ gap =>
    have owed := appraised.debt_bounds.1
    have above : e.state.params.dustLiquidation.toNat < terms.currentDebt.toNat := more
    obtain ⟨lower, upper⟩ := mulDiv_bounds (gap.above more)
    -- there is a gap, because the surcharge leaves no more than what is repaid
    have some' : terms.threshold ≠ .zero := by
      rintro none'
      rw [none', Amount.toNat_zero, Nat.zero_mul, Nat.zero_add] at upper
      have small := Nat.lt_of_lt_of_le upper consistent.surcharge_le
      have whole := Nat.le_mul_of_pos_left ratioOne (Nat.sub_pos_of_lt above)
      omega
    have below : amount.toNat ≤ terms.threshold.toNat :=
      Nat.le_of_not_lt fun past => outside ⟨some', past⟩
    have covered := (Nat.mul_le_mul_right e.state.params.liquidationSurcharge.toNat below).trans lower
    have repaid : amount.toNat * billionths e.state.params.liquidationSurcharge ≤
        terms.currentDebt.toNat - e.state.params.dustLiquidation.toNat := by
      rw [billionths, mul_div_assoc', div_le_iff₀ cast_ratioOne_pos, ← Nat.cast_sub above.le]
      exact_mod_cast covered
    linarith

/-- If the target is out of reach, all of the collateral repays less than the debt, up to the rounding
of the health factor. -/
theorem short_value (appraised : e.Appraised v price accumulator value health terms)
    (short : health.toNat * terms.discount.toNat * e.state.params.liquidationSurcharge.toNat <
      e.state.params.collateralFactor.toNat * ratioOne * ratioOne) :
    value.toNat * billionths terms.discount * billionths e.state.params.liquidationSurcharge ≤
      terms.currentDebt.toNat + terms.currentDebt.toNat / e.state.params.collateralFactor.toNat *
        billionths terms.discount * billionths e.state.params.liquidationSurcharge := by
  have K := cast_ratioOne_pos
  have factor : (0 : ℚ) < e.state.params.collateralFactor.toNat := by
    exact_mod_cast Nat.pos_of_mul_pos_right
      (Nat.pos_of_mul_pos_right (Nat.zero_lt_of_lt short))
  have weight : 0 ≤ billionths terms.discount * billionths e.state.params.liquidationSurcharge :=
    mul_nonneg (billionths_nonneg _) (billionths_nonneg _)
  have below : health.toNat *
      (billionths terms.discount * billionths e.state.params.liquidationSurcharge) ≤
        e.state.params.collateralFactor.toNat := by
    have quotient : health.toNat *
        (billionths terms.discount * billionths e.state.params.liquidationSurcharge) =
        health.toNat * terms.discount.toNat * e.state.params.liquidationSurcharge.toNat /
          (ratioOne * ratioOne) := by
      unfold billionths
      ring
    rw [quotient, div_le_iff₀ (mul_pos K K), ← mul_assoc]
    exact_mod_cast short.le
  have rated : (value.toNat * e.state.params.collateralFactor.toNat : ℚ) ≤
      (health.toNat + 1) * terms.currentDebt.toNat := by
    exact_mod_cast appraised.health_bounds.2.2.le
  have weighted := mul_le_mul_of_nonneg_right rated weight
  have debt := mul_le_mul_of_nonneg_right below (Nat.cast_nonneg terms.currentDebt.toNat)
  rw [← mul_le_mul_iff_left₀ factor]
  calc value.toNat * billionths terms.discount * billionths e.state.params.liquidationSurcharge *
          e.state.params.collateralFactor.toNat
      ≤ e.state.params.collateralFactor.toNat * terms.currentDebt.toNat + terms.currentDebt.toNat *
          (billionths terms.discount * billionths e.state.params.liquidationSurcharge) := by
        linarith
    _ = (terms.currentDebt.toNat + terms.currentDebt.toNat /
          e.state.params.collateralFactor.toNat * billionths terms.discount *
            billionths e.state.params.liquidationSurcharge) *
          e.state.params.collateralFactor.toNat := by field_simp

/-- An amount that is not in the gap of an exhausting liquidation leaves as much debt as the dust of
collateral is worth after discount and surcharge, up to the rounding of the health factor. -/
theorem Offer.exhausting_leaves
    (offer : Offer e.state v price accumulator value health terms .exhausting)
    (appraised : e.Appraised v price accumulator value health terms)
    (more : e.state.params.dustCollateral < value)
    (outside : ¬ (terms.threshold ≠ .zero ∧ terms.threshold < amount))
    (gap : terms.threshold ≠ .zero) :
    (e.state.params.dustCollateral.toNat -
        terms.currentDebt.toNat / e.state.params.collateralFactor.toNat) *
        billionths terms.discount * billionths e.state.params.liquidationSurcharge ≤
      v.owed accumulator - amount.toNat * billionths e.state.params.liquidationSurcharge := by
  cases offer with
  | exhausting short _ threshold =>
    have surcharge := billionths_nonneg e.state.params.liquidationSurcharge
    have owed := appraised.debt_bounds.1
    have most := short_value appraised short
    have below : (amount.toNat : ℚ) ≤ terms.threshold.toNat := by
      exact_mod_cast Nat.le_of_not_lt fun past => outside ⟨gap, past⟩
    have paid := (below.trans (mulDiv_cast (threshold.above more)).1)
    rw [Nat.cast_sub (Nat.le_of_lt more), mul_div_assoc] at paid
    have repaid : amount.toNat * billionths e.state.params.liquidationSurcharge ≤
        (value.toNat - e.state.params.dustCollateral.toNat) * billionths terms.discount *
          billionths e.state.params.liquidationSurcharge :=
      mul_le_mul_of_nonneg_right paid surcharge
    linarith

/-- Where nothing is above the limit, no amount between one and the largest one is accepted. -/
theorem Gap.amount_eq_one {limit whole threshold : Amount} {a b : Nat}
    (gap : Gap limit whole a b threshold) (less : ¬ limit < whole) (nonzero : amount ≠ .zero)
    (outside : ¬ (threshold ≠ .zero ∧ threshold < amount)) : amount.toNat = 1 := by
  have single := gap.below less
  have some' : threshold ≠ .zero := Amount.ne_zero_iff.mpr (by omega)
  have below : ¬ threshold.toNat < amount.toNat := fun past => outside ⟨some', past⟩
  have positive := Amount.ne_zero_iff.mp nonzero
  omega

/-- An amount of one takes a unit off the debt only where neither the surcharge nor the accumulator
takes anything away; else it is rounded to nothing. -/
theorem Deal.one_repays
    (deal : Deal e liquidator id amount price accumulator v w terms outcome e')
    (consistent : e.state.params.Consistent) (grown : accumulatorOne ≤ accumulator.toNat)
    (one : amount.toNat = 1) :
    w = .empty ∨ w.normalizedDebt = v.normalizedDebt ∨
      w.normalizedDebt.toNat + 1 = v.normalizedDebt.toNat ∧
        accumulator.toNat = accumulatorOne ∧
        e.state.params.liquidationSurcharge.toNat = ratioOne := by
  obtain ⟨_, debtRepaid, _, hrepaid, exchanged⟩ := deal.exchanged
  cases exchanged with
  | exhausted => exact .inl rfl
  | @reduced _ _ normalized _ _ _ normal debt =>
    refine .inr ?_
    have repaid := (mulDiv_bounds hrepaid).1
    have share := (mulDiv_bounds normal).1
    rw [one, Nat.one_mul] at repaid
    have surcharge := consistent.surcharge_le
    have few : debtRepaid.toNat ≤ 1 := by
      refine Nat.le_of_mul_le_mul_right ?_ ratioOne_pos
      rw [Nat.one_mul]
      exact repaid.trans surcharge
    rcases Nat.eq_zero_or_pos normalized.toNat with none' | some'
    · rw [none', Nat.zero_min, Nat.add_zero] at debt
      exact .inl (Amount.ext debt)
    · -- a unit is worth an accumulator, and what is repaid at most the least one
      have unit := (Nat.le_mul_of_pos_left accumulator.toNat some').trans share
      have positive := accumulatorOne_pos
      obtain nothing | single : debtRepaid.toNat = 0 ∨ debtRepaid.toNat = 1 := by omega
      · rw [nothing, Nat.zero_mul] at unit
        omega
      · rw [single, Nat.one_mul] at unit share repaid
        have least : accumulator.toNat = accumulatorOne := Nat.le_antisymm unit grown
        have alone : normalized.toNat ≤ 1 := by
          refine Nat.le_of_mul_le_mul_right ?_ (least ▸ positive)
          omega
        by_cases owes : v.normalizedDebt.toNat = 0
        · exact .inl (Amount.ext (by omega))
        · exact .inr ⟨by omega, least, Nat.le_antisymm surcharge repaid⟩

/-- An amount of one of which nothing is rounded away, for a debt of just the dust. -/
structure LastGrain (e : Engine) (v : Vault) (accumulator amount : Amount) : Prop where
  one : amount.toNat = 1
  least : accumulator.toNat = accumulatorOne
  free : e.state.params.liquidationSurcharge.toNat = ratioOne
  dust : v.normalizedDebt = e.state.params.dust

/-- An amount of one leaves a vault above dust, unless it is the last grain. -/
theorem Deal.one_leaves
    (deal : Deal e liquidator id amount price e.state.accumulator v w terms outcome e')
    (fit : e.Fit) (tidy : e.AboveDust v) (one : amount.toNat = 1)
    (usual : ¬ LastGrain e v e.state.accumulator amount) : e.AboveDust w := by
  rcases deal.one_repays fit.params fit.accumulator one with rfl | unchanged | ⟨unit, least, free⟩
  · exact .inl rfl
  · exact tidy.eased (.refl e) unchanged
  · rcases tidy with none' | enough
    · rw [none', Amount.toNat_zero] at unit
      omega
    · rw [least] at enough
      have whole := Nat.le_of_mul_le_mul_right enough accumulatorOne_pos
      have another : v.normalizedDebt.toNat ≠ e.state.params.dust.toNat := fun equal =>
        usual ⟨one, least, free, Amount.ext equal⟩
      refine .inr ?_
      rw [least]
      exact Nat.mul_le_mul_right _ (by omega)

/-- The debt that is left of a vault, by the regime of its terms, after an amount below the largest
one. -/
structure Leftover (e : Engine) (v w : Vault) (accumulator amount value : Amount)
    (terms : Opportunity) (regime : Regime) : Prop where
  /-- On the way to the target there is no dust, and neither where all of the collateral is dust. -/
  tidy : (regime = .exhausting → ¬ e.state.params.dustCollateral < value) →
    ¬ LastGrain e v accumulator amount → e.AboveDust w
  /-- On the way to exhausting the vault, the debt is as much as the dust of collateral is worth,
  wherever there is a threshold that keeps to this dust. -/
  exhausting : regime = .exhausting → e.state.params.dustCollateral < value →
    terms.threshold ≠ .zero → w = .empty ∨
      (e.state.params.dustCollateral.toNat -
          terms.currentDebt.toNat / e.state.params.collateralFactor.toNat) *
          billionths terms.discount * billionths e.state.params.liquidationSurcharge ≤
        w.owed accumulator

/-- What an amount below the largest one leaves, each regime with its own bound. -/
theorem Deal.leftover {regime : Regime}
    (deal : Deal e liquidator id amount price accumulator v w terms outcome e')
    (fit : e.Fit) (same : e.state.accumulator = accumulator) (tidy : e.AboveDust v)
    (appraised : e.Appraised v price accumulator value health terms)
    (offer : Offer e.state v price accumulator value health terms regime)
    (partly : amount < terms.maxRepay) :
    Leftover e v w accumulator amount value terms regime := by
  have outside : ¬ (terms.threshold ≠ .zero ∧ terms.threshold < amount) := fun past =>
    deal.outside ⟨past.1, past.2, partly⟩
  have dust_le : (e.state.params.dust.toNat : ℚ) ≤ e.state.params.dustLiquidation.toNat := by
    exact_mod_cast fit.params.dust_le
  subst same
  rcases deal.emptied_or_parted appraised with ⟨rfl, -⟩ | parted
  · exact ⟨fun _ _ => .inl rfl, fun _ _ _ => .inl rfl⟩
  have left := parted.owed_ge
  cases regime with
  | restoring =>
    have leaves := offer.restoring_leaves appraised deal.most
    exact ⟨fun _ _ => aboveDust_of_owed (by linarith), nofun⟩
  | completing =>
    refine ⟨fun _ usual => ?_, nofun⟩
    by_cases more : e.state.params.dustLiquidation < terms.currentDebt
    · have leaves := offer.completing_leaves fit.params appraised more outside
      exact aboveDust_of_owed (by linarith)
    · cases offer with
      | completing _ _ gap =>
        exact deal.one_leaves fit tidy (gap.amount_eq_one more deal.nonzero outside) usual
  | exhausting =>
    refine ⟨fun worthless usual => ?_, fun _ more gap => .inr ?_⟩
    · cases offer with
      | exhausting _ _ gap =>
        have one := gap.amount_eq_one (worthless rfl) deal.nonzero outside
        exact deal.one_leaves fit tidy one usual
    · exact (offer.exhausting_leaves appraised more outside gap).trans left

/-! ## The largest amount -/

/-- What exhausts a vault buys all of its collateral. -/
theorem Deal.exhausts
    (deal : Deal e liquidator id terms.maxRepay price accumulator v w terms outcome e')
    (offer : Offer e.state v price accumulator value health terms .exhausting) : w = .empty := by
  obtain ⟨bought, _, hbought, _, exchanged⟩ := deal.exchanged
  cases exchanged with
  | exhausted => rfl
  | reduced _ less =>
    cases offer with
    | exhausting _ most =>
      have dearer := (exhaustingRepay_bounds most).2
      have affordable := (Wide.checkedDiv_bounds hbought).2
      rw [Nat.mul_assoc] at dearer affordable
      have all := Nat.lt_of_mul_lt_mul_right (dearer.trans affordable)
      omega

/-- Whether the surcharge leaves enough of an amount to repay all debt, after it was rounded down. -/
def Repays (params : Parameters) (v : Vault) (accumulator amount : Amount) : Prop :=
  v.normalizedDebt.toNat * accumulator.toNat ≤
    amount.toNat * params.liquidationSurcharge.toNat / ratioOne * accumulatorOne

instance (params : Parameters) (v : Vault) (accumulator amount : Amount) :
    Decidable (Repays params v accumulator amount) := inferInstanceAs (Decidable (_ ≤ _))

/-- What completes a liquidation repays all debt if the accumulator has not grown, or if there is no
surcharge. -/
theorem repays_of_fullRepay {params : Parameters} {repay : Amount}
    (most : fullRepay params v accumulator = .ok repay)
    (plain : accumulator.toNat = accumulatorOne ∨
      params.liquidationSurcharge.toNat = ratioOne) : Repays params v accumulator repay := by
  have more := (fullRepay_bounds most).2
  unfold Repays
  rcases plain with least | free
  · rw [least, Nat.mul_right_comm, ← Nat.mul_assoc] at more
    rw [least]
    have covered := Nat.lt_of_mul_lt_mul_right more
    exact Nat.mul_le_mul_right _ ((Nat.le_div_iff_mul_le ratioOne_pos).mpr covered.le)
  · rw [free, Nat.mul_left_comm, Nat.mul_comm ratioOne] at more
    rw [free, Nat.mul_div_cancel _ ratioOne_pos]
    exact (Nat.lt_of_mul_lt_mul_right more).le

/-- The debt is less than two accumulators above what is taken off it: the surcharge misses at most
one, and the accumulator less than one unit. -/
theorem Offer.missed {debtRepaid normalized : Amount}
    (offer : Offer e.state v price accumulator value health terms .completing)
    (grown : accumulatorOne ≤ accumulator.toNat)
    (repaid : mulDiv terms.maxRepay.toNat e.state.params.liquidationSurcharge.toNat ratioOne =
      .ok debtRepaid)
    (normal : normalize debtRepaid accumulator = .ok normalized) :
    v.normalizedDebt.toNat * accumulator.toNat < (normalized.toNat + 2) * accumulator.toNat := by
  have surcharged := (mulDiv_bounds repaid).2
  have shared := (mulDiv_bounds normal).2
  have above : v.normalizedDebt.toNat * accumulator.toNat <
      (debtRepaid.toNat + 1) * accumulatorOne := by
    cases offer with
    | completing _ most =>
      refine Nat.lt_of_mul_lt_mul_right (a := ratioOne) ?_
      calc v.normalizedDebt.toNat * accumulator.toNat * ratioOne
          < terms.maxRepay.toNat *
              (e.state.params.liquidationSurcharge.toNat * accumulatorOne) :=
            (fullRepay_bounds most).2
        _ = terms.maxRepay.toNat * e.state.params.liquidationSurcharge.toNat * accumulatorOne :=
            (Nat.mul_assoc _ _ _).symm
        _ ≤ (debtRepaid.toNat * ratioOne + ratioOne) * accumulatorOne :=
            Nat.mul_le_mul_right _ surcharged.le
        _ = (debtRepaid.toNat + 1) * accumulatorOne * ratioOne := by ring
  rw [Nat.add_mul, Nat.one_mul] at above
  rw [Nat.add_mul, Nat.two_mul]
  omega

/-- What completes a liquidation leaves at most a unit of normalized debt, and none exactly if it
repays all debt or exhausts the vault. -/
theorem Deal.completes
    (deal : Deal e liquidator id terms.maxRepay price accumulator v w terms outcome e')
    (offer : Offer e.state v price accumulator value health terms .completing)
    (grown : accumulatorOne ≤ accumulator.toNat) :
    w.normalizedDebt.toNat ≤ 1 ∧ (w.normalizedDebt = .zero ↔
      w = .empty ∨ Repays e.state.params v accumulator terms.maxRepay) := by
  obtain ⟨_, debtRepaid, _, hrepaid, exchanged⟩ := deal.exchanged
  cases exchanged with
  | exhausted => exact ⟨Nat.zero_le _, fun _ => .inl rfl, fun _ => rfl⟩
  | @reduced _ _ normalized exact less collateral normal debt =>
    have all : w.normalizedDebt = .zero ↔ v.normalizedDebt.toNat ≤ normalized.toNat := by
      rw [Amount.ext_iff, Amount.toNat_zero]
      omega
    have repays : v.normalizedDebt.toNat ≤ normalized.toNat ↔
        Repays e.state.params v accumulator terms.maxRepay := by
      rw [(mulDiv_eq_ok.mp normal).2, Nat.le_div_iff_mul_le (accumulatorOne_pos.trans_le grown),
        (mulDiv_eq_ok.mp hrepaid).2]
      rfl
    have few : v.normalizedDebt.toNat < normalized.toNat + 2 :=
      Nat.lt_of_mul_lt_mul_right (offer.missed grown hrepaid normal)
    refine ⟨by omega, fun none' => .inr (repays.mp (all.mp none')), ?_⟩
    rintro (rfl | enough)
    · rfl
    · exact all.mpr (repays.mpr enough)

end Engine

namespace World

variable {w : World} {place : Nat} {ctx : Context} {price accumulator amount : Amount}
  {e e' : Engine} {id : VaultId} {v : Vault} {terms : Opportunity} {outcome : VaultLiquidation}

/-- **Dust in partial liquidations.** Take an engine of a reachable world in the midst of a
liquidation, and a vault of it that is above dust. If the vault is liquidated with an amount below
the largest one, what is left of its debt is above dust on the way to the target, the last grain
excepted. On the way to exhausting the vault, it is worth as much as the dust of collateral, and if
all of the collateral is dust, it is above dust with the same exception. -/
theorem leftover_above_dust (reachable : w.Reachable)
    (midway : w.Midway place ctx price accumulator e) (found : e.vault? id = some v)
    (tidy : e.AboveDust v)
    (quoted : e.opportunity id v ctx.caller price accumulator = .ok terms)
    (partly : amount < terms.maxRepay)
    (done : liquidateVault ctx id amount price accumulator e = .ok outcome e') :
    ∃ left value regime, e'.vault? id = some left ∧
      collateralValue v.collateral price e.state.collateralUnit = .ok value ∧
      e.regime v ctx.caller price accumulator = .ok regime ∧
      Leftover e v left accumulator amount value terms regime := by
  obtain ⟨-, fit, same⟩ := midway.fit reachable
  obtain ⟨u, left, terms', deal⟩ := liquidateVault_deal done
  cases found.symm.trans deal.revised.found
  cases quoted.symm.trans deal.quoted
  obtain ⟨value, health, regime, appraised, known, offer⟩ := opportunity_offer fit.params quoted
  have kept : e'.vault? id = some left := by rw [deal.revised.vault?, if_pos rfl]
  exact ⟨left, value, regime, kept, appraised.valued, known,
    deal.leftover fit same tidy appraised offer partly⟩

/-- A price at which the vault of the small market has little to gain from a liquidation. -/
def pinch : Amount := ⟨11_925 * tokenOne / 10_000, by decide⟩

set_option maxRecDepth 10000 in
/-- Of the vault of the small market, eleven stablecoins are accepted at that price, which is below
the largest amount, and they leave a tenth of the dust. -/
theorem dusty_pinch :
    ∃ ctx accumulator e v terms outcome e' left,
      (history smallMarket).Midway 0 ctx pinch accumulator e ∧ e.vault? 1 = some v ∧
      e.AboveDust v ∧ e.opportunity 1 v ctx.caller pinch accumulator = .ok terms ∧
      tenths 110 < terms.maxRepay ∧
      liquidateVault ctx 1 (tenths 110) pinch accumulator e = .ok outcome e' ∧
      e'.vault? 1 = some left ∧ left.normalizedDebt = tenths 1 ∧ ¬ e'.AboveDust left := by
  have facts : ((midst smallMarket 0).any fun (ctx, accumulator, e) => (e.vault? 1).any fun v =>
      (e.opportunity 1 v ctx.caller pinch accumulator).toOption.any fun terms =>
        (leftAfter ctx accumulator e pinch (tenths 110)).any fun (_, e', left) =>
          decide (e.AboveDust v ∧ tenths 110 < terms.maxRepay ∧ left.normalizedDebt = tenths 1 ∧
            ¬ e'.AboveDust left)) = true := by
    decide +kernel
  simp only [Option.any_eq_true, Outcome.toOption_eq_some, decide_eq_true_eq] at facts
  obtain ⟨⟨ctx, accumulator, e⟩, reached, v, found, terms, quoted, ⟨outcome, e', left⟩, ended, tidy,
    partly, owes, dusty⟩ := facts
  obtain ⟨done, kept⟩ := leftAfter_eq_some ended
  exact ⟨ctx, accumulator, e, v, terms, outcome, e', left, midway_of_midst _ reached, found, tidy,
    quoted, partly, done, kept, owes, dusty⟩

set_option maxRecDepth 10000 in
/-- The vault was to be exhausted, and what is left of its debt is worth as much as the dust of
collateral. -/
theorem leftover_above_dust_pinch :
    ∃ ctx accumulator e v terms outcome e' left,
      (history smallMarket).Midway 0 ctx pinch accumulator e ∧ e.vault? 1 = some v ∧
      e.opportunity 1 v ctx.caller pinch accumulator = .ok terms ∧
      e.regime v ctx.caller pinch accumulator = .ok .exhausting ∧
      liquidateVault ctx 1 (tenths 110) pinch accumulator e = .ok outcome e' ∧
      e'.vault? 1 = some left ∧ left ≠ .empty ∧
      (e.state.params.dustCollateral.toNat -
          terms.currentDebt.toNat / e.state.params.collateralFactor.toNat) *
          billionths terms.discount * billionths e.state.params.liquidationSurcharge ≤
        left.owed accumulator := by
  have facts : ((midst smallMarket 0).any fun (ctx, accumulator, e) => (e.vault? 1).any fun v =>
      (e.opportunity 1 v ctx.caller pinch accumulator).toOption.any fun terms =>
        (leftAfter ctx accumulator e pinch (tenths 110)).any fun (_, _, left) =>
          (collateralValue v.collateral pinch e.state.collateralUnit).toOption.any fun value =>
            decide (e.AboveDust v ∧ tenths 110 < terms.maxRepay ∧ left ≠ .empty ∧
              terms.threshold ≠ .zero ∧ e.state.params.dustCollateral < value ∧
              (e.regime v ctx.caller pinch accumulator).toOption = some .exhausting)) = true := by
    decide +kernel
  simp only [Option.any_eq_true, Outcome.toOption_eq_some, decide_eq_true_eq] at facts
  obtain ⟨⟨ctx, accumulator, e⟩, reached, v, found, terms, quoted, ⟨outcome, e', left⟩, ended, value,
    valued, tidy, partly, some', gap, more, exhausting⟩ := facts
  obtain ⟨done, kept⟩ := leftAfter_eq_some ended
  have midway := midway_of_midst pinch reached
  obtain ⟨left', value', regime, kept', valued', known, leftover⟩ :=
    leftover_above_dust ⟨smallMarket, rfl⟩ midway found tidy quoted partly done
  cases kept.symm.trans kept'
  cases valued.symm.trans valued'
  cases exhausting.symm.trans known
  exact ⟨ctx, accumulator, e, v, terms, outcome, e', left, midway, found, quoted, exhausting, done,
    kept, some', (leftover.exhausting rfl more gap).resolve_left some'⟩

/-- **Forced liquidations.** Take an engine of a reachable world in the midst of a liquidation, and a
vault of it whose terms are those of a forced liquidation, and let the vault be liquidated with the
largest amount. If this exhausts the vault, the vault is left empty. If it completes a liquidation,
at most one unit of normalized debt is left, and none exactly if the amount repays all debt after it
was rounded, or if it buys all collateral; without growth or without a surcharge it repays all debt.
-/
theorem forced_leaves_at_most_one {regime : Regime} (reachable : w.Reachable)
    (midway : w.Midway place ctx price accumulator e) (found : e.vault? id = some v)
    (quoted : e.opportunity id v ctx.caller price accumulator = .ok terms)
    (known : e.regime v ctx.caller price accumulator = .ok regime)
    (forced : regime ≠ .restoring)
    (done : liquidateVault ctx id terms.maxRepay price accumulator e = .ok outcome e') :
    ∃ left, e'.vault? id = some left ∧ (regime = .exhausting → left = .empty) ∧
      left.normalizedDebt.toNat ≤ 1 ∧
      (left.normalizedDebt = .zero ↔
        left = .empty ∨ Repays e.state.params v accumulator terms.maxRepay) ∧
      (accumulator.toNat = accumulatorOne ∨
        e.state.params.liquidationSurcharge.toNat = ratioOne → left.normalizedDebt = .zero) := by
  obtain ⟨-, fit, same⟩ := midway.fit reachable
  obtain ⟨u, left, terms', deal⟩ := liquidateVault_deal done
  cases found.symm.trans deal.revised.found
  cases quoted.symm.trans deal.quoted
  obtain ⟨value, health, regime', appraised, known', offer⟩ := opportunity_offer fit.params quoted
  cases known.symm.trans known'
  have kept : e'.vault? id = some left := by rw [deal.revised.vault?, if_pos rfl]
  refine ⟨left, kept, ?_⟩
  cases regime with
  | restoring => exact absurd rfl forced
  | exhausting =>
    obtain rfl := deal.exhausts offer
    exact ⟨fun _ => rfl, Nat.zero_le _, ⟨fun _ => .inl rfl, fun _ => rfl⟩, fun _ => rfl⟩
  | completing =>
    obtain ⟨few, all⟩ := deal.completes offer (same ▸ fit.accumulator)
    refine ⟨nofun, few, all, fun plain => all.mpr (.inr ?_)⟩
    cases offer with
    | completing _ most => exact repays_of_fullRepay most plain

/-- A price at which what restores the vault of the small market would leave dust. -/
def brink : Amount := ⟨12 * tokenOne / 10, by decide⟩

set_option maxRecDepth 10000 in
/-- Without interest, the largest amount at that price leaves collateral in the vault, but no debt. -/
theorem forced_leaves_nothing_brink :
    ∃ ctx accumulator e v terms outcome e' left,
      (history smallMarket).Midway 0 ctx brink accumulator e ∧ e.vault? 1 = some v ∧
      e.opportunity 1 v ctx.caller brink accumulator = .ok terms ∧
      e.regime v ctx.caller brink accumulator = .ok .completing ∧
      liquidateVault ctx 1 terms.maxRepay brink accumulator e = .ok outcome e' ∧
      e'.vault? 1 = some left ∧ left ≠ .empty ∧ left.normalizedDebt = .zero := by
  have facts : ((midst smallMarket 0).any fun (ctx, accumulator, e) => (e.vault? 1).any fun v =>
      (e.opportunity 1 v ctx.caller brink accumulator).toOption.any fun terms =>
        (leftAfter ctx accumulator e brink terms.maxRepay).any fun (_, _, left) =>
          decide (accumulator.toNat = accumulatorOne ∧ left ≠ .empty ∧
            (e.regime v ctx.caller brink accumulator).toOption = some .completing)) = true := by
    decide +kernel
  simp only [Option.any_eq_true, Outcome.toOption_eq_some, decide_eq_true_eq] at facts
  obtain ⟨⟨ctx, accumulator, e⟩, reached, v, found, terms, quoted, ⟨outcome, e', left⟩, ended, least,
    some', completing⟩ := facts
  obtain ⟨done, kept⟩ := leftAfter_eq_some ended
  have midway := midway_of_midst brink reached
  obtain ⟨left', kept', -, -, -, plain⟩ :=
    forced_leaves_at_most_one ⟨smallMarket, rfl⟩ midway found quoted completing nofun done
  cases kept.symm.trans kept'
  exact ⟨ctx, accumulator, e, v, terms, outcome, e', left, midway, found, quoted, completing, done,
    kept, some', plain (.inl least)⟩

/-- The small market, at some interest from then on. -/
def interested : List Call := smallMarket ++ [
  .engine 0 (account 3) 0 [] (.setParameter "IR" 158_153_934_393_112_649)]

set_option maxRecDepth 10000 in
/-- After two seconds of interest, the largest amount at that price leaves a unit of normalized
debt. -/
theorem forced_leaves_one_interested :
    ∃ ctx accumulator e v terms outcome e' left,
      (history interested).Midway 0 ctx brink accumulator e ∧ e.vault? 1 = some v ∧
      e.opportunity 1 v ctx.caller brink accumulator = .ok terms ∧
      e.regime v ctx.caller brink accumulator = .ok .completing ∧
      liquidateVault ctx 1 terms.maxRepay brink accumulator e = .ok outcome e' ∧
      e'.vault? 1 = some left ∧ left.normalizedDebt ≠ .zero := by
  have facts : ((midst interested 2).any fun (ctx, accumulator, e) => (e.vault? 1).any fun v =>
      (e.opportunity 1 v ctx.caller brink accumulator).toOption.any fun terms =>
        (leftAfter ctx accumulator e brink terms.maxRepay).any fun (_, _, left) =>
          decide (left.normalizedDebt ≠ .zero ∧
            (e.regime v ctx.caller brink accumulator).toOption = some .completing)) = true := by
    decide +kernel
  simp only [Option.any_eq_true, Outcome.toOption_eq_some, decide_eq_true_eq] at facts
  obtain ⟨⟨ctx, accumulator, e⟩, reached, v, found, terms, quoted, ⟨outcome, e', left⟩, ended, owes,
    completing⟩ := facts
  obtain ⟨done, kept⟩ := leftAfter_eq_some ended
  exact ⟨ctx, accumulator, e, v, terms, outcome, e', left, midway_of_midst _ reached, found, quoted,
    completing, done, kept, owes⟩

end World

end CollateralDebt
