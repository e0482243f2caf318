import CollateralDebt.Proofs.Configuration
import CollateralDebt.Proofs.Engine.Regime
import CollateralDebt.Proofs.Independence

/-!
# Quotes of liquidations

Before a liquidation, the liquidator can ask for its terms. The answer is computed from an
accumulator that is not booked, and the liquidation goes by one that is; the collateral for the
largest amount is computed by a formula of its own, with checks of its own. Neither makes a
difference. An accrual changes nothing that terms depend on, and it books the accumulator that the
quote was computed from. An amount that a quote accepts buys no more than the largest one does, so
whatever could be too large for the liquidation would have been too large for the quote.

## What is proved

- `Engine.opportunity_bounded`: what every quote promises;
- `Engine.exists_verdict`, `Engine.Deal.kept`: an amount that is accepted passes, and how it fares;
- `Engine.liquidated_alone`: what a liquidation of one vault comes to;
- `World.quote_kept`: quotes and liquidations agree.
-/

namespace CollateralDebt

open Transact (bind_eq_ok)

/-! ## What terms say -/

namespace Opportunity

/-- Whether the terms accept an amount: it is something, it is at most the largest one, and it is not
in the gap below that, if there is one. -/
def Accepts (terms : Opportunity) (amount : Amount) : Prop :=
  .zero < amount ∧ amount ≤ terms.maxRepay ∧
    ¬ (.zero < terms.threshold ∧ terms.threshold < amount ∧ amount < terms.maxRepay)

instance (terms : Opportunity) (amount : Amount) : Decidable (terms.Accepts amount) :=
  inferInstanceAs (Decidable (_ ∧ _ ∧ ¬ (_ ∧ _ ∧ _)))

/-- Terms that keep to the limits of a market: no more collateral than there is, no larger discount
than the market's maximum, and no discount with which a liquidation would do harm. -/
structure Bounded (terms : Opportunity) (params : Parameters) (v : Vault) : Prop where
  collateral : terms.maxCollateral ≤ v.collateral
  capped : ratioOne - terms.discount.toNat ≤ params.maxLiquidationDiscount.toNat
  discount_le : terms.discount.toNat ≤ ratioOne
  harmless : params.collateralFactor.toNat * ratioOne ≤
    params.liquidationSurcharge.toNat * terms.discount.toNat

/-- A liquidation with an amount kept to the terms: the amount was accepted, the collateral given for
it is at most what the terms name, which the largest amount gets, and a loss was recorded for an
emptied vault only. -/
structure Kept (terms : Opportunity) (amount given loss : Amount) (left : Option Vault) :
    Prop where
  accepted : terms.Accepts amount
  given_le : given ≤ terms.maxCollateral
  given_eq : amount = terms.maxRepay → given = terms.maxCollateral
  emptied : loss ≠ .zero → left = some .empty

/-- The collateral that an amount pays for, whether or not there is so much of it. -/
def bought (terms : Opportunity) (unit price amount : Amount) : Nat :=
  amount.toNat * ratioOne * unit.toNat / (terms.discount.toNat * price.toNat)

variable {terms : Opportunity} {unit price amount amount' : Amount}

theorem bought_mono (h : amount ≤ amount') :
    terms.bought unit price amount ≤ terms.bought unit price amount' :=
  Nat.div_le_div_right (Nat.mul_le_mul_right _ (Nat.mul_le_mul_right _ h))

/-- The checks of a liquidation are those of `Accepts`. -/
theorem accepts_iff : terms.Accepts amount ↔ amount ≠ .zero ∧ amount ≤ terms.maxRepay ∧
    ¬ (terms.threshold ≠ .zero ∧ terms.threshold < amount ∧ amount < terms.maxRepay) := by
  rw [Amount.ne_zero_iff, Amount.ne_zero_iff]
  exact Iff.rfl

end Opportunity

/-- A part of an amount is an amount. -/
theorem exists_mulDiv_of_le (a : Amount) {b d : Nat} (positive : 0 < d) (part : b ≤ d) :
    ∃ c, mulDiv a.toNat b d = .ok c := by
  have small : a.toNat * b / d < Nat.pow 2 128 :=
    calc a.toNat * b / d ≤ a.toNat * d / d := Nat.div_le_div_right (Nat.mul_le_mul_left _ part)
      _ = a.toNat := Nat.mul_div_cancel _ positive
      _ < Nat.pow 2 128 := a.isLt
  exact ⟨⟨_, small⟩, mulDiv_eq_ok.mpr ⟨Nat.ne_of_gt positive, rfl⟩⟩

namespace Engine

section Terms

variable {params : Parameters} {s : EngineState} {e m : Engine} {id : VaultId} {v : Vault}
  {liquidator : Address} {price accumulator repay given : Amount} {terms : Opportunity} {d : Nat}

/-- What a liquidator pays falls short of the price by at most the largest discount. -/
theorem oneMinusDiscount_capped {boost : UInt64} {health : Amount}
    (h : oneMinusDiscount params boost health = .ok d) :
    ratioOne - d ≤ params.maxLiquidationDiscount.toNat := by
  simp only [oneMinusDiscount, Outcome.bind_eq_ok, Wide.sub_eq_ok, Outcome.pure_eq_ok] at h
  obtain ⟨_, _, raw, _, least, _, _, ⟨_, rfl⟩, rfl⟩ := h
  omega

/-- The collateral for a repayment was computed without leaving the range, and it is what the
repayment pays for or all there is. -/
theorem collateralFor_eq_ok (h : collateralFor s v price repay d = .ok given) :
    repay.toNat * ratioOne * s.collateralUnit.toNat < Wide.bound ∧
      d * price.toNat < Wide.bound ∧ d * price.toNat ≠ 0 ∧
      given.toNat = min v.collateral.toNat
        (repay.toNat * ratioOne * s.collateralUnit.toNat / (d * price.toNat)) := by
  simp only [collateralFor, Outcome.bind_eq_ok, Wide.mul_eq_ok, Wide.checkedMul_eq_ok,
    Wide.checkedDiv_eq_ok] at h
  obtain ⟨_, ⟨_, rfl⟩, _, ⟨worth, rfl⟩, _, ⟨paid, rfl⟩, _, ⟨nonzero, rfl⟩, h⟩ := h
  rw [Nat.mul_comm price.toNat d] at paid nonzero h
  refine ⟨worth, paid, nonzero, ?_⟩
  split at h
  · rename_i more
    cases h
    exact (Nat.min_eq_left (Nat.le_of_lt more)).symm
  · rename_i most
    rw [narrow_eq_ok.mp h, Nat.min_eq_right (Nat.le_of_not_lt most)]

/-- Every quote keeps to the limits of the market, and names the collateral for its largest amount.
-/
theorem opportunity_bounded (consistent : e.state.params.Consistent)
    (h : e.opportunity id v liquidator price accumulator = .ok terms) :
    terms.Bounded e.state.params v ∧
      collateralFor e.state v price terms.maxRepay terms.discount.toNat =
        .ok terms.maxCollateral := by
  simp only [opportunity, Outcome.bind_eq_ok, Outcome.require_eq_ok, Outcome.pure_eq_ok] at h
  obtain ⟨debt, _, value, _, health, _, _, _, boost, _, d, hd, ⟨repay, threshold⟩, _, collateral,
    hcollateral, rfl⟩ := h
  have share := oneMinusDiscount_bounds consistent hd
  have capped := oneMinusDiscount_capped hd
  obtain ⟨discount, rfl⟩ : ∃ discount : UInt64, discount.toNat = d :=
    ⟨.ofNat d, UInt64.toNat_ofNat_of_lt' (Nat.lt_trans share.lt (by decide))⟩
  rw [UInt64.ofNat_toNat]
  refine ⟨⟨?_, capped, share.le, ?_⟩, hcollateral⟩
  · rw [Amount.le_iff, (collateralFor_eq_ok hcollateral).2.2.2]
    exact Nat.min_le_left _ _
  · rw [Nat.mul_comm e.state.params.liquidationSurcharge.toNat]
    exact share.covers

/-- An accrual changes nothing that terms depend on. -/
theorem Accrued.opportunity {now : Timestamp} {booked : Amount} (h : Accrued e now booked m) :
    m.opportunity id v liquidator price accumulator =
      e.opportunity id v liquidator price accumulator := by
  unfold Engine.opportunity liquidationBoost
  rw [h.state, h.boostSource]
  rfl

/-- A quote is the terms of a vault at the price and at an accumulator that is not booked. -/
theorem checkLiquidation_eq_ok {quote : Outcome Amount} {now : Timestamp} :
    e.checkLiquidation quote id liquidator now = .ok terms ↔
      ∃ v price accumulator, e.vault? id = some v ∧ quote = .ok price ∧
        e.currentAccumulator now = .ok accumulator ∧
        e.opportunity id v liquidator price accumulator = .ok terms := by
  simp only [checkLiquidation, Outcome.bind_eq_ok, Registry.vault_eq_ok]
  constructor
  · rintro ⟨v, found, price, known, accumulator, current, quoted⟩
    exact ⟨v, price, accumulator, found, known, current, quoted⟩
  · rintro ⟨v, price, accumulator, found, known, current, quoted⟩
    exact ⟨v, found, price, known, accumulator, current, quoted⟩

end Terms

/-! ## One vault -/

section Vault

variable {ctx : Context} {e e' : Engine} {id : VaultId} {v w : Vault} {terms : Opportunity}
  {amount price accumulator : Amount} {outcome : VaultLiquidation}

/-- Reducing a vault by less than its collateral never fails. -/
theorem exists_reduced {debtRepaid : Amount} {bought : Nat}
    (grown : accumulatorOne ≤ accumulator.toNat) (less : bought < v.collateral.toNat) :
    ∃ r, (do
      let released ← narrow bought
      Verdict.reduced ctx id v amount debtRepaid released accumulator) = .ok r := by
  obtain ⟨released, rfl⟩ : ∃ released : Amount, released.toNat = bought :=
    ⟨⟨bought, Nat.lt_trans less v.collateral.isLt⟩, rfl⟩
  have part : released ≤ v.collateral := Nat.le_of_lt less
  have positive := Nat.lt_of_lt_of_le accumulatorOne_pos grown
  obtain ⟨normalized, hnormalized⟩ := exists_mulDiv_of_le debtRepaid positive grown
  have change : min normalized v.normalizedDebt ≤ v.normalizedDebt := by
    rw [Amount.le_iff, Amount.toNat_min]
    exact Nat.min_le_right _ _
  have collateral : v.collateral.uncheckedMinus released =
      .ok (v.collateral.sub released part) :=
    Amount.uncheckedMinus_eq_ok.mpr (Nat.sub_add_cancel part)
  have debt : v.normalizedDebt.uncheckedMinus (min normalized v.normalizedDebt) =
      .ok (v.normalizedDebt.sub _ change) :=
    Amount.uncheckedMinus_eq_ok.mpr (Nat.sub_add_cancel change)
  simp only [Verdict.reduced, normalize, Outcome.bind_eq_ok]
  exact ⟨_, released, narrow_eq_ok.mpr rfl, normalized, hnormalized, _, collateral, _, debt, rfl⟩

/-- An amount that is accepted passes: it is at most the largest one, so that nothing leaves the
range that did not leave it in the terms. -/
theorem exists_verdict (fit : e.Fit) (grown : accumulatorOne ≤ accumulator.toNat)
    (found : e.vault? id = some v)
    (quoted : e.opportunity id v ctx.caller price accumulator = .ok terms)
    (accepts : terms.Accepts amount) :
    ∃ r, e.verdict ctx id amount price accumulator = .ok r := by
  obtain ⟨nonzero, most, outside⟩ := Opportunity.accepts_iff.mp accepts
  obtain ⟨worth, paid, positive, -⟩ :=
    collateralFor_eq_ok (opportunity_bounded fit.params quoted).2
  have scaled : amount.toNat * ratioOne < Wide.bound :=
    Wide.lt_bound (mul_lt_pow amount.lt_pow ratioOne_lt) (by decide)
  have within : amount.toNat * ratioOne * e.state.collateralUnit.toNat < Wide.bound :=
    Nat.lt_of_le_of_lt (Nat.mul_le_mul_right _ (Nat.mul_le_mul_right _ most)) worth
  obtain ⟨debtRepaid, repaid⟩ :=
    exists_mulDiv_of_le amount ratioOne_pos fit.params.surcharge_le
  obtain ⟨r, ended⟩ : ∃ r, (if v.collateral.toNat ≤
        terms.bought e.state.collateralUnit price amount then
      (.ok (.exhausted ctx id v amount debtRepaid terms.currentDebt) : Outcome Verdict)
    else do
      let released ← narrow (terms.bought e.state.collateralUnit price amount)
      Verdict.reduced ctx id v amount debtRepaid released accumulator) = .ok r := by
    split
    · exact ⟨_, rfl⟩
    · rename_i less
      exact exists_reduced grown (Nat.lt_of_not_le less)
  refine ⟨r, ?_⟩
  simp only [verdict, judge, Outcome.bind_eq_ok, Outcome.require_eq_ok, Wide.checkedMul_eq_ok,
    Wide.checkedDiv_eq_ok]
  exact ⟨(), nonzero, v, Registry.vault_eq_ok.mpr found, terms, quoted, (), most, (), outside, _,
    ⟨scaled, rfl⟩, _, ⟨within, rfl⟩, _, ⟨paid, rfl⟩, _, ⟨positive, rfl⟩, debtRepaid, repaid, ended⟩

/-- A liquidation of a vault whose terms are known is a deal on these terms. -/
theorem deal_of_quoted (found : e.vault? id = some v)
    (quoted : e.opportunity id v ctx.caller price accumulator = .ok terms)
    (done : liquidateVault ctx id amount price accumulator e = .ok outcome e') :
    ∃ w, Deal e ctx.caller id amount price accumulator v w terms outcome e' ∧
      e'.vault? id = some w := by
  obtain ⟨_, w, _, deal⟩ := liquidateVault_deal done
  cases found.symm.trans deal.revised.found
  cases quoted.symm.trans deal.quoted
  exact ⟨w, deal, by rw [deal.revised.vault?, if_pos rfl]⟩

/-- The collateral that is given for an amount is what it pays for or all there is. -/
theorem Deal.released (deal : Deal e ctx.caller id amount price accumulator v w terms outcome e') :
    outcome.collateralReleased.toNat =
      min v.collateral.toNat (terms.bought e.state.collateralUnit price amount) := by
  obtain ⟨bought, debtRepaid, hbought, -, exchanged⟩ := deal.exchanged
  obtain ⟨-, rfl⟩ := Wide.checkedDiv_eq_ok.mp hbought
  cases exchanged with
  | exhausted enough => exact (Nat.min_eq_left enough).symm
  | reduced exact' less => exact exact'.trans (Nat.min_eq_right (Nat.le_of_lt less)).symm

/-- What was done with a vault kept to its terms. -/
theorem Deal.kept (consistent : e.state.params.Consistent)
    (deal : Deal e ctx.caller id amount price accumulator v w terms outcome e') :
    terms.Kept amount outcome.collateralReleased outcome.badDebt (e'.vault? id) := by
  have quote := (opportunity_bounded consistent deal.quoted).2
  have most : terms.maxCollateral.toNat =
      min v.collateral.toNat (terms.bought e.state.collateralUnit price terms.maxRepay) :=
    (collateralFor_eq_ok quote).2.2.2
  refine ⟨Opportunity.accepts_iff.mpr ⟨deal.nonzero, deal.most, deal.outside⟩, ?_, ?_, ?_⟩
  · have more : terms.bought e.state.collateralUnit price amount ≤
        terms.bought e.state.collateralUnit price terms.maxRepay :=
      Opportunity.bought_mono deal.most
    rw [Amount.le_iff, deal.released, most]
    omega
  · rintro rfl
    exact Amount.ext (deal.released.trans most.symm)
  · intro lost
    obtain ⟨_, _, _, _, exchanged⟩ := deal.exchanged
    cases exchanged with
    | exhausted => rw [deal.revised.vault?, if_pos rfl]
    | reduced => exact absurd rfl lost

end Vault

/-! ## Before and after an accrual -/

section Quote

variable {ctx : Context} {e e' m : Engine} {id : VaultId} {v : Vault} {terms : Opportunity}
  {amount price accumulator : Amount} {report : LiquidationReport}

/-- What was quoted before an accrual are the terms after it. -/
theorem quoted_of_accrued (quoted : e.checkLiquidation ctx.price id ctx.caller ctx.now = .ok terms)
    (known : ctx.price = .ok price) (accrued : accrue ctx.now e = .ok accumulator m) :
    ∃ v, m.vault? id = some v ∧
      m.opportunity id v ctx.caller price accumulator = .ok terms := by
  have booked := accrue_eq_ok accrued
  obtain ⟨v, price', accumulator', found, known', current, quoted⟩ :=
    checkLiquidation_eq_ok.mp quoted
  cases known.symm.trans known'
  cases booked.current.symm.trans current
  exact ⟨v, (booked.vault? id).trans found, booked.opportunity.trans quoted⟩

/-- After an accrual the vault passes with exactly the amounts that the quote accepts, and keeps to
it. -/
theorem quote_kept_alone (exact' : e.Exact) (fit : e.Fit)
    (quoted : e.checkLiquidation ctx.price id ctx.caller ctx.now = .ok terms)
    (known : ctx.price = .ok price) (accrued : accrue ctx.now e = .ok accumulator m) :
    ((∃ outcome e', liquidateVault ctx id amount price accumulator m = .ok outcome e') ↔
      terms.Accepts amount) ∧
    ∀ outcome e', liquidateVault ctx id amount price accumulator m = .ok outcome e' →
      terms.Kept amount outcome.collateralReleased outcome.badDebt (e'.vault? id) := by
  have booked := accrue_eq_ok accrued
  have fit := fit.accrued booked
  obtain ⟨v, found, again⟩ := quoted_of_accrued quoted known accrued
  have kept (outcome : VaultLiquidation) (e' : Engine)
      (done : liquidateVault ctx id amount price accumulator m = .ok outcome e') :
      terms.Kept amount outcome.collateralReleased outcome.badDebt (e'.vault? id) := by
    obtain ⟨u, w, terms', deal⟩ := liquidateVault_deal done
    cases found.symm.trans deal.revised.found
    cases again.symm.trans deal.quoted
    exact deal.kept fit.params
  refine ⟨⟨fun ⟨outcome, e', done⟩ => (kept outcome e' done).accepted, fun accepts => ?_⟩, kept⟩
  obtain ⟨r, judged⟩ :=
    exists_verdict fit (booked.accumulator ▸ fit.accumulator) found again accepts
  exact ⟨r.outcome, m.enact id r,
    (liquidateVault_eq_ok_iff (exact'.accrued booked)).mpr ⟨r, judged, rfl, rfl⟩⟩

/-- An accepted liquidation of one vault liquidated that vault, and its report tells of nothing
else. -/
theorem liquidated_alone (exact' : e.Exact)
    (all : liquidateAll ctx [id] [amount] e = .ok report e') :
    ∃ accumulator price m outcome after, accrue ctx.now e = .ok accumulator m ∧
      ctx.price = .ok price ∧
      liquidateVault ctx id amount price accumulator m = .ok outcome after ∧
      report.liquidated = [id] ∧ report.collateralToGive = outcome.collateralReleased ∧
      report.badDebt = outcome.badDebt ∧ e'.vault? id = after.vault? id := by
  obtain ⟨_, _, _, accumulator, price, m, m', accrued, known, folded, concluded⟩ :=
    liquidateAll_eq_ok_iff.mp all
  have exact' := exact'.accrued (accrue_eq_ok accrued)
  obtain ⟨_, _, _, _, some', _, _, _, _, rfl⟩ := conclude_eq_ok.mp concluded
  obtain ⟨_, _, next, same⟩ := bind_eq_ok.mp folded
  obtain ⟨rfl, rfl⟩ := Transact.pure_eq_ok.mp same
  rcases liquidateNext_eq_ok exact' next with ⟨outcome, done, -, given, lost, same⟩ |
    ⟨_, _, _, rfl⟩
  · rw [Amount.toNat_zero, Nat.zero_add] at given lost
    refine ⟨accumulator, price, m, outcome, _, accrued, known, done, ?_, Amount.ext given,
      Amount.ext lost, rfl⟩
    rw [same]
    rfl
  · exact absurd rfl some'

end Quote

end Engine

namespace World

/-! ## The world -/

/-- **Quotes are kept.** Take an engine of a reachable world that quotes terms for a vault to a
liquidator. The terms keep to the limits of the market. If the accrual does not fail, the vault
passes a liquidation by that liquidator at that time with exactly the amounts that the terms accept,
and what is done with it keeps to the terms. And so does every accepted call that liquidates this
vault alone, with whatever parties and other engines. -/
theorem quote_kept {w : World} {place : Nat} {seat : Seat} {liquidator : Address}
    {now : Timestamp} {ctx : Context} {id : VaultId} {terms : Opportunity}
    (reachable : w.Reachable) (standing : w.seats[place]? = some seat)
    (circumstances : w.context seat liquidator now = .ok ctx)
    (quoted : seat.engine.checkLiquidation ctx.price id liquidator now = .ok terms) :
    ∃ v price, seat.engine.vault? id = some v ∧ ctx.price = .ok price ∧
      terms.Bounded seat.engine.state.params v ∧
      (∀ accumulator m amount, Engine.accrue now seat.engine = .ok accumulator m →
        ((∃ outcome e', Engine.liquidateVault ctx id amount price accumulator m =
          .ok outcome e') ↔ terms.Accepts amount) ∧
        ∀ outcome e', Engine.liquidateVault ctx id amount price accumulator m = .ok outcome e' →
          terms.Kept amount outcome.collateralReleased outcome.badDebt (e'.vault? id)) ∧
      ∀ remotes p amount report w',
        callEngine place liquidator now remotes (.liquidate p [id] [amount]) w =
          .ok (.report report) w' →
        report.liquidated = [id] ∧ terms.Kept amount report.collateralToGive report.badDebt
          ((engine? w'.seats place).bind (·.vault? id)) := by
  obtain ⟨_, _, rfl, rfl, _⟩ := context_eq_ok circumstances
  have mem := List.mem_of_getElem? standing
  have exact' := reachable.exact _ mem
  have fit := reachable.fit _ mem
  obtain ⟨v, price, _, found, known, _, offered⟩ := Engine.checkLiquidation_eq_ok.mp quoted
  refine ⟨v, price, found, known, (Engine.opportunity_bounded fit.params offered).1,
    fun accumulator m amount accrued =>
      Engine.quote_kept_alone exact' fit quoted known accrued,
    fun remotes p amount report w' accepted => ?_⟩
  obtain ⟨seat', ctx', s, s', standing', circumstances', stage, ran, rfl⟩ :=
    callEngine_eq_ok accepted
  cases standing.symm.trans standing'
  cases circumstances.symm.trans circumstances'
  have own : seat.engine = s.engine :=
    Option.some.inj ((engine?_of_seat standing).symm.trans stage.engine)
  cases EngineCall.run_cases ran with
  | @liquidate _ _ _ _ e _ done paid =>
    rw [← own] at done
    obtain ⟨accumulator, price', m, outcome, after, accrued, known', passed, liquidated, given, lost,
      left⟩ := Engine.liquidated_alone exact' done
    cases known.symm.trans known'
    have engine := ((Arena.keeps_handleRepay _ _ _ _ _).1 _ _ paid).engine
    have kept := (Engine.quote_kept_alone exact' fit quoted known accrued).2 _ _ passed
    refine ⟨liquidated, ?_⟩
    rw [engine?_restage stage, engine, given, lost]
    show terms.Kept amount _ _ (e.vault? id)
    rw [left]
    exact kept

/-- What a liquidation of the first vault reports when it sells out at a price of 1.1. -/
def soldOut : LiquidationReport where
  price := tenths 11
  accumulator := ⟨accumulatorOne, accumulatorOne_lt_pow⟩
  stablecoinToReceive := buyout
  collateralToGive := tenths 100
  badDebt := ⟨109 * tokenOne / 100, by decide⟩
  liquidated := [1]
  skipped := []

set_option maxRecDepth 10000 in
/-- After the price fell to 1.1, the largest amount for the first vault gets all that the terms name,
and empties the vault at a loss. A little less is in the gap and does not pass. -/
theorem quote_kept_buyout :
    ∃ seat ctx price terms accumulator m w',
      (history twoVaults).seats[0]? = some seat ∧
      (history twoVaults).context seat (account 5) 0 = .ok ctx ∧ ctx.price = .ok price ∧
      seat.engine.checkLiquidation ctx.price 1 (account 5) 0 = .ok terms ∧
      Engine.accrue 0 seat.engine = .ok accumulator m ∧
      (¬ ∃ outcome e', Engine.liquidateVault ctx 1 (tenths 99) price accumulator m =
        .ok outcome e') ∧
      callEngine 0 (account 5) 0 [] (.liquidate borrower [1] [buyout]) (history twoVaults) =
        .ok (.report soldOut) w' ∧
      terms.maxCollateral = soldOut.collateralToGive ∧
      (engine? w'.seats 0).bind (·.vault? 1) = some .empty := by
  have facts : ((history twoVaults).seats[0]?.any fun seat =>
      ((history twoVaults).context seat (account 5) 0).toOption.any fun ctx =>
        (seat.engine.checkLiquidation ctx.price 1 (account 5) 0).toOption.any fun terms =>
          (EStateM.run' (Engine.accrue 0) seat.engine).any fun _ =>
            decide (buyout = terms.maxRepay ∧ ¬ terms.Accepts (tenths 99))) = true := by
    decide +kernel
  have sold : EStateM.run' (callEngine 0 (account 5) 0 [] (.liquidate borrower [1] [buyout]))
      (history twoVaults) = some (.report soldOut) := by decide +kernel
  simp only [Option.any_eq_true, Outcome.toOption_eq_some, Transact.run'_eq_some,
    decide_eq_true_eq] at facts
  obtain ⟨seat, standing, ctx, known, terms, quoted, accumulator, ⟨m, accrued⟩, most, gap⟩ := facts
  obtain ⟨w', accepted⟩ := Transact.run'_eq_some.mp sold
  obtain ⟨_, price, _, priced, _, agrees, settled⟩ :=
    quote_kept ⟨twoVaults, rfl⟩ standing known quoted
  obtain ⟨_, kept⟩ := settled _ _ _ _ _ accepted
  exact ⟨seat, ctx, price, terms, accumulator, m, w', standing, known, priced, quoted, accrued,
    fun passed => gap ((agrees _ _ _ accrued).1.mp passed), accepted,
    (kept.given_eq most).symm, kept.emptied (by decide)⟩

end World

end CollateralDebt
