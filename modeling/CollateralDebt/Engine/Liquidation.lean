import CollateralDebt.Engine.Settlement

/-!
# Liquidation

A vault with a health factor below one can be liquidated: the liquidator repays stablecoins and
receives collateral at a discount. The discount grows with the distance of the health factor from
one, is multiplied by the liquidator's boost, and is capped twice: by the market's maximum, and so
that liquidating always improves the health of a vault.

How much may be repaid follows one of two regimes. If the collateral is enough to bring the vault
back to the target health factor, the maximum is the amount that does so, or all of the debt if what
would be left is dust. If not, the maximum buys all of the collateral. Below the maximum there may
be a gap of amounts that are refused because they would leave dust.

The vaults of one call are liquidated one by one; one that cannot be is skipped, with the reason.
Debt that a vault could not cover is a loss of the engine.

## What is stated here

- `Opportunity`: the terms on which a vault may be liquidated;
- `Engine.opportunity`: the terms of a vault at a price and an accumulator;
- `Engine.liquidateVault`: one vault;
- `Arena.liquidate`: a whole call, all or nothing.
-/

namespace CollateralDebt

/-- The most vaults in one liquidation. -/
def maxLiquidationBatch : Nat := 50

/-- The terms of a liquidation. -/
@[ext]
structure Opportunity where
  /-- The most that may be repaid. -/
  maxRepay : Amount
  /-- The collateral that is given for the most. -/
  maxCollateral : Amount
  /-- Amounts strictly between this and the maximum are refused; if it is zero, none are. -/
  threshold : Amount
  /-- One less the discount, as a ratio. -/
  discount : UInt64
  currentDebt : Amount
deriving DecidableEq

/-- What the liquidation of one vault came to. -/
@[ext]
structure VaultLiquidation where
  repaid : Amount
  collateralReleased : Amount
  badDebt : Amount
deriving DecidableEq

/-- What a liquidation came to. -/
@[ext]
structure LiquidationReport where
  price : Amount
  accumulator : Amount
  stablecoinToReceive : Amount
  collateralToGive : Amount
  badDebt : Amount
  /-- The vaults that were liquidated. -/
  liquidated : List VaultId
  /-- The vaults that were skipped, and why. -/
  skipped : List (VaultId × Error)
deriving DecidableEq

namespace Engine

/-! ## Terms -/

/-- The boost of a liquidator. Without a source of balances it is that of the first point. -/
def liquidationBoost (e : Engine) (liquidator : Address) : Outcome UInt64 :=
  match e.boostSource with
  | some balance => e.state.boostCurve.boostAt (balance liquidator)
  | none => .ok e.state.boostCurve.baseBoost

/-- One less the discount at a health factor below one, for a boost. -/
def oneMinusDiscount (params : Parameters) (boost : UInt64) (health : Amount) : Outcome Nat := do
  let raw ← mulDiv boost.toNat (← Wide.sub ratioOne health.toNat) ratioOne
  let discount := min raw.toNat params.maxLiquidationDiscount.toNat
  let least ← mulDivUp params.collateralFactor.toNat ratioOne params.liquidationSurcharge.toNat
  return max (← Wide.sub ratioOne discount) least.toNat

/-- Whether the collateral is enough to bring the vault back to the target health factor. -/
def reachesTarget (params : Parameters) (health : Amount) (d : Nat) : Outcome Bool := do
  let left ← Wide.mul (← Wide.mul health.toNat d) params.liquidationSurcharge.toNat
  let right ← Wide.mul (← Wide.mul params.collateralFactor.toNat ratioOne) ratioOne
  return right ≤ left

/-- The amount that brings a vault back to the target health factor. -/
def targetRepay (params : Parameters) (value debt : Amount) (d : Nat) : Outcome Amount := do
  let missing ← Wide.checkedSub (← Wide.mul params.targetHealthFactor.toNat debt.toNat)
    (← Wide.mul value.toNat params.collateralFactor.toNat)
  let numerator ← Wide.checkedMul (← Wide.mul missing ratioOne) d
  let surcharged ← Wide.mul params.liquidationSurcharge.toNat params.targetHealthFactor.toNat
  let borrowable ← Wide.mul (ratioOne * ratioOne) params.collateralFactor.toNat
  let denominator ← Wide.checkedSub (← Wide.mul surcharged d) borrowable
  narrow (← Wide.checkedDiv numerator denominator)

/-- Whether repaying an amount would leave no more debt than dust. -/
def leavesDust (params : Parameters) (debt repay : Amount) : Outcome Bool := do
  let owed ← Wide.mul debt.toNat ratioOne
  let covered ← Wide.add (← Wide.mul repay.toNat params.liquidationSurcharge.toNat)
    (← Wide.mul params.dustLiquidation.toNat ratioOne)
  return owed ≤ covered

/-- The amount that repays all debt of a vault after the surcharge. -/
def fullRepay (params : Parameters) (v : Vault) (accumulator : Amount) : Outcome Amount := do
  let debt ← Wide.checkedMul v.normalizedDebt.toNat accumulator.toNat
  let numerator ← Wide.checkedMul debt ratioOne
  let denominator ← Wide.mul params.liquidationSurcharge.toNat accumulatorOne
  (← narrow (← Wide.checkedDiv numerator denominator)).add ⟨1, by decide⟩

/-- The amount that buys all collateral of a vault. -/
def exhaustingRepay (s : EngineState) (v : Vault) (price : Amount) (d : Nat) : Outcome Amount := do
  let numerator ← Wide.checkedMul (← Wide.mul v.collateral.toNat d) price.toNat
  let denominator ← Wide.mul ratioOne s.collateralUnit.toNat
  (← narrow (← Wide.checkedDiv numerator denominator)).add ⟨1, by decide⟩

/-- The largest amount to repay, and the threshold below it. -/
def repayBounds (s : EngineState) (v : Vault) (price accumulator debt value health : Amount)
    (d : Nat) : Outcome (Amount × Amount) := do
  let params := s.params
  if ← reachesTarget params health d then
    let repay ← targetRepay params value debt d
    if ← leavesDust params debt repay then
      let all ← fullRepay params v accumulator
      let threshold ←
        if params.dustLiquidation < debt then
          mulDiv (debt.toNat - params.dustLiquidation.toNat) ratioOne
            params.liquidationSurcharge.toNat
        else pure ⟨1, by decide⟩
      return (all, threshold)
    else return (repay, .zero)
  else
    let all ← exhaustingRepay s v price d
    let threshold ←
      if params.dustCollateral < value then
        mulDiv (value.toNat - params.dustCollateral.toNat) d ratioOne
      else pure ⟨1, by decide⟩
    return (all, threshold)

/-- The collateral given for the largest repayment: what it buys, and at most what there is. -/
def collateralFor (s : EngineState) (v : Vault) (price repay : Amount) (d : Nat) :
    Outcome Amount := do
  let numerator ← Wide.checkedMul (← Wide.mul repay.toNat ratioOne) s.collateralUnit.toNat
  let bought ← Wide.checkedDiv numerator (← Wide.mul price.toNat d)
  if v.collateral.toNat < bought then return v.collateral else narrow bought

/-- The terms on which a vault may be liquidated by `liquidator`; refused for a healthy vault. -/
def opportunity (e : Engine) (id : VaultId) (v : Vault) (liquidator : Address)
    (price accumulator : Amount) : Outcome Opportunity := do
  let s := e.state
  let debt ← debtOf v.normalizedDebt accumulator
  let value ← collateralValue v.collateral price s.collateralUnit
  let health ← healthFactor value s.params.collateralFactor debt
  Outcome.require (¬ isSolvent health) (.healthyVault id health)
  let d ← oneMinusDiscount s.params (← e.liquidationBoost liquidator) health
  let (maxRepay, threshold) ← repayBounds s v price accumulator debt value health d
  let maxCollateral ← collateralFor s v price maxRepay d
  return { maxRepay, maxCollateral, threshold, discount := UInt64.ofNat d, currentDebt := debt }

/-- The terms on which a vault may be liquidated now. -/
def checkLiquidation (e : Engine) (price : Outcome Amount) (id : VaultId) (liquidator : Address)
    (now : Timestamp) : Outcome Opportunity := do
  let v ← e.state.registry.vault id
  let price ← price
  e.opportunity id v liquidator price (← e.currentAccumulator now)

/-! ## Liquidating -/

/-- The amount has to be within the terms. -/
def requireWithin (terms : Opportunity) (id : VaultId) (amount : Amount) :
    Transact Engine Unit := do
  Transact.require (amount ≤ terms.maxRepay) (.tooHighAmount amount terms.maxRepay)
  Transact.require
    (¬ (terms.threshold ≠ .zero ∧ terms.threshold < amount ∧ amount < terms.maxRepay))
    (.dustyLeftoverAmount id)

/-- Take everything from a vault, which keeps its number. Whatever it still owed is lost. -/
def exhaustVault (now : Timestamp) (id : VaultId) (v : Vault)
    (amount debtRepaid currentDebt : Amount) : Transact Engine VaultLiquidation := do
  let totalNormalizedDebt ← (← getState).totalNormalizedDebt.minus v.normalizedDebt
  modifyState fun s => { s with totalNormalizedDebt }
  let _ ← findVault id
  putVault id .empty
  if v.normalizedDebt ≠ .zero then
    emit (.internalDebtUpdated id v.normalizedDebt false now)
  emit (.collateralAmountUpdated id v.collateral false now)
  return ⟨amount, v.collateral, currentDebt.monus debtRepaid⟩

/-- Take a part of a vault's collateral for a part of its debt. -/
def reduceVault (now : Timestamp) (id : VaultId) (v : Vault) (amount debtRepaid released : Amount)
    (accumulator : Amount) : Transact Engine VaultLiquidation := do
  let change := min (← normalize debtRepaid accumulator) v.normalizedDebt
  let _ ← findVault id
  let collateral ← v.collateral.uncheckedMinus released
  let normalizedDebt ← v.normalizedDebt.uncheckedMinus change
  putVault id { collateral, normalizedDebt }
  let totalNormalizedDebt ← (← getState).totalNormalizedDebt.minus change
  modifyState fun s => { s with totalNormalizedDebt }
  emit (.collateralAmountUpdated id released false now)
  emit (.internalDebtUpdated id change false now)
  return ⟨amount, released, .zero⟩

/-- Liquidate one vault: check the amount against the vault's terms, then give collateral for it. -/
def liquidateVault (ctx : Context) (id : VaultId) (amount price accumulator : Amount) :
    Transact Engine VaultLiquidation := do
  requireAmount amount
  let v ← findVault id
  let e ← get
  let terms ← e.opportunity id v ctx.caller price accumulator
  requireWithin terms id amount
  let numerator ← Wide.checkedMul (← Wide.checkedMul amount.toNat ratioOne)
    e.state.collateralUnit.toNat
  let bought ← Wide.checkedDiv numerator
    (← Wide.checkedMul terms.discount.toNat price.toNat)
  let debtRepaid ← mulDiv amount.toNat e.state.params.liquidationSurcharge.toNat ratioOne
  let outcome ←
    if v.collateral.toNat ≤ bought then
      exhaustVault ctx.now id v amount debtRepaid terms.currentDebt
    else do
      let released ← narrow bought
      reduceVault ctx.now id v amount debtRepaid released accumulator
  emit (.vaultLiquidated id ctx.caller outcome.repaid outcome.collateralReleased outcome.badDebt
    ctx.now)
  return outcome

/-- Liquidate the next vault of a call, or skip it. -/
def liquidateNext (ctx : Context) (report : LiquidationReport) (entry : VaultId × Amount) :
    Transact Engine LiquidationReport := do
  let (id, amount) := entry
  match ← Transact.attempt (liquidateVault ctx id amount report.price report.accumulator) with
  | .ok outcome =>
    let stablecoinToReceive ← report.stablecoinToReceive.add outcome.repaid
    let collateralToGive ← report.collateralToGive.add outcome.collateralReleased
    let badDebt ← report.badDebt.add outcome.badDebt
    return { report with
      stablecoinToReceive, collateralToGive, badDebt
      liquidated := report.liquidated ++ [id] }
  | .error e => return { report with skipped := report.skipped ++ [(id, e)] }

/-- Liquidate the vaults of a call, and book the protocol's share and the losses. -/
def liquidateAll (ctx : Context) (ids : List VaultId) (amounts : List Amount) :
    Transact Engine LiquidationReport := do
  requireUnpaused
  Transact.require (ids.length = amounts.length ∧ ids ≠ [])
    (.incompatibleLengths ids.length amounts.length)
  Transact.require (ids.length ≤ maxLiquidationBatch)
    (.batchTooLarge ids.length maxLiquidationBatch)
  let accumulator ← accrue ctx.now
  let price ← ctx.price
  let start : LiquidationReport := ⟨price, accumulator, .zero, .zero, .zero, [], []⟩
  let report ← (ids.zip amounts).foldlM (liquidateNext ctx) start
  Transact.require (report.liquidated ≠ []) .noLiquidatableVaults
  let share ← Wide.sub ratioOne (← getState).params.liquidationSurcharge.toNat
  addSurplus (← mulDiv report.stablecoinToReceive.toNat share ratioOne)
  if report.badDebt ≠ .zero then
    let badDebt ← (← getState).badDebt.add report.badDebt
    modifyState fun s => { s with badDebt }
  return report

end Engine

namespace Arena

/-- A liquidation, all or nothing. The caller is the liquidator. -/
def liquidate (ctx : Context) (p : Parties) (ids : List VaultId) (amounts : List Amount) :
    Transact Arena LiquidationReport :=
  atomically do
    let report ← onEngine (Engine.liquidateAll ctx ids amounts)
    handleRepay ctx p report.collateralToGive report.stablecoinToReceive
    return report

end Arena

end CollateralDebt
