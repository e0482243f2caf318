import CollateralDebt.Engine.Settlement

/-!
# Administration

The calls by which governors, guardians and the treasury run an engine. Each setter checks the new
value against the parameters that it constrains, so the parameters stay consistent as a whole:

| parameter                | constraint                          |
|--------------------------|-------------------------------------|
| collateral factor        | at most the liquidation surcharge   |
| target health factor     | at least one                        |
| borrow fee               | at most one                         |
| repay fee                | with the surcharge, at most one     |
| interest rate            | none; booked at the old rate first  |
| liquidation surcharge    | the three of the above it occurs in |
| max liquidation discount | below one                           |

## What is stated here

- `setParameter` and the other setters;
- `togglePause`, `toggleWhitelist`, `setOracle`, `setTreasury`;
- `Arena.accrueToTreasury`: surplus is netted against losses and paid out.
-/

namespace CollateralDebt

/-- What settling with the treasury came to: stablecoins minted to it, or losses not covered. -/
@[ext]
structure TreasuryAccrual where
  surplus : Amount
  badDebt : Amount
deriving DecidableEq

namespace Engine

/-- The value as an amount, in an error. -/
def tooHigh (setting : Setting) (value : UInt64) : Error :=
  .tooHighParameterValue setting (.ofUInt64 value)

/-- Check and set a parameter, without a check of the caller. -/
def applyParameter (now : Timestamp) (parameter : Parameter) (value : UInt64) :
    Transact Engine Unit := do
  let params := (← getState).params
  match parameter with
  | .collateralFactor =>
    Transact.require (value ≤ params.liquidationSurcharge) (tooHigh .collateralFactor value)
    modifyParams fun p => { p with collateralFactor := value }
  | .targetHealthFactor =>
    Transact.require (ratioOne ≤ value.toNat)
      (.tooSmallParameterValue .targetHealthFactor (.ofUInt64 value))
    modifyParams fun p => { p with targetHealthFactor := value }
  | .borrowFee =>
    Transact.require (value.toNat ≤ ratioOne) (tooHigh .borrowFee value)
    modifyParams fun p => { p with borrowFee := value }
  | .repayFee =>
    Transact.require (value.toNat + params.liquidationSurcharge.toNat ≤ ratioOne)
      (tooHigh .repayFee value)
    modifyParams fun p => { p with repayFee := value }
  | .interestRate =>
    let _ ← accrue now
    modifyParams fun p => { p with interestRate := value }
  | .liquidationSurcharge =>
    Transact.require
      (value ≠ 0 ∧ params.collateralFactor ≤ value ∧
        value.toNat + params.repayFee.toNat ≤ ratioOne)
      (.invalidParameterValue .liquidationSurcharge)
    modifyParams fun p => { p with liquidationSurcharge := value }
  | .maxLiquidationDiscount =>
    Transact.require (value.toNat < ratioOne) (tooHigh .maxLiquidationDiscount value)
    modifyParams fun p => { p with maxLiquidationDiscount := value }

/-- Set a parameter. -/
def setParameter (ctx : Context) (parameter : Parameter) (value : UInt64) :
    Transact Engine Unit := do
  requireGovernorOrGuardian ctx
  applyParameter ctx.now parameter value
  emit (.parameterUpdated parameter value ctx.now)

/-- Set a parameter by its code. -/
def setParameterByCode (ctx : Context) (code : String) (value : UInt64) :
    Transact Engine Unit := do
  setParameter ctx (← Parameter.ofCode code) value

/-- Set the debt ceiling. One below the current debt only stops further borrowing. -/
def setDebtCeiling (ctx : Context) (debtCeiling : Amount) : Transact Engine Unit := do
  requireGovernorOrGuardian ctx
  modifyParams fun p => { p with debtCeiling }
  emit (.debtCeilingUpdated debtCeiling ctx.now)

/-- Set the dust thresholds. -/
def setDusts (ctx : Context) (dust dustLiquidation dustCollateral : Amount) :
    Transact Engine Unit := do
  requireGovernor ctx
  Transact.require (dust ≤ dustLiquidation) (.invalidParameterValue .dust)
  modifyParams fun p => { p with dust, dustLiquidation, dustCollateral }
  emit (.dustUpdated dust dustLiquidation dustCollateral ctx.now)

/-- Replace the boost curve and the source of balances. -/
def setBoost (ctx : Context) (source : Option BoostSource) (thresholds : List Amount)
    (multipliers : List UInt64) : Transact Engine Unit := do
  requireGovernorOrGuardian ctx
  let boostCurve ← BoostCurve.ofPoints thresholds multipliers
  modifyParams fun p => { p with baseBoost := boostCurve.baseBoost }
  modifyState fun s => { s with boostCurve }
  modify fun e => { e with boostSource := source }
  emit (.boostUpdated source.isSome thresholds multipliers ctx.now)

/-- Pause the engine, or let it run again. -/
def togglePause (ctx : Context) : Transact Engine Unit := do
  requireGovernorOrGuardian ctx
  modifyState fun s => { s with paused := !s.paused }
  emit (.pauseToggled (← getState).paused ctx.now)

/-- Announce another price source; whoever runs the engine hands it in from then on. -/
def setOracle (ctx : Context) : Transact Engine Unit := do
  requireGovernor ctx
  emit (.oracleUpdated ctx.now)

/-- Go over to another treasury of the same stablecoin; only the treasury itself may. -/
def setTreasury (ctx : Context) (treasury : Treasury) : Transact Engine Unit := do
  requireTreasury ctx.caller
  Transact.require (treasury.stablecoin = (← getState).stablecoin)
    (.invalidParameterValue .treasury)
  modifyState fun s => { s with treasury := treasury.address }
  emit (.treasuryUpdated treasury.address ctx.now)

/-- List an account or strike it off; the zero address turns whitelisting itself on and off. -/
def toggleWhitelist (ctx : Context) (account : Address) : Transact Engine Unit := do
  requireGovernor ctx
  if account = .zero then
    modifyParams fun p => { p with whitelistingActivated := !p.whitelistingActivated }
    emit (.whitelistToggled account (← getState).params.whitelistingActivated ctx.now)
  else
    modifyRegistry (·.toggleWhitelisted account)
    emit (.whitelistToggled account ((← getState).registry.isWhitelisted account) ctx.now)

end Engine

namespace Arena

/-- The steps of settling with the treasury. -/
def processAccrual (ctx : Context) : Transact Arena TreasuryAccrual := do
  onEngine (Engine.requireTreasury ctx.caller)
  let _ ← onEngine (Engine.accrue ctx.now)
  let s := (← get).engine.state
  let accrual : TreasuryAccrual := ⟨s.surplus.monus s.badDebt, s.badDebt.monus s.surplus⟩
  onEngine (Engine.modifyState fun s => { s with surplus := .zero, badDebt := .zero })
  if accrual.surplus ≠ .zero then
    onLedger (Ledger.mint s.stablecoin s.address s.treasury accrual.surplus ctx.now)
  onEngine (Engine.emit (.accruedToTreasury accrual.surplus accrual.badDebt ctx.now))
  return accrual

/-- Net the surplus against the losses and start both anew; what is left of the surplus is minted to
the treasury. All or nothing, and for the treasury alone. -/
def accrueToTreasury (ctx : Context) : Transact Arena TreasuryAccrual :=
  atomically (processAccrual ctx)

end Arena

end CollateralDebt
