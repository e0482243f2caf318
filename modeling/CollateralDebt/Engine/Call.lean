import CollateralDebt.Engine.Administration
import CollateralDebt.Engine.Batch
import CollateralDebt.Engine.Liquidation

/-!
# Calls on an engine

The changing calls on an engine as data, each with what it answers. The two calls that connect an
engine to another treasury or another price source are calls on the world, which keeps these
connections.

## What is stated here

- `EngineCall`, `EngineReply`: a call and an answer;
- `EngineCall.run`: what a call does in its surroundings.
-/

namespace CollateralDebt

/-- A changing call on an engine. -/
inductive EngineCall where
  | batch (parties : Parties) (actions : List Action)
  | encodedBatch (parties : Parties) (kinds : List ActionKind) (payloads : List Bytes)
  | liquidate (parties : Parties) (ids : List VaultId) (amounts : List Amount)
  | getDebtOut (id : VaultId) (amount : Amount) (senderBorrowFee senderRepayFee : UInt64)
  | accrueToTreasury
  | setParameter (code : String) (value : UInt64)
  | setDebtCeiling (debtCeiling : Amount)
  | setDusts (dust dustLiquidation dustCollateral : Amount)
  | setBoost (source : Option BoostSource) (thresholds : List Amount) (multipliers : List UInt64)
  | togglePause
  | toggleWhitelist (account : Address)
  | approve (account : Address) (id : VaultId)
  | setApprovalForAll (operator : Address) (approved : Bool)
  | transferVault (source recipient : Address) (id : VaultId)

/-- What a call on an engine answers. -/
inductive EngineReply where
  | nothing
  | payment (payment : Payment)
  | report (report : LiquidationReport)
  | debtTaken (amount : Amount)
  | accrual (accrual : TreasuryAccrual)
deriving DecidableEq

namespace EngineCall

/-- A call that concerns the engine alone, and answers nothing. -/
def quietly (m : Transact Engine Unit) : Transact Arena EngineReply := do
  Arena.onEngine m
  return .nothing

/-- Make a call. -/
def run (ctx : Context) : EngineCall → Transact Arena EngineReply
  | .batch parties actions => return .payment (← Arena.runBatch ctx parties actions)
  | .encodedBatch parties kinds payloads =>
    return .payment (← Arena.runEncodedBatch ctx parties kinds payloads)
  | .liquidate parties ids amounts => return .report (← Arena.liquidate ctx parties ids amounts)
  | .getDebtOut id amount senderBorrowFee senderRepayFee =>
    return .debtTaken (← Arena.onEngine (Engine.getDebtOut ctx.treasury ctx.caller ctx.now id amount
      senderBorrowFee senderRepayFee))
  | .accrueToTreasury => return .accrual (← Arena.accrueToTreasury ctx)
  | .setParameter code value => quietly (Engine.setParameterByCode ctx code value)
  | .setDebtCeiling debtCeiling => quietly (Engine.setDebtCeiling ctx debtCeiling)
  | .setDusts dust dustLiquidation dustCollateral =>
    quietly (Engine.setDusts ctx dust dustLiquidation dustCollateral)
  | .setBoost source thresholds multipliers =>
    quietly (Engine.setBoost ctx source thresholds multipliers)
  | .togglePause => quietly (Engine.togglePause ctx)
  | .toggleWhitelist account => quietly (Engine.toggleWhitelist ctx account)
  | .approve account id => quietly (Engine.approve ctx account id)
  | .setApprovalForAll operator approved => quietly (Engine.setApprovalForAll ctx operator approved)
  | .transferVault source recipient id => quietly (Engine.transferVault ctx source recipient id)

end EngineCall

end CollateralDebt
