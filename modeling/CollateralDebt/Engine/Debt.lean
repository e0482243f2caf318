import CollateralDebt.Engine.Accrual
import CollateralDebt.Engine.Ownership

/-!
# Collateral and debt of a vault

What each action does to the vault it names and to the totals of the engine. Debt is added and
removed in normalized units; whatever is left in a vault is nothing or no dust. Repaid debt is
counted in actual units, and everything that leaves a vault for good is rounded against the payer.

## What is stated here

- `addNormalizedDebt`, `removeNormalizedDebt`: the only ways in which single actions change debt;
- `increaseDebt`, `decreaseDebt`: the same in actual units;
- `addCollateral`, `removeCollateral`, `borrow`, `repayDebt`, `closeVault`: the actions;
- `getDebtOut`: the giving side of a transfer of debt between engines.
-/

namespace CollateralDebt.Engine

/-! ## Debt -/

/-- Add normalized debt to a vault. What it owes then may not be dust, and not nothing. -/
def addNormalizedDebt (now : Timestamp) (id : VaultId) (change accumulator : Amount) :
    Transact Engine Unit := do
  let s ← getState
  let v ← findVault id
  let normalizedDebt ← v.normalizedDebt.add change
  Transact.require (normalizedDebt ≠ .zero ∧ ¬ isDusty normalizedDebt accumulator s.params.dust)
    (.dustyLeftoverAmount id)
  putVault id { v with normalizedDebt }
  let totalNormalizedDebt ← s.totalNormalizedDebt.add change
  modifyState fun s => { s with totalNormalizedDebt }
  emit (.internalDebtUpdated id change true now)

/-- Remove normalized debt from a vault. What it owes then may not be dust. -/
def removeNormalizedDebt (now : Timestamp) (id : VaultId) (change accumulator : Amount) :
    Transact Engine Unit := do
  let s ← getState
  let v ← findVault id
  let normalizedDebt ← v.normalizedDebt.minus change
  Transact.require (¬ isDusty normalizedDebt accumulator s.params.dust) (.dustyLeftoverAmount id)
  putVault id { v with normalizedDebt }
  let totalNormalizedDebt ← s.totalNormalizedDebt.minus change
  modifyState fun s => { s with totalNormalizedDebt }
  if change ≠ .zero then
    emit (.internalDebtUpdated id change false now)

/-- Add actual debt to a vault. -/
def increaseDebt (now : Timestamp) (id : VaultId) (amount accumulator : Amount) :
    Transact Engine Unit := do
  let change ← normalize amount accumulator
  addNormalizedDebt now id change accumulator

/-- Remove at most `amount` of actual debt from a vault, and tell how much: `amount`, or all that
the vault owed, rounded up. -/
def decreaseDebt (now : Timestamp) (id : VaultId) (amount accumulator : Amount) :
    Transact Engine Amount := do
  let v ← findVault id
  let change ← normalize amount accumulator
  if v.normalizedDebt ≤ change then
    let repaid ← debtOfUp v.normalizedDebt accumulator
    removeNormalizedDebt now id v.normalizedDebt accumulator
    return repaid
  else
    removeNormalizedDebt now id change accumulator
    return amount

/-- What is charged for repaid debt, so that it is left after the repay fee. The fee is surplus. -/
def chargeRepayFee (repaid : Amount) : Transact Engine Amount := do
  let kept ← Wide.sub ratioOne (← getState).params.repayFee.toNat
  let charged ← mulDivUp repaid.toNat ratioOne kept
  addSurplus (← charged.uncheckedMinus repaid)
  return charged

/-! ## Actions -/

/-- Add collateral to a vault. Anybody may. -/
def addCollateral (now : Timestamp) (id : VaultId) (amount : Amount) : Transact Engine Unit := do
  requireAmount amount
  let v ← findVault id
  let collateral ← v.collateral.add amount
  putVault id { v with collateral }
  emit (.collateralAmountUpdated id amount true now)

/-- Remove collateral from a vault. -/
def removeCollateral (ctx : Context) (id : VaultId) (amount : Amount) : Transact Engine Unit := do
  requireAmount amount
  requireMayAct ctx.caller id
  let v ← findVault id
  if h : amount ≤ v.collateral then
    putVault id { v with collateral := v.collateral.sub amount h }
    emit (.collateralAmountUpdated id amount false ctx.now)
  else
    Transact.reject (.insufficientBalance v.collateral amount)

/-- Borrow, and tell how much is paid out after the fee. -/
def borrow (ctx : Context) (id : VaultId) (amount accumulator : Amount) :
    Transact Engine Amount := do
  requireAmount amount
  requireMayAct ctx.caller id
  increaseDebt ctx.now id amount accumulator
  let fee ← feeOf amount (← getState).params.borrowFee
  addSurplus fee
  amount.uncheckedMinus fee

/-- Repay, and tell how much is charged with the fee. Anybody may. -/
def repayDebt (now : Timestamp) (id : VaultId) (amount accumulator : Amount) :
    Transact Engine Amount := do
  requireAmount amount
  let repaid ← decreaseDebt now id amount accumulator
  chargeRepayFee repaid

/-- Close a vault that is without debt or solvent. Tells how much is charged for its debt, and how
much collateral is released. -/
def closeVault (ctx : Context) (id : VaultId) (accumulator : Amount) :
    Transact Engine (Amount × Amount) := do
  requireMayAct ctx.caller id
  let v ← findVault id
  let owed ←
    if v.normalizedDebt = .zero then pure .zero
    else do
      let price ← ctx.price
      let health ← healthAt (← getState) v price accumulator
      Transact.require (isSolvent health) (.insolventVault id)
      let debt ← debtOfUp v.normalizedDebt accumulator
      let owed ← chargeRepayFee debt
      let totalNormalizedDebt ← (← getState).totalNormalizedDebt.minus v.normalizedDebt
      modifyState fun s => { s with totalNormalizedDebt }
      emit (.internalDebtUpdated id v.normalizedDebt false ctx.now)
      pure owed
  burnVault ctx.now id
  return (owed, v.collateral)

/-! ## Debt between engines -/

/-- The part of a transferred amount that is left after the two differences of fees, as a ratio
rounded down. -/
def feeKept (repayFeeDelta borrowFeeDelta : Nat) : Outcome Amount :=
  mulDiv (ratioOne - min repayFeeDelta ratioOne) (ratioOne - min borrowFeeDelta ratioOne) ratioOne

/-- Repay debt of a vault for another engine, and tell how much debt that engine has to take on.
Moving debt away from dearer fees must not dodge them, so what the fees of the two engines differ by
is kept here as surplus. -/
def payDebtOut (now : Timestamp) (id : VaultId) (amount : Amount)
    (senderBorrowFee senderRepayFee : UInt64) : Transact Engine Amount := do
  let accumulator ← accrue now
  let params := (← getState).params
  let kept ← feeKept (params.repayFee.toNat - senderRepayFee.toNat)
    (senderBorrowFee.toNat - params.borrowFee.toNat)
  let lessFee ← mulDiv amount.toNat kept.toNat ratioOne
  let repaid ← decreaseDebt now id lessFee accumulator
  let taken ←
    if lessFee ≤ repaid then pure amount
    else do
      let scaled ← mulDivUp repaid.toNat ratioOne kept.toNat
      pure (min scaled amount)
  addSurplus (taken.monus repaid)
  return taken

/-- The giving side of a transfer of debt: all of `payDebtOut` or nothing, for engines of the same
treasury alone. -/
def getDebtOut (treasury : Treasury) (caller : Address) (now : Timestamp) (id : VaultId)
    (amount : Amount) (senderBorrowFee senderRepayFee : UInt64) : Transact Engine Amount := do
  Transact.require (treasury.isEngine caller) (.notEngine caller)
  requireUnpaused
  requireAmount amount
  Transact.atomically (fun before after => after.restore before.checkpoint)
    (payDebtOut now id amount senderBorrowFee senderRepayFee)

end CollateralDebt.Engine
