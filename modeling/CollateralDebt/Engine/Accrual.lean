import CollateralDebt.Engine.Basic

/-!
# Accrual of interest

The accumulator compounds lazily: the first changing call of each instant books it. The interest
that it adds to the outstanding debt is surplus of the engine.
-/

namespace CollateralDebt.Engine

/-- Book the accumulator up to now, and the interest as surplus. -/
def accrue (now : Timestamp) : Transact Engine Amount := do
  let s ← getState
  let accumulator ← (← get).currentAccumulator now
  if s.accumulator < accumulator then
    let interest ← mulDiv s.totalNormalizedDebt.toNat
      (accumulator.toNat - s.accumulator.toNat) accumulatorOne
    addSurplus interest
    modifyState fun s => { s with accumulator }
    emit (.interestAccumulatorUpdated accumulator now)
  if s.accruedAt < now then
    modifyState fun s => { s with accruedAt := now }
  return accumulator

end CollateralDebt.Engine
