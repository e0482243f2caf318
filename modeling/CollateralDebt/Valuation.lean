import CollateralDebt.FixedPoint

/-!
# Valuation of positions

A price is the value of one whole unit of collateral, so the value of an amount of collateral is a
product divided by the size of that unit. The health factor compares the part of the value that may
be borrowed with the debt.
-/

namespace CollateralDebt

/-- The value of `collateral` at `price`, where `unit` is one whole unit of the asset. -/
def collateralValue (collateral price unit : Amount) : Outcome Amount :=
  mulDiv collateral.toNat price.toNat unit.toNat

/-- The borrowable part of `value` divided by `debt`, as a ratio. Without debt it is the largest
amount. -/
def healthFactor (value : Amount) (collateralFactor : UInt64) (debt : Amount) : Outcome Amount :=
  if debt.toNat = 0 then .ok .largest
  else mulDiv value.toNat collateralFactor.toNat debt.toNat

/-- A health factor of one or more. -/
def isSolvent (healthFactor : Amount) : Bool := ratioOne ≤ healthFactor.toNat

/-- A fee on an amount, rounded down. -/
def feeOf (amount : Amount) (fee : UInt64) : Outcome Amount :=
  mulDiv amount.toNat fee.toNat ratioOne

end CollateralDebt
