import CollateralDebt.FixedPoint
import CollateralDebt.Wire

/-!
# Market parameters

What governs the risk of one collateral market. Ratios are in billionths, the interest rate is per
second in `10 ^ 27`ths, amounts are in stablecoins. The parameters constrain each other; `validate`
is the whole of these constraints.

## What is stated here

- `Parameters`, with the defaults of a new market;
- `Parameters.validate`: the first constraint that is broken, if any;
- `Parameter`: the parameters that are set one by one, with their codes.
-/

namespace CollateralDebt

/-- The risk parameters of a market. -/
@[ext]
structure Parameters where
  /-- The most actual debt that may be outstanding. -/
  debtCeiling : Amount
  /-- The part of the collateral's value that may be borrowed. -/
  collateralFactor : UInt64
  /-- The health factor that a liquidation brings a vault back to. -/
  targetHealthFactor : UInt64
  /-- Interest per second. -/
  interestRate : UInt64
  /-- The part of a liquidated amount that repays debt; the protocol takes the rest. -/
  liquidationSurcharge : UInt64
  /-- The cap on the liquidation discount. -/
  maxLiquidationDiscount : UInt64
  /-- The fee kept back from borrowed stablecoins. -/
  borrowFee : UInt64
  /-- The fee charged on top of repaid debt. -/
  repayFee : UInt64
  /-- The least debt of a vault that has any. -/
  dust : Amount
  /-- The least debt that a partial liquidation may leave. -/
  dustLiquidation : Amount
  /-- The least value of collateral that a partial liquidation may leave. -/
  dustCollateral : Amount
  /-- Whether only listed accounts may create and receive vaults. -/
  whitelistingActivated : Bool
  /-- The boost of liquidators while there is no source of boost balances. -/
  baseBoost : UInt64
deriving DecidableEq

namespace Parameters

/-- The parameters of a new market: interest of about half a percent a year, and ten million
stablecoins at most. -/
def default : Parameters where
  debtCeiling := ⟨10_000_000 * tokenOne, by decide⟩
  collateralFactor := 800_000_000
  targetHealthFactor := 1_100_000_000
  interestRate := 158_153_934_393_112_649
  liquidationSurcharge := 900_000_000
  maxLiquidationDiscount := 100_000_000
  borrowFee := 0
  repayFee := 0
  dust := ⟨tokenOne, by decide⟩
  dustLiquidation := ⟨tokenOne, by decide⟩
  dustCollateral := ⟨tokenOne / 10, by decide⟩
  whitelistingActivated := false
  baseBoost := 1_500_000_000

instance : Inhabited Parameters := ⟨default⟩

/-- Refuse parameters that are inconsistent as a whole, for the first constraint they break. -/
def validate (p : Parameters) : Outcome Unit := do
  let surcharge := p.liquidationSurcharge.toNat
  let refuse (reason : Inconsistency) := Error.invalidSetOfParameters reason
  Outcome.require (0 < surcharge ∧ surcharge ≤ ratioOne) (refuse .liquidationSurchargeRange)
  Outcome.require (p.collateralFactor.toNat ≤ surcharge) (refuse .collateralFactorAboveSurcharge)
  Outcome.require (ratioOne ≤ p.targetHealthFactor.toNat) (refuse .targetHealthFactorBelowOne)
  Outcome.require (p.maxLiquidationDiscount.toNat < ratioOne) (refuse .maxDiscountNotBelowOne)
  Outcome.require (p.baseBoost ≠ 0) (refuse .baseBoostZero)
  Outcome.require (p.borrowFee.toNat ≤ ratioOne) (refuse .borrowFeeAboveOne)
  Outcome.require (p.repayFee.toNat + surcharge ≤ ratioOne) (refuse .repayFeeAndSurchargeAboveOne)
  Outcome.require (p.dust ≤ p.dustLiquidation) (refuse .dustAboveLiquidationDust)

instance : Wire Parameters :=
  .via
    (fun p => (p.debtCeiling, p.collateralFactor, p.targetHealthFactor, p.interestRate,
      p.liquidationSurcharge, p.maxLiquidationDiscount, p.borrowFee, p.repayFee, p.dust,
      p.dustLiquidation, p.dustCollateral, p.whitelistingActivated, p.baseBoost))
    fun (debtCeiling, collateralFactor, targetHealthFactor, interestRate, liquidationSurcharge,
        maxLiquidationDiscount, borrowFee, repayFee, dust, dustLiquidation, dustCollateral,
        whitelistingActivated, baseBoost) =>
      { debtCeiling, collateralFactor, targetHealthFactor, interestRate, liquidationSurcharge,
        maxLiquidationDiscount, borrowFee, repayFee, dust, dustLiquidation, dustCollateral,
        whitelistingActivated, baseBoost }

end Parameters

/-- A parameter that is set on its own. -/
inductive Parameter where
  | collateralFactor
  | targetHealthFactor
  | borrowFee
  | repayFee
  | interestRate
  | liquidationSurcharge
  | maxLiquidationDiscount
deriving DecidableEq

namespace Parameter

/-- The code that a caller names a parameter by. -/
def code : Parameter → String
  | .collateralFactor => "CF"
  | .targetHealthFactor => "THF"
  | .borrowFee => "BF"
  | .repayFee => "RF"
  | .interestRate => "IR"
  | .liquidationSurcharge => "LS"
  | .maxLiquidationDiscount => "MLD"

/-- All parameters, in the order of their bytes. -/
def all : List Parameter :=
  [.collateralFactor, .targetHealthFactor, .borrowFee, .repayFee, .interestRate,
    .liquidationSurcharge, .maxLiquidationDiscount]

/-- The parameter with a code. -/
def ofCode (code : String) : Outcome Parameter :=
  Outcome.ofOption .invalidParameterType (all.find? (·.code == code))

/-- The byte that stands for a parameter. -/
def toByte : Parameter → UInt8
  | .collateralFactor => 0
  | .targetHealthFactor => 1
  | .borrowFee => 2
  | .repayFee => 3
  | .interestRate => 4
  | .liquidationSurcharge => 5
  | .maxLiquidationDiscount => 6

/-- The parameter that a byte stands for. -/
def ofByte? (b : UInt8) : Option Parameter := all.find? (·.toByte == b)

instance : Wire Parameter := .viaByte toByte ofByte?

end Parameter

end CollateralDebt
