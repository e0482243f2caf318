import CollateralDebt.Bytes32
import CollateralDebt.Vault

/-!
# Rejections

Every call that is refused says why. An `Error` is the cause, with the values a caller needs to
understand it; its stable code, its category and whether the caller can repair it are functions of
the cause.

## What is stated here

- `Error`: the causes;
- `Error.code`, `Error.category`, `Error.isRecoverable`: what is published about a cause.
-/

namespace CollateralDebt

/-- A setting that an administrative call can get wrong. -/
inductive Setting where
  | collateralFactor
  | targetHealthFactor
  | borrowFee
  | repayFee
  | liquidationSurcharge
  | maxLiquidationDiscount
  | dust
  | treasury
  | operator
  | asset
  | governor
deriving DecidableEq

/-- The published name of a setting. -/
def Setting.name : Setting → String
  | .collateralFactor => "collateral_factor"
  | .targetHealthFactor => "target_health_factor"
  | .borrowFee => "borrow_fee"
  | .repayFee => "repay_fee"
  | .liquidationSurcharge => "liquidation_surcharge"
  | .maxLiquidationDiscount => "max_liquidation_discount"
  | .dust => "dust"
  | .treasury => "treasury"
  | .operator => "operator"
  | .asset => "asset"
  | .governor => "governor"

/-- What can be wrong with a set of parameters taken together. -/
inductive Inconsistency where
  | boostLengthsDiffer
  | boostPointCount
  | baseBoostZero
  | boostThresholdsNotIncreasing
  | boostMultipliersDecreasing
  | collateralDecimals
  | liquidationSurchargeRange
  | collateralFactorAboveSurcharge
  | targetHealthFactorBelowOne
  | maxDiscountNotBelowOne
  | borrowFeeAboveOne
  | repayFeeAndSurchargeAboveOne
  | dustAboveLiquidationDust
deriving DecidableEq

/-- The published wording of an inconsistency. -/
def Inconsistency.wording : Inconsistency → String
  | .boostLengthsDiffer => "boost arrays differ in length"
  | .boostPointCount => "boost point count out of range"
  | .baseBoostZero => "base boost is zero"
  | .boostThresholdsNotIncreasing => "boost thresholds not increasing"
  | .boostMultipliersDecreasing => "boost multipliers decreasing"
  | .collateralDecimals => "collateral decimals above 27"
  | .liquidationSurchargeRange => "liquidation surcharge out of range"
  | .collateralFactorAboveSurcharge => "collateral factor above liquidation surcharge"
  | .targetHealthFactorBelowOne => "target health factor below one"
  | .maxDiscountNotBelowOne => "max liquidation discount not below one"
  | .borrowFeeAboveOne => "borrow fee above one"
  | .repayFeeAndSurchargeAboveOne => "repay fee and surcharge above one"
  | .dustAboveLiquidationDust => "dust above liquidation dust"

/-- Why a call is refused. -/
inductive Error where
  /-- The caller is no governor of the treasury. -/
  | notGovernor (caller : Address)
  /-- The caller is neither governor nor guardian. -/
  | notGovernorOrGuardian (caller : Address)
  /-- The caller may not act on the vault. -/
  | notApprovedOrOwner (vault : VaultId) (caller : Address)
  /-- The caller is not the treasury. -/
  | notTreasury (caller : Address)
  /-- The address is no engine registered with the treasury. -/
  | notEngine (engine : Address)
  /-- Whitelisting is active and the account is not listed. -/
  | notWhitelisted (account : Address)
  /-- The caller is not the account in charge. -/
  | unauthorized (expected actual : Address)
  /-- The caller may neither mint nor burn the asset. -/
  | mintUnauthorized (asset caller : Address)
  /-- A setting above its bound. -/
  | tooHighParameterValue (setting : Setting) (value : Amount)
  /-- A setting below its bound. -/
  | tooSmallParameterValue (setting : Setting) (value : Amount)
  /-- A setting at odds with the others. -/
  | invalidParameterValue (setting : Setting)
  /-- No parameter has this code. -/
  | invalidParameterType
  /-- The parameters are inconsistent as a whole. -/
  | invalidSetOfParameters (reason : Inconsistency)
  /-- A debt other than zero, but below the dust threshold, would be left. -/
  | dustyLeftoverAmount (vault : VaultId)
  /-- The engine's debt would exceed its ceiling. -/
  | debtCeilingExceeded (totalDebt ceiling : Amount)
  /-- A vault that the batch weakened is below the required health factor. -/
  | insolventAfterAction (vault : VaultId) (healthFactor : Amount)
  /-- The vault is liquidatable and cannot be closed. -/
  | insolventVault (vault : VaultId)
  /-- The vault is healthy and cannot be liquidated. -/
  | healthyVault (vault : VaultId) (healthFactor : Amount)
  /-- More than the largest repayable amount was offered. -/
  | tooHighAmount (requested maximum : Amount)
  /-- No vault of the call could be liquidated. -/
  | noLiquidatableVaults
  /-- An amount of zero where some amount is needed. -/
  | zeroAmount (amount : Amount)
  | insufficientBalance (available requested : Amount)
  | insufficientAllowance (available requested : Amount)
  /-- The zero address cannot be used here. -/
  | zeroAddress
  /-- The vault was never created, or has been closed. -/
  | nonexistentVault (vault : VaultId)
  /-- Lists that go together differ in length, or are empty. -/
  | incompatibleLengths (left right : Nat)
  | batchTooLarge (size maximum : Nat)
  /-- The payload of the action at this place cannot be read. -/
  | invalidActionPayload (index : Nat)
  | approvalToOwner
  | approvalToCaller
  /-- The engine is paused. -/
  | pausedCollateral
  | expiredPermit (deadline now : Timestamp)
  | invalidSignature
  /-- The ledger does not know the asset. -/
  | unknownAsset (asset : Address)
  /-- A result above its range. -/
  | overflow
  /-- A result below zero. -/
  | underflow
  | divisionByZero
  | oracleStale (lastUpdate now maxAge : Timestamp)
  | oraclePriceDeviation (oldPrice newPrice : Amount) (maxDeviationBps : UInt64)
  /-- There is no usable price. -/
  | oracleUnavailable
deriving DecidableEq

/-- The kinds of refusal. -/
inductive Category where
  /-- The caller lacks a role or an approval. -/
  | accessControl
  /-- An administrative call with values out of bounds. -/
  | parameterValidation
  /-- A solvency, dust or ceiling rule would be broken. -/
  | solvencyOrDust
  /-- Bad input, or arithmetic that leaves its range. -/
  | arithmeticOrPrecondition
  /-- The price source failed. -/
  | external
deriving DecidableEq

namespace Error

/-- The stable code of a cause. -/
def code : Error → String
  | .notGovernor .. => "E001_NOT_GOVERNOR"
  | .notGovernorOrGuardian .. => "E002_NOT_GOVERNOR_OR_GUARDIAN"
  | .notApprovedOrOwner .. => "E003_NOT_APPROVED_OR_OWNER"
  | .notTreasury .. => "E004_NOT_TREASURY"
  | .notEngine .. => "E005_NOT_VAULT_MANAGER"
  | .notWhitelisted .. => "E006_NOT_WHITELISTED"
  | .unauthorized .. => "E007_UNAUTHORIZED"
  | .mintUnauthorized .. => "E008_MINT_UNAUTH"
  | .tooHighParameterValue .. => "E010_TOO_HIGH_PARAM"
  | .tooSmallParameterValue .. => "E011_TOO_SMALL_PARAM"
  | .invalidParameterValue .. => "E012_INVALID_PARAM_VALUE"
  | .invalidParameterType => "E013_INVALID_PARAM_TYPE"
  | .invalidSetOfParameters .. => "E014_INVALID_PARAM_SET"
  | .dustyLeftoverAmount .. => "E020_DUSTY_LEFTOVER"
  | .debtCeilingExceeded .. => "E021_DEBT_CEILING"
  | .insolventAfterAction .. => "E022_INSOLVENT_AFTER_ACTION"
  | .insolventVault .. => "E023_INSOLVENT_VAULT"
  | .healthyVault .. => "E024_HEALTHY_VAULT"
  | .tooHighAmount .. => "E025_TOO_HIGH_AMOUNT"
  | .noLiquidatableVaults => "E026_NO_LIQ_VAULTS"
  | .zeroAmount .. => "E030_INVALID_AMOUNT"
  | .insufficientBalance .. => "E031_INSUFFICIENT_BALANCE"
  | .insufficientAllowance .. => "E032_INSUFFICIENT_ALLOWANCE"
  | .zeroAddress => "E033_ZERO_ADDRESS"
  | .nonexistentVault .. => "E034_NONEXISTENT_VAULT"
  | .incompatibleLengths .. => "E035_INCOMPATIBLE_LENGTHS"
  | .batchTooLarge .. => "E036_BATCH_TOO_LARGE"
  | .invalidActionPayload .. => "E037_INVALID_PAYLOAD"
  | .approvalToOwner => "E038_APPROVAL_TO_OWNER"
  | .approvalToCaller => "E039_APPROVAL_TO_CALLER"
  | .pausedCollateral => "E040_PAUSED"
  | .expiredPermit .. => "E041_EXPIRED_PERMIT"
  | .invalidSignature => "E042_INVALID_SIGNATURE"
  | .unknownAsset .. => "E043_UNKNOWN_ASSET"
  | .overflow => "E050_OVERFLOW"
  | .underflow => "E051_UNDERFLOW"
  | .divisionByZero => "E052_DIV_ZERO"
  | .oracleStale .. => "E060_ORACLE_STALE"
  | .oraclePriceDeviation .. => "E061_ORACLE_DEVIATION"
  | .oracleUnavailable => "E062_ORACLE_UNAVAILABLE"

/-- The kind of a cause. -/
def category : Error → Category
  | .notGovernor .. | .notGovernorOrGuardian .. | .notApprovedOrOwner .. | .notTreasury ..
  | .notEngine .. | .notWhitelisted .. | .unauthorized .. | .mintUnauthorized ..
  | .approvalToOwner | .approvalToCaller => .accessControl
  | .tooHighParameterValue .. | .tooSmallParameterValue .. | .invalidParameterValue ..
  | .invalidParameterType | .invalidSetOfParameters .. => .parameterValidation
  | .dustyLeftoverAmount .. | .debtCeilingExceeded .. | .insolventAfterAction ..
  | .insolventVault .. | .healthyVault .. | .tooHighAmount ..
  | .noLiquidatableVaults => .solvencyOrDust
  | .oracleStale .. | .oraclePriceDeviation .. | .oracleUnavailable => .external
  | _ => .arithmeticOrPrecondition

/-- Whether the caller can repair the cause: by bringing funds, repaying another amount, or
waiting. -/
def isRecoverable : Error → Bool
  | .insolventAfterAction .. | .insufficientBalance .. | .insufficientAllowance ..
  | .dustyLeftoverAmount .. | .tooHighAmount .. | .oracleStale .. | .pausedCollateral => true
  | _ => false

end Error

end CollateralDebt
