import CollateralDebt.Document
import CollateralDebt.Error

/-!
# Documents of causes

A cause is published by its name, its code, and the values that a caller needs to understand it.
-/

namespace CollateralDebt

namespace Error

/-- The published name of a cause. -/
def name : Error → String
  | .notGovernor .. => "NotGovernor"
  | .notGovernorOrGuardian .. => "NotGovernorOrGuardian"
  | .notApprovedOrOwner .. => "NotApprovedOrOwner"
  | .notTreasury .. => "NotTreasury"
  | .notEngine .. => "NotVaultManager"
  | .notWhitelisted .. => "NotWhitelisted"
  | .unauthorized .. => "Unauthorized"
  | .mintUnauthorized .. => "MintUnauthorized"
  | .tooHighParameterValue .. => "TooHighParameterValue"
  | .tooSmallParameterValue .. => "TooSmallParameterValue"
  | .invalidParameterValue .. => "InvalidParameterValue"
  | .invalidParameterType => "InvalidParameterType"
  | .invalidSetOfParameters .. => "InvalidSetOfParameters"
  | .dustyLeftoverAmount .. => "DustyLeftoverAmount"
  | .debtCeilingExceeded .. => "DebtCeilingExceeded"
  | .insolventAfterAction .. => "InsolventAfterAction"
  | .insolventVault .. => "InsolventVault"
  | .healthyVault .. => "HealthyVault"
  | .tooHighAmount .. => "TooHighAmount"
  | .noLiquidatableVaults => "NoLiquidatableVaults"
  | .zeroAmount .. => "InvalidAmount"
  | .insufficientBalance .. => "InsufficientBalance"
  | .insufficientAllowance .. => "InsufficientAllowance"
  | .zeroAddress => "ZeroAddress"
  | .nonexistentVault .. => "NonexistentVault"
  | .incompatibleLengths .. => "IncompatibleLengths"
  | .batchTooLarge .. => "BatchTooLarge"
  | .invalidActionPayload .. => "InvalidActionPayload"
  | .approvalToOwner => "ApprovalToOwner"
  | .approvalToCaller => "ApprovalToCaller"
  | .pausedCollateral => "PausedCollateral"
  | .expiredPermit .. => "ExpiredPermit"
  | .invalidSignature => "InvalidSignature"
  | .unknownAsset .. => "UnknownAsset"
  | .overflow => "Overflow"
  | .underflow => "Underflow"
  | .divisionByZero => "DivisionByZero"
  | .oracleStale .. => "OracleStale"
  | .oraclePriceDeviation .. => "OraclePriceDeviation"
  | .oracleUnavailable => "OracleUnavailable"

/-- The values that go with a cause, by their published names. -/
def details : Error → List (String × Document)
  | .notGovernor caller => [("caller", document caller)]
  | .notGovernorOrGuardian caller => [("caller", document caller)]
  | .notApprovedOrOwner vault caller => [("vault_id", document vault), ("caller", document caller)]
  | .notTreasury caller => [("caller", document caller)]
  | .notEngine manager => [("manager", document manager)]
  | .notWhitelisted account => [("account", document account)]
  | .unauthorized expected actual => [("expected", document expected), ("actual", document actual)]
  | .mintUnauthorized asset caller => [("asset", document asset), ("caller", document caller)]
  | .tooHighParameterValue setting value =>
    [("parameter", document setting.name), ("value", document value)]
  | .tooSmallParameterValue setting value =>
    [("parameter", document setting.name), ("value", document value)]
  | .invalidParameterValue setting => [("parameter", document setting.name)]
  | .invalidSetOfParameters reason => [("reason", document reason.wording)]
  | .dustyLeftoverAmount vault => [("vault_id", document vault)]
  | .debtCeilingExceeded totalDebt ceiling =>
    [("total_debt", document totalDebt), ("debt_ceiling", document ceiling)]
  | .insolventAfterAction vault healthFactor =>
    [("vault_id", document vault), ("health_factor", document healthFactor)]
  | .insolventVault vault => [("vault_id", document vault)]
  | .healthyVault vault healthFactor =>
    [("vault_id", document vault), ("health_factor", document healthFactor)]
  | .tooHighAmount requested maximum =>
    [("requested", document requested), ("maximum", document maximum)]
  | .zeroAmount amount => [("amount", document amount), ("reason", document "Zero")]
  | .insufficientBalance available requested =>
    [("available", document available), ("requested", document requested)]
  | .insufficientAllowance available requested =>
    [("available", document available), ("requested", document requested)]
  | .nonexistentVault vault => [("vault_id", document vault)]
  | .incompatibleLengths left right => [("left", document left), ("right", document right)]
  | .batchTooLarge size maximum => [("size", document size), ("maximum", document maximum)]
  | .invalidActionPayload index => [("index", document index)]
  | .expiredPermit deadline now => [("deadline", document deadline), ("now", document now)]
  | .unknownAsset asset => [("asset", document asset)]
  | .oracleStale lastUpdate now maxAge =>
    [("last_update", document lastUpdate), ("now", document now), ("max_age", document maxAge)]
  | .oraclePriceDeviation oldPrice newPrice maxDeviationBps =>
    [("old_price", document oldPrice), ("new_price", document newPrice),
      ("max_deviation_bps", document maxDeviationBps)]
  | .invalidParameterType | .noLiquidatableVaults | .zeroAddress | .approvalToOwner
  | .approvalToCaller | .pausedCollateral | .invalidSignature | .overflow | .underflow
  | .divisionByZero | .oracleUnavailable => []

instance : Documented Error :=
  ⟨fun e => .fields
    (("error", document e.name) :: ("message", document e.code) :: e.details)⟩

end Error

/-- The published name of a category. -/
def Category.name : Category → String
  | .accessControl => "AccessControl"
  | .parameterValidation => "ParameterValidation"
  | .solvencyOrDust => "SolvencyOrDust"
  | .arithmeticOrPrecondition => "ArithmeticOrPrecondition"
  | .external => "External"

end CollateralDebt
