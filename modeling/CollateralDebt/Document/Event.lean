import CollateralDebt.Document
import CollateralDebt.Event

/-!
# Documents of events

An event is published under the name of its kind, with its values and its time.
-/

namespace CollateralDebt

/-- The published name of a parameter. -/
def Parameter.name : Parameter → String
  | .collateralFactor => "CollateralFactor"
  | .targetHealthFactor => "TargetHealthFactor"
  | .borrowFee => "BorrowFee"
  | .repayFee => "RepayFee"
  | .interestRate => "InterestRate"
  | .liquidationSurcharge => "LiquidationSurcharge"
  | .maxLiquidationDiscount => "MaxLiquidationDiscount"

instance : Documented Parameter := ⟨fun p => .text p.name⟩

/-- The published name of a kind of event. -/
def EventKind.name : EventKind → String
  | .transfer => "Transfer"
  | .approval => "Approval"
  | .approvalForAll => "ApprovalForAll"
  | .whitelistToggled => "WhitelistToggled"
  | .collateralAmountUpdated => "CollateralAmountUpdated"
  | .internalDebtUpdated => "InternalDebtUpdated"
  | .debtTransferred => "DebtTransferred"
  | .interestAccumulatorUpdated => "InterestAccumulatorUpdated"
  | .vaultLiquidated => "VaultLiquidated"
  | .accruedToTreasury => "AccruedToTreasury"
  | .parameterUpdated => "ParameterUpdated"
  | .debtCeilingUpdated => "DebtCeilingUpdated"
  | .dustUpdated => "DustUpdated"
  | .boostUpdated => "LiquidationBoostParametersUpdated"
  | .pauseToggled => "PauseToggled"
  | .oracleUpdated => "OracleUpdated"
  | .treasuryUpdated => "TreasuryUpdated"
  | .tokenTransfer => "TokenTransfer"
  | .tokenMint => "TokenMint"
  | .tokenBurn => "TokenBurn"
  | .tokenApproval => "TokenApproval"
  | .minterRegistered => "MinterRegistered"
  | .priceUpdated => "PriceUpdated"
  | .operatorChanged => "OracleOperatorChanged"

instance : Documented EventKind := ⟨fun k => .text k.name⟩

/-- The values that go with an event, by their published names, without its time. -/
def Event.details : Event → List (String × Document)
  | .transfer source recipient vault _ =>
    [("from", document source), ("to", document recipient), ("vault_id", document vault)]
  | .approval owner approved vault _ =>
    [("owner", document owner), ("approved", document approved), ("vault_id", document vault)]
  | .approvalForAll owner operator approved _ =>
    [("owner", document owner), ("operator", document operator), ("approved", document approved)]
  | .whitelistToggled account whitelisted _ =>
    [("account", document account), ("whitelisted", document whitelisted)]
  | .collateralAmountUpdated vault amount increase _ =>
    [("vault_id", document vault), ("amount", document amount), ("increase", document increase)]
  | .internalDebtUpdated vault internalAmount increase _ =>
    [("vault_id", document vault), ("internal_amount", document internalAmount),
      ("increase", document increase)]
  | .debtTransferred receiving giving givingEngine requestedAmount amount _ =>
    [("src_vault_id", document receiving), ("dst_vault_id", document giving),
      ("dst_manager", document givingEngine), ("requested_amount", document requestedAmount),
      ("amount", document amount)]
  | .interestAccumulatorUpdated value _ => [("value", document value)]
  | .vaultLiquidated vault liquidator amountRepaid collateralReleased badDebt _ =>
    [("vault_id", document vault), ("liquidator", document liquidator),
      ("amount_repaid", document amountRepaid),
      ("collateral_released", document collateralReleased),
      ("bad_debt", document badDebt)]
  | .accruedToTreasury surplus badDebt _ =>
    [("surplus", document surplus), ("bad_debt", document badDebt)]
  | .parameterUpdated parameter value _ =>
    [("parameter", document parameter), ("value", document value)]
  | .debtCeilingUpdated debtCeiling _ => [("debt_ceiling", document debtCeiling)]
  | .dustUpdated dust dustLiquidation dustCollateral _ =>
    [("dust", document dust), ("dust_liquidation", document dustLiquidation),
      ("dust_collateral", document dustCollateral)]
  | .boostUpdated sourceSet thresholds multipliers _ =>
    [("boost_source_set", document sourceSet), ("x_boost", document thresholds),
      ("y_boost", document multipliers)]
  | .pauseToggled paused _ => [("paused", document paused)]
  | .oracleUpdated _ => []
  | .treasuryUpdated treasury _ => [("treasury", document treasury)]
  | .tokenTransfer asset source recipient amount _ =>
    [("asset", document asset), ("from", document source), ("to", document recipient),
      ("amount", document amount)]
  | .tokenMint asset recipient amount _ =>
    [("asset", document asset), ("to", document recipient), ("amount", document amount)]
  | .tokenBurn asset source amount _ =>
    [("asset", document asset), ("from", document source), ("amount", document amount)]
  | .tokenApproval asset owner spender amount _ =>
    [("asset", document asset), ("owner", document owner), ("spender", document spender),
      ("amount", document amount)]
  | .minterRegistered asset minter _ => [("asset", document asset), ("minter", document minter)]
  | .priceUpdated oldPrice newPrice _ =>
    [("old_price", document oldPrice), ("new_price", document newPrice)]
  | .operatorChanged oldOperator newOperator _ =>
    [("old_operator", document oldOperator), ("new_operator", document newOperator)]

instance : Documented Event :=
  ⟨fun e => .tagged e.kind.name (("timestamp", document e.timestamp) :: e.details)⟩

end CollateralDebt
