import CollateralDebt.Document.Cause
import CollateralDebt.Engine.Call

/-!
# Documents of results

What the calls on an engine come to: payments, terms and reports of liquidations, settlements with
the treasury, and the requests that a swapper gets.
-/

namespace CollateralDebt

instance : Documented Payment :=
  ⟨fun p => .fields [
    ("stablecoin_amount_to_give", document p.stablecoinToGive),
    ("stablecoin_amount_to_receive", document p.stablecoinToReceive),
    ("collateral_amount_to_give", document p.collateralToGive),
    ("collateral_amount_to_receive", document p.collateralToReceive)]⟩

instance : Documented Opportunity :=
  ⟨fun o => .fields [
    ("max_stablecoin_amount_to_repay", document o.maxRepay),
    ("max_collateral_amount_given", document o.maxCollateral),
    ("threshold_repay_amount", document o.threshold),
    ("discount", document o.discount),
    ("current_debt", document o.currentDebt)]⟩

instance : Documented LiquidationReport :=
  ⟨fun r => .fields [
    ("oracle_value", document r.price),
    ("new_interest_accumulator", document r.accumulator),
    ("stablecoin_amount_to_receive", document r.stablecoinToReceive),
    ("collateral_amount_to_give", document r.collateralToGive),
    ("bad_debt_from_liquidation", document r.badDebt),
    ("liquidated", document r.liquidated),
    ("skipped", .items (r.skipped.map fun (id, cause) =>
      .items [document id, document cause]))]⟩

instance : Documented TreasuryAccrual :=
  ⟨fun a => .fields [("surplus", document a.surplus), ("bad_debt", document a.badDebt)]⟩

instance : Documented EngineReply where
  document
    | .nothing => .nothing
    | .payment p => document p
    | .report r => document r
    | .debtTaken amount => document amount
    | .accrual a => document a

instance : Documented SwapRequest :=
  ⟨fun r => .fields [
    ("initiator", document r.initiator),
    ("in_token", document r.inToken),
    ("out_token", document r.outToken),
    ("out_token_recipient", document r.outTokenRecipient),
    ("out_token_owed", document r.outTokenOwed),
    ("in_token_obtained", document r.inTokenObtained),
    ("data", .bytes r.data),
    ("timestamp", document r.timestamp)]⟩

end CollateralDebt
