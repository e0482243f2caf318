import CollateralDebt.Amount
import CollateralDebt.Bytes32
import CollateralDebt.Vault
import CollateralDebt.Error
import CollateralDebt.Outcome
import CollateralDebt.FixedPoint
import CollateralDebt.Interest
import CollateralDebt.Valuation
import CollateralDebt.Table
import CollateralDebt.Wire
import CollateralDebt.Sha256
import CollateralDebt.Parameters
import CollateralDebt.BoostCurve
import CollateralDebt.Event
import CollateralDebt.Permit
import CollateralDebt.Action
import CollateralDebt.Ledger
import CollateralDebt.Ledger.Call
import CollateralDebt.PriceFeed
import CollateralDebt.PriceFeed.Call
import CollateralDebt.Treasury
import CollateralDebt.Treasury.Call
import CollateralDebt.Registry
import CollateralDebt.Engine.Basic
import CollateralDebt.Engine.Accrual
import CollateralDebt.Engine.Ownership
import CollateralDebt.Engine.Debt
import CollateralDebt.Engine.Settlement
import CollateralDebt.Engine.Batch
import CollateralDebt.Engine.Liquidation
import CollateralDebt.Engine.Administration
import CollateralDebt.Engine.Call
import CollateralDebt.World
import CollateralDebt.World.Call
import CollateralDebt.Document
import CollateralDebt.Document.Cause
import CollateralDebt.Document.Event
import CollateralDebt.Document.Action
import CollateralDebt.Document.Market
import CollateralDebt.Document.Report
import CollateralDebt.Proofs.Transact
import CollateralDebt.Proofs.FixedPoint
import CollateralDebt.Proofs.Table
import CollateralDebt.Proofs.Failures
import CollateralDebt.Proofs.Tame
import CollateralDebt.Proofs.BoostCurve
import CollateralDebt.Proofs.Registry
import CollateralDebt.Proofs.Ledger
import CollateralDebt.Proofs.Supply
import CollateralDebt.Proofs.Engine.Basic
import CollateralDebt.Proofs.Engine.Fit
import CollateralDebt.Proofs.Engine.Debt
import CollateralDebt.Proofs.Engine.Exact
import CollateralDebt.Proofs.Engine.Verdict
import CollateralDebt.Proofs.Engine.Liquidation
import CollateralDebt.Proofs.Engine.LiquidationRound
import CollateralDebt.Proofs.Engine.Administration
import CollateralDebt.Proofs.Engine.Arithmetic
import CollateralDebt.Proofs.Engine.Settlement
import CollateralDebt.Proofs.Engine.Batch
import CollateralDebt.Proofs.Engine.Undo
import CollateralDebt.Proofs.Engine.Call
import CollateralDebt.Proofs.World.Seats
import CollateralDebt.Proofs.World.Step
import CollateralDebt.Proofs.DebtTotal
import CollateralDebt.Proofs.World.Run
import CollateralDebt.Proofs.Configuration
import CollateralDebt.Proofs.Engine.Worth
import CollateralDebt.Proofs.Backing
import CollateralDebt.Proofs.Engine.Deposits
import CollateralDebt.Proofs.Custody
import CollateralDebt.Proofs.BatchGuarantee
import CollateralDebt.Proofs.Refusal
import CollateralDebt.Proofs.Independence
import CollateralDebt.Proofs.Engine.Rights
import CollateralDebt.Proofs.Authorization
import CollateralDebt.Proofs.Engine.Terms
import CollateralDebt.Proofs.Engine.TameCall
import CollateralDebt.Proofs.Arithmetic
import CollateralDebt.Proofs.Engine.Trace
import CollateralDebt.Proofs.Engine.TraceCall
import CollateralDebt.Proofs.World.Trace
import CollateralDebt.Proofs.Registry.WellFormed
import CollateralDebt.Proofs.Ownership
import CollateralDebt.Proofs.Journal
import CollateralDebt.Proofs.Dust
import CollateralDebt.Proofs.Compounding
import CollateralDebt.Proofs.Engine.Drain
import CollateralDebt.Proofs.World.Drain
import CollateralDebt.Proofs.DebtGrowth
import CollateralDebt.Proofs.Permits
import CollateralDebt.Proofs.Conservation
import CollateralDebt.Proofs.Governance
import CollateralDebt.Proofs.Engine.Netting
import CollateralDebt.Proofs.Netting
import CollateralDebt.Proofs.Acceptances
import CollateralDebt.Proofs.Engine.Transcript
import CollateralDebt.Proofs.Replay
import CollateralDebt.Proofs.Wire
import CollateralDebt.Proofs.BatchForm
import CollateralDebt.Proofs.EventForm
import CollateralDebt.Proofs.Persistence
import CollateralDebt.Proofs.PriceMoves
import CollateralDebt.Proofs.Engine.Regime
import CollateralDebt.Proofs.Engine.Exchange
import CollateralDebt.Proofs.World.Midway
import CollateralDebt.Proofs.LiquidationPrice
import CollateralDebt.Proofs.LiquidationTarget
import CollateralDebt.Proofs.LeftoverDebt
import CollateralDebt.Proofs.CompoundingAccuracy
import CollateralDebt.Proofs.DebtTransfer
import CollateralDebt.Proofs.Allowances
import CollateralDebt.Proofs.NetFlows
import CollateralDebt.Proofs.LiquidationQuote
import CollateralDebt.Proofs.LeftoverCollateral
import CollateralDebt.Proofs.LiquidationProgress
import CollateralDebt.Proofs.Repayment
import CollateralDebt.Proofs.RoundTrip
import CollateralDebt.Proofs.Interpolation
import CollateralDebt.Proofs.BoostedDiscount
