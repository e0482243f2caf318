import CollateralDebt.Parameters

/-!
# Events

What happened, in the order in which it happened. Engines, the ledger and price feeds each keep a
log; every event carries its time. Events are filed by kind, and written as one byte for the place
of the kind in this module followed by the fields and the time.

## What is stated here

- `Event`, `EventKind`: what can happen, and its kinds with their published bytes;
- `Event.kind`, `Event.timestamp`: what every event has;
- the written form of events;
- `EventLog`: events in order, and the operations on a log.
-/

namespace CollateralDebt

/-- The kinds of events. -/
inductive EventKind where
  | transfer
  | approval
  | approvalForAll
  | whitelistToggled
  | collateralAmountUpdated
  | internalDebtUpdated
  | debtTransferred
  | interestAccumulatorUpdated
  | vaultLiquidated
  | accruedToTreasury
  | parameterUpdated
  | debtCeilingUpdated
  | dustUpdated
  | boostUpdated
  | pauseToggled
  | oracleUpdated
  | treasuryUpdated
  | tokenTransfer
  | tokenMint
  | tokenBurn
  | tokenApproval
  | minterRegistered
  | priceUpdated
  | operatorChanged
deriving DecidableEq

/-- Something that happened. -/
inductive Event where
  /-- A vault changed hands; the zero address stands before creation and after removal. -/
  | transfer (source recipient : Address) (vault : VaultId) (timestamp : Timestamp)
  /-- A vault's single approval was set, or cleared with the zero address. -/
  | approval (owner approved : Address) (vault : VaultId) (timestamp : Timestamp)
  /-- An operator was approved for all vaults of an owner, or no longer. -/
  | approvalForAll (owner operator : Address) (approved : Bool) (timestamp : Timestamp)
  /-- An account was listed, or no longer; the zero address stands for whitelisting itself. -/
  | whitelistToggled (account : Address) (whitelisted : Bool) (timestamp : Timestamp)
  /-- A vault's collateral changed by an amount. -/
  | collateralAmountUpdated (vault : VaultId) (amount : Amount) (increase : Bool)
      (timestamp : Timestamp)
  /-- A vault's normalized debt changed by an amount. -/
  | internalDebtUpdated (vault : VaultId) (internalAmount : Amount) (increase : Bool)
      (timestamp : Timestamp)
  /-- Debt moved into a vault of this engine. The amount taken on is less than requested when the
  giving vault owed less. -/
  | debtTransferred (receiving giving : VaultId) (givingEngine : Address)
      (requestedAmount amount : Amount) (timestamp : Timestamp)
  /-- The accumulator was refreshed. -/
  | interestAccumulatorUpdated (value : Amount) (timestamp : Timestamp)
  /-- A vault was liquidated. -/
  | vaultLiquidated (vault : VaultId) (liquidator : Address)
      (amountRepaid collateralReleased badDebt : Amount) (timestamp : Timestamp)
  /-- Surplus and bad debt were settled with the treasury. -/
  | accruedToTreasury (surplus badDebt : Amount) (timestamp : Timestamp)
  /-- A parameter was set. -/
  | parameterUpdated (parameter : Parameter) (value : UInt64) (timestamp : Timestamp)
  /-- The debt ceiling was set. -/
  | debtCeilingUpdated (debtCeiling : Amount) (timestamp : Timestamp)
  /-- The dust thresholds were set. -/
  | dustUpdated (dust dustLiquidation dustCollateral : Amount) (timestamp : Timestamp)
  /-- The boost curve and its source were replaced. -/
  | boostUpdated (sourceSet : Bool) (thresholds : List Amount) (multipliers : List UInt64)
      (timestamp : Timestamp)
  /-- The engine was paused or resumed. -/
  | pauseToggled (paused : Bool) (timestamp : Timestamp)
  /-- The price source was replaced. -/
  | oracleUpdated (timestamp : Timestamp)
  /-- The treasury was replaced. -/
  | treasuryUpdated (treasury : Address) (timestamp : Timestamp)
  /-- Funds moved on the ledger. -/
  | tokenTransfer (asset source recipient : Address) (amount : Amount) (timestamp : Timestamp)
  /-- Funds were created on the ledger. -/
  | tokenMint (asset recipient : Address) (amount : Amount) (timestamp : Timestamp)
  /-- Funds were destroyed on the ledger. -/
  | tokenBurn (asset source : Address) (amount : Amount) (timestamp : Timestamp)
  /-- An allowance was set on the ledger. -/
  | tokenApproval (asset owner spender : Address) (amount : Amount) (timestamp : Timestamp)
  /-- An account may now mint and burn an asset. -/
  | minterRegistered (asset minter : Address) (timestamp : Timestamp)
  /-- A price feed was updated. -/
  | priceUpdated (oldPrice newPrice : Amount) (timestamp : Timestamp)
  /-- A price feed changed its operator. -/
  | operatorChanged (oldOperator newOperator : Address) (timestamp : Timestamp)
deriving DecidableEq

namespace EventKind

/-- All kinds, in the order of their bytes. -/
def all : List EventKind :=
  [.transfer, .approval, .approvalForAll, .whitelistToggled, .collateralAmountUpdated,
    .internalDebtUpdated, .debtTransferred, .interestAccumulatorUpdated, .vaultLiquidated,
    .accruedToTreasury, .parameterUpdated, .debtCeilingUpdated, .dustUpdated, .boostUpdated,
    .pauseToggled, .oracleUpdated, .treasuryUpdated, .tokenTransfer, .tokenMint, .tokenBurn,
    .tokenApproval, .minterRegistered, .priceUpdated, .operatorChanged]

/-- The published byte of a kind: registry events from 1, accounting from 16, parameters from 48,
tokens from 80, price feeds from 96. -/
def toByte : EventKind → UInt8
  | .transfer => 1
  | .approval => 2
  | .approvalForAll => 3
  | .whitelistToggled => 4
  | .collateralAmountUpdated => 16
  | .internalDebtUpdated => 17
  | .debtTransferred => 18
  | .interestAccumulatorUpdated => 19
  | .vaultLiquidated => 20
  | .accruedToTreasury => 21
  | .parameterUpdated => 48
  | .debtCeilingUpdated => 49
  | .dustUpdated => 50
  | .boostUpdated => 51
  | .pauseToggled => 52
  | .oracleUpdated => 53
  | .treasuryUpdated => 54
  | .tokenTransfer => 80
  | .tokenMint => 81
  | .tokenBurn => 82
  | .tokenApproval => 83
  | .minterRegistered => 84
  | .priceUpdated => 96
  | .operatorChanged => 97

/-- The kind with a published byte. -/
def ofByte? (b : UInt8) : Option EventKind := all.find? (·.toByte == b)

instance : Wire EventKind := .viaByte toByte ofByte?

end EventKind

namespace Event

/-- The kind of an event. -/
def kind : Event → EventKind
  | .transfer .. => .transfer
  | .approval .. => .approval
  | .approvalForAll .. => .approvalForAll
  | .whitelistToggled .. => .whitelistToggled
  | .collateralAmountUpdated .. => .collateralAmountUpdated
  | .internalDebtUpdated .. => .internalDebtUpdated
  | .debtTransferred .. => .debtTransferred
  | .interestAccumulatorUpdated .. => .interestAccumulatorUpdated
  | .vaultLiquidated .. => .vaultLiquidated
  | .accruedToTreasury .. => .accruedToTreasury
  | .parameterUpdated .. => .parameterUpdated
  | .debtCeilingUpdated .. => .debtCeilingUpdated
  | .dustUpdated .. => .dustUpdated
  | .boostUpdated .. => .boostUpdated
  | .pauseToggled .. => .pauseToggled
  | .oracleUpdated .. => .oracleUpdated
  | .treasuryUpdated .. => .treasuryUpdated
  | .tokenTransfer .. => .tokenTransfer
  | .tokenMint .. => .tokenMint
  | .tokenBurn .. => .tokenBurn
  | .tokenApproval .. => .tokenApproval
  | .minterRegistered .. => .minterRegistered
  | .priceUpdated .. => .priceUpdated
  | .operatorChanged .. => .operatorChanged

/-- The time of an event. -/
def timestamp : Event → Timestamp
  | .transfer _ _ _ timestamp => timestamp
  | .approval _ _ _ timestamp => timestamp
  | .approvalForAll _ _ _ timestamp => timestamp
  | .whitelistToggled _ _ timestamp => timestamp
  | .collateralAmountUpdated _ _ _ timestamp => timestamp
  | .internalDebtUpdated _ _ _ timestamp => timestamp
  | .debtTransferred _ _ _ _ _ timestamp => timestamp
  | .interestAccumulatorUpdated _ timestamp => timestamp
  | .vaultLiquidated _ _ _ _ _ timestamp => timestamp
  | .accruedToTreasury _ _ timestamp => timestamp
  | .parameterUpdated _ _ timestamp => timestamp
  | .debtCeilingUpdated _ timestamp => timestamp
  | .dustUpdated _ _ _ timestamp => timestamp
  | .boostUpdated _ _ _ timestamp => timestamp
  | .pauseToggled _ timestamp => timestamp
  | .oracleUpdated timestamp => timestamp
  | .treasuryUpdated _ timestamp => timestamp
  | .tokenTransfer _ _ _ _ timestamp => timestamp
  | .tokenMint _ _ _ timestamp => timestamp
  | .tokenBurn _ _ _ timestamp => timestamp
  | .tokenApproval _ _ _ _ timestamp => timestamp
  | .minterRegistered _ _ timestamp => timestamp
  | .priceUpdated _ _ timestamp => timestamp
  | .operatorChanged _ _ timestamp => timestamp

/-! ## The written form -/

/-- The byte in front of an event: the place of its kind among all kinds. -/
def tag : Event → UInt8
  | .transfer .. => 0
  | .approval .. => 1
  | .approvalForAll .. => 2
  | .whitelistToggled .. => 3
  | .collateralAmountUpdated .. => 4
  | .internalDebtUpdated .. => 5
  | .debtTransferred .. => 6
  | .interestAccumulatorUpdated .. => 7
  | .vaultLiquidated .. => 8
  | .accruedToTreasury .. => 9
  | .parameterUpdated .. => 10
  | .debtCeilingUpdated .. => 11
  | .dustUpdated .. => 12
  | .boostUpdated .. => 13
  | .pauseToggled .. => 14
  | .oracleUpdated .. => 15
  | .treasuryUpdated .. => 16
  | .tokenTransfer .. => 17
  | .tokenMint .. => 18
  | .tokenBurn .. => 19
  | .tokenApproval .. => 20
  | .minterRegistered .. => 21
  | .priceUpdated .. => 22
  | .operatorChanged .. => 23

/-- The fields of an event and its time, written out. -/
def encodeFields : Event → Bytes
  | .transfer source recipient vault timestamp => Wire.encode (source, recipient, vault, timestamp)
  | .approval owner approved vault timestamp => Wire.encode (owner, approved, vault, timestamp)
  | .approvalForAll owner operator approved timestamp =>
    Wire.encode (owner, operator, approved, timestamp)
  | .whitelistToggled account whitelisted timestamp => Wire.encode (account, whitelisted, timestamp)
  | .collateralAmountUpdated vault amount increase timestamp =>
    Wire.encode (vault, amount, increase, timestamp)
  | .internalDebtUpdated vault internalAmount increase timestamp =>
    Wire.encode (vault, internalAmount, increase, timestamp)
  | .debtTransferred receiving giving givingEngine requestedAmount amount timestamp =>
    Wire.encode (receiving, giving, givingEngine, requestedAmount, amount, timestamp)
  | .interestAccumulatorUpdated value timestamp => Wire.encode (value, timestamp)
  | .vaultLiquidated vault liquidator amountRepaid collateralReleased badDebt timestamp =>
    Wire.encode (vault, liquidator, amountRepaid, collateralReleased, badDebt, timestamp)
  | .accruedToTreasury surplus badDebt timestamp => Wire.encode (surplus, badDebt, timestamp)
  | .parameterUpdated parameter value timestamp => Wire.encode (parameter, value, timestamp)
  | .debtCeilingUpdated debtCeiling timestamp => Wire.encode (debtCeiling, timestamp)
  | .dustUpdated dust dustLiquidation dustCollateral timestamp =>
    Wire.encode (dust, dustLiquidation, dustCollateral, timestamp)
  | .boostUpdated sourceSet thresholds multipliers timestamp =>
    Wire.encode (sourceSet, thresholds, multipliers, timestamp)
  | .pauseToggled paused timestamp => Wire.encode (paused, timestamp)
  | .oracleUpdated timestamp => Wire.encode timestamp
  | .treasuryUpdated treasury timestamp => Wire.encode (treasury, timestamp)
  | .tokenTransfer asset source recipient amount timestamp =>
    Wire.encode (asset, source, recipient, amount, timestamp)
  | .tokenMint asset recipient amount timestamp => Wire.encode (asset, recipient, amount, timestamp)
  | .tokenBurn asset source amount timestamp => Wire.encode (asset, source, amount, timestamp)
  | .tokenApproval asset owner spender amount timestamp =>
    Wire.encode (asset, owner, spender, amount, timestamp)
  | .minterRegistered asset minter timestamp => Wire.encode (asset, minter, timestamp)
  | .priceUpdated oldPrice newPrice timestamp => Wire.encode (oldPrice, newPrice, timestamp)
  | .operatorChanged oldOperator newOperator timestamp =>
    Wire.encode (oldOperator, newOperator, timestamp)

/-- Read the fields of the event with a given byte in front. -/
def readFields : UInt8 → Bytes → Option (Event × Bytes)
  | 0 => Wire.readAs fun (source, recipient, vault, timestamp) =>
    .transfer source recipient vault timestamp
  | 1 => Wire.readAs fun (owner, approved, vault, timestamp) =>
    .approval owner approved vault timestamp
  | 2 => Wire.readAs fun (owner, operator, approved, timestamp) =>
    .approvalForAll owner operator approved timestamp
  | 3 => Wire.readAs fun (account, whitelisted, timestamp) =>
    .whitelistToggled account whitelisted timestamp
  | 4 => Wire.readAs fun (vault, amount, increase, timestamp) =>
    .collateralAmountUpdated vault amount increase timestamp
  | 5 => Wire.readAs fun (vault, internalAmount, increase, timestamp) =>
    .internalDebtUpdated vault internalAmount increase timestamp
  | 6 => Wire.readAs fun (receiving, giving, givingEngine, requestedAmount, amount, timestamp) =>
    .debtTransferred receiving giving givingEngine requestedAmount amount timestamp
  | 7 => Wire.readAs fun (value, timestamp) => .interestAccumulatorUpdated value timestamp
  | 8 => Wire.readAs
      fun (vault, liquidator, amountRepaid, collateralReleased, badDebt, timestamp) =>
    .vaultLiquidated vault liquidator amountRepaid collateralReleased badDebt timestamp
  | 9 => Wire.readAs fun (surplus, badDebt, timestamp) =>
    .accruedToTreasury surplus badDebt timestamp
  | 10 => Wire.readAs fun (parameter, value, timestamp) =>
    .parameterUpdated parameter value timestamp
  | 11 => Wire.readAs fun (debtCeiling, timestamp) => .debtCeilingUpdated debtCeiling timestamp
  | 12 => Wire.readAs fun (dust, dustLiquidation, dustCollateral, timestamp) =>
    .dustUpdated dust dustLiquidation dustCollateral timestamp
  | 13 => Wire.readAs fun (sourceSet, thresholds, multipliers, timestamp) =>
    .boostUpdated sourceSet thresholds multipliers timestamp
  | 14 => Wire.readAs fun (paused, timestamp) => .pauseToggled paused timestamp
  | 15 => Wire.readAs .oracleUpdated
  | 16 => Wire.readAs fun (treasury, timestamp) => .treasuryUpdated treasury timestamp
  | 17 => Wire.readAs fun (asset, source, recipient, amount, timestamp) =>
    .tokenTransfer asset source recipient amount timestamp
  | 18 => Wire.readAs fun (asset, recipient, amount, timestamp) =>
    .tokenMint asset recipient amount timestamp
  | 19 => Wire.readAs fun (asset, source, amount, timestamp) =>
    .tokenBurn asset source amount timestamp
  | 20 => Wire.readAs fun (asset, owner, spender, amount, timestamp) =>
    .tokenApproval asset owner spender amount timestamp
  | 21 => Wire.readAs fun (asset, minter, timestamp) => .minterRegistered asset minter timestamp
  | 22 => Wire.readAs fun (oldPrice, newPrice, timestamp) =>
    .priceUpdated oldPrice newPrice timestamp
  | 23 => Wire.readAs fun (oldOperator, newOperator, timestamp) =>
    .operatorChanged oldOperator newOperator timestamp
  | _ => fun _ => none

instance : Wire Event where
  encode e := e.tag :: e.encodeFields
  read
    | [] => none
    | tag :: rest => readFields tag rest

end Event

/-! ## Logs -/

/-- Events in the order in which they happened. -/
abbrev EventLog := List Event

namespace EventLog

/-- With one more event at the end. -/
def emit (log : EventLog) (event : Event) : EventLog := log ++ [event]

/-- The events of one kind. -/
def ofKind (log : EventLog) (kind : EventKind) : List Event := log.filter (·.kind = kind)

/-- Without the events after the first `length`. -/
def truncate (log : EventLog) (length : Nat) : EventLog := log.take length

/-- The events after the first `length`. -/
def since (log : EventLog) (length : Nat) : List Event := log.drop length

end EventLog

end CollateralDebt
