import CollateralDebt.BoostCurve
import CollateralDebt.Event
import CollateralDebt.Interest
import CollateralDebt.Registry
import CollateralDebt.Treasury
import CollateralDebt.Valuation

/-!
# Engines

An engine runs one collateral market: it keeps the vaults, their debt and their collateral, and the
interest, surplus and losses of the market as a whole. What an engine persists is its state; beside
it stand the source of boost balances and the log.

A call reaches an engine in a `Context`: who calls, when, which treasury stands behind the engine
and what its price source says at that time.

## What is stated here

- `EngineState`, `Engine`, `Context`: the data;
- `Engine.currentAccumulator`, `vaultDebt`, `totalDebt`, `vaultHealthFactor`, `stateRoot`: what is
  read off an engine;
- `Engine.create`: a new engine, paused;
- the steps that all calls share: checks of the caller, updates of the state, the log;
- `Engine.checkpoint`, `Engine.restore`: how what a call did is undone.
-/

namespace CollateralDebt

/-- What an engine persists. -/
@[ext]
structure EngineState where
  /-- The engine's address, and the account that holds the collateral. -/
  address : Address
  name : String
  collateral : Address
  stablecoin : Address
  treasury : Address
  collateralDecimals : UInt8
  /-- One whole unit of collateral. -/
  collateralUnit : Amount
  params : Parameters
  boostCurve : BoostCurve
  /-- The growth of one unit of debt since the beginning. -/
  accumulator : Amount
  /-- The time up to which interest was booked. -/
  accruedAt : Timestamp
  /-- The normalized debt of all vaults together. -/
  totalNormalizedDebt : Amount
  /-- Fees and interest that were not paid to the treasury yet. -/
  surplus : Amount
  /-- Losses that were not settled with the treasury yet. -/
  badDebt : Amount
  paused : Bool
  registry : Registry

instance : Wire EngineState :=
  .via
    (fun s => (s.address, s.name, s.collateral, s.stablecoin, s.treasury, s.collateralDecimals,
      s.collateralUnit, s.params, s.boostCurve, s.accumulator, s.accruedAt,
      s.totalNormalizedDebt, s.surplus, s.badDebt, s.paused, s.registry))
    fun (address, name, collateral, stablecoin, treasury, collateralDecimals, collateralUnit,
        params, boostCurve, accumulator, accruedAt, totalNormalizedDebt, surplus, badDebt, paused,
        registry) =>
      { address, name, collateral, stablecoin, treasury, collateralDecimals, collateralUnit,
        params, boostCurve, accumulator, accruedAt, totalNormalizedDebt, surplus, badDebt, paused,
        registry }

/-- An engine: its state, the source of boost balances if there is one, and its log. -/
@[ext]
structure Engine where
  state : EngineState
  boostSource : Option BoostSource
  log : EventLog

/-- The circumstances of a call on an engine. -/
structure Context where
  caller : Address
  now : Timestamp
  /-- The treasury behind the engine, as it is now. -/
  treasury : Treasury
  /-- What the engine's price source answers now. -/
  price : Outcome Amount

/-- What a new engine is made of. -/
@[ext]
structure EngineConfig where
  name : String
  collateral : Address
  collateralDecimals : UInt8
  params : Parameters

namespace Engine

/-! ## Reading -/

/-- The domain tag of engine addresses. -/
def domain : Bytes := textBytes "vaultkit.vault-manager.v1"

/-- The address of the engine of this name for a collateral asset under a treasury. -/
def addressOf (treasury collateral : Address) (name : String) : Address :=
  deriveAddress domain [treasury.bytes, collateral.bytes, textBytes name]

/-- The accumulator at a time, without booking it. No time passes before the last booking. -/
def currentAccumulator (e : Engine) (now : Timestamp) : Outcome Amount :=
  accumulate e.state.accumulator e.state.params.interestRate.toNat
    (now.toNat - e.state.accruedAt.toNat)

/-- The balances of a vault; none of one that does not exist. -/
def vault? (e : Engine) (id : VaultId) : Option Vault := e.state.registry.vault? id

/-- The debt of a vault at a time; none for one that does not exist. -/
def vaultDebt (e : Engine) (id : VaultId) (now : Timestamp) : Outcome Amount := do
  debtOf (((e.vault? id).map (·.normalizedDebt)).getD .zero) (← e.currentAccumulator now)

/-- The debt of all vaults at a time. -/
def totalDebt (e : Engine) (now : Timestamp) : Outcome Amount := do
  debtOf e.state.totalNormalizedDebt (← e.currentAccumulator now)

/-- The health factor of a vault at a price and an accumulator. -/
def healthAt (s : EngineState) (v : Vault) (price accumulator : Amount) : Outcome Amount := do
  let debt ← debtOf v.normalizedDebt accumulator
  let value ← collateralValue v.collateral price s.collateralUnit
  healthFactor value s.params.collateralFactor debt

/-- The health factor of a vault now. Without debt, no price is needed. -/
def vaultHealthFactor (e : Engine) (price : Outcome Amount) (id : VaultId) (now : Timestamp) :
    Outcome Amount := do
  let v ← e.state.registry.vault id
  if v.normalizedDebt = .zero then return .largest
  let price ← price
  healthAt e.state v price (← e.currentAccumulator now)

/-- The number of vaults of an owner, who cannot be the zero address. -/
def balanceOf (e : Engine) (owner : Address) : Outcome Nat := do
  Outcome.require (owner ≠ .zero) .zeroAddress
  return e.state.registry.balanceOf owner

/-- The digest of the written state. -/
def stateRoot (e : Engine) : Bytes32 := sha256 (Wire.encode e.state)

/-! ## Steps -/

/-- Add to the log. -/
def emit (event : Event) : Transact Engine Unit :=
  modify fun e => { e with log := e.log.emit event }

/-- The state as it is now. -/
def getState : Transact Engine EngineState := return (← get).state

/-- Change the state. -/
def modifyState (f : EngineState → EngineState) : Transact Engine Unit :=
  modify fun e => { e with state := f e.state }

/-- Change the registry. -/
def modifyRegistry (f : Registry → Registry) : Transact Engine Unit :=
  modifyState fun s => { s with registry := f s.registry }

/-- Change the parameters. -/
def modifyParams (f : Parameters → Parameters) : Transact Engine Unit :=
  modifyState fun s => { s with params := f s.params }

/-- Add to the surplus. -/
def addSurplus (amount : Amount) : Transact Engine Unit := do
  let surplus ← (← getState).surplus.add amount
  modifyState fun s => { s with surplus }

/-- The caller has to govern. -/
def requireGovernor (ctx : Context) : Transact Engine Unit :=
  Transact.require (ctx.treasury.isGovernor ctx.caller) (.notGovernor ctx.caller)

/-- The caller has to govern or guard. -/
def requireGovernorOrGuardian (ctx : Context) : Transact Engine Unit :=
  Transact.require (ctx.treasury.isGovernorOrGuardian ctx.caller)
    (.notGovernorOrGuardian ctx.caller)

/-- The caller has to be the treasury. -/
def requireTreasury (caller : Address) : Transact Engine Unit := do
  Transact.require (caller = (← getState).treasury) (.notTreasury caller)

/-- The engine has to be running. -/
def requireUnpaused : Transact Engine Unit := do
  Transact.require (¬ (← getState).paused) .pausedCollateral

/-- The amount has to be more than nothing. -/
def requireAmount (amount : Amount) : Transact Engine Unit :=
  Transact.require (amount ≠ .zero) (.zeroAmount amount)

/-- The vault, which has to exist. -/
def findVault (id : VaultId) : Transact Engine Vault := do
  (← getState).registry.vault id

/-- Set the balances of a vault. -/
def putVault (id : VaultId) (v : Vault) : Transact Engine Unit :=
  modifyRegistry (·.setVault id v)

/-! ## Undoing -/

/-- What is kept of an engine in order to undo what a call does: the state, and how far the log has
come. -/
structure Checkpoint where
  state : EngineState
  logged : Nat

/-- The engine as it is now, to come back to. -/
def checkpoint (e : Engine) : Checkpoint := ⟨e.state, e.log.length⟩

/-- Back at a checkpoint: its state, and nothing in the log that came after it. The source of boost
balances stays. -/
def restore (e : Engine) (checkpoint : Checkpoint) : Engine :=
  { e with state := checkpoint.state, log := e.log.truncate checkpoint.logged }

/-! ## A new engine -/

/-- A new engine, paused, and a minter of the stablecoin. -/
def create (config : EngineConfig) (treasury : Treasury) (now : Timestamp) :
    Transact Ledger Engine := do
  Transact.require (config.collateral ≠ .zero) .zeroAddress
  Transact.require (config.collateralDecimals ≤ maxCollateralDecimals)
    (.invalidSetOfParameters .collateralDecimals)
  config.params.validate
  let boostCurve ← BoostCurve.flat config.params.baseBoost
  let address := addressOf treasury.address config.collateral config.name
  treasury.addMinter address now
  let collateralUnit ← Amount.pow10 config.collateralDecimals
  return {
    state := {
      address
      name := config.name
      collateral := config.collateral
      stablecoin := treasury.stablecoin
      treasury := treasury.address
      collateralDecimals := config.collateralDecimals
      collateralUnit
      params := config.params
      boostCurve
      accumulator := ⟨accumulatorOne, by decide⟩
      accruedAt := now
      totalNormalizedDebt := .zero
      surplus := .zero
      badDebt := .zero
      paused := true
      registry := .empty }
    boostSource := none
    log := [] }

end Engine

end CollateralDebt
