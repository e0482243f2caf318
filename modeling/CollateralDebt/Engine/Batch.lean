import CollateralDebt.Action
import CollateralDebt.Engine.Settlement

/-!
# Batches

A batch is a list of actions that take effect together or not at all. They are applied in order;
then every vault that the batch may have weakened has to be solvent, the debt ceiling has to hold if
the batch added debt, and the flows are netted and settled.

In a batch, the number 0 stands for the vault that the engine created last.

## What is stated here

- `Tally`: what a batch adds up while its actions are applied;
- `applyAction`: the effect of one action;
- `checkTouched`, `checkDebtCeiling`: what has to hold at the end;
- `runBatch`: a batch, all or nothing.
-/

namespace CollateralDebt

/-- The most actions in one batch. -/
def maxBatchActions : Nat := 64

/-- What a batch adds up: its flows, and the vaults whose health may have dropped. -/
structure Tally where
  payment : Payment
  touched : KeySet VaultId

namespace Tally

/-- Nothing yet. -/
def zero : Tally := ⟨.zero, .empty⟩

instance : Inhabited Tally := ⟨zero⟩

/-- With a vault whose health may have dropped. -/
def touch (t : Tally) (id : VaultId) : Tally := { t with touched := KeySet.insert t.touched id }

/-- With stablecoins to give. -/
def giveStablecoin (t : Tally) (amount : Amount) : Outcome Tally := do
  let stablecoinToGive ← t.payment.stablecoinToGive.add amount
  return { t with payment := { t.payment with stablecoinToGive } }

/-- With stablecoins to receive. -/
def receiveStablecoin (t : Tally) (amount : Amount) : Outcome Tally := do
  let stablecoinToReceive ← t.payment.stablecoinToReceive.add amount
  return { t with payment := { t.payment with stablecoinToReceive } }

/-- With collateral to give. -/
def giveCollateral (t : Tally) (amount : Amount) : Outcome Tally := do
  let collateralToGive ← t.payment.collateralToGive.add amount
  return { t with payment := { t.payment with collateralToGive } }

/-- With collateral to receive. -/
def receiveCollateral (t : Tally) (amount : Amount) : Outcome Tally := do
  let collateralToReceive ← t.payment.collateralToReceive.add amount
  return { t with payment := { t.payment with collateralToReceive } }

end Tally

/-- The number that stands for a vault in a batch on this engine: 0 for the newest. -/
def EngineState.resolve (s : EngineState) (id : VaultId) : VaultId :=
  if id = 0 then s.registry.lastId else id

namespace Arena

/-- Move debt between two vaults of the engine: the same normalized units change hands, without
fees. Tells how much actual debt was taken on. -/
def moveDebt (now : Timestamp) (receiving giving : VaultId) (amount accumulator : Amount) :
    Transact Engine Amount := do
  let requested ← normalize amount accumulator
  let owed := (← Engine.findVault giving).normalizedDebt
  let moved := min requested owed
  Engine.removeNormalizedDebt now giving moved accumulator
  Engine.addNormalizedDebt now receiving moved accumulator
  if moved < requested then debtOfUp moved accumulator else return amount

/-- Take debt from a vault of another engine of the treasury. Tells how much was taken on. -/
def fetchDebt (ctx : Context) (receiving : VaultId) (givingEngine : Address) (giving : VaultId)
    (amount accumulator : Amount) : Transact Arena Amount := do
  Transact.require (ctx.treasury.isEngine givingEngine) (.notEngine givingEngine)
  let e := (← get).engine.state
  let taken ← onRemote givingEngine fun treasury =>
    Engine.getDebtOut treasury e.address ctx.now giving amount e.params.borrowFee e.params.repayFee
  onEngine (Engine.increaseDebt ctx.now receiving taken accumulator)
  return taken

/-- Take debt into a vault of this engine out of a vault of this or another engine. -/
def getDebtIn (ctx : Context) (receiving : VaultId) (givingEngine : Address) (giving : VaultId)
    (amount accumulator : Amount) : Transact Arena Unit := do
  onEngine (Engine.requireAmount amount)
  onEngine (Engine.requireMayAct ctx.caller receiving)
  let taken ←
    if givingEngine = (← get).engine.state.address then
      onEngine (moveDebt ctx.now receiving giving amount accumulator)
    else
      fetchDebt ctx receiving givingEngine giving amount accumulator
  onEngine (Engine.emit (.debtTransferred receiving giving givingEngine amount taken ctx.now))

/-- Apply one action and add it to the tally. -/
def applyAction (ctx : Context) (accumulator : Amount) (t : Tally) :
    Action → Transact Arena Tally
  | .createVault owner => do
    let _ ← onEngine (Engine.mintVault ctx owner)
    return t
  | .closeVault id => do
    let id := (← get).engine.state.resolve id
    let (owed, collateral) ← onEngine (Engine.closeVault ctx id accumulator)
    (← t.receiveStablecoin owed).giveCollateral collateral
  | .addCollateral id amount => do
    let id := (← get).engine.state.resolve id
    onEngine (Engine.addCollateral ctx.now id amount)
    t.receiveCollateral amount
  | .removeCollateral id amount => do
    let id := (← get).engine.state.resolve id
    onEngine (Engine.removeCollateral ctx id amount)
    (t.touch id).giveCollateral amount
  | .repayDebt id amount => do
    let id := (← get).engine.state.resolve id
    let charged ← onEngine (Engine.repayDebt ctx.now id amount accumulator)
    t.receiveStablecoin charged
  | .borrow id amount => do
    let id := (← get).engine.state.resolve id
    let paid ← onEngine (Engine.borrow ctx id amount accumulator)
    (t.touch id).giveStablecoin paid
  | .getDebtIn receiving givingEngine giving amount => do
    let id := (← get).engine.state.resolve receiving
    getDebtIn ctx id givingEngine giving amount accumulator
    return t.touch id
  | .permit p => do
    onLedger (Ledger.permit p ctx.now)
    return t

/-- Every vault of the list that exists and owes anything has to be solvent. -/
def checkTouched (ctx : Context) (accumulator : Amount) (s : EngineState) :
    List VaultId → Outcome Unit
  | [] => .ok ()
  | id :: rest => do
    if let some v := s.registry.vault? id then
      if v.normalizedDebt ≠ .zero then
        let price ← ctx.price
        let health ← Engine.healthAt s v price accumulator
        Outcome.require (isSolvent health) (.insolventAfterAction id health)
    checkTouched ctx accumulator s rest

/-- The debt of all vaults may not exceed the ceiling. -/
def checkDebtCeiling (accumulator : Amount) (s : EngineState) : Outcome Unit := do
  if s.params.debtCeiling.toNat * accumulatorOne
      < s.totalNormalizedDebt.toNat * accumulator.toNat then
    let total ← debtOf s.totalNormalizedDebt accumulator
    reject (.debtCeilingExceeded total s.params.debtCeiling)

/-- The steps of a batch. -/
def processBatch (ctx : Context) (p : Parties) (actions : List Action) :
    Transact Arena Payment := do
  onEngine Engine.requireUnpaused
  Transact.require (actions ≠ []) (.incompatibleLengths 0 0)
  Transact.require (actions.length ≤ maxBatchActions)
    (.batchTooLarge actions.length maxBatchActions)
  let accumulator ← onEngine (Engine.accrue ctx.now)
  let before := (← get).engine.state.totalNormalizedDebt
  let tally ← actions.foldlM (applyAction ctx accumulator) Tally.zero
  let s := (← get).engine.state
  checkTouched ctx accumulator s tally.touched.keys
  if before < s.totalNormalizedDebt then
    checkDebtCeiling accumulator s
  settle ctx p tally.payment
  return tally.payment

/-- A batch, all or nothing. -/
def runBatch (ctx : Context) (p : Parties) (actions : List Action) : Transact Arena Payment :=
  atomically (processBatch ctx p actions)

/-- A batch on the wire: nothing happens unless all of it can be read. -/
def runEncodedBatch (ctx : Context) (p : Parties) (kinds : List ActionKind)
    (payloads : List Bytes) : Transact Arena Payment := do
  let actions ← decodeActions kinds payloads
  runBatch ctx p actions

end Arena

end CollateralDebt
