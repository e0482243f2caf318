import CollateralDebt.Engine.Debt

/-!
# Settlement

A batch nets its flows of stablecoins and of collateral into one `Payment` and settles it at the
end. Stablecoins that the caller owes are burnt from the source account, with the caller as spender;
stablecoins that are due are minted to the recipient. Collateral is pulled from the source account
into the engine, or released from the engine to the recipient.

What goes out goes first. Between the two legs a swapper may turn what went out into what is still
owed: it is asked once, with a `SwapRequest`, and may do anything a ledger allows.

## What is stated here

- `Arena`: everything that one call can touch, with the requests that its swapper got;
- `Arena.atomically`: all or nothing;
- `handleRepay`: release collateral, then burn stablecoins;
- `settle`: the four directions that a payment can have.
-/

namespace CollateralDebt

/-- The flows of a batch, seen from the engine. -/
@[ext]
structure Payment where
  stablecoinToGive : Amount
  stablecoinToReceive : Amount
  collateralToGive : Amount
  collateralToReceive : Amount
deriving DecidableEq

/-- No flows. -/
def Payment.zero : Payment := ⟨.zero, .zero, .zero, .zero⟩

instance : Inhabited Payment := ⟨.zero⟩

/-- What a swapper is asked for. -/
@[ext]
structure SwapRequest where
  /-- The caller of the engine. -/
  initiator : Address
  /-- What the engine just paid out. -/
  inToken : Address
  /-- What the engine is about to collect. -/
  outToken : Address
  /-- The account that has to hold what is owed when the swapper is done. -/
  outTokenRecipient : Address
  outTokenOwed : Amount
  inTokenObtained : Amount
  data : Bytes
  timestamp : Timestamp
deriving DecidableEq

/-- Somebody who turns what a batch paid out into what it still owes. -/
abbrev Swapper := SwapRequest → Transact Ledger Unit

/-- Another engine within reach of a call, with the treasury behind it. -/
structure Remote where
  engine : Engine
  treasury : Treasury

/-- What a call on an engine can touch: the engine, the ledger and other engines; and the requests
that the swapper of the call got, which outlive a call that fails. -/
structure Arena where
  engine : Engine
  ledger : Ledger
  remotes : List Remote
  requests : List SwapRequest

/-- Where the flows of a call come from and go to. -/
structure Parties where
  /-- The account that pays. -/
  source : Address
  /-- The account that is paid. -/
  recipient : Address
  /-- What the swapper is told. -/
  data : Bytes
  swapper : Option Swapper

namespace Arena

/-- A step of the engine. -/
def onEngine {α : Type} (m : Transact Engine α) : Transact Arena α :=
  Transact.zoom Arena.engine (fun engine s => { s with engine }) m

/-- A step on the ledger. -/
def onLedger {α : Type} (m : Transact Ledger α) : Transact Arena α :=
  Transact.zoom Arena.ledger (fun ledger s => { s with ledger }) m

/-- A step of the first other engine with this address. -/
def onRemote {α : Type} (address : Address) (m : Treasury → Transact Engine α) :
    Transact Arena α := fun s =>
  let i := s.remotes.findIdx fun r => r.engine.state.address = address
  match s.remotes[i]? with
  | none => Transact.reject (.notEngine address) s
  | some r =>
    let put engine := { s with remotes := s.remotes.set i { r with engine } }
    match m r.treasury r.engine with
    | .ok a engine => .ok a (put engine)
    | .error f engine => .error f (put engine)

/-- Undo what was done since `before`: the ledger is put back whole, every engine goes back to its
checkpoint. Only the requests that the swapper got stay. -/
def undo (before after : Arena) : Arena where
  engine := after.engine.restore before.engine.checkpoint
  ledger := before.ledger
  remotes := List.zipWith
    (fun r old => { r with engine := r.engine.restore old.engine.checkpoint })
    after.remotes before.remotes
  requests := after.requests

/-- All of the steps or none of them. -/
def atomically {α : Type} (m : Transact Arena α) : Transact Arena α := Transact.atomically undo m

/-- Ask the swapper, if there is one. -/
def askSwapper (swapper : Option Swapper) (request : SwapRequest) : Transact Arena Unit := do
  if let some swap := swapper then
    modify fun s => { s with requests := s.requests ++ [request] }
    onLedger (swap request)

/-- Release collateral to the recipient, then burn stablecoins from the source account. The swapper
is asked if there is anything to burn. -/
def handleRepay (ctx : Context) (p : Parties) (collateralToGive stablecoinToBurn : Amount) :
    Transact Arena Unit := do
  let e := (← get).engine.state
  if collateralToGive ≠ .zero then
    onLedger (Ledger.transfer e.collateral e.address p.recipient collateralToGive ctx.now)
  if stablecoinToBurn ≠ .zero then
    askSwapper p.swapper {
      initiator := ctx.caller
      inToken := e.collateral
      outToken := e.stablecoin
      outTokenRecipient := p.source
      outTokenOwed := stablecoinToBurn
      inTokenObtained := collateralToGive
      data := p.data
      timestamp := ctx.now }
    onLedger (Ledger.burnFrom e.stablecoin e.address p.source ctx.caller stablecoinToBurn ctx.now)

/-- Settle the net flows of a payment. -/
def settle (ctx : Context) (p : Parties) (payment : Payment) : Transact Arena Unit := do
  let e := (← get).engine.state
  let pull amount :=
    onLedger (Ledger.transferFrom e.collateral ctx.caller p.source e.address amount ctx.now)
  if hs : payment.stablecoinToGive ≤ payment.stablecoinToReceive then
    let burnt := payment.stablecoinToReceive.sub payment.stablecoinToGive hs
    if hc : payment.collateralToReceive ≤ payment.collateralToGive then
      handleRepay ctx p (payment.collateralToGive.sub payment.collateralToReceive hc) burnt
    else
      if burnt ≠ .zero then
        onLedger (Ledger.burnFrom e.stablecoin e.address p.source ctx.caller burnt ctx.now)
      pull (payment.collateralToReceive.monus payment.collateralToGive)
  else
    let minted := payment.stablecoinToGive.monus payment.stablecoinToReceive
    onLedger (Ledger.mint e.stablecoin e.address p.recipient minted ctx.now)
    if hc : payment.collateralToReceive ≤ payment.collateralToGive then
      let released := payment.collateralToGive.sub payment.collateralToReceive hc
      if released ≠ .zero then
        onLedger (Ledger.transfer e.collateral e.address p.recipient released ctx.now)
    else
      let owed := payment.collateralToReceive.monus payment.collateralToGive
      askSwapper p.swapper {
        initiator := ctx.caller
        inToken := e.stablecoin
        outToken := e.collateral
        outTokenRecipient := p.source
        outTokenOwed := owed
        inTokenObtained := minted
        data := p.data
        timestamp := ctx.now }
      pull owed

end Arena

end CollateralDebt
