import CollateralDebt.Engine.Administration
import CollateralDebt.Engine.Batch
import CollateralDebt.Engine.Liquidation
import CollateralDebt.PriceFeed

/-!
# The world

One ledger, and any number of treasuries, price feeds and engines. Treasuries, feeds and engines are
addressed by the place at which they were set up. An engine holds on to its treasury and its feed by
their places, so it sees every later change of them.

Calls address a party that exists, and are `absent` otherwise. A call on an engine is given the
engine's surroundings as they are at that moment.

## What is stated here

- `World`, `Seat`: the parties, and what an engine is connected to;
- `World.openTreasury`, `openFeed`, `deploy`: new parties;
- `World.onLedger`, `onTreasury`, `onFeed`, `onEngine`, `onArena`: calls on parties;
- `World.setOracle`, `setTreasury`: an engine is connected to another party.
-/

namespace CollateralDebt

/-- An engine, and the places of the treasury and the price feed that it is connected to. -/
structure Seat where
  engine : Engine
  treasury : Nat
  feed : Nat

/-- Everything there is. -/
structure World where
  ledger : Ledger
  treasuries : List Treasury
  feeds : List PriceFeed
  seats : List Seat
  /-- The requests that swappers got. -/
  requests : List SwapRequest

namespace World

/-- Nobody is there yet. -/
def empty : World := ⟨.empty, [], [], [], []⟩

instance : Inhabited World := ⟨empty⟩

/-! ## Parties -/

/-- The party at a place. -/
def atPlace {α : Type} (l : List α) (i : Nat) : Outcome α :=
  match l[i]? with
  | some a => .ok a
  | none => .error .absent

/-- Put an engine back at its place. -/
def putEngine (seats : List Seat) (i : Nat) (engine : Engine) : List Seat :=
  seats.modify i fun seat => { seat with engine }

/-- The circumstances in which the engine of a seat is called. -/
def context (w : World) (seat : Seat) (caller : Address) (now : Timestamp) : Outcome Context := do
  let treasury ← atPlace w.treasuries seat.treasury
  let feed ← atPlace w.feeds seat.feed
  return { caller, now, treasury, price := feed.read now }

/-- The engine at a place, with the treasury behind it. -/
def remote (w : World) (i : Nat) : Outcome Remote := do
  let seat ← atPlace w.seats i
  return { engine := seat.engine, treasury := ← atPlace w.treasuries seat.treasury }

/-! ## Calls -/

/-- A call on the ledger. -/
def onLedger {α : Type} (m : Transact Ledger α) : Transact World α :=
  Transact.zoom World.ledger (fun ledger w => { w with ledger }) m

/-- A call on a treasury. -/
def onTreasury (i : Nat) (f : Treasury → Outcome Treasury) : Transact World Unit :=
  Transact.update fun w => do
    let treasury ← f (← atPlace w.treasuries i)
    return { w with treasuries := w.treasuries.set i treasury }

/-- A call on a price feed. -/
def onFeed (i : Nat) (f : PriceFeed → Outcome PriceFeed) : Transact World Unit :=
  Transact.update fun w => do
    let feed ← f (← atPlace w.feeds i)
    return { w with feeds := w.feeds.set i feed }

/-- A treasury makes an account a minter of its stablecoin. -/
def addMinter (i : Nat) (minter : Address) (now : Timestamp) : Transact World Unit := do
  let treasury ← atPlace (← get).treasuries i
  onLedger (treasury.addMinter minter now)

/-- A call on an engine that touches nothing else. -/
def onEngine {α : Type} (i : Nat) (caller : Address) (now : Timestamp)
    (m : Context → Transact Engine α) : Transact World α := do
  let w ← get
  let seat ← atPlace w.seats i
  let ctx ← w.context seat caller now
  Transact.zoom (fun _ => seat.engine)
    (fun engine w => { w with seats := putEngine w.seats i engine }) (m ctx)

/-- The places of other engines, each of them once. -/
def otherPlaces (i : Nat) (remotes : List Nat) : List Nat := (remotes.filter (· ≠ i)).eraseDups

/-- A call on an engine that may touch the ledger and other engines. -/
def onArena {α : Type} (i : Nat) (caller : Address) (now : Timestamp) (remotes : List Nat)
    (m : Context → Transact Arena α) : Transact World α := do
  let w ← get
  let seat ← atPlace w.seats i
  let ctx ← w.context seat caller now
  let places := otherPlaces i remotes
  let others ← (places.mapM w.remote : Outcome (List Remote))
  Transact.zoom (fun w => ⟨seat.engine, w.ledger, others, w.requests⟩)
    (fun s w => { w with
      ledger := s.ledger
      seats := (places.zip s.remotes).foldl (fun seats (j, r) => putEngine seats j r.engine)
        (putEngine w.seats i s.engine)
      requests := s.requests })
    (m ctx)

/-! ## New parties and connections -/

/-- Set up a treasury, and tell its place. -/
def openTreasury (address stablecoin governor : Address) : Transact World Nat := do
  let treasury ← Treasury.create address stablecoin governor
  let place := (← get).treasuries.length
  modify fun w => { w with treasuries := w.treasuries ++ [treasury] }
  return place

/-- Set up a price feed, and tell its place. -/
def openFeed (feed : PriceFeed) : Transact World Nat := do
  let place := (← get).feeds.length
  modify fun w => { w with feeds := w.feeds ++ [feed] }
  return place

/-- Set up an engine, and tell its place. -/
def deploy (config : EngineConfig) (treasury feed : Nat) (now : Timestamp) :
    Transact World Nat := do
  let w ← get
  let behind ← atPlace w.treasuries treasury
  let _ ← atPlace w.feeds feed
  let engine ← onLedger (Engine.create config behind now)
  let place := (← get).seats.length
  modify fun w => { w with seats := w.seats ++ [{ engine, treasury, feed }] }
  return place

/-- Connect an engine to another price feed. -/
def setOracle (i : Nat) (caller : Address) (now : Timestamp) (feed : Nat) :
    Transact World Unit := do
  let _ ← atPlace (← get).feeds feed
  onEngine i caller now Engine.setOracle
  modify fun w => { w with seats := w.seats.modify i fun seat => { seat with feed } }

/-- Connect an engine to another treasury. -/
def setTreasury (i : Nat) (caller : Address) (now : Timestamp) (treasury : Nat) :
    Transact World Unit := do
  let successor ← atPlace (← get).treasuries treasury
  onEngine i caller now fun ctx => Engine.setTreasury ctx successor
  modify fun w => { w with seats := w.seats.modify i fun seat => { seat with treasury } }

end World

end CollateralDebt
