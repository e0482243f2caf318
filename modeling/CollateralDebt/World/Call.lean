import CollateralDebt.Engine.Call
import CollateralDebt.Ledger.Call
import CollateralDebt.PriceFeed.Call
import CollateralDebt.Treasury.Call
import CollateralDebt.World

/-!
# Calls on the world

Everything that can happen, as data: calls on the ledger, on treasuries, on price feeds and on
engines, new parties, and new connections between them. A history is a list of calls, each accepted
or refused; a world is reachable if it is the outcome of a history.

## What is stated here

- `Call`, `Call.run`: a call, and what it does;
- `World.history`, `World.Reachable`: the outcomes of histories.
-/

namespace CollateralDebt

/-- A changing call. Treasuries, price feeds and engines are addressed by their places. -/
inductive Call where
  | ledger (now : Timestamp) (call : LedgerCall)
  | openTreasury (address stablecoin governor : Address)
  | treasury (place : Nat) (call : TreasuryCall)
  | addMinter (place : Nat) (minter : Address) (now : Timestamp)
  | openFeed (state : Option FeedState)
  | feed (place : Nat) (now : Timestamp) (call : FeedCall)
  | deploy (config : EngineConfig) (treasuryPlace feedPlace : Nat) (now : Timestamp)
  | engine (place : Nat) (caller : Address) (now : Timestamp) (remotes : List Nat)
      (call : EngineCall)
  | setOracle (place : Nat) (caller : Address) (now : Timestamp) (feedPlace : Nat)
  | setTreasury (place : Nat) (caller : Address) (now : Timestamp) (treasuryPlace : Nat)

namespace World

/-- A call on the engine at a place, with other engines within its reach. -/
def callEngine (place : Nat) (caller : Address) (now : Timestamp) (remotes : List Nat)
    (call : EngineCall) : Transact World EngineReply :=
  onArena place caller now remotes fun ctx => call.run ctx

/-- A call on the ledger. -/
def callLedger (now : Timestamp) (call : LedgerCall) : Transact World Unit :=
  onLedger (call.run now)

/-- A call on the treasury at a place. -/
def callTreasury (place : Nat) (call : TreasuryCall) : Transact World Unit :=
  onTreasury place fun t => call.run t

/-- A call on the price feed at a place. -/
def callFeed (place : Nat) (now : Timestamp) (call : FeedCall) : Transact World Unit :=
  onFeed place fun f => call.run f now

end World

/-- Make a call. -/
def Call.run : Call → Transact World Unit
  | .ledger now call => World.callLedger now call
  | .openTreasury address stablecoin governor => do
    let _ ← World.openTreasury address stablecoin governor
  | .treasury place call => World.callTreasury place call
  | .addMinter place minter now => World.addMinter place minter now
  | .openFeed state => do
    let _ ← World.openFeed ⟨state, []⟩
  | .feed place now call => World.callFeed place now call
  | .deploy config treasuryPlace feedPlace now => do
    let _ ← World.deploy config treasuryPlace feedPlace now
  | .engine place caller now remotes call => do
    let _ ← World.callEngine place caller now remotes call
  | .setOracle place caller now feedPlace => World.setOracle place caller now feedPlace
  | .setTreasury place caller now treasuryPlace => World.setTreasury place caller now treasuryPlace

namespace World

/-- The world after calls, the first one first, each accepted or refused. -/
def history (calls : List Call) : World := calls.foldl (fun w call => call.run.after w) .empty

/-- The worlds that calls lead to. -/
def Reachable (w : World) : Prop := ∃ calls, history calls = w

end World

end CollateralDebt
