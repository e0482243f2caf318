import CollateralDebt.Ledger

/-!
# Calls on the ledger

The changing calls as data, so that what happens to a ledger is a list of calls, each accepted or
refused.

## What is stated here

- `LedgerCall`, `LedgerCall.run`: a call, and what it does at a time;
- `Ledger.history`: the ledger after a list of calls.
-/

namespace CollateralDebt

/-- A changing call on the ledger. -/
inductive LedgerCall where
  | createAsset (asset controller : Address) (decimals : UInt8)
  | registerMinter (asset controller minter : Address)
  | mint (asset minter recipient : Address) (amount : Amount)
  | burnFrom (asset minter source sender : Address) (amount : Amount)
  | transfer (asset source recipient : Address) (amount : Amount)
  | transferFrom (asset spender source recipient : Address) (amount : Amount)
  | approve (asset owner spender : Address) (amount : Amount)
  | registerSigningKey (owner : Address) (key : Bytes32)
  | permit (signed : Permit)
deriving DecidableEq

/-- Make a call. -/
def LedgerCall.run (now : Timestamp) : LedgerCall → Transact Ledger Unit
  | .createAsset asset controller decimals => Ledger.createAsset asset controller decimals
  | .registerMinter asset controller minter => Ledger.registerMinter asset controller minter now
  | .mint asset minter recipient amount => Ledger.mint asset minter recipient amount now
  | .burnFrom asset minter source sender amount =>
    Ledger.burnFrom asset minter source sender amount now
  | .transfer asset source recipient amount => Ledger.transfer asset source recipient amount now
  | .transferFrom asset spender source recipient amount =>
    Ledger.transferFrom asset spender source recipient amount now
  | .approve asset owner spender amount => Ledger.approve asset owner spender amount now
  | .registerSigningKey owner key => Ledger.registerSigningKey owner key
  | .permit signed => Ledger.permit signed now

/-- The ledger after calls at their times, the first one first, each accepted or refused. -/
def Ledger.history (calls : List (Timestamp × LedgerCall)) : Ledger :=
  calls.foldl (fun l (now, call) => (call.run now).after l) .empty

end CollateralDebt
