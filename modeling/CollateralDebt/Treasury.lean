import CollateralDebt.Ledger

/-!
# Treasuries

A treasury knows who governs, who guards, and which engines are its own. It controls the stablecoin,
so it is the treasury that makes engines minters. There is always a governor: the last one cannot be
removed.

## What is stated here

- `Treasury.create`, `grant`, `revoke`, `addEngine`, `removeEngine`: the calls on a treasury;
- `isGovernor`, `isGovernorOrGuardian`, `isEngine`: what engines ask of it;
- `addMinter`: the call that a treasury makes on the ledger.
-/

namespace CollateralDebt

/-- What an account may do. -/
inductive Role where
  /-- Everything, including giving roles. -/
  | governor
  /-- The faster risk measures. -/
  | guardian
deriving DecidableEq

/-- A treasury. -/
@[ext]
structure Treasury where
  address : Address
  stablecoin : Address
  governors : KeySet Address
  guardians : KeySet Address
  /-- The engines that may exchange debt with each other. -/
  engines : KeySet Address

namespace Treasury

/-- A treasury with one governor. -/
def create (address stablecoin governor : Address) : Outcome Treasury := do
  Outcome.require (address ≠ .zero ∧ stablecoin ≠ .zero ∧ governor ≠ .zero) .zeroAddress
  return { address, stablecoin, governors := KeySet.insert .empty governor,
           guardians := .empty, engines := .empty }

/-- Whether an account has a role. -/
def hasRole (t : Treasury) (account : Address) : Role → Bool
  | .governor => t.governors.contains account
  | .guardian => t.guardians.contains account

/-- Whether an account governs. -/
def isGovernor (t : Treasury) (account : Address) : Bool := t.hasRole account .governor

/-- Whether an account governs or guards. -/
def isGovernorOrGuardian (t : Treasury) (account : Address) : Bool :=
  t.hasRole account .governor || t.hasRole account .guardian

/-- Whether an address is an engine of this treasury. -/
def isEngine (t : Treasury) (address : Address) : Bool := t.engines.contains address

/-- The caller has to govern. -/
def requireGovernor (t : Treasury) (caller : Address) : Outcome Unit :=
  Outcome.require (t.isGovernor caller) (.notGovernor caller)

/-- Give a role. -/
def grant (t : Treasury) (caller account : Address) (role : Role) : Outcome Treasury := do
  t.requireGovernor caller
  Outcome.require (account ≠ .zero) .zeroAddress
  return match role with
    | .governor => { t with governors := KeySet.insert t.governors account }
    | .guardian => { t with guardians := KeySet.insert t.guardians account }

/-- Whether the account is the only governor. -/
def isLastGovernor (t : Treasury) (account : Address) : Bool :=
  t.governors.size = 1 && t.isGovernor account

/-- Take a role away. -/
def revoke (t : Treasury) (caller account : Address) (role : Role) : Outcome Treasury := do
  t.requireGovernor caller
  match role with
  | .governor =>
    Outcome.require (¬ t.isLastGovernor account) (.invalidParameterValue .governor)
    return { t with governors := t.governors.erase account }
  | .guardian => return { t with guardians := t.guardians.erase account }

/-- Register an engine. -/
def addEngine (t : Treasury) (caller engine : Address) : Outcome Treasury := do
  t.requireGovernor caller
  Outcome.require (engine ≠ .zero) .zeroAddress
  return { t with engines := KeySet.insert t.engines engine }

/-- Unregister an engine. -/
def removeEngine (t : Treasury) (caller engine : Address) : Outcome Treasury := do
  t.requireGovernor caller
  Outcome.require (t.isEngine engine) (.notEngine engine)
  return { t with engines := t.engines.erase engine }

/-- Let an account mint and burn the stablecoin. -/
def addMinter (t : Treasury) (minter : Address) (now : Timestamp) : Transact Ledger Unit :=
  Ledger.registerMinter t.stablecoin t.address minter now

end Treasury

end CollateralDebt
