import CollateralDebt.Outcome
import CollateralDebt.Permit

/-!
# Actions

A batch is a list of actions on vaults. On the wire it is two lists that go together: the kinds of
the actions, and for each its fields as a payload. Reading a payload uses up all of its bytes.

## What is stated here

- `Action`, `ActionKind`: one instruction, and its kind;
- `Action.encodePayload`, `Action.decodePayload`: the wire form of the fields;
- `encodeActions`, `decodeActions`: the wire form of a batch.
-/

namespace CollateralDebt

/-- The kinds of actions. -/
inductive ActionKind where
  | createVault
  | closeVault
  | addCollateral
  | removeCollateral
  | repayDebt
  | borrow
  | getDebtIn
  | permit
deriving DecidableEq

namespace ActionKind

/-- All kinds, in the order of their bytes. -/
def all : List ActionKind :=
  [.createVault, .closeVault, .addCollateral, .removeCollateral, .repayDebt, .borrow, .getDebtIn,
    .permit]

/-- The byte that stands for a kind. -/
def toByte : ActionKind → UInt8
  | .createVault => 0
  | .closeVault => 1
  | .addCollateral => 2
  | .removeCollateral => 3
  | .repayDebt => 4
  | .borrow => 5
  | .getDebtIn => 6
  | .permit => 7

/-- The kind that a byte stands for. -/
def ofByte? (b : UInt8) : Option ActionKind := all.find? (·.toByte == b)

instance : Wire ActionKind := .viaByte toByte ofByte?

end ActionKind

/-- One instruction of a batch. -/
inductive Action where
  /-- Create a vault for `owner`. -/
  | createVault (owner : Address)
  /-- Repay all debt, release all collateral, and give up the number. -/
  | closeVault (vault : VaultId)
  | addCollateral (vault : VaultId) (amount : Amount)
  | removeCollateral (vault : VaultId) (amount : Amount)
  | repayDebt (vault : VaultId) (amount : Amount)
  | borrow (vault : VaultId) (amount : Amount)
  /-- Take debt into the vault `receiving` out of the vault `giving` of an engine. -/
  | getDebtIn (receiving : VaultId) (givingEngine : Address) (giving : VaultId) (amount : Amount)
  | permit (signed : Permit)
deriving DecidableEq

namespace Action

/-- The kind of an action. -/
def kind : Action → ActionKind
  | .createVault .. => .createVault
  | .closeVault .. => .closeVault
  | .addCollateral .. => .addCollateral
  | .removeCollateral .. => .removeCollateral
  | .repayDebt .. => .repayDebt
  | .borrow .. => .borrow
  | .getDebtIn .. => .getDebtIn
  | .permit .. => .permit

/-- The fields of an action, written out. -/
def encodePayload : Action → Bytes
  | .createVault owner => Wire.encode owner
  | .closeVault vault => Wire.encode vault
  | .addCollateral vault amount => Wire.encode (vault, amount)
  | .removeCollateral vault amount => Wire.encode (vault, amount)
  | .repayDebt vault amount => Wire.encode (vault, amount)
  | .borrow vault amount => Wire.encode (vault, amount)
  | .getDebtIn receiving givingEngine giving amount =>
    Wire.encode (receiving, givingEngine, giving, amount)
  | .permit signed => Wire.encode signed

/-- Read the fields of an action of a given kind. -/
def readPayload : ActionKind → Bytes → Option (Action × Bytes)
  | .createVault => Wire.readAs .createVault
  | .closeVault => Wire.readAs .closeVault
  | .addCollateral => Wire.readAs fun (vault, amount) => .addCollateral vault amount
  | .removeCollateral => Wire.readAs fun (vault, amount) => .removeCollateral vault amount
  | .repayDebt => Wire.readAs fun (vault, amount) => .repayDebt vault amount
  | .borrow => Wire.readAs fun (vault, amount) => .borrow vault amount
  | .getDebtIn => Wire.readAs fun (receiving, givingEngine, giving, amount) =>
    .getDebtIn receiving givingEngine giving amount
  | .permit => Wire.readAs .permit

/-- The action of a given kind whose fields the payload holds, and nothing else. -/
def decodePayload (kind : ActionKind) (payload : Bytes) : Option Action :=
  match readPayload kind payload with
  | some (action, []) => some action
  | _ => none

/-- On its own, an action is written as the byte of its kind and its payload. -/
instance : Wire Action where
  encode a := a.kind.toByte :: a.encodePayload
  read
    | [] => none
    | b :: rest => do readPayload (← ActionKind.ofByte? b) rest

end Action

/-- The kinds and the payloads of a batch. -/
def encodeActions (actions : List Action) : List ActionKind × List Bytes :=
  (actions.map Action.kind, actions.map Action.encodePayload)

/-- Read the actions from the place `index` of a batch on. -/
def decodeFrom (index : Nat) : List (ActionKind × Bytes) → Outcome (List Action)
  | [] => .ok []
  | (kind, payload) :: rest => do
    let action ← Outcome.ofOption (.invalidActionPayload index) (Action.decodePayload kind payload)
    return action :: (← decodeFrom (index + 1) rest)

/-- The actions of a batch. Kinds and payloads have to be equal in number, and not none. -/
def decodeActions (kinds : List ActionKind) (payloads : List Bytes) : Outcome (List Action) := do
  Outcome.require (kinds.length = payloads.length ∧ kinds ≠ [])
    (.incompatibleLengths kinds.length payloads.length)
  decodeFrom 0 (kinds.zip payloads)

end CollateralDebt
