import CollateralDebt.Outcome
import CollateralDebt.Wire

/-!
# The vault registry

Vaults and who owns them. A vault has one owner, may have one approved account, and its owner may
approve operators for everything the owner has. Numbers are handed out from 1 on and never again.
The registry also lists the accounts that may take part while whitelisting is active.

## What is stated here

- `Registry`: the tables;
- the reading calls, of which `mayAct` decides who may act on a vault;
- `mint`, `burn`, `move`, `setVault` and the setters of approvals: the changes.
-/

namespace CollateralDebt

/-- Vaults, owners and approvals. -/
@[ext]
structure Registry where
  /-- The last number that was handed out. -/
  lastId : VaultId
  vaults : Table VaultId Vault
  owners : Table VaultId Address
  /-- The vaults of each owner. -/
  owned : Table Address (KeySet VaultId)
  approvals : Table VaultId Address
  /-- Owners with the operators that they approved. -/
  operators : KeySet (Address × Address)
  whitelist : KeySet Address

namespace Registry

/-- The registry without vaults. -/
def empty : Registry := ⟨0, .empty, .empty, .empty, .empty, .empty, .empty⟩

instance : Inhabited Registry := ⟨empty⟩

/-! ## Reading -/

/-- The vault with a number. -/
def vault? (r : Registry) (id : VaultId) : Option Vault := r.vaults.get? id

/-- The vault with a number, which has to exist. -/
def vault (r : Registry) (id : VaultId) : Outcome Vault :=
  Outcome.ofOption (.nonexistentVault id) (r.vault? id)

/-- Whether a number is owned. -/
def exists? (r : Registry) (id : VaultId) : Bool := r.owners.contains id

/-- The owner of a vault, which has to exist. -/
def ownerOf (r : Registry) (id : VaultId) : Outcome Address :=
  Outcome.ofOption (.nonexistentVault id) (r.owners.get? id)

/-- The numbers of an owner's vaults, ascending. -/
def vaultsOf (r : Registry) (owner : Address) : List VaultId :=
  ((r.owned.get? owner).map Table.keys).getD []

/-- How many vaults an owner has. -/
def balanceOf (r : Registry) (owner : Address) : Nat :=
  ((r.owned.get? owner).map Table.size).getD 0

/-- The approved account of a vault; the zero address if there is none. -/
def approvedOf (r : Registry) (id : VaultId) : Outcome Address := do
  let _ ← r.ownerOf id
  return r.approvals.getD id .zero

/-- Whether an owner approved an operator. -/
def isOperator (r : Registry) (owner operator : Address) : Bool :=
  r.operators.contains (owner, operator)

/-- Whether an account may act on a vault: as its owner, as its approved account, or as an operator
of its owner. -/
def mayAct (r : Registry) (account : Address) (id : VaultId) : Outcome Bool := do
  let owner ← r.ownerOf id
  return account = owner || r.approvals.get? id = some account || r.isOperator owner account

/-- Whether an account is listed. -/
def isWhitelisted (r : Registry) (account : Address) : Bool := r.whitelist.contains account

/-! ## Changing -/

/-- With a vault at a number. -/
def setVault (r : Registry) (id : VaultId) (v : Vault) : Registry :=
  { r with vaults := r.vaults.insert id v }

/-- With a number among those of an owner. -/
def addOwned (r : Registry) (owner : Address) (id : VaultId) : Registry :=
  { r with owned := r.owned.insert owner (KeySet.insert (r.owned.getD owner .empty) id) }

/-- With a number no longer among those of an owner; an owner without vaults has no entry. -/
def removeOwned (r : Registry) (owner : Address) (id : VaultId) : Registry :=
  match r.owned.get? owner with
  | none => r
  | some ids =>
    let rest := ids.erase id
    { r with owned := if rest.isEmpty then r.owned.erase owner else r.owned.insert owner rest }

/-- Create an empty vault under the next number. -/
def mint (r : Registry) (owner : Address) : Outcome (VaultId × Registry) :=
  if r.lastId.toNat + 1 < UInt64.size then
    let id := r.lastId + 1
    let next := { r with
      lastId := id
      vaults := r.vaults.insert id .empty
      owners := r.owners.insert id owner }
    .ok (id, next.addOwned owner id)
  else reject .overflow

/-- Remove a vault, and with it its approval. -/
def burn (r : Registry) (id : VaultId) : Outcome (Address × Registry) := do
  let owner ← r.ownerOf id
  let next := { r with
    owners := r.owners.erase id
    vaults := r.vaults.erase id
    approvals := r.approvals.erase id }
  return (owner, next.removeOwned owner id)

/-- Give a vault to another owner. Its approval does not go with it. -/
def move (r : Registry) (source recipient : Address) (id : VaultId) : Registry :=
  let next := { r with approvals := r.approvals.erase id }
  let next := (next.removeOwned source id).addOwned recipient id
  { next with owners := next.owners.insert id recipient }

/-- Approve an account for a vault; the zero address takes the approval away. -/
def setApproved (r : Registry) (id : VaultId) (account : Address) : Registry :=
  { r with approvals :=
      if account = .zero then r.approvals.erase id else r.approvals.insert id account }

/-- Approve an operator, or no longer. -/
def setOperator (r : Registry) (owner operator : Address) (approved : Bool) : Registry :=
  { r with operators :=
      if approved then KeySet.insert r.operators (owner, operator)
      else r.operators.erase (owner, operator) }

/-- List an account, or strike it off the list if it is on it. -/
def toggleWhitelisted (r : Registry) (account : Address) : Registry :=
  { r with whitelist :=
      if r.isWhitelisted account then r.whitelist.erase account
      else KeySet.insert r.whitelist account }

instance : Wire Registry :=
  .via
    (fun r => (r.lastId, r.vaults, r.owners, r.owned, r.approvals, r.operators, r.whitelist))
    fun (lastId, vaults, owners, owned, approvals, operators, whitelist) =>
      { lastId, vaults, owners, owned, approvals, operators, whitelist }

end Registry

end CollateralDebt
