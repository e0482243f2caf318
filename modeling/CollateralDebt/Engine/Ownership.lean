import CollateralDebt.Engine.Basic

/-!
# Ownership of vaults

Approvals and transfers, and the creation and removal of vaults that batches are made of. An owner
and the owner's operators approve; the approved account, the owner and operators transfer. While
whitelisting is active, the caller and the new owner have to be listed.
-/

namespace CollateralDebt.Engine

/-- While whitelisting is active, the caller and the recipient have to be listed; the caller is
checked first. -/
def requireWhitelisted (caller recipient : Address) : Transact Engine Unit := do
  let s ← getState
  if s.params.whitelistingActivated then
    Transact.require (s.registry.isWhitelisted caller) (.notWhitelisted caller)
    Transact.require (s.registry.isWhitelisted recipient) (.notWhitelisted recipient)

/-- The caller has to be allowed to act on the vault. -/
def requireMayAct (caller : Address) (id : VaultId) : Transact Engine Unit := do
  let allowed ← (← getState).registry.mayAct caller id
  Transact.require allowed (.notApprovedOrOwner id caller)

/-- Approve an account for one vault; the zero address takes the approval away. -/
def approve (ctx : Context) (account : Address) (id : VaultId) : Transact Engine Unit := do
  let r := (← getState).registry
  let owner ← r.ownerOf id
  Transact.require (account ≠ owner) .approvalToOwner
  Transact.require (ctx.caller = owner ∨ r.isOperator owner ctx.caller)
    (.notApprovedOrOwner id ctx.caller)
  modifyRegistry (·.setApproved id account)
  emit (.approval owner account id ctx.now)

/-- Approve an operator for all vaults of the caller, or no longer. -/
def setApprovalForAll (ctx : Context) (operator : Address) (approved : Bool) :
    Transact Engine Unit := do
  Transact.require (operator ≠ ctx.caller) .approvalToCaller
  Transact.require (operator ≠ .zero) .zeroAddress
  modifyRegistry (·.setOperator ctx.caller operator approved)
  emit (.approvalForAll ctx.caller operator approved ctx.now)

/-- Give a vault to another owner. -/
def transferVault (ctx : Context) (source recipient : Address) (id : VaultId) :
    Transact Engine Unit := do
  requireMayAct ctx.caller id
  let owner ← (← getState).registry.ownerOf id
  Transact.require (owner = source) (.notApprovedOrOwner id ctx.caller)
  Transact.require (recipient ≠ .zero) .zeroAddress
  requireWhitelisted ctx.caller recipient
  modifyRegistry (·.move source recipient id)
  emit (.transfer source recipient id ctx.now)

/-- Create a vault. -/
def mintVault (ctx : Context) (owner : Address) : Transact Engine VaultId := do
  Transact.require (owner ≠ .zero) .zeroAddress
  requireWhitelisted ctx.caller owner
  let (id, registry) ← (← getState).registry.mint owner
  modifyRegistry fun _ => registry
  emit (.transfer .zero owner id ctx.now)
  return id

/-- Remove a vault. -/
def burnVault (now : Timestamp) (id : VaultId) : Transact Engine Unit := do
  let (owner, registry) ← (← getState).registry.burn id
  modifyRegistry fun _ => registry
  emit (.transfer owner .zero id now)

end CollateralDebt.Engine
