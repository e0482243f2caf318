import CollateralDebt.Event
import CollateralDebt.FixedPoint
import CollateralDebt.Permit

/-!
# The ledger

Balances of any number of assets. Every asset has a controller, who registers the accounts that may
mint and burn it. Whoever moves the funds of somebody else spends an allowance, and an owner can
grant one by a signed permit.

A call that is refused keeps what it did before it was refused: an allowance that was spent stays
spent. Calls that need all or nothing are made of a ledger as a whole by whoever needs it.

## What is stated here

- `LedgerState`, `Ledger`: what is kept, and the same with a log;
- the reading calls `balanceOf`, `allowance`, `nonce`, `totalSupply`, `isMinter`;
- the changing calls `createAsset`, `registerMinter`, `mint`, `burnFrom`, `transfer`,
  `transferFrom`, `approve`, `registerSigningKey`, `permit`.
-/

namespace CollateralDebt

/-- What is known of an asset. -/
@[ext]
structure AssetInfo where
  /-- The account that registers minters. -/
  controller : Address
  decimals : UInt8
  totalSupply : Amount
  /-- The accounts that may mint and burn. -/
  minters : KeySet Address

instance : Wire AssetInfo :=
  .via (fun a => (a.controller, a.decimals, a.totalSupply, a.minters))
    fun (controller, decimals, totalSupply, minters) =>
      { controller, decimals, totalSupply, minters }

/-- What a ledger keeps. -/
@[ext]
structure LedgerState where
  assets : Table Address AssetInfo
  /-- By asset and account. -/
  balances : Table (Address × Address) Amount
  /-- By asset, owner and spender. -/
  allowances : Table (Address × Address × Address) Amount
  /-- The keys that owners sign permits with. -/
  signingKeys : Table Address Bytes32
  /-- The nonce of the next permit, by asset and owner. -/
  nonces : Table (Address × Address) UInt64

instance : Wire LedgerState :=
  .via (fun s => (s.assets, s.balances, s.allowances, s.signingKeys, s.nonces))
    fun (assets, balances, allowances, signingKeys, nonces) =>
      { assets, balances, allowances, signingKeys, nonces }

/-- A ledger and the log of what happened on it. -/
@[ext]
structure Ledger where
  state : LedgerState
  log : EventLog

namespace Ledger

/-- The ledger without assets. -/
def empty : Ledger := ⟨⟨.empty, .empty, .empty, .empty, .empty⟩, []⟩

instance : Inhabited Ledger := ⟨empty⟩

/-! ## Reading -/

/-- The funds of an account. -/
def balanceOf (l : Ledger) (asset account : Address) : Amount :=
  l.state.balances.getD (asset, account) .zero

/-- What `spender` may still move of the funds of `owner`. -/
def allowance (l : Ledger) (asset owner spender : Address) : Amount :=
  l.state.allowances.getD (asset, owner, spender) .zero

/-- The nonce of the owner's next permit. -/
def nonce (l : Ledger) (asset owner : Address) : UInt64 :=
  l.state.nonces.getD (asset, owner) 0

/-- All funds of an asset; none of an unknown one. -/
def totalSupply (l : Ledger) (asset : Address) : Amount :=
  ((l.state.assets.get? asset).map (·.totalSupply)).getD .zero

/-- Whether an account may mint and burn an asset. -/
def isMinter (l : Ledger) (asset account : Address) : Bool :=
  (l.state.assets.get? asset).any (·.minters.contains account)

/-- What is known of an asset. -/
def assetInfo (l : Ledger) (asset : Address) : Outcome AssetInfo :=
  Outcome.ofOption (.unknownAsset asset) (l.state.assets.get? asset)

/-- The precision of an asset. -/
def decimals (l : Ledger) (asset : Address) : Outcome UInt8 := do
  return (← l.assetInfo asset).decimals

/-- The permit of the given terms, signed with a key under the owner's current nonce. -/
def signedPermit (l : Ledger) (key : Bytes32) (asset owner spender : Address) (value : Amount)
    (deadline : Timestamp) : Permit where
  asset := asset
  owner := owner
  spender := spender
  value := value
  deadline := deadline
  signature :=
    Permit.sign key (Permit.digest asset owner spender value (l.nonce asset owner) deadline)

/-! ## Steps -/

/-- Add to the log. -/
def emit (event : Event) : Transact Ledger Unit :=
  modify fun l => { l with log := l.log.emit event }

/-- The asset, which has to be known. -/
def findAsset (asset : Address) : Transact Ledger AssetInfo := do
  (← get).assetInfo asset

/-- Replace what is known of an asset. -/
def putAsset (asset : Address) (info : AssetInfo) : Transact Ledger Unit :=
  modify fun l => { l with state := { l.state with assets := l.state.assets.insert asset info } }

/-- Set the funds of an account. -/
def putBalance (asset account : Address) (amount : Amount) : Transact Ledger Unit :=
  modify fun l => { l with state :=
    { l.state with balances := l.state.balances.insert (asset, account) amount } }

/-- Set an allowance. -/
def putAllowance (asset owner spender : Address) (amount : Amount) : Transact Ledger Unit :=
  modify fun l => { l with state :=
    { l.state with allowances := l.state.allowances.insert (asset, owner, spender) amount } }

/-- The account has to be a minter of the asset. -/
def requireMinter (asset minter : Address) : Transact Ledger Unit := do
  let info ← findAsset asset
  Transact.require (info.minters.contains minter) (.mintUnauthorized asset minter)

/-- Use up a part of an allowance. Owners need none, and the largest allowance is never used up. -/
def spendAllowance (asset owner spender : Address) (amount : Amount) : Transact Ledger Unit := do
  if owner ≠ spender then
    let available := (← get).allowance asset owner spender
    if h : amount ≤ available then
      if available ≠ .largest then
        putAllowance asset owner spender (available.sub amount h)
    else
      Transact.reject (.insufficientAllowance available amount)

/-- Take from the funds of an account. -/
def debit (asset account : Address) (amount : Amount) : Transact Ledger Unit := do
  let available := (← get).balanceOf asset account
  if h : amount ≤ available then
    putBalance asset account (available.sub amount h)
  else
    Transact.reject (.insufficientBalance available amount)

/-- Add to the funds of an account. -/
def credit (asset account : Address) (amount : Amount) : Transact Ledger Unit := do
  let balance := (← get).balanceOf asset account
  putBalance asset account (← balance.add amount)

/-! ## Calls -/

/-- Make a new asset known. -/
def createAsset (asset controller : Address) (decimals : UInt8) : Transact Ledger Unit := do
  Transact.require (asset ≠ .zero ∧ controller ≠ .zero) .zeroAddress
  Transact.require (¬ (← get).state.assets.contains asset) (.invalidParameterValue .asset)
  putAsset asset { controller, decimals, totalSupply := .zero, minters := .empty }

/-- Let an account mint and burn an asset; only the asset's controller may. -/
def registerMinter (asset controller minter : Address) (now : Timestamp) :
    Transact Ledger Unit := do
  let info ← findAsset asset
  Transact.require (info.controller = controller) (.unauthorized info.controller controller)
  Transact.require (minter ≠ .zero) .zeroAddress
  putAsset asset { info with minters := KeySet.insert info.minters minter }
  emit (.minterRegistered asset minter now)

/-- Move an owner's own funds. Moving nothing is accepted and leaves no trace. -/
def transfer (asset source recipient : Address) (amount : Amount) (now : Timestamp) :
    Transact Ledger Unit := do
  let _ ← findAsset asset
  Transact.require (recipient ≠ .zero) .zeroAddress
  if amount ≠ .zero then
    debit asset source amount
    credit asset recipient amount
    emit (.tokenTransfer asset source recipient amount now)

/-- Move funds on behalf of `spender`, out of the allowance that `source` granted. -/
def transferFrom (asset spender source recipient : Address) (amount : Amount) (now : Timestamp) :
    Transact Ledger Unit := do
  let _ ← findAsset asset
  spendAllowance asset source spender amount
  transfer asset source recipient amount now

/-- Create funds. -/
def mint (asset minter recipient : Address) (amount : Amount) (now : Timestamp) :
    Transact Ledger Unit := do
  requireMinter asset minter
  Transact.require (recipient ≠ .zero) .zeroAddress
  Transact.require (amount ≠ .zero) (.zeroAmount amount)
  let info ← findAsset asset
  putAsset asset { info with totalSupply := ← info.totalSupply.add amount }
  credit asset recipient amount
  emit (.tokenMint asset recipient amount now)

/-- Destroy funds of `source` on behalf of `sender`, out of the allowance that `source` granted. -/
def burnFrom (asset minter source sender : Address) (amount : Amount) (now : Timestamp) :
    Transact Ledger Unit := do
  requireMinter asset minter
  Transact.require (amount ≠ .zero) (.zeroAmount amount)
  spendAllowance asset source sender amount
  debit asset source amount
  let info ← findAsset asset
  putAsset asset { info with totalSupply := ← info.totalSupply.minus amount }
  emit (.tokenBurn asset source amount now)

/-- Set the allowance of `spender` on the funds of `owner`. -/
def approve (asset owner spender : Address) (amount : Amount) (now : Timestamp) :
    Transact Ledger Unit := do
  let _ ← findAsset asset
  Transact.require (spender ≠ .zero) .zeroAddress
  putAllowance asset owner spender amount
  emit (.tokenApproval asset owner spender amount now)

/-- Register the key that an owner signs permits with. -/
def registerSigningKey (owner : Address) (key : Bytes32) : Transact Ledger Unit :=
  modify fun l => { l with state :=
    { l.state with signingKeys := l.state.signingKeys.insert owner key } }

/-- The nonce after a given one. Nobody checks that there is one. -/
def nextNonce (nonce : UInt64) : Outcome UInt64 :=
  if nonce.toNat + 1 < UInt64.size then .ok (nonce + 1) else .error .fault

/-- Set the allowance that a permit grants. The signature has to be that of the owner's key and
current nonce, and the nonce moves on. -/
def permit (p : Permit) (now : Timestamp) : Transact Ledger Unit := do
  let _ ← findAsset p.asset
  Transact.require (now ≤ p.deadline) (.expiredPermit p.deadline now)
  let l ← get
  let key ← Outcome.ofOption .invalidSignature (l.state.signingKeys.get? p.owner)
  let expected := l.signedPermit key p.asset p.owner p.spender p.value p.deadline
  Transact.require (expected.signature = p.signature) .invalidSignature
  let next ← nextNonce (l.nonce p.asset p.owner)
  modify fun l => { l with state :=
    { l.state with nonces := l.state.nonces.insert (p.asset, p.owner) next } }
  approve p.asset p.owner p.spender p.value now

end Ledger

end CollateralDebt
