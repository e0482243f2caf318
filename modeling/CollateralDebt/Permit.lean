import CollateralDebt.Sha256
import CollateralDebt.Wire

/-!
# Permits

A permit is an allowance that its owner signed. Owner and ledger share a signing key; the signature
is the digest of the key followed by the digest of the permit's terms and the owner's current nonce,
so a permit is good for exactly one nonce.

Addresses of engines are derived in the same way, as the digest of a domain tag and some parts.

## What is stated here

- `Permit.digest`, `Permit.sign`: what a signature commits to, and the signature;
- `deriveAddress`: an address from a domain tag.
-/

namespace CollateralDebt

/-- The bytes of a text. -/
def textBytes (s : String) : Bytes := s.toUTF8.data.toList

/-- The address that a domain tag and some parts determine. -/
def deriveAddress (domain : Bytes) (parts : List Bytes) : Address :=
  sha256 (domain ++ parts.flatten)

/-- A signed allowance. -/
@[ext]
structure Permit where
  /-- The asset that the allowance is for. -/
  asset : Address
  owner : Address
  spender : Address
  value : Amount
  /-- The last time at which the permit is good. -/
  deadline : Timestamp
  signature : Bytes32
deriving DecidableEq

namespace Permit

/-- The domain tag of permits. -/
def domain : Bytes := textBytes "vaultkit.permit.v1"

/-- What a signature commits to: the domain tag, the terms, and the owner's nonce. -/
def digest (asset owner spender : Address) (value : Amount) (nonce : UInt64)
    (deadline : Timestamp) : Bytes32 :=
  sha256 (domain ++ Wire.encode (asset, owner, spender, value, nonce, deadline))

/-- The signature of a digest with an owner's key. -/
def sign (key digest : Bytes32) : Bytes32 := sha256 (key.bytes ++ digest.bytes)

instance : Wire Permit :=
  .via (fun p => (p.asset, p.owner, p.spender, p.value, p.deadline, p.signature))
    fun (asset, owner, spender, value, deadline, signature) =>
      { asset, owner, spender, value, deadline, signature }

end Permit

end CollateralDebt
