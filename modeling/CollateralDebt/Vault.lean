import CollateralDebt.Amount

/-!
# Vaults

A vault is one collateral and debt position. Debt is stored normalized: divided by the interest
accumulator, so that the passing of time changes no vault.
-/

namespace CollateralDebt

/-- Seconds since the epoch. -/
abbrev Timestamp := UInt64

/-- The number of a vault. Vaults are numbered from 1; inside a batch, 0 stands for the newest. -/
abbrev VaultId := UInt64

/-- A collateral and debt position. -/
@[ext]
structure Vault where
  /-- Collateral, in the smallest unit of the collateral asset. -/
  collateral : Amount
  /-- Debt divided by the interest accumulator. -/
  normalizedDebt : Amount
deriving DecidableEq

namespace Vault

/-- The vault with neither collateral nor debt: a new one, or one that a liquidation exhausted. -/
def empty : Vault := ⟨.zero, .zero⟩

instance : Inhabited Vault := ⟨empty⟩

/-- Neither collateral nor debt. -/
def isEmpty (v : Vault) : Bool :=
  v.collateral = .zero && v.normalizedDebt = .zero

end Vault

end CollateralDebt
