import CollateralDebt.Proofs.Engine.Debt

/-!
# The debt total of an engine

An engine is *exact* if its debt total is the sum of what its vaults owe. Every change of a vault
moves the total along with the vault, so each of them keeps an engine exact. A new vault must not
replace one that owes something, which is why the numbers of vaults belong to the invariant.

## What is proved

- `Exact`, and how each kind of change keeps it;
- `Exact.covers`: no vault owes more than the total.
-/

namespace CollateralDebt.Engine

/-- The debt total is the sum over all vaults, and every vault has a number that was given out. -/
structure Exact (e : Engine) : Prop where
  total : e.state.totalNormalizedDebt.toNat = e.sum (·.normalizedDebt.toNat)
  numbered : e.state.registry.Numbered

namespace Exact

variable {e e' : Engine} {id : VaultId} {v w : Vault}

/-- No vault owes more than the total. -/
theorem covers (h : e.Exact) (found : e.vault? id = some v) :
    v.normalizedDebt ≤ e.state.totalNormalizedDebt := by
  rw [Amount.le_iff, h.total]
  exact Table.le_sum (·.normalizedDebt.toNat) found

/-- An engine with the same vaults and the same total. -/
theorem congr (h : e.Exact) (vaults : e'.state.registry.vaults = e.state.registry.vaults)
    (lastId : e'.state.registry.lastId = e.state.registry.lastId)
    (total : e'.state.totalNormalizedDebt = e.state.totalNormalizedDebt) : e'.Exact where
  total := by
    unfold sum
    rw [total, vaults]
    exact h.total
  numbered := Registry.numbered_congr vaults lastId h.numbered

/-- The total moves with the vault that is revised. -/
theorem revised (h : e.Exact) (changed : Revised e id v w e') : e'.Exact where
  total := by
    have total := h.total
    have moved := changed.total
    have sums := changed.sum (·.normalizedDebt.toNat)
    omega
  numbered := changed.numbered h.numbered

/-- The total loses what the removed vault owed. -/
theorem removed (h : e.Exact) (closed : Removed e id v e') : e'.Exact where
  total := by
    have total := h.total
    have moved := closed.total
    have sums := closed.sum (·.normalizedDebt.toNat)
    omega
  numbered := closed.numbered h.numbered

/-- Accrual changes neither the vaults nor the total. -/
theorem accrued {now : Timestamp} {accumulator : Amount} (h : e.Exact)
    (booked : Accrued e now accumulator e') : e'.Exact :=
  h.congr (congrArg Registry.vaults booked.registry) (congrArg Registry.lastId booked.registry)
    booked.total

end Exact

/-- A new vault owes nothing. -/
theorem Exact.created {e e' : Engine} {id : VaultId} (h : e.Exact) (made : Created e id e') :
    e'.Exact where
  total := by
    rw [made.total, made.sum h.numbered _ rfl]
    exact h.total
  numbered := made.numbered h.numbered

/-- What is paid out of a vault comes off the total as well. -/
theorem Exact.paidOut {now : Timestamp} {id : VaultId} {amount taken : Amount}
    {senderBorrowFee senderRepayFee : UInt64} {e e' : Engine} (h : e.Exact)
    (paid : payDebtOut now id amount senderBorrowFee senderRepayFee e = .ok taken e') :
    e'.Exact := by
  obtain ⟨_, m, _, _, _, _, booked, revised, _⟩ := payDebtOut_eq_ok paid
  exact (h.accrued booked).revised revised

end CollateralDebt.Engine
