import CollateralDebt.Engine.Batch
import CollateralDebt.Proofs.Engine.Basic

/-!
# Debt and collateral, one action at a time

Every action on a vault sets its balances once and moves the debt total along, so it is a `Revised`
engine with a few equations between the old vault, the new one and the amounts that are paid. The
equations keep normalized debt and actual debt apart: `change` counts normalized units, and what it
is worth at the accumulator is bounded by what was borrowed or repaid.

## What is proved

- one law for each step of `Engine.Debt`, and for `Arena.moveDebt`.
-/

namespace CollateralDebt.Engine

open Transact (bind_eq_ok)

/-! ## Changes of debt -/

/-- Debt was added: `change` normalized units went to the vault and to the total. -/
theorem addNormalizedDebt_eq_ok {now : Timestamp} {id : VaultId} {change accumulator : Amount}
    {e e' : Engine} {u : Unit} (h : addNormalizedDebt now id change accumulator e = .ok u e') :
    ∃ v w, Revised e id v w e' ∧ w.collateral = v.collateral ∧
      w.normalizedDebt.toNat = v.normalizedDebt.toNat + change.toNat ∧
      w.normalizedDebt ≠ .zero ∧ ¬ isDusty w.normalizedDebt accumulator e.state.params.dust ∧
      e'.state.surplus = e.state.surplus ∧
      e'.log = e.log.emit (.internalDebtUpdated id change true now) := by
  simp only [addNormalizedDebt, bind_eq_ok, getState_eq_ok, findVault_eq_ok, Transact.liftM_eq_ok,
    Transact.require_eq_ok, putVault_eq_ok, modifyState_eq_ok, emit_eq_ok, Amount.add_eq_ok] at h
  obtain ⟨_, _, ⟨rfl, rfl⟩, v, _, ⟨found, rfl⟩, debt, _, ⟨hdebt, rfl⟩, _, _, ⟨⟨hpos, hdust⟩, rfl⟩,
    _, _, rfl, total, _, ⟨htotal, rfl⟩, _, _, rfl, rfl⟩ := h
  refine ⟨v, ⟨v.collateral, debt⟩, ⟨found, rfl, ?_, rfl⟩, rfl, hdebt, hpos, hdust, rfl, rfl⟩
  show total.toNat + v.normalizedDebt.toNat = e.state.totalNormalizedDebt.toNat + debt.toNat
  omega

/-- Debt was removed: `change` normalized units left the vault and the total. -/
theorem removeNormalizedDebt_eq_ok {now : Timestamp} {id : VaultId} {change accumulator : Amount}
    {e e' : Engine} {u : Unit} (h : removeNormalizedDebt now id change accumulator e = .ok u e') :
    ∃ v w, Revised e id v w e' ∧ w.collateral = v.collateral ∧
      w.normalizedDebt.toNat + change.toNat = v.normalizedDebt.toNat ∧
      ¬ isDusty w.normalizedDebt accumulator e.state.params.dust ∧
      e'.state.surplus = e.state.surplus ∧
      e'.log = if change = .zero then e.log
        else e.log.emit (.internalDebtUpdated id change false now) := by
  simp only [removeNormalizedDebt, bind_eq_ok, getState_eq_ok, findVault_eq_ok,
    Transact.liftM_eq_ok, Transact.require_eq_ok, putVault_eq_ok, modifyState_eq_ok,
    Amount.minus_eq_ok] at h
  obtain ⟨_, _, ⟨rfl, rfl⟩, v, _, ⟨found, rfl⟩, debt, _, ⟨hdebt, rfl⟩, _, _, ⟨hdust, rfl⟩,
    _, _, rfl, total, _, ⟨htotal, rfl⟩, _, _, rfl, h⟩ := h
  have moved : total.toNat + v.normalizedDebt.toNat =
      e.state.totalNormalizedDebt.toNat + debt.toNat := by
    omega
  split at h
  · rename_i some'
    rw [emit_eq_ok] at h
    subst h
    exact ⟨v, ⟨v.collateral, debt⟩, ⟨found, rfl, moved, rfl⟩, rfl, hdebt, hdust, rfl,
      (if_neg some').symm⟩
  · rename_i none'
    rw [Transact.pure_eq_ok] at h
    obtain ⟨-, rfl⟩ := h
    exact ⟨v, ⟨v.collateral, debt⟩, ⟨found, rfl, moved, rfl⟩, rfl, hdebt, hdust, rfl,
      (if_pos (Decidable.not_not.mp none')).symm⟩

/-- Actual debt was added. What the vault took on is worth at most `amount`, and falls short of it
by less than one normalized unit. -/
theorem increaseDebt_eq_ok {now : Timestamp} {id : VaultId} {amount accumulator : Amount}
    {e e' : Engine} {u : Unit} (h : increaseDebt now id amount accumulator e = .ok u e') :
    ∃ v w change, Revised e id v w e' ∧ w.collateral = v.collateral ∧
      normalize amount accumulator = .ok change ∧
      w.normalizedDebt.toNat = v.normalizedDebt.toNat + change.toNat ∧
      e'.state.surplus = e.state.surplus := by
  simp only [increaseDebt, bind_eq_ok, Transact.liftM_eq_ok] at h
  obtain ⟨change, _, ⟨hchange, rfl⟩, h⟩ := h
  obtain ⟨v, w, revised, same, debt, _, _, surplus, _⟩ := addNormalizedDebt_eq_ok h
  exact ⟨v, w, change, revised, same, hchange, debt, surplus⟩

/-- A part of a vault's debt that is worth no more than a whole amount is worth no more than that
amount after rounding up. -/
theorem debtOfUp_le {debt accumulator amount change repaid : Amount}
    (hchange : normalize amount accumulator = .ok change) (hle : debt ≤ change)
    (h : debtOfUp debt accumulator = .ok repaid) : repaid ≤ amount := by
  have worth := (mulDiv_bounds hchange).1
  have least := (mulDivUp_bounds h).2
  have below := Nat.mul_le_mul_right accumulator.toNat (Amount.le_iff.mp hle)
  have : repaid.toNat * accumulatorOne < (amount.toNat + 1) * accumulatorOne := by
    rw [Nat.add_mul]
    omega
  rw [Amount.le_iff]
  exact Nat.le_of_lt_succ (Nat.lt_of_mul_lt_mul_right this)

/-- At most `amount` of actual debt was removed. What left the vault is worth no more than what
was counted as repaid. -/
theorem decreaseDebt_eq_ok {now : Timestamp} {id : VaultId} {amount accumulator repaid : Amount}
    {e e' : Engine} (h : decreaseDebt now id amount accumulator e = .ok repaid e') :
    ∃ (v w : Vault) (change : Amount), Revised e id v w e' ∧ w.collateral = v.collateral ∧
      w.normalizedDebt.toNat + change.toNat = v.normalizedDebt.toNat ∧
      change.toNat * accumulator.toNat ≤ repaid.toNat * accumulatorOne ∧ repaid ≤ amount ∧
      e'.state.surplus = e.state.surplus := by
  simp only [decreaseDebt, bind_eq_ok, findVault_eq_ok, Transact.liftM_eq_ok] at h
  obtain ⟨v, _, ⟨found, rfl⟩, change, _, ⟨hchange, rfl⟩, h⟩ := h
  split at h
  · rename_i full
    simp only [bind_eq_ok, Transact.liftM_eq_ok, Transact.pure_eq_ok] at h
    obtain ⟨repaid, _, ⟨hrepaid, rfl⟩, _, _, removed, rfl, rfl⟩ := h
    obtain ⟨v', w, revised, same, debt, _, surplus, _⟩ := removeNormalizedDebt_eq_ok removed
    exact ⟨v', w, v.normalizedDebt, revised, same, debt, (mulDivUp_bounds hrepaid).1,
      debtOfUp_le hchange full hrepaid, surplus⟩
  · simp only [bind_eq_ok, Transact.pure_eq_ok] at h
    obtain ⟨_, _, removed, rfl, rfl⟩ := h
    obtain ⟨v', w, revised, same, debt, _, surplus, _⟩ := removeNormalizedDebt_eq_ok removed
    exact ⟨v', w, change, revised, same, debt, (mulDiv_bounds hchange).1, Nat.le_refl _, surplus⟩

/-- The repay fee went to the surplus, on top of what was repaid. -/
theorem chargeRepayFee_eq_ok {repaid charged : Amount} {e e' : Engine}
    (h : chargeRepayFee repaid e = .ok charged e') :
    mulDivUp repaid.toNat ratioOne (ratioOne - e.state.params.repayFee.toNat) = .ok charged ∧
      ∃ surplus : Amount,
        surplus.toNat + repaid.toNat = e.state.surplus.toNat + charged.toNat ∧
        e' = { e with state := { e.state with surplus } } := by
  simp only [chargeRepayFee, bind_eq_ok, getState_eq_ok, Transact.liftM_eq_ok, Wide.sub_eq_ok,
    addSurplus_eq_ok, Amount.uncheckedMinus_eq_ok, Transact.pure_eq_ok] at h
  obtain ⟨_, _, ⟨rfl, rfl⟩, _, _, ⟨⟨_, rfl⟩, rfl⟩, charged, _, ⟨hcharged, rfl⟩, fee, _,
    ⟨hfee, rfl⟩, _, _, ⟨surplus, hsurplus, rfl⟩, rfl, rfl⟩ := h
  exact ⟨hcharged, surplus, by omega, rfl⟩

/-! ## Actions -/

/-- Collateral was added to a vault, and nothing else happened to it. -/
theorem addCollateral_eq_ok {now : Timestamp} {id : VaultId} {amount : Amount} {e e' : Engine}
    {u : Unit} (h : addCollateral now id amount e = .ok u e') :
    ∃ v w, Revised e id v w e' ∧ w.collateral.toNat = v.collateral.toNat + amount.toNat ∧
      w.normalizedDebt = v.normalizedDebt ∧ e'.state.surplus = e.state.surplus := by
  simp only [addCollateral, bind_eq_ok, requireAmount_eq_ok, findVault_eq_ok, Transact.liftM_eq_ok,
    Amount.add_eq_ok, putVault_eq_ok, emit_eq_ok] at h
  obtain ⟨_, _, ⟨_, rfl⟩, v, _, ⟨found, rfl⟩, collateral, _, ⟨hcollateral, rfl⟩, _, _, rfl,
    rfl⟩ := h
  exact ⟨v, ⟨collateral, v.normalizedDebt⟩, ⟨found, rfl, rfl, rfl⟩, hcollateral, rfl, rfl⟩

/-- Collateral was removed from a vault, and nothing else happened to it. -/
theorem removeCollateral_eq_ok {ctx : Context} {id : VaultId} {amount : Amount} {e e' : Engine}
    {u : Unit} (h : removeCollateral ctx id amount e = .ok u e') :
    ∃ v w, Revised e id v w e' ∧ w.collateral.toNat + amount.toNat = v.collateral.toNat ∧
      w.normalizedDebt = v.normalizedDebt ∧ e'.state.surplus = e.state.surplus := by
  simp only [removeCollateral, bind_eq_ok, requireAmount_eq_ok, requireMayAct_eq_ok,
    findVault_eq_ok] at h
  obtain ⟨_, _, ⟨_, rfl⟩, _, _, ⟨_, rfl⟩, v, _, ⟨found, rfl⟩, h⟩ := h
  split at h
  · rename_i enough
    simp only [bind_eq_ok, putVault_eq_ok, emit_eq_ok] at h
    obtain ⟨_, _, rfl, rfl⟩ := h
    refine ⟨v, ⟨v.collateral.sub amount enough, v.normalizedDebt⟩, ⟨found, rfl, rfl, rfl⟩, ?_, rfl,
      rfl⟩
    rw [Amount.le_iff] at enough
    rw [Amount.toNat_sub]
    omega
  · cases h

/-- Debt was taken on for `amount`, of which a fee went to the surplus and the rest is paid out. -/
theorem borrow_eq_ok {ctx : Context} {id : VaultId} {amount accumulator paid : Amount}
    {e e' : Engine} (h : borrow ctx id amount accumulator e = .ok paid e') :
    ∃ v w change fee, Revised e id v w e' ∧ w.collateral = v.collateral ∧
      normalize amount accumulator = .ok change ∧
      w.normalizedDebt.toNat = v.normalizedDebt.toNat + change.toNat ∧
      feeOf amount e.state.params.borrowFee = .ok fee ∧
      e'.state.surplus.toNat = e.state.surplus.toNat + fee.toNat ∧
      paid.toNat + fee.toNat = amount.toNat := by
  simp only [borrow, bind_eq_ok, requireAmount_eq_ok, requireMayAct_eq_ok, getState_eq_ok,
    Transact.liftM_eq_ok, addSurplus_eq_ok, Amount.uncheckedMinus_eq_ok] at h
  obtain ⟨_, _, ⟨_, rfl⟩, _, _, ⟨_, rfl⟩, _, e₁, increased, _, _, ⟨rfl, rfl⟩, fee, _,
    ⟨hfee, rfl⟩, _, _, ⟨surplus, hsurplus, rfl⟩, hpaid, rfl⟩ := h
  obtain ⟨v, w, change, revised, same, hchange, debt, kept⟩ := increaseDebt_eq_ok increased
  rw [params_of_frame revised.frame] at hfee
  rw [kept] at hsurplus
  exact ⟨v, w, change, fee, ⟨revised.found, revised.registry, revised.total, revised.frame⟩, same,
    hchange, debt, hfee, hsurplus, hpaid⟩

/-- Debt was repaid: what left the vault is worth at most `repaid`, and what is charged covers this
and what went to the surplus. -/
theorem repayDebt_eq_ok {now : Timestamp} {id : VaultId} {amount accumulator charged : Amount}
    {e e' : Engine} (h : repayDebt now id amount accumulator e = .ok charged e') :
    ∃ (v w : Vault) (change repaid : Amount), Revised e id v w e' ∧ w.collateral = v.collateral ∧
      w.normalizedDebt.toNat + change.toNat = v.normalizedDebt.toNat ∧
      change.toNat * accumulator.toNat ≤ repaid.toNat * accumulatorOne ∧
      e'.state.surplus.toNat + repaid.toNat = e.state.surplus.toNat + charged.toNat := by
  simp only [repayDebt, bind_eq_ok, requireAmount_eq_ok] at h
  obtain ⟨_, _, ⟨_, rfl⟩, repaid, e₁, decreased, charge⟩ := h
  obtain ⟨v, w, change, revised, same, debt, worth, _, kept⟩ := decreaseDebt_eq_ok decreased
  obtain ⟨_, surplus, hsurplus, rfl⟩ := chargeRepayFee_eq_ok charge
  rw [kept] at hsurplus
  exact ⟨v, w, change, repaid, ⟨revised.found, revised.registry, revised.total, revised.frame⟩,
    same, debt, worth, hsurplus⟩

/-! ## Closing -/

/-- A vault was closed. Its collateral is released, and what is charged covers its debt and what
went to the surplus. -/
theorem closeVault_eq_ok {ctx : Context} {id : VaultId} {accumulator owed collateral : Amount}
    {e e' : Engine} (h : closeVault ctx id accumulator e = .ok (owed, collateral) e') :
    ∃ v repaid, Removed e id v e' ∧ collateral = v.collateral ∧
      v.normalizedDebt.toNat * accumulator.toNat ≤ repaid * accumulatorOne ∧
      e'.state.surplus.toNat + repaid = e.state.surplus.toNat + owed.toNat := by
  simp only [closeVault, bind_eq_ok, requireMayAct_eq_ok, findVault_eq_ok] at h
  obtain ⟨_, _, ⟨_, rfl⟩, v, _, ⟨found, rfl⟩, h⟩ := h
  split at h
  · rename_i clear
    simp only [bind_eq_ok, Transact.pure_eq_ok, Prod.mk.injEq] at h
    obtain ⟨_, _, ⟨rfl, rfl⟩, _, _, burnt, ⟨rfl, rfl⟩, rfl⟩ := h
    obtain ⟨owner, registry, hburn, rfl⟩ := burnVault_eq_ok burnt
    obtain ⟨last, vaults⟩ := Registry.burn_eq_ok hburn
    refine ⟨v, 0, ⟨found, ⟨owner, hburn⟩, vaults, last, ?_, rfl⟩, rfl, ?_, rfl⟩
    · rw [clear]
      rfl
    · rw [clear, Amount.toNat_zero, Nat.zero_mul]
      exact Nat.zero_le _
  · simp only [bind_eq_ok, Transact.liftM_eq_ok, getState_eq_ok, Transact.require_eq_ok,
      modifyState_eq_ok, emit_eq_ok, Transact.pure_eq_ok, Amount.minus_eq_ok, Prod.mk.injEq] at h
    obtain ⟨price, _, ⟨_, rfl⟩, _, _, ⟨rfl, rfl⟩, health, _, ⟨_, rfl⟩, _, _, ⟨_, rfl⟩, debt, _,
      ⟨hdebt, rfl⟩, owed, _, charge, _, _, ⟨rfl, rfl⟩, total, _, ⟨htotal, rfl⟩, _, _, rfl, _, _,
      rfl, _, _, ⟨rfl, rfl⟩, _, _, burnt, ⟨rfl, rfl⟩, rfl⟩ := h
    obtain ⟨_, surplus, hsurplus, rfl⟩ := chargeRepayFee_eq_ok charge
    obtain ⟨owner, registry, hburn, rfl⟩ := burnVault_eq_ok burnt
    obtain ⟨last, vaults⟩ := Registry.burn_eq_ok hburn
    exact ⟨v, debt.toNat, ⟨found, ⟨owner, hburn⟩, vaults, last, htotal, rfl⟩, rfl,
      (mulDivUp_bounds hdebt).1, hsurplus⟩

/-! ## Debt between vaults -/

/-- What is left of a unit after both fees is at most the unit. -/
theorem feeKept_le {repayFeeDelta borrowFeeDelta : Nat} {kept : Amount}
    (h : feeKept repayFeeDelta borrowFeeDelta = .ok kept) : kept.toNat ≤ ratioOne :=
  Nat.le_trans (mulDiv_le (Nat.sub_le _ _) h) (Nat.sub_le _ _)

/-- Debt was repaid for another engine, after accrual. What left the vault is worth at most
`repaid`, and what the other engine takes on covers this and what went to the surplus. -/
theorem payDebtOut_eq_ok {now : Timestamp} {id : VaultId} {amount taken : Amount}
    {senderBorrowFee senderRepayFee : UInt64} {e e' : Engine}
    (h : payDebtOut now id amount senderBorrowFee senderRepayFee e = .ok taken e') :
    ∃ (accumulator : Amount) (m : Engine) (v w : Vault) (change repaid : Amount),
      Accrued e now accumulator m ∧ Revised m id v w e' ∧ w.collateral = v.collateral ∧
      w.normalizedDebt.toNat + change.toNat = v.normalizedDebt.toNat ∧
      change.toNat * accumulator.toNat ≤ repaid.toNat * accumulatorOne ∧
      e'.state.surplus.toNat + repaid.toNat = m.state.surplus.toNat + taken.toNat := by
  simp only [payDebtOut, bind_eq_ok, getState_eq_ok, Transact.liftM_eq_ok] at h
  obtain ⟨accumulator, m, accrued, _, _, ⟨rfl, rfl⟩, kept, _, ⟨hkept, rfl⟩, lessFee, _,
    ⟨hless, rfl⟩, repaid, e₁, decreased, h⟩ := h
  obtain ⟨v, w, change, revised, same, debt, worth, atMost, kept'⟩ := decreaseDebt_eq_ok decreased
  have keeps := feeKept_le hkept
  have less : lessFee.toNat ≤ amount.toNat := mulDiv_le keeps hless
  rw [Amount.le_iff] at atMost
  -- in both cases the other engine takes on at least what was repaid here
  have booked : ∃ surplus : Amount, repaid.toNat ≤ taken.toNat ∧
      surplus.toNat = e₁.state.surplus.toNat + (taken.monus repaid).toNat ∧
      { e₁ with state := { e₁.state with surplus } } = e' := by
    split at h
    · simp only [bind_eq_ok, addSurplus_eq_ok, Transact.pure_eq_ok] at h
      obtain ⟨_, _, ⟨rfl, rfl⟩, _, _, ⟨surplus, hsurplus, rfl⟩, rfl, rfl⟩ := h
      exact ⟨surplus, Nat.le_trans atMost less, hsurplus, rfl⟩
    · simp only [bind_eq_ok, Transact.liftM_eq_ok, addSurplus_eq_ok, Transact.pure_eq_ok] at h
      obtain ⟨scaled, _, ⟨hscaled, rfl⟩, _, _, ⟨rfl, rfl⟩, _, _, ⟨surplus, hsurplus, rfl⟩, rfl,
        rfl⟩ := h
      refine ⟨surplus, ?_, hsurplus, rfl⟩
      rw [Amount.toNat_min]
      exact Nat.le_min.mpr ⟨mulDivUp_ge keeps hscaled, Nat.le_trans atMost less⟩
  obtain ⟨surplus, covers, hsurplus, rfl⟩ := booked
  refine ⟨accumulator, m, v, w, change, repaid, accrue_eq_ok accrued,
    ⟨revised.found, revised.registry, revised.total, revised.frame⟩, same, debt, worth, ?_⟩
  rw [Amount.toNat_monus, kept'] at hsurplus
  show surplus.toNat + repaid.toNat = _
  omega

/-- The giving side of a transfer of debt did what `payDebtOut` does. -/
theorem getDebtOut_eq_ok {treasury : Treasury} {caller : Address} {now : Timestamp} {id : VaultId}
    {amount taken : Amount} {senderBorrowFee senderRepayFee : UInt64} {e e' : Engine}
    (h : getDebtOut treasury caller now id amount senderBorrowFee senderRepayFee e =
      .ok taken e') :
    payDebtOut now id amount senderBorrowFee senderRepayFee e = .ok taken e' := by
  simp only [getDebtOut, bind_eq_ok, Transact.require_eq_ok, requireUnpaused_eq_ok,
    requireAmount_eq_ok, Transact.atomically_eq_ok] at h
  obtain ⟨_, _, ⟨_, rfl⟩, _, _, ⟨_, rfl⟩, _, _, ⟨_, rfl⟩, h⟩ := h
  exact h

/-- Debt was moved inside the engine: the same normalized units left one vault and came to the
other. -/
theorem moveDebt_eq_ok {now : Timestamp} {receiving giving : VaultId}
    {amount accumulator taken : Amount} {e e' : Engine}
    (h : Arena.moveDebt now receiving giving amount accumulator e = .ok taken e') :
    ∃ (m : Engine) (v w v' w' : Vault) (moved : Amount),
      Revised e giving v w m ∧ w.collateral = v.collateral ∧
      w.normalizedDebt.toNat + moved.toNat = v.normalizedDebt.toNat ∧
      Revised m receiving v' w' e' ∧ w'.collateral = v'.collateral ∧
      w'.normalizedDebt.toNat = v'.normalizedDebt.toNat + moved.toNat ∧
      e'.state.surplus = e.state.surplus := by
  simp only [Arena.moveDebt, bind_eq_ok, Transact.liftM_eq_ok, findVault_eq_ok] at h
  obtain ⟨requested, _, ⟨_, rfl⟩, giver, _, ⟨_, rfl⟩, _, m, removed, _, e₁, added, h⟩ := h
  obtain ⟨v, w, revised, same, debt, _, kept, _⟩ := removeNormalizedDebt_eq_ok removed
  obtain ⟨v', w', revised', same', debt', _, _, kept', _⟩ := addNormalizedDebt_eq_ok added
  -- what is answered depends on the amounts, the engine does not
  have ended : e' = e₁ := by
    split at h
    · rw [Transact.liftM_eq_ok] at h
      exact h.2.symm
    · rw [Transact.pure_eq_ok] at h
      exact h.2.symm
  subst ended
  exact ⟨m, v, w, v', w', _, revised, same, debt, revised', same', debt', kept'.trans kept⟩

end CollateralDebt.Engine
