import Mathlib.Data.Rat.Floor
import CollateralDebt.Proofs.DebtTransfer

/-!
# What is charged for a repayment

A repayment is rounded three times. The amount is turned into normalized units, rounded down; if
that is all that the vault owes, the debt is counted instead, rounded up; and the fee is put on top,
rounded up. So the payer is charged at least for what comes off the debt, and the surplus gets
exactly what is charged above what was counted.

Whether all debt goes is decided on rounded units, and this is the same as to compare the amount with
the exact debt, because units are whole. What is counted is then the smaller of the amount and the
debt rounded up, in both cases. Closing a vault counts the debt in the same way on a path of its own,
and so charges as much as a repayment of everything does, whatever the amount of that was.

## What is proved

- `mulDivUp_eq_ceil`: a quotient that is rounded up is the ceiling of the exact one;
- `Repaid`, `repaid_of_repayDebt`: what a repayment does, exactly;
- `MayClose`, `closeVault_charged`, `Repaid.closeVault_eq_ok`: when a vault can be closed, and for
  how much;
- `Arena.repayment_charged`: the action in every state.
-/

namespace CollateralDebt

/-- A quotient that is rounded up is the ceiling of the exact one. -/
theorem mulDivUp_eq_ceil {a b d : Nat} {c : Amount} :
    mulDivUp a b d = .ok c ↔ d ≠ 0 ∧ c.toNat = ⌈(a * b / d : ℚ)⌉₊ := by
  rw [mulDivUp_eq_ok]
  refine and_congr_right fun nonzero => ?_
  have positive : (0 : ℚ) < d := by exact_mod_cast Nat.pos_of_ne_zero nonzero
  have parts := Nat.div_add_mod' (a * b) d
  have rest := Nat.mod_lt (a * b) (Nat.pos_of_ne_zero nonzero)
  suffices same : ⌈(a * b / d : ℚ)⌉₊ = a * b / d + if a * b % d = 0 then 0 else 1 by rw [same]
  have ceiling (n : Nat) : ⌈(a * b / d : ℚ)⌉₊ ≤ n ↔ a * b ≤ n * d := by
    rw [Nat.ceil_le, div_le_iff₀ positive]
    exact_mod_cast Iff.rfl
  apply le_antisymm
  · rw [ceiling, Nat.add_mul]
    split <;> omega
  · have least := (ceiling _).mp le_rfl
    split
    · rw [Nat.add_zero]
      exact Nat.le_of_mul_le_mul_right (by omega) (Nat.pos_of_ne_zero nonzero)
    · refine Nat.succ_le_of_lt (Nat.lt_of_mul_lt_mul_right (a := d) ?_)
      omega

/-- An amount covers the exact debt, in whole numbers. -/
theorem Vault.owed_le_iff {v : Vault} {accumulator : Amount} {n : Nat} :
    v.owed accumulator ≤ n ↔
      v.normalizedDebt.toNat * accumulator.toNat ≤ n * accumulatorOne := by
  rw [owed, div_le_iff₀ cast_accumulatorOne_pos]
  exact_mod_cast Iff.rfl

/-- What is counted as repaid: the amount, or the debt rounded up if that is less. -/
def Vault.repaidBy (v : Vault) (accumulator amount : Amount) : Nat :=
  min amount.toNat ⌈v.owed accumulator⌉₊

/-- What is charged for a repayment, so that it is left after the repay fee. -/
def Parameters.withRepayFee (params : Parameters) (repaid : Nat) : Nat :=
  ⌈(repaid * ratioOne / (ratioOne - params.repayFee.toNat) : ℚ)⌉₊

/-- Nothing is charged for repaying nothing. -/
@[simp] theorem Parameters.withRepayFee_zero (params : Parameters) : params.withRepayFee 0 = 0 := by
  simp [withRepayFee]

namespace Engine

open Transact (bind_eq_ok)

variable {now : Timestamp} {ctx : Context} {e e' m : Engine} {id : VaultId} {v w : Vault}
  {amount accumulator repaid charged owed collateral : Amount}

/-! ## Repaying -/

/-- The debt rounded up is the least whole number that is not below it. -/
theorem debtOfUp_ceil (h : debtOfUp v.normalizedDebt accumulator = .ok owed) :
    owed.toNat = ⌈v.owed accumulator⌉₊ := (mulDivUp_eq_ceil.mp h).2

/-- An amount covers the exact debt if all normalized units of the debt are among those that the
amount is turned into. -/
theorem owed_le_iff_units {change : Amount} (h : normalize amount accumulator = .ok change) :
    v.owed accumulator ≤ amount.toNat ↔ v.normalizedDebt ≤ change := by
  obtain ⟨nonzero, whole⟩ := mulDiv_eq_ok.mp h
  rw [Vault.owed_le_iff, Amount.le_iff, whole,
    Nat.le_div_iff_mul_le (Nat.pos_of_ne_zero nonzero)]

/-- Debt was removed up to an amount: as many units as the amount is turned into, or all of them,
and what was counted as repaid. -/
theorem decreaseDebt_counted (h : decreaseDebt now id amount accumulator e = .ok repaid e') :
    ∃ v w, Revised e id v w e' ∧ w.collateral = v.collateral ∧
      w.normalizedDebt.toNat +
          min (amount.toNat * accumulatorOne / accumulator.toNat) v.normalizedDebt.toNat =
        v.normalizedDebt.toNat ∧
      accumulator ≠ .zero ∧ repaid.toNat = v.repaidBy accumulator amount ∧
      e'.state.surplus = e.state.surplus := by
  simp only [decreaseDebt, bind_eq_ok, findVault_eq_ok, Transact.liftM_eq_ok] at h
  obtain ⟨v, _, ⟨found, rfl⟩, change, _, ⟨hchange, rfl⟩, h⟩ := h
  obtain ⟨nonzero, whole⟩ := mulDiv_eq_ok.mp hchange
  have grown : accumulator ≠ .zero := Amount.ne_zero_iff.mpr (Nat.pos_of_ne_zero nonzero)
  have covers := owed_le_iff_units (v := v) hchange
  split at h
  · rename_i full
    simp only [bind_eq_ok, Transact.liftM_eq_ok, Transact.pure_eq_ok] at h
    obtain ⟨repaid, _, ⟨hrepaid, rfl⟩, _, _, removed, rfl, rfl⟩ := h
    obtain ⟨v', w, revised, same, debt, _, surplus, _⟩ := removeNormalizedDebt_eq_ok removed
    cases found.symm.trans revised.found
    have counted : repaid.toNat = v.repaidBy accumulator amount := by
      rw [debtOfUp_ceil hrepaid, Vault.repaidBy, min_eq_right]
      exact Nat.ceil_le.mpr (covers.mpr full)
    refine ⟨v, w, revised, same, ?_, grown, counted, surplus⟩
    rwa [← whole, Nat.min_eq_right full]
  · rename_i part
    simp only [bind_eq_ok, Transact.pure_eq_ok] at h
    obtain ⟨_, _, removed, rfl, rfl⟩ := h
    obtain ⟨v', w, revised, same, debt, _, surplus, _⟩ := removeNormalizedDebt_eq_ok removed
    cases found.symm.trans revised.found
    have counted : amount.toNat = v.repaidBy accumulator amount := by
      have short : (amount.toNat : ℚ) < v.owed accumulator := lt_of_not_ge (part ∘ covers.mp)
      rw [Vault.repaidBy, min_eq_left]
      exact_mod_cast short.le.trans (Nat.le_ceil _)
    refine ⟨v, w, revised, same, ?_, grown, counted, surplus⟩
    rwa [← whole, Nat.min_eq_left (Nat.le_of_not_le part)]

/-- What is charged with the fee on top. -/
theorem chargeRepayFee_charged (h : chargeRepayFee repaid e = .ok charged e') :
    e.state.params.repayFee.toNat < ratioOne ∧
      charged.toNat = e.state.params.withRepayFee repaid.toNat ∧ repaid ≤ charged ∧
      e'.state.surplus.toNat + repaid.toNat = e.state.surplus.toNat + charged.toNat := by
  obtain ⟨hcharged, surplus, hsurplus, rfl⟩ := chargeRepayFee_eq_ok h
  have below : e.state.params.repayFee.toNat < ratioOne :=
    Nat.lt_of_sub_pos (Nat.pos_of_ne_zero (mulDivUp_eq_ok.mp hcharged).1)
  refine ⟨below, ?_, mulDivUp_ge (Nat.sub_le _ _) hcharged, hsurplus⟩
  rw [(mulDivUp_eq_ceil.mp hcharged).2, Nat.cast_sub below.le]
  rfl

/-- The vault `v` repaid debt with an amount, and is now `w`. -/
structure Repaid (e : Engine) (id : VaultId) (amount accumulator : Amount) (v w : Vault)
    (charged : Amount) (e' : Engine) : Prop where
  revised : Revised e id v w e'
  collateral : w.collateral = v.collateral
  debt : w.normalizedDebt.toNat +
      min (amount.toNat * accumulatorOne / accumulator.toNat) v.normalizedDebt.toNat =
    v.normalizedDebt.toNat
  grown : accumulator ≠ .zero
  kept : e.state.params.repayFee.toNat < ratioOne
  fee : charged.toNat = e.state.params.withRepayFee (v.repaidBy accumulator amount)
  covers : v.repaidBy accumulator amount ≤ charged.toNat
  surplus : e'.state.surplus.toNat + v.repaidBy accumulator amount =
    e.state.surplus.toNat + charged.toNat

/-- A repayment that is accepted repays a vault that is there. -/
theorem repaid_of_repayDebt (h : repayDebt now id amount accumulator e = .ok charged e') :
    ∃ v w, Repaid e id amount accumulator v w charged e' := by
  simp only [repayDebt, bind_eq_ok, requireAmount_eq_ok] at h
  obtain ⟨_, _, ⟨_, rfl⟩, repaid, m, decreased, charge⟩ := h
  obtain ⟨v, w, revised, same, debt, grown, counted, unspent⟩ := decreaseDebt_counted decreased
  obtain ⟨kept, fee, covers, surplus⟩ := chargeRepayFee_charged charge
  obtain ⟨-, _, -, rfl⟩ := chargeRepayFee_eq_ok charge
  rw [params_of_frame revised.frame] at kept fee
  rw [counted] at fee
  rw [counted, unspent] at surplus
  rw [Amount.le_iff, counted] at covers
  exact ⟨v, w, ⟨revised.found, revised.registry, revised.total, revised.frame⟩, same, debt, grown,
    kept, fee, covers, surplus⟩

namespace Repaid

/-- The units that leave the vault. -/
theorem units_bounds (h : Repaid e id amount accumulator v w charged e') :
    amount.toNat * accumulatorOne / accumulator.toNat * accumulator.toNat ≤
        amount.toNat * accumulatorOne ∧
      amount.toNat * accumulatorOne <
        amount.toNat * accumulatorOne / accumulator.toNat * accumulator.toNat +
          accumulator.toNat := by
  have positive := Amount.ne_zero_iff.mp h.grown
  have parts := Nat.div_add_mod' (amount.toNat * accumulatorOne) accumulator.toNat
  have rest := Nat.mod_lt (amount.toNat * accumulatorOne) positive
  omega

/-- An amount that covers the debt takes all of it off, and is counted as the debt rounded up. -/
theorem full (h : Repaid e id amount accumulator v w charged e')
    (covered : v.owed accumulator ≤ amount.toNat) :
    w.normalizedDebt = .zero ∧ v.repaidBy accumulator amount = ⌈v.owed accumulator⌉₊ := by
  have positive := Amount.ne_zero_iff.mp h.grown
  have units : v.normalizedDebt.toNat ≤
      amount.toNat * accumulatorOne / accumulator.toNat := by
    rwa [Nat.le_div_iff_mul_le positive, ← Vault.owed_le_iff]
  have debt := h.debt
  rw [Nat.min_eq_right units] at debt
  refine ⟨Amount.ext ?_, min_eq_right (Nat.ceil_le.mpr covered)⟩
  rw [Amount.toNat_zero]
  omega

/-- An amount that does not leaves at least one unit, is counted as it is, and is followed by the
debt up to one unit. -/
theorem part (h : Repaid e id amount accumulator v w charged e')
    (short : amount.toNat < v.owed accumulator) :
    w.normalizedDebt ≠ .zero ∧ v.repaidBy accumulator amount = amount.toNat ∧
      v.owed accumulator - w.owed accumulator ≤ amount.toNat ∧
      amount.toNat - accumulator.toNat / accumulatorOne <
        v.owed accumulator - w.owed accumulator := by
  have positive := Amount.ne_zero_iff.mp h.grown
  have units : amount.toNat * accumulatorOne / accumulator.toNat < v.normalizedDebt.toNat := by
    rwa [Nat.div_lt_iff_lt_mul positive, ← not_le, ← Vault.owed_le_iff, not_le]
  have debt := h.debt
  rw [Nat.min_eq_left units.le] at debt
  obtain ⟨most, least⟩ := h.units_bounds
  obtain ⟨fall_le, lt_fall⟩ := worth_bounds 0 most (by omega)
  rw [← owed_sub_owed accumulator debt] at fall_le lt_fall
  refine ⟨Amount.ne_zero_iff.mpr (by omega), min_eq_left ?_, fall_le, by simpa using lt_fall⟩
  exact_mod_cast short.le.trans (Nat.le_ceil _)

/-- What is charged covers what comes off the debt. -/
theorem fall_le (h : Repaid e id amount accumulator v w charged e') :
    v.owed accumulator - w.owed accumulator ≤ charged.toNat := by
  have covers : (v.repaidBy accumulator amount : ℚ) ≤ charged.toNat := by exact_mod_cast h.covers
  refine le_trans ?_ covers
  rcases le_or_gt (v.owed accumulator) amount.toNat with covered | short
  · obtain ⟨clear, counted⟩ := h.full covered
    rw [counted, Vault.owed_eq_zero clear, sub_zero]
    exact Nat.le_ceil _
  · obtain ⟨-, counted, fall_le, -⟩ := h.part short
    rwa [counted]

end Repaid

/-! ## Closing -/

/-- The checks that a vault is closed on: the caller may act on it, and it is without debt or
solvent. -/
def MayClose (ctx : Context) (e : Engine) (id : VaultId) (v : Vault) (accumulator : Amount) : Prop :=
  e.state.registry.mayAct ctx.caller id = .ok true ∧
    (v.normalizedDebt = .zero ∨ ∃ price health, ctx.price = .ok price ∧
      healthAt e.state v price accumulator = .ok health ∧ isSolvent health)

/-- A vault that was closed passed the checks, released its collateral, and was charged for its debt
rounded up. -/
theorem closeVault_charged (found : e.vault? id = some v)
    (h : closeVault ctx id accumulator e = .ok (owed, collateral) e') :
    MayClose ctx e id v accumulator ∧ collateral = v.collateral ∧
      owed.toNat = e.state.params.withRepayFee ⌈v.owed accumulator⌉₊ := by
  simp only [closeVault, bind_eq_ok, requireMayAct_eq_ok, findVault_eq_ok] at h
  obtain ⟨_, _, ⟨may, rfl⟩, v', _, ⟨found', rfl⟩, h⟩ := h
  cases found.symm.trans found'
  split at h
  · rename_i clear
    simp only [bind_eq_ok, Transact.pure_eq_ok, Prod.mk.injEq] at h
    obtain ⟨_, _, ⟨rfl, rfl⟩, _, _, _, ⟨rfl, rfl⟩, -⟩ := h
    refine ⟨⟨may, .inl clear⟩, rfl, ?_⟩
    rw [Vault.owed_eq_zero clear, Nat.ceil_zero, Parameters.withRepayFee_zero]
    rfl
  · simp only [bind_eq_ok, Transact.liftM_eq_ok, getState_eq_ok, Transact.require_eq_ok,
      modifyState_eq_ok, emit_eq_ok, Transact.pure_eq_ok, Prod.mk.injEq] at h
    obtain ⟨price, _, ⟨known, rfl⟩, _, _, ⟨rfl, rfl⟩, health, _, ⟨rated, rfl⟩, _, _,
      ⟨solvent, rfl⟩, debt, _, ⟨hdebt, rfl⟩, owed, _, charge, _, _, ⟨rfl, rfl⟩, total, _,
      ⟨_, rfl⟩, _, _, rfl, _, _, rfl, _, _, ⟨rfl, rfl⟩, _, _, _, ⟨rfl, rfl⟩, -⟩ := h
    refine ⟨⟨may, .inr ⟨price, health, known, rated, solvent⟩⟩, rfl, ?_⟩
    rw [(chargeRepayFee_charged charge).2.1, debtOfUp_ceil hdebt]

/-- A charge is made if it is within range, and if the surplus is. -/
theorem chargeRepayFee_made {surplus : Amount} (kept : e.state.params.repayFee.toNat < ratioOne)
    (fee : charged.toNat = e.state.params.withRepayFee repaid.toNat)
    (booked : surplus.toNat + repaid.toNat = e.state.surplus.toNat + charged.toNat) :
    chargeRepayFee repaid e = .ok charged { e with state := { e.state with surplus } } := by
  have hcharged :
      mulDivUp repaid.toNat ratioOne (ratioOne - e.state.params.repayFee.toNat) = .ok charged := by
    rw [mulDivUp_eq_ceil, Nat.cast_sub kept.le]
    exact ⟨Nat.sub_ne_zero_of_lt kept, fee⟩
  have covers : repaid ≤ charged := mulDivUp_ge (Nat.sub_le _ _) hcharged
  have difference : (charged.sub repaid covers).toNat + repaid.toNat = charged.toNat :=
    Nat.sub_add_cancel covers
  simp only [chargeRepayFee, bind_eq_ok, getState_eq_ok, Transact.liftM_eq_ok, Wide.sub_eq_ok,
    addSurplus_eq_ok, Amount.uncheckedMinus_eq_ok, Transact.pure_eq_ok]
  exact ⟨_, _, ⟨rfl, rfl⟩, _, _, ⟨⟨kept.le, rfl⟩, rfl⟩, charged, _, ⟨hcharged, rfl⟩, _, _,
    ⟨difference, rfl⟩, (), _, ⟨surplus, by omega, rfl⟩, rfl, rfl⟩

/-- A vault that the caller may act on can be removed. -/
theorem burnVault_made (now : Timestamp) {caller : Address}
    (may : m.state.registry.mayAct caller id = .ok true) :
    ∃ m', burnVault now id m = .ok () m' := by
  obtain ⟨owner, owned, -⟩ := Outcome.bind_eq_ok.mp may
  have burnt : ∃ registry, m.state.registry.burn id = .ok (owner, registry) :=
    ⟨_, Outcome.bind_eq_ok.mpr ⟨owner, owned, rfl⟩⟩
  obtain ⟨registry, burnt⟩ := burnt
  simp only [burnVault, bind_eq_ok, getState_eq_ok, Transact.liftM_eq_ok, modifyRegistry_eq_ok,
    emit_eq_ok]
  exact ⟨_, _, _, ⟨rfl, rfl⟩, _, _, ⟨burnt, rfl⟩, (), _, rfl, rfl⟩

/-- A vault that passes the checks is closed, if the charge for its debt can be made and the total
covers the debt. -/
theorem closeVault_made {total debt surplus : Amount} (found : e.vault? id = some v)
    (checks : MayClose ctx e id v accumulator)
    (hdebt : debtOfUp v.normalizedDebt accumulator = .ok debt)
    (charge : chargeRepayFee debt e = .ok charged { e with state := { e.state with surplus } })
    (less : total.toNat + v.normalizedDebt.toNat = e.state.totalNormalizedDebt.toNat) :
    ∃ m, closeVault ctx id accumulator e = .ok (charged, v.collateral) m := by
  obtain ⟨may, solvent⟩ := checks
  simp only [closeVault, bind_eq_ok, requireMayAct_eq_ok, findVault_eq_ok]
  by_cases clear : v.normalizedDebt = .zero
  · obtain ⟨m, burnt⟩ := burnVault_made ctx.now may
    have free : charged = .zero := by
      have fee := (chargeRepayFee_charged charge).2.1
      rw [debtOfUp_ceil hdebt, Vault.owed_eq_zero clear, Nat.ceil_zero,
        Parameters.withRepayFee_zero] at fee
      exact Amount.ext fee
    refine ⟨m, (), e, ⟨may, rfl⟩, v, e, ⟨found, rfl⟩, ?_⟩
    rw [if_pos clear]
    simp only [bind_eq_ok, Transact.pure_eq_ok]
    exact ⟨_, _, ⟨rfl, rfl⟩, (), m, burnt, by rw [free], rfl⟩
  · obtain ⟨price, health, known, rated, solvent⟩ := solvent.resolve_left clear
    obtain ⟨m, burnt⟩ := burnVault_made (m := { e with
      state := { e.state with surplus, totalNormalizedDebt := total }
      log := e.log.emit (.internalDebtUpdated id v.normalizedDebt false ctx.now) }) ctx.now may
    refine ⟨m, (), e, ⟨may, rfl⟩, v, e, ⟨found, rfl⟩, ?_⟩
    rw [if_neg clear]
    simp only [bind_eq_ok, Transact.liftM_eq_ok, getState_eq_ok, Transact.require_eq_ok,
      modifyState_eq_ok, emit_eq_ok, Transact.pure_eq_ok, Amount.minus_eq_ok]
    exact ⟨price, _, ⟨known, rfl⟩, _, _, ⟨rfl, rfl⟩, health, _, ⟨rated, rfl⟩, (), _,
      ⟨solvent, rfl⟩, debt, _, ⟨hdebt, rfl⟩, charged, _, charge, _, _, ⟨rfl, rfl⟩, total, _,
      ⟨less, rfl⟩, (), _, rfl, (), _, rfl, _, _, ⟨rfl, rfl⟩, (), m, burnt, rfl, rfl⟩

/-- Where a repayment of everything is accepted, the vault can be closed on its checks alone, and
the charge is that of the repayment. -/
theorem Repaid.closeVault_eq_ok (h : Repaid e id amount accumulator v w charged e')
    (covered : v.owed accumulator ≤ amount.toNat) :
    (∃ m, closeVault ctx id accumulator e = .ok (charged, v.collateral) m) ↔
      MayClose ctx e id v accumulator := by
  refine ⟨fun ⟨m, done⟩ => (closeVault_charged h.revised.found done).1, fun checks => ?_⟩
  obtain ⟨clear, counted⟩ := h.full covered
  have total := h.revised.total
  rw [clear, Amount.toNat_zero, Nat.add_zero] at total
  -- what was counted is an amount, because what was charged is
  obtain ⟨debt, hdebt⟩ : ∃ debt : Amount, debt.toNat = v.repaidBy accumulator amount :=
    ⟨⟨_, Nat.lt_of_le_of_lt h.covers charged.isLt⟩, rfl⟩
  have owed : debtOfUp v.normalizedDebt accumulator = .ok debt :=
    mulDivUp_eq_ceil.mpr ⟨accumulatorOne_pos.ne', hdebt.trans counted⟩
  have fee := h.fee
  have booked := h.surplus
  rw [← hdebt] at fee booked
  exact closeVault_made h.revised.found checks owed (chargeRepayFee_made h.kept fee booked) total

end Engine

/-! ## The action -/

namespace Arena

open Transact (bind_eq_ok)

variable {ctx : Context} {accumulator amount : Amount} {s s' : Arena} {t t' : Tally} {id : VaultId}

/-- A repayment, and what came of it for the vault and the tally. -/
theorem repaid_of_applyAction
    (done : applyAction ctx accumulator t (.repayDebt id amount) s = .ok t' s') :
    ∃ v w charged, Engine.Repaid s.engine (s.engine.state.resolve id) amount accumulator v w charged
      s'.engine ∧ Tally.Added t t' 0 charged.toNat 0 0 := by
  simp only [applyAction, bind_eq_ok, Transact.get_eq_ok, onEngine_eq_ok,
    Transact.liftM_eq_ok] at done
  obtain ⟨_, _, ⟨rfl, rfl⟩, charged, _, ⟨e, done, rfl⟩, received, rfl⟩ := done
  obtain ⟨v, w, repaid⟩ := Engine.repaid_of_repayDebt done
  exact ⟨v, w, charged, repaid, (Tally.receiveStablecoin_eq_ok received).1⟩

/-- **Repayments.** Take an accepted repayment, in whatever state and at whatever accumulator. If the
amount covers the debt, nothing is left of the debt, and the charge is the debt rounded up with the
fee on top, rounded up. Then closing the vault instead, by whoever may, would have been charged the
same, and would have been accepted on its own checks. If the amount does not cover the debt, at least
a unit of the debt is left, the charge is the amount with the fee on top, and the debt falls by the
amount up to one unit. In both cases the charge covers what comes off the debt, and the surplus grows
by what is charged above what is counted as repaid. -/
theorem repayment_charged
    (done : applyAction ctx accumulator t (.repayDebt id amount) s = .ok t' s') :
    ∃ v w charged, s.engine.vault? (s.engine.state.resolve id) = some v ∧
      s'.engine.vault? (s.engine.state.resolve id) = some w ∧
      Tally.Added t t' 0 charged.toNat 0 0 ∧
      (v.normalizedDebt.toNat * accumulator.toNat ≤ amount.toNat * accumulatorOne →
        w.normalizedDebt = .zero ∧
        charged.toNat = s.engine.state.params.withRepayFee ⌈v.owed accumulator⌉₊ ∧
        ∀ ctx', (∀ owed collateral m,
            Engine.closeVault ctx' (s.engine.state.resolve id) accumulator s.engine =
              .ok (owed, collateral) m → owed = charged) ∧
          (Engine.MayClose ctx' s.engine (s.engine.state.resolve id) v accumulator →
            ∃ m, Engine.closeVault ctx' (s.engine.state.resolve id) accumulator s.engine =
              .ok (charged, v.collateral) m)) ∧
      (amount.toNat * accumulatorOne < v.normalizedDebt.toNat * accumulator.toNat →
        w.normalizedDebt ≠ .zero ∧
        charged.toNat = s.engine.state.params.withRepayFee amount.toNat ∧
        v.owed accumulator - w.owed accumulator ≤ amount.toNat ∧
        amount.toNat - accumulator.toNat / accumulatorOne <
          v.owed accumulator - w.owed accumulator) ∧
      v.owed accumulator - w.owed accumulator ≤ charged.toNat ∧
      s'.engine.state.surplus.toNat + v.repaidBy accumulator amount =
        s.engine.state.surplus.toNat + charged.toNat := by
  obtain ⟨v, w, charged, repaid, added⟩ := repaid_of_applyAction done
  have kept : s'.engine.vault? (s.engine.state.resolve id) = some w := by
    rw [repaid.revised.vault?, if_pos rfl]
  have fee := repaid.fee
  refine ⟨v, w, charged, repaid.revised.found, kept, added, fun covered => ?_, fun short => ?_,
    repaid.fall_le, repaid.surplus⟩
  · have covered := Vault.owed_le_iff.mpr covered
    obtain ⟨clear, counted⟩ := repaid.full covered
    rw [counted] at fee
    refine ⟨clear, fee, fun ctx' => ⟨fun owed collateral m closed => ?_,
      (repaid.closeVault_eq_ok covered).mpr⟩⟩
    have same := (Engine.closeVault_charged repaid.revised.found closed).2.2
    exact Amount.ext (same.trans fee.symm)
  · have short := lt_of_not_ge (Vault.owed_le_iff.not.mpr (Nat.not_le_of_lt short))
    obtain ⟨some', counted, fall_le, lt_fall⟩ := repaid.part short
    rw [counted] at fee
    exact ⟨some', fee, fall_le, lt_fall⟩

end Arena

namespace World

/-- The small market with interest and with fees. -/
def feeMarket : List Call := smallMarket ++ [
  .engine 0 (account 3) 0 [] (.setParameter "IR" 158_153_934_393_112_649),
  .engine 0 (account 3) 0 [] (.setParameter "BF" 5_000_000),
  .engine 0 (account 3) 0 [] (.setParameter "RF" 10_000_000)]

set_option maxRecDepth 10000 in
/-- After some interest, twice the debt is repaid in full, at the charge that closing the vault has;
and a fifth of it is repaid in part. -/
theorem repayment_charged_fees :
    ∃ ctx accumulator s t s' u u' v, underway feeMarket 0 [] 1000 = some (ctx, accumulator, s) ∧
      s.engine.vault? (s.engine.state.resolve 1) = some v ∧
      Arena.applyAction ctx accumulator .zero (.repayDebt 1 (tenths 200)) s = .ok t s' ∧
      Arena.applyAction ctx accumulator .zero (.repayDebt 1 (tenths 20)) s = .ok u u' ∧
      (∃ w, s'.engine.vault? (s.engine.state.resolve 1) = some w ∧ w.normalizedDebt = .zero) ∧
      (∃ m, Engine.closeVault ctx (s.engine.state.resolve 1) accumulator s.engine =
        .ok (t.payment.stablecoinToReceive, v.collateral) m) ∧
      (∃ w, u'.engine.vault? (s.engine.state.resolve 1) = some w ∧ w.normalizedDebt ≠ .zero) ∧
      u.payment.stablecoinToReceive.toNat =
        s.engine.state.params.withRepayFee (tenths 20).toNat := by
  have facts : ((underway feeMarket 0 [] 1000).any fun (ctx, accumulator, s) =>
      (s.engine.vault? (s.engine.state.resolve 1)).any fun v => ctx.price.toOption.any fun price =>
        (Engine.healthAt s.engine.state v price accumulator).toOption.any fun health =>
          (actedOn ctx accumulator s (.repayDebt 1 (tenths 200))).any fun _ =>
            (actedOn ctx accumulator s (.repayDebt 1 (tenths 20))).any fun _ =>
              decide (v.normalizedDebt.toNat * accumulator.toNat ≤
                  (tenths 200).toNat * accumulatorOne ∧
                (tenths 20).toNat * accumulatorOne <
                  v.normalizedDebt.toNat * accumulator.toNat ∧
                (s.engine.state.registry.mayAct ctx.caller
                  (s.engine.state.resolve 1)).toOption = some true ∧
                isSolvent health)) = true := by decide +kernel
  simp only [Option.any_eq_true, Outcome.toOption_eq_some, decide_eq_true_eq] at facts
  obtain ⟨⟨ctx, accumulator, s⟩, reached, v, found, price, known, health, rated, ⟨t, s'⟩, acted,
    ⟨u, u'⟩, acted', covered, short, may, solvent⟩ := facts
  have done := actedOn_eq_some acted
  have done' := actedOn_eq_some acted'
  obtain ⟨v₁, w, charged, found₁, kept, added, full, -⟩ := Arena.repayment_charged done
  obtain ⟨v₂, w', charged', found₂, kept', added', -, part, -⟩ := Arena.repayment_charged done'
  cases found.symm.trans found₁
  cases found.symm.trans found₂
  obtain ⟨clear, -, closing⟩ := full covered
  obtain ⟨some', fee, -⟩ := part short
  obtain ⟨m, closed⟩ := (closing ctx).2 ⟨may, .inr ⟨price, health, known, rated, solvent⟩⟩
  have received : t.payment.stablecoinToReceive = charged :=
    Amount.ext (added.stablecoinToReceive.trans (Nat.zero_add _))
  have received' : u.payment.stablecoinToReceive.toNat = charged'.toNat :=
    added'.stablecoinToReceive.trans (Nat.zero_add _)
  exact ⟨ctx, accumulator, s, t, s', u, u', v, reached, found, done, done', ⟨w, kept, clear⟩,
    ⟨m, received ▸ closed⟩, ⟨w', kept', some'⟩, received'.trans fee⟩

end World

end CollateralDebt
