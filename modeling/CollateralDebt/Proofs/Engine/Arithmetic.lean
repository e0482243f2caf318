import CollateralDebt.Proofs.Engine.Administration
import CollateralDebt.Proofs.Tame

/-!
# The arithmetic of debt

On an engine that is exact and fit, the arithmetic of accruals, actions and setters can overflow and
do nothing worse. Divisors are constants, the accumulator, the unit of collateral, or what a repay
fee leaves, and all of them are above zero. What is subtracted is a part of what it is subtracted
from: the debt of one vault is part of the total, and a fee is part of an amount.

One addition is left out of this: a product that is compounded is rounded half up, and the half is
added without a check. An engine is *overgrown* at a time if its interest up to then needs a product
for which this addition leaves its range.

## What is proved

- `tame_compoundFactor`: where a fault of an accrual comes from;
- `tameAt_accrue` and its like: how each step of an engine can be refused.
-/

namespace CollateralDebt

open Transact (FailsOnlyAt TameAt failsOnlyAt_liftM_bind failsOnlyAt_modify
  failsOnlyAt_modify_bind failsOnlyAt_pure failsOnlyAt_require failsOnlyAt_require_bind)

/-! ## Interest -/

/-- A product that is in range, and no longer is when its rounding half is added. -/
def Unroundable (a b : Nat) : Prop := a * b < Wide.bound ∧ Wide.bound ≤ a * b + accumulatorOne / 2

/-- A compounding from here on takes a product that is unroundable. -/
inductive UnroundableLoop : (base result remaining : Nat) → Prop
  | square {base result remaining : Nat} (more : remaining ≠ 0) (square : Unroundable base base) :
      UnroundableLoop base result remaining
  | product {base result remaining squared : Nat} (more : remaining ≠ 0)
      (odd : remaining % 2 = 1) (known : mulFactor base base = .ok squared)
      (product : Unroundable result squared) : UnroundableLoop base result remaining
  | later {base result remaining squared next : Nat} (more : remaining ≠ 0)
      (known : mulFactor base base = .ok squared)
      (taken : (if remaining % 2 = 1 then mulFactor result squared else pure result) = .ok next)
      (later : UnroundableLoop squared next (remaining / 2)) : UnroundableLoop base result remaining

/-- The growth of one unit of debt takes a product that is unroundable. -/
def UnroundableFactor (rate elapsed : Nat) : Prop :=
  rate ≠ 0 ∧ elapsed ≠ 0 ∧
    UnroundableLoop (accumulatorOne + rate)
      (if elapsed % 2 = 1 then accumulatorOne + rate else accumulatorOne) (elapsed / 2)

/-- One product of a compounding faults at most where its rounding half has no room. -/
theorem tame_mulFactor (a b : Nat) : Outcome.Tame (Unroundable a b) (mulFactor a b) := by
  unfold mulFactor
  apply (Wide.tame_checkedMul a b).bind
  intro product known
  obtain ⟨small, rfl⟩ := Wide.checkedMul_eq_ok.mp known
  refine Outcome.FailsOnly.bind ?_ ?_
  · exact Wide.tame_add_excused fun large => ⟨small, large⟩
  · intro rounded _
    exact Outcome.failsOnly_ok _

/-- A compounding faults at nothing but an unroundable product. -/
theorem tame_compoundLoop (base result remaining : Nat) :
    Outcome.Tame (UnroundableLoop base result remaining) (compoundLoop base result remaining) := by
  -- on the recursion of the loop
  fun_induction compoundLoop base result remaining with
  | case1 base result => exact Outcome.failsOnly_ok _
  | case2 base result remaining more ih =>
    apply ((tame_mulFactor base base).mono (.square more)).bind
    intro squared known
    have rest (next : Nat)
        (taken : (if remaining % 2 = 1 then mulFactor result squared else pure result) = .ok next) :
        Outcome.Tame (UnroundableLoop base result remaining)
          (compoundLoop squared next (remaining / 2)) :=
      (ih squared next).mono (.later more known taken)
    dsimp only
    split
    · rename_i odd
      apply ((tame_mulFactor result squared).mono (.product more odd known)).bind
      intro next taken
      rw [if_pos odd] at rest
      exact rest next taken
    · rename_i even
      rw [if_neg even] at rest
      exact rest result rfl

/-- The growth of one unit of debt faults at no other step than those of the loop, and without a
rate or without time there is none. -/
theorem tame_compoundFactor (rate elapsed : Nat) :
    Outcome.Tame (UnroundableFactor rate elapsed) (compoundFactor rate elapsed) := by
  unfold compoundFactor
  split
  · exact Outcome.failsOnly_ok _
  · rename_i some'
    rw [not_or] at some'
    exact (tame_compoundLoop _ _ _).mono fun loop => ⟨some'.1, some'.2, loop⟩

/-! ## Registry -/

namespace Registry

variable {p : Prop}

/-- Looking a vault up is refused for a number that no vault has, and computes nothing. -/
theorem tame_vault (r : Registry) (id : VaultId) : Outcome.Tame p (r.vault id) := by
  unfold vault
  exact Outcome.tame_ofOption (by simp) _

theorem tame_ownerOf (r : Registry) (id : VaultId) : Outcome.Tame p (r.ownerOf id) := by
  unfold ownerOf
  exact Outcome.tame_ofOption (by simp) _

theorem tame_mayAct (r : Registry) (account : Address) (id : VaultId) :
    Outcome.Tame p (r.mayAct account id) :=
  (r.tame_ownerOf id).bind fun _ _ => Outcome.failsOnly_ok _

/-- A registry that is out of numbers overflows, which is an answer. -/
theorem tame_mint (r : Registry) (owner : Address) : Outcome.Tame p (r.mint owner) := by
  unfold mint
  split
  · exact Outcome.failsOnly_ok _
  · exact Outcome.failsOnly_reject.mpr (by simp)

theorem tame_burn (r : Registry) (id : VaultId) : Outcome.Tame p (r.burn id) :=
  (r.tame_ownerOf id).bind fun _ _ => Outcome.failsOnly_ok _

end Registry

/-! ## Boost curves -/

namespace BoostCurve

variable {p : Prop}

/-- Checking a curve compares its points, and computes nothing. -/
theorem tame_checkPoints (points : List (Amount × UInt64)) :
    Outcome.Tame p (checkPoints points) := by
  fun_induction checkPoints points with
  | case1 x₀ y₀ x₁ y₁ rest ih =>
    apply (Outcome.tame_require (by simp)).bind
    intro _ _
    apply (Outcome.tame_require (by simp)).bind
    intro _ _
    exact ih
  | case2 => exact Outcome.failsOnly_ok _

/-- So does accepting one, after the lengths of its two lists were compared. -/
theorem tame_ofPoints (thresholds : List Amount) (multipliers : List UInt64) :
    Outcome.Tame p (ofPoints thresholds multipliers) := by
  unfold ofPoints
  apply (Outcome.tame_require (by simp)).bind
  intro _ _
  apply (Outcome.tame_require (by simp)).bind
  intro _ _
  apply (Outcome.tame_require (by simp)).bind
  intro _ _
  apply (tame_checkPoints _).bind
  intro _ _
  exact Outcome.failsOnly_ok _

end BoostCurve

namespace Engine

/-! ## Accrual -/

/-- The interest up to now takes a product that is unroundable. -/
def Overgrown (e : Engine) (now : Timestamp) : Prop :=
  UnroundableFactor e.state.params.interestRate.toNat (now.toNat - e.state.accruedAt.toNat)

/-- Whether an engine is overgrown is read off its frame. -/
theorem overgrown_of_frame {e e' : Engine} {now : Timestamp} (same : e'.frame = e.frame)
    (h : e'.Overgrown now) : e.Overgrown now := by
  have framed (x : Engine) : x.Overgrown now ↔ Overgrown ⟨x.frame.1, none, []⟩ now := Iff.rfl
  rw [framed, same, ← framed] at h
  exact h

/-- Once interest is booked, none is left to be booked at the same time. -/
theorem Accrued.not_overgrown {e e' : Engine} {now : Timestamp} {accumulator : Amount}
    (h : Accrued e now accumulator e') : ¬ e'.Overgrown now := by
  have none' : now.toNat - e'.state.accruedAt.toNat = 0 := by
    rw [h.state]
    dsimp only
    split
    · exact Nat.sub_self _
    · rename_i earlier
      exact Nat.sub_eq_zero_of_le (UInt64.not_lt.mp earlier)
  intro grown
  exact grown.2.1 none'

/-- The accumulator of now faults at most where the engine is overgrown. -/
theorem tame_currentAccumulator (e : Engine) (now : Timestamp) :
    Outcome.Tame (e.Overgrown now) (e.currentAccumulator now) := by
  unfold currentAccumulator accumulate
  apply (tame_compoundFactor _ _).bind
  intro factor _
  apply (Wide.tame_checkedMul _ _).bind
  intro product _
  exact tame_narrow _

section Steps

variable {α : Type} {p : Prop} {e : Engine}

/-- Reading the state comes before what is done with it. -/
theorem tameAt_getState_bind {f : EngineState → Transact Engine α} (h : TameAt p e (f e.state)) :
    TameAt p e (getState >>= f) := h

/-- After a lookup the vault is known to be there. -/
theorem tameAt_findVault_bind {id : VaultId} {f : Vault → Transact Engine α}
    (h : ∀ v, e.vault? id = some v → TameAt p e (f v)) : TameAt p e (findVault id >>= f) := by
  refine FailsOnlyAt.bind (Transact.failsOnlyAt_liftM (Registry.tame_vault _ id)) fun v t ok => ?_
  obtain ⟨found, rfl⟩ := findVault_eq_ok.mp ok
  exact h v found

/-- The surplus is added to with a check. -/
theorem tameAt_addSurplus (amount : Amount) : TameAt p e (addSurplus amount) := by
  unfold addSurplus
  apply tameAt_getState_bind
  apply failsOnlyAt_liftM_bind (tame_add _ _)
  intro surplus _
  exact failsOnlyAt_modify _

/-- Asking for rights is refused for vaults without an owner or for lack of rights, and for nothing
else. -/
theorem tameAt_requireMayAct (caller : Address) (id : VaultId) :
    TameAt p e (requireMayAct caller id) := by
  unfold requireMayAct
  apply tameAt_getState_bind
  apply failsOnlyAt_liftM_bind (Registry.tame_mayAct _ _ _)
  intro allowed _
  exact failsOnlyAt_require (by simp)

/-- The check of rights in front leaves the engine as it is for the rest. -/
theorem tameAt_requireMayAct_bind {caller : Address} {id : VaultId} {f : Unit → Transact Engine α}
    (h : TameAt p e (f ())) : TameAt p e (requireMayAct caller id >>= f) :=
  (readOnly_requireMayAct caller id).failsOnlyAt_bind (tameAt_requireMayAct caller id) fun _ _ => h

/-- So does the check for an amount of zero. -/
theorem tameAt_requireAmount_bind {amount : Amount} {f : Unit → Transact Engine α}
    (h : TameAt p e (f ())) : TameAt p e (requireAmount amount >>= f) :=
  failsOnlyAt_require_bind (by simp) fun _ => h

theorem tameAt_requireUnpaused : TameAt p e requireUnpaused :=
  tameAt_getState_bind (failsOnlyAt_require (by simp))

/-- So does the check that the engine runs. -/
theorem tameAt_requireUnpaused_bind {f : Unit → Transact Engine α} (h : TameAt p e (f ())) :
    TameAt p e (requireUnpaused >>= f) :=
  readOnly_requireUnpaused.failsOnlyAt_bind tameAt_requireUnpaused fun _ _ => h

/-- So does the check of the whitelist. -/
theorem tameAt_requireWhitelisted_bind {caller recipient : Address} {f : Unit → Transact Engine α}
    (h : TameAt p e (f ())) : TameAt p e (requireWhitelisted caller recipient >>= f) := by
  refine (readOnly_requireWhitelisted caller recipient).failsOnlyAt_bind ?_ ?_
  · unfold requireWhitelisted
    apply tameAt_getState_bind
    split
    · refine failsOnlyAt_require_bind (by simp) ?_
      intro _
      exact failsOnlyAt_require (by simp)
    · exact failsOnlyAt_pure _
  · exact fun _ _ => h

end Steps

/-- An accrual faults at most on an overgrown engine: the accumulator only grows, so that nothing
falls below zero. -/
theorem tameAt_accrue (e : Engine) (now : Timestamp) :
    TameAt (e.Overgrown now) e (accrue now) := by
  unfold accrue
  apply tameAt_getState_bind
  refine Transact.failsOnlyAt_get_bind ?_
  apply failsOnlyAt_liftM_bind (tame_currentAccumulator e now)
  intro accumulator _
  have booked (t : Engine) : TameAt (e.Overgrown now) t (if e.state.accruedAt < now then do
      modifyState fun s => { s with accruedAt := now }
      pure accumulator
    else pure accumulator) := by
    split
    · exact failsOnlyAt_modify_bind (failsOnlyAt_pure _)
    · exact failsOnlyAt_pure _
  dsimp only
  split
  · apply failsOnlyAt_liftM_bind (tame_mulDiv (Nat.ne_of_gt accumulatorOne_pos))
    intro interest _
    apply (tameAt_addSurplus interest).bind
    intro _ _ _
    refine failsOnlyAt_modify_bind ?_
    refine failsOnlyAt_modify_bind ?_
    exact booked _
  · exact booked e

/-! ## Debt -/

section Debt

variable {p : Prop} {e : Engine} {now : Timestamp} {id : VaultId} {amount accumulator : Amount}

/-- Debt can be normalized at any accumulator above zero. -/
theorem tame_normalize (pos : 0 < accumulator.toNat) :
    Outcome.Tame p (normalize amount accumulator) :=
  tame_mulDiv (Nat.ne_of_gt pos)

/-- What is owed is a product divided by a constant. -/
theorem tame_debtOf (normalized accumulator : Amount) :
    Outcome.Tame p (debtOf normalized accumulator) :=
  tame_mulDiv (Nat.ne_of_gt accumulatorOne_pos)

theorem tame_debtOfUp (normalized accumulator : Amount) :
    Outcome.Tame p (debtOfUp normalized accumulator) :=
  tame_mulDivUp (Nat.ne_of_gt accumulatorOne_pos)

/-- Adding debt to a vault and to the total is checked for range. -/
theorem tameAt_addNormalizedDebt (change : Amount) :
    TameAt p e (addNormalizedDebt now id change accumulator) := by
  unfold addNormalizedDebt
  apply tameAt_getState_bind
  apply tameAt_findVault_bind
  intro v _
  apply failsOnlyAt_liftM_bind (tame_add _ _)
  intro debt _
  refine failsOnlyAt_require_bind (by simp) ?_
  intro _
  refine failsOnlyAt_modify_bind ?_
  apply failsOnlyAt_liftM_bind (tame_add _ _)
  intro total _
  refine failsOnlyAt_modify_bind ?_
  exact failsOnlyAt_modify _

/-- What a vault owes can be taken off its debt, and off the total as well. -/
theorem tameAt_removeNormalizedDebt {change : Amount} (exact' : e.Exact)
    (part : ∀ v, e.vault? id = some v → change ≤ v.normalizedDebt) :
    TameAt p e (removeNormalizedDebt now id change accumulator) := by
  unfold removeNormalizedDebt
  apply tameAt_getState_bind
  apply tameAt_findVault_bind
  intro v found
  have owed := part v found
  apply failsOnlyAt_liftM_bind (tame_minus owed)
  intro debt _
  refine failsOnlyAt_require_bind (by simp) ?_
  intro _
  refine failsOnlyAt_modify_bind ?_
  apply failsOnlyAt_liftM_bind (tame_minus (Nat.le_trans owed (exact'.covers found)))
  intro total _
  refine failsOnlyAt_modify_bind ?_
  split
  · exact failsOnlyAt_modify _
  · exact failsOnlyAt_pure _

/-- An increase of debt is normalized first, at an accumulator above zero. -/
theorem tameAt_increaseDebt (pos : 0 < accumulator.toNat) :
    TameAt p e (increaseDebt now id amount accumulator) := by
  unfold increaseDebt
  apply failsOnlyAt_liftM_bind (tame_normalize pos)
  intro change _
  exact tameAt_addNormalizedDebt change

/-- A decrease takes off no more than the vault owes, and so no more than the total, which is exact.
-/
theorem tameAt_decreaseDebt (exact' : e.Exact) (pos : 0 < accumulator.toNat) :
    TameAt p e (decreaseDebt now id amount accumulator) := by
  unfold decreaseDebt
  apply tameAt_findVault_bind
  intro v found
  apply failsOnlyAt_liftM_bind (tame_normalize pos)
  intro change _
  -- in both cases what is removed is at most what the vault owes
  split
  · apply failsOnlyAt_liftM_bind (tame_debtOfUp _ _)
    intro repaid _
    refine FailsOnlyAt.bind ?_ ?_
    · apply tameAt_removeNormalizedDebt exact'
      intro w found'
      cases found.symm.trans found'
      exact Nat.le_refl _
    · exact fun _ _ _ => failsOnlyAt_pure _
  · rename_i less
    refine FailsOnlyAt.bind ?_ ?_
    · apply tameAt_removeNormalizedDebt exact'
      intro w found'
      cases found.symm.trans found'
      exact Nat.le_of_not_le less
    · exact fun _ _ _ => failsOnlyAt_pure _

/-- The repay fee leaves something, so what is charged is at least what was repaid. -/
theorem tameAt_chargeRepayFee {repaid : Amount} (params : e.state.params.Consistent) :
    TameAt p e (chargeRepayFee repaid) := by
  have room := params.repayFee_le
  have some' := params.surcharge_pos
  unfold chargeRepayFee
  apply tameAt_getState_bind
  apply failsOnlyAt_liftM_bind (Wide.tame_sub (by omega))
  intro kept known
  obtain ⟨-, rfl⟩ := Wide.sub_eq_ok.mp known
  apply failsOnlyAt_liftM_bind (tame_mulDivUp (by omega))
  intro charged known
  apply failsOnlyAt_liftM_bind (tame_uncheckedMinus (mulDivUp_ge (Nat.sub_le _ _) known))
  intro fee _
  apply (tameAt_addSurplus fee).bind
  intro _ _ _
  exact failsOnlyAt_pure _

/-! ## Actions -/

/-- Collateral is added with a check. -/
theorem tameAt_addCollateral : TameAt p e (addCollateral now id amount) := by
  unfold addCollateral
  apply tameAt_requireAmount_bind
  apply tameAt_findVault_bind
  intro v _
  apply failsOnlyAt_liftM_bind (tame_add _ _)
  intro collateral _
  refine failsOnlyAt_modify_bind ?_
  exact failsOnlyAt_modify _

variable {ctx : Context}

/-- Collateral is compared before it is taken off. -/
theorem tameAt_removeCollateral : TameAt p e (removeCollateral ctx id amount) := by
  unfold removeCollateral
  apply tameAt_requireAmount_bind
  apply tameAt_requireMayAct_bind
  apply tameAt_findVault_bind
  intro v _
  split
  · refine failsOnlyAt_modify_bind ?_
    exact failsOnlyAt_modify _
  · exact Transact.failsOnlyAt_reject (by simp)

/-- A fee of at most one is at most the amount. -/
theorem tameAt_borrow (params : e.state.params.Consistent) (pos : 0 < accumulator.toNat) :
    TameAt p e (borrow ctx id amount accumulator) := by
  unfold borrow
  apply tameAt_requireAmount_bind
  apply tameAt_requireMayAct_bind
  apply (tameAt_increaseDebt pos).bind
  intro _ t increased
  obtain ⟨_, _, _, revised, _⟩ := increaseDebt_eq_ok increased
  apply tameAt_getState_bind
  apply failsOnlyAt_liftM_bind (tame_mulDiv (Nat.ne_of_gt ratioOne_pos))
  intro fee known
  apply (tameAt_addSurplus fee).bind
  intro _ _ _
  refine Transact.failsOnlyAt_liftM ?_
  apply tame_uncheckedMinus
  rw [params_of_frame revised.frame] at known
  exact mulDiv_le params.borrowFee_le known

/-- A repayment on an exact engine is tame, with its fee. -/
theorem tameAt_repayDebt (exact' : e.Exact) (params : e.state.params.Consistent)
    (pos : 0 < accumulator.toNat) : TameAt p e (repayDebt now id amount accumulator) := by
  unfold repayDebt
  apply tameAt_requireAmount_bind
  apply (tameAt_decreaseDebt exact' pos).bind
  intro repaid t decreased
  obtain ⟨_, _, _, revised, _⟩ := decreaseDebt_eq_ok decreased
  apply tameAt_chargeRepayFee
  rw [params_of_frame revised.frame]
  exact params

/-- The health of a vault divides by the whole unit of the collateral, and by the debt where there
is some. -/
theorem tame_healthAt {s : EngineState} {v : Vault} {price : Amount}
    (unit : 0 < s.collateralUnit.toNat) : Outcome.Tame p (healthAt s v price accumulator) := by
  unfold healthAt
  apply (tame_debtOf _ _).bind
  intro debt _
  apply Outcome.FailsOnly.bind (tame_mulDiv (Nat.ne_of_gt unit))
  intro value _
  unfold healthFactor
  split
  · exact Outcome.failsOnly_ok _
  · rename_i some'
    exact tame_mulDiv some'

/-- A new vault is refused for its owner or for lack of numbers. -/
theorem tameAt_mintVault (owner : Address) : TameAt p e (mintVault ctx owner) := by
  unfold mintVault
  refine failsOnlyAt_require_bind (by simp) ?_
  intro _
  apply tameAt_requireWhitelisted_bind
  apply tameAt_getState_bind
  apply failsOnlyAt_liftM_bind (Registry.tame_mint _ _)
  intro made _
  refine failsOnlyAt_modify_bind ?_
  refine failsOnlyAt_modify_bind ?_
  exact failsOnlyAt_pure _

/-- Removing a vault is refused for numbers that no vault has. -/
theorem tameAt_burnVault : TameAt p e (burnVault now id) := by
  unfold burnVault
  apply tameAt_getState_bind
  apply failsOnlyAt_liftM_bind (Registry.tame_burn _ _)
  intro burnt _
  refine failsOnlyAt_modify_bind ?_
  exact failsOnlyAt_modify _

/-- Closing a vault takes all of its debt off the total, which covers it on an exact engine. -/
theorem tameAt_closeVault (exact' : e.Exact) (fit : e.Fit) (price : Outcome.Tame p ctx.price) :
    TameAt p e (closeVault ctx id accumulator) := by
  unfold closeVault
  apply tameAt_requireMayAct_bind
  apply tameAt_findVault_bind
  intro v found
  have removed (owed : Amount) (t : Engine) : TameAt p t (do
      burnVault ctx.now id
      pure (owed, v.collateral)) :=
    tameAt_burnVault.bind fun _ _ _ => failsOnlyAt_pure _
  dsimp only
  split
  · exact removed _ e
  · apply failsOnlyAt_liftM_bind price
    intro price' _
    apply tameAt_getState_bind
    apply failsOnlyAt_liftM_bind (tame_healthAt fit.unit_bounds.1)
    intro health _
    refine failsOnlyAt_require_bind (by simp) ?_
    intro _
    apply failsOnlyAt_liftM_bind (tame_debtOfUp _ _)
    intro debt _
    apply (tameAt_chargeRepayFee fit.params).bind
    intro owed t charged
    obtain ⟨_, surplus, _, rfl⟩ := chargeRepayFee_eq_ok charged
    apply tameAt_getState_bind
    apply failsOnlyAt_liftM_bind (tame_minus (exact'.covers found))
    intro total _
    refine failsOnlyAt_modify_bind ?_
    refine failsOnlyAt_modify_bind ?_
    exact removed _ _

/-! ## Debt between vaults -/

/-- If the fees leave nothing of an amount, nothing has to be scaled up again. -/
theorem tameAt_payDebtOut {senderBorrowFee senderRepayFee : UInt64} (exact' : e.Exact)
    (fit : e.Fit) :
    TameAt (e.Overgrown now) e (payDebtOut now id amount senderBorrowFee senderRepayFee) := by
  unfold payDebtOut
  apply (tameAt_accrue e now).bind
  intro accumulator m accrued
  have booked := accrue_eq_ok accrued
  have grown := fit.accumulator_pos booked
  apply tameAt_getState_bind
  apply failsOnlyAt_liftM_bind (tame_mulDiv (Nat.ne_of_gt ratioOne_pos))
  intro kept _
  apply failsOnlyAt_liftM_bind (tame_mulDiv (Nat.ne_of_gt ratioOne_pos))
  intro lessFee less
  apply (tameAt_decreaseDebt (exact'.accrued booked) grown).bind
  intro repaid t _
  have taken (taken : Amount) (t : Engine) : TameAt (e.Overgrown now) t (do
      addSurplus (taken.monus repaid)
      pure taken) :=
    (tameAt_addSurplus _).bind fun _ _ _ => failsOnlyAt_pure _
  dsimp only
  split
  · exact taken _ t
  · rename_i more
    have some' : kept.toNat ≠ 0 := by
      intro none'
      have value := (mulDiv_eq_ok.mp less).2
      rw [none', Nat.mul_zero, Nat.zero_div] at value
      rw [Amount.le_iff] at more
      omega
    apply failsOnlyAt_liftM_bind (tame_mulDivUp some')
    intro scaled _
    exact taken _ t

/-- What another engine is asked for is tame where paying it out is. -/
theorem tameAt_getDebtOut {treasury : Treasury} {caller : Address}
    {senderBorrowFee senderRepayFee : UInt64} (exact' : e.Exact) (fit : e.Fit) :
    TameAt (e.Overgrown now) e
      (getDebtOut treasury caller now id amount senderBorrowFee senderRepayFee) := by
  unfold getDebtOut
  refine failsOnlyAt_require_bind (by simp) ?_
  intro _
  apply tameAt_requireUnpaused_bind
  apply tameAt_requireAmount_bind
  exact Transact.failsOnlyAt_atomically (tameAt_payDebtOut exact' fit)

/-- Moving debt within an engine is a decrease and an increase. -/
theorem tameAt_moveDebt {receiving giving : VaultId} (exact' : e.Exact)
    (pos : 0 < accumulator.toNat) :
    TameAt p e (Arena.moveDebt now receiving giving amount accumulator) := by
  unfold Arena.moveDebt
  apply failsOnlyAt_liftM_bind (tame_normalize pos)
  intro requested _
  apply tameAt_findVault_bind
  intro v found
  refine FailsOnlyAt.bind ?_ ?_
  · apply tameAt_removeNormalizedDebt exact'
    intro w found'
    cases found.symm.trans found'
    rw [Amount.le_iff, Amount.toNat_min]
    exact Nat.min_le_right _ _
  · intro _ m _
    apply (tameAt_addNormalizedDebt _).bind
    intro _ t _
    split
    · exact Transact.failsOnlyAt_liftM (tame_debtOfUp _ _)
    · exact failsOnlyAt_pure _

end Debt

/-! ## Setters -/

section Setters

variable {p : Prop} {e : Engine} {ctx : Context}

/-- The interest rate is the one parameter that is not set before interest is booked. -/
theorem tameAt_applyParameter {now : Timestamp} {parameter : Parameter} {value : UInt64} :
    TameAt (parameter = .interestRate ∧ e.Overgrown now) e
      (applyParameter now parameter value) := by
  unfold applyParameter
  apply tameAt_getState_bind
  cases parameter with
  | interestRate =>
    refine FailsOnlyAt.bind ((tameAt_accrue e now).mono fun grown => ⟨rfl, grown⟩) fun _ _ _ => ?_
    exact failsOnlyAt_modify _
  | _ => exact failsOnlyAt_require_bind (by simp [tooHigh]) fun _ => failsOnlyAt_modify _

/-- A code that is read is the code of the parameter that it names. -/
theorem eq_code_of_ofCode {code : String} {parameter : Parameter}
    (h : Parameter.ofCode code = .ok parameter) : code = parameter.code := by
  unfold Parameter.ofCode at h
  have same := List.find?_some (Outcome.ofOption_eq_ok.mp h)
  exact (eq_of_beq same).symm

/-- Setting a parameter faults at most where it sets the interest rate of an overgrown engine, whose
interest is booked first. -/
theorem tameAt_setParameterByCode {code : String} {value : UInt64} :
    TameAt (code = Parameter.interestRate.code ∧ e.Overgrown ctx.now) e
      (setParameterByCode ctx code value) := by
  unfold setParameterByCode setParameter
  apply failsOnlyAt_liftM_bind (Outcome.tame_ofOption (by simp) _)
  intro parameter known
  refine failsOnlyAt_require_bind (by simp) ?_
  intro _
  refine FailsOnlyAt.bind (tameAt_applyParameter.mono fun excuse => ⟨?_, excuse.2⟩) fun _ _ _ => ?_
  · rw [← excuse.1]
    exact eq_code_of_ofCode known
  · exact failsOnlyAt_modify _

theorem tameAt_setDebtCeiling (debtCeiling : Amount) :
    TameAt p e (setDebtCeiling ctx debtCeiling) :=
  failsOnlyAt_require_bind (by simp) fun _ => failsOnlyAt_modify_bind (failsOnlyAt_modify _)

/-- Setting the bounds for dust computes nothing. -/
theorem tameAt_setDusts (dust dustLiquidation dustCollateral : Amount) :
    TameAt p e (setDusts ctx dust dustLiquidation dustCollateral) := by
  unfold setDusts
  refine failsOnlyAt_require_bind (by simp) ?_
  intro _
  refine failsOnlyAt_require_bind (by simp) ?_
  intro _
  refine failsOnlyAt_modify_bind ?_
  exact failsOnlyAt_modify _

/-- Setting a boost curve only checks the curve. -/
theorem tameAt_setBoost (source : Option BoostSource) (thresholds : List Amount)
    (multipliers : List UInt64) : TameAt p e (setBoost ctx source thresholds multipliers) := by
  unfold setBoost
  refine failsOnlyAt_require_bind (by simp) ?_
  intro _
  apply failsOnlyAt_liftM_bind (BoostCurve.tame_ofPoints _ _)
  intro curve _
  refine failsOnlyAt_modify_bind ?_
  refine failsOnlyAt_modify_bind ?_
  refine failsOnlyAt_modify_bind ?_
  exact failsOnlyAt_modify _

theorem tameAt_togglePause : TameAt p e (togglePause ctx) :=
  failsOnlyAt_require_bind (by simp) fun _ => failsOnlyAt_modify_bind
    (tameAt_getState_bind (failsOnlyAt_modify _))

/-- Changing the whitelist computes nothing. -/
theorem tameAt_toggleWhitelist (account : Address) : TameAt p e (toggleWhitelist ctx account) := by
  unfold toggleWhitelist
  refine failsOnlyAt_require_bind (by simp) ?_
  intro _
  split
  · refine failsOnlyAt_modify_bind ?_
    exact tameAt_getState_bind (failsOnlyAt_modify _)
  · refine failsOnlyAt_modify_bind ?_
    exact tameAt_getState_bind (failsOnlyAt_modify _)

theorem tameAt_setOracle : TameAt p e (setOracle ctx) :=
  failsOnlyAt_require_bind (by simp) fun _ => failsOnlyAt_modify _

theorem tameAt_requireTreasury (caller : Address) : TameAt p e (requireTreasury caller) :=
  tameAt_getState_bind (failsOnlyAt_require (by simp))

/-- Passing an engine on compares two stablecoins, and computes nothing. -/
theorem tameAt_setTreasury (treasury : Treasury) : TameAt p e (setTreasury ctx treasury) := by
  unfold setTreasury
  apply (tameAt_requireTreasury _).bind
  intro _ _ _
  apply tameAt_getState_bind
  refine failsOnlyAt_require_bind (by simp) ?_
  intro _
  refine failsOnlyAt_modify_bind ?_
  exact failsOnlyAt_modify _

/-- Approving an account looks up the owner, and computes nothing. -/
theorem tameAt_approve (account : Address) (id : VaultId) :
    TameAt p e (approve ctx account id) := by
  unfold approve
  apply tameAt_getState_bind
  apply failsOnlyAt_liftM_bind (Registry.tame_ownerOf _ _)
  intro owner _
  refine failsOnlyAt_require_bind (by simp) ?_
  intro _
  refine failsOnlyAt_require_bind (by simp) ?_
  intro _
  refine failsOnlyAt_modify_bind ?_
  exact failsOnlyAt_modify _

theorem tameAt_setApprovalForAll (operator : Address) (approved : Bool) :
    TameAt p e (setApprovalForAll ctx operator approved) := by
  unfold setApprovalForAll
  refine failsOnlyAt_require_bind (by simp) ?_
  intro _
  refine failsOnlyAt_require_bind (by simp) ?_
  intro _
  refine failsOnlyAt_modify_bind ?_
  exact failsOnlyAt_modify _

/-- Handing a vault over looks up its owner and the whitelist, and computes nothing. -/
theorem tameAt_transferVault (source recipient : Address) (id : VaultId) :
    TameAt p e (transferVault ctx source recipient id) := by
  unfold transferVault
  apply tameAt_requireMayAct_bind
  apply tameAt_getState_bind
  apply failsOnlyAt_liftM_bind (Registry.tame_ownerOf _ _)
  intro owner _
  refine failsOnlyAt_require_bind (by simp) ?_
  intro _
  refine failsOnlyAt_require_bind (by simp) ?_
  intro _
  apply tameAt_requireWhitelisted_bind
  refine failsOnlyAt_modify_bind ?_
  exact failsOnlyAt_modify _

end Setters

end Engine

end CollateralDebt
