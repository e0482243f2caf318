import CollateralDebt.Proofs.Engine.Arithmetic
import CollateralDebt.Proofs.Engine.Liquidation

/-!
# The arithmetic of a liquidation

Only an unhealthy vault has terms, and for an unhealthy vault of a fit engine every formula of the
terms stays in its range. Its borrowable value is below its debt, so something is missing from the
target. The share `d` of the price that a liquidator pays is at least one billionth and at most one,
and it is so large that the surcharged repayment outweighs the value that is given for it: this is
what the divisor in the amount that reaches the target consists of, and the branch that divides by
it is the one in which it is above zero. Products are counted in bits.

## What is proved

- `mul_lt_pow`, `Wide.tame_mul_of_lt`: products counted in bits;
- `oneMinusDiscount_bounds`: what `d` is;
- `tame_opportunity`, `tame_verdict`: how a vault can be refused;
- `tameAt_liquidateAll`, `tame_of_skipped`: how a liquidation and its vaults can be.
-/

namespace CollateralDebt

open Outcome (Tame failsOnly_ok tame_require)
open Transact (FailsOnlyAt TameAt failsOnlyAt_liftM_bind failsOnlyAt_modify_bind
  failsOnlyAt_pure failsOnlyAt_require_bind)

/-! ## Bits -/

/-- A product has at most as many bits as its factors together. -/
theorem mul_lt_pow {a b m n : Nat} (ha : a < 2 ^ m) (hb : b < 2 ^ n) : a * b < 2 ^ (m + n) := by
  rw [Nat.pow_add]
  exact Nat.mul_lt_mul'' ha hb

theorem Amount.lt_pow (a : Amount) : a.toNat < 2 ^ 128 := a.isLt

theorem ratioOne_lt : ratioOne < 2 ^ 30 := by decide

theorem accumulatorOne_lt : accumulatorOne < 2 ^ 90 := by decide

/-- What has at most 256 bits is in the range of the wide numbers. -/
theorem Wide.lt_bound {a n : Nat} (h : a < 2 ^ n) (hn : n ≤ 256) : a < bound :=
  Nat.lt_of_lt_of_le h (Nat.pow_le_pow_right (by decide) hn)

/-- A product whose factors have together no more than 256 bits. -/
theorem Wide.tame_mul_of_lt {p : Prop} {a b m n : Nat} (ha : a < 2 ^ m) (hb : b < 2 ^ n)
    (h : m + n ≤ 256) : Tame p (mul a b) :=
  tame_mul (lt_bound (mul_lt_pow ha hb) h)

/-- The product of two amounts is in range, and leaves room for one. So the formulas that take it
exactly come to what they would with operations that nobody checks. -/
theorem Wide.mul_amounts (a b : Amount) :
    mul a.toNat b.toNat = .ok (a.toNat * b.toNat) ∧
      add (a.toNat * b.toNat) 1 = .ok (a.toNat * b.toNat + 1) := by
  have ha := Nat.le_pred_of_lt a.lt_pow
  have hb := Nat.le_pred_of_lt b.lt_pow
  have room : a.toNat * b.toNat + 1 < bound :=
    Nat.lt_of_le_of_lt (Nat.succ_le_succ (Nat.mul_le_mul ha hb)) (by decide)
  exact ⟨mul_eq_ok.mpr ⟨Nat.lt_of_succ_lt room, rfl⟩, add_eq_ok.mpr ⟨room, rfl⟩⟩

namespace Engine

variable {p : Prop}

/-! ## Terms -/

/-- What a liquidator pays of the price is more than nothing and at most all of it, and it is so
large that the surcharged part of it is at least the borrowable part. -/
structure Share (params : Parameters) (d : Nat) : Prop where
  pos : 0 < d
  le : d ≤ ratioOne
  covers : params.collateralFactor.toNat * ratioOne ≤ d * params.liquidationSurcharge.toNat

/-- A share is at most one, and so has thirty bits. -/
theorem Share.lt {params : Parameters} {d : Nat} (h : Share params d) : d < 2 ^ 30 :=
  Nat.lt_of_le_of_lt h.le ratioOne_lt

/-- The share that consistent parameters leave after the discount is a share in this sense. -/
theorem oneMinusDiscount_bounds {params : Parameters} {boost : UInt64} {health : Amount} {d : Nat}
    (consistent : params.Consistent) (h : oneMinusDiscount params boost health = .ok d) :
    Share params d := by
  simp only [oneMinusDiscount, Outcome.bind_eq_ok, Wide.sub_eq_ok, Outcome.pure_eq_ok] at h
  obtain ⟨_, _, raw, _, least, hleast, _, ⟨_, rfl⟩, rfl⟩ := h
  have capped := Nat.min_le_right raw.toNat params.maxLiquidationDiscount.toNat
  have below := consistent.discount_lt
  have floor := (mulDivUp_bounds hleast).1
  -- the least share is at most one, because the collateral factor is at most the surcharge
  have least_le : least.toNat ≤ ratioOne := by
    apply Nat.le_of_lt_succ
    apply Nat.lt_of_mul_lt_mul_right (a := params.liquidationSurcharge.toNat)
    calc least.toNat * params.liquidationSurcharge.toNat
        < params.collateralFactor.toNat * ratioOne + params.liquidationSurcharge.toNat :=
          (mulDivUp_bounds hleast).2
      _ ≤ params.liquidationSurcharge.toNat * ratioOne + params.liquidationSurcharge.toNat :=
          Nat.add_le_add_right (Nat.mul_le_mul_right _ consistent.factor_le) _
      _ = (ratioOne + 1) * params.liquidationSurcharge.toNat := by
          rw [Nat.add_mul, Nat.one_mul, Nat.mul_comm]
  refine ⟨by omega, by omega, Nat.le_trans floor ?_⟩
  exact Nat.mul_le_mul_right _ (Nat.le_max_right _ _)

/-- An unhealthy vault is below one, so that its discount can be subtracted from one. -/
theorem tame_oneMinusDiscount {params : Parameters} {boost : UInt64} {health : Amount}
    (consistent : params.Consistent) (unhealthy : health.toNat < ratioOne) :
    Tame p (oneMinusDiscount params boost health) := by
  have below := consistent.discount_lt
  unfold oneMinusDiscount
  apply (Wide.tame_sub (Nat.le_of_lt unhealthy)).bind
  intro distance _
  apply (tame_mulDiv (Nat.ne_of_gt ratioOne_pos)).bind
  intro raw _
  apply (tame_mulDivUp (Nat.ne_of_gt consistent.surcharge_pos)).bind
  intro least _
  apply (Wide.tame_sub (Nat.le_trans (Nat.min_le_right _ _) (Nat.le_of_lt below))).bind
  intro rest _
  exact failsOnly_ok _

section Unhealthy

variable {params : Parameters} {value debt health accumulator price : Amount} {d : Nat} {v : Vault}

/-- A surcharge is at most one, and so has thirty bits. -/
theorem surcharge_lt (consistent : params.Consistent) :
    params.liquidationSurcharge.toNat < 2 ^ 30 :=
  Nat.lt_of_le_of_lt consistent.surcharge_le ratioOne_lt

/-- The products in the test for the target fit into the wide numbers. -/
theorem tame_reachesTarget (consistent : params.Consistent) (share : Share params d) :
    Tame p (reachesTarget params health d) := by
  have weighted := mul_lt_pow health.lt_pow share.lt
  have factor := mul_lt_pow params.collateralFactor.toNat_lt ratioOne_lt
  unfold reachesTarget
  apply (Wide.tame_mul_of_lt health.lt_pow share.lt (by decide)).bind
  intro _ known
  obtain ⟨-, rfl⟩ := Wide.mul_eq_ok.mp known
  apply (Wide.tame_mul_of_lt weighted (surcharge_lt consistent) (by decide)).bind
  intro left _
  apply (Wide.tame_mul_of_lt params.collateralFactor.toNat_lt ratioOne_lt (by decide)).bind
  intro _ known
  obtain ⟨-, rfl⟩ := Wide.mul_eq_ok.mp known
  apply (Wide.tame_mul_of_lt factor ratioOne_lt (by decide)).bind
  intro right _
  exact failsOnly_ok _

/-- Where the test has said yes, the inequality that it stands for holds. -/
theorem reached_of_reachesTarget (h : reachesTarget params health d = .ok true) :
    params.collateralFactor.toNat * ratioOne * ratioOne ≤
      health.toNat * d * params.liquidationSurcharge.toNat := by
  simp only [reachesTarget, Outcome.bind_eq_ok, Wide.mul_eq_ok, Outcome.pure_eq_ok,
    decide_eq_true_iff] at h
  obtain ⟨_, ⟨_, rfl⟩, _, ⟨_, rfl⟩, _, ⟨_, rfl⟩, _, ⟨_, rfl⟩, le⟩ := h
  exact le

/-- The borrowable value of an unhealthy vault is below its debt, and so below the debt weighted
with a target of at least one. -/
theorem borrowable_le (consistent : params.Consistent)
    (known : healthFactor value params.collateralFactor debt = .ok health)
    (unhealthy : health.toNat < ratioOne) :
    value.toNat * params.collateralFactor.toNat ≤
      params.targetHealthFactor.toNat * debt.toNat := by
  unfold healthFactor at known
  split at known
  · cases known
    exact absurd unhealthy (by decide)
  · have roof := (mulDiv_bounds known).2
    have weighted : (health.toNat + 1) * debt.toNat ≤
        params.targetHealthFactor.toNat * debt.toNat :=
      Nat.mul_le_mul_right _ (Nat.le_trans unhealthy consistent.target_ge)
    rw [Nat.add_mul, Nat.one_mul] at weighted
    omega

/-- Where the target is reached, the divisor of the amount that reaches it is above zero. -/
theorem borrowable_lt (consistent : params.Consistent) (share : Share params d)
    (unhealthy : health.toNat < ratioOne) (reached : reachesTarget params health d = .ok true) :
    ratioOne * ratioOne * params.collateralFactor.toNat <
      params.liquidationSurcharge.toNat * params.targetHealthFactor.toNat * d :=
  calc ratioOne * ratioOne * params.collateralFactor.toNat
      = params.collateralFactor.toNat * ratioOne * ratioOne := by
        rw [Nat.mul_comm, Nat.mul_assoc]
    _ ≤ health.toNat * d * params.liquidationSurcharge.toNat := reached_of_reachesTarget reached
    _ < params.targetHealthFactor.toNat * d * params.liquidationSurcharge.toNat := by
        apply Nat.mul_lt_mul_of_pos_right _ consistent.surcharge_pos
        exact Nat.mul_lt_mul_of_pos_right (Nat.lt_of_lt_of_le unhealthy consistent.target_ge)
          share.pos
    _ = params.liquidationSurcharge.toNat * params.targetHealthFactor.toNat * d := by
        rw [Nat.mul_comm, Nat.mul_assoc]

/-- Where the target can be reached, the quotient for it has a divisor above zero, and nothing in it
falls below zero. -/
theorem tame_targetRepay (consistent : params.Consistent) (share : Share params d)
    (known : healthFactor value params.collateralFactor debt = .ok health)
    (unhealthy : health.toNat < ratioOne) (reached : reachesTarget params health d = .ok true) :
    Tame p (targetRepay params value debt d) := by
  have covered := borrowable_le consistent known unhealthy
  have divides := borrowable_lt consistent share unhealthy reached
  have weighted := mul_lt_pow params.targetHealthFactor.toNat_lt debt.lt_pow
  have surcharged := mul_lt_pow (surcharge_lt consistent) params.targetHealthFactor.toNat_lt
  unfold targetRepay
  apply (Wide.tame_mul_of_lt params.targetHealthFactor.toNat_lt debt.lt_pow (by decide)).bind
  intro _ known
  obtain ⟨-, rfl⟩ := Wide.mul_eq_ok.mp known
  apply (Wide.tame_mul_of_lt value.lt_pow params.collateralFactor.toNat_lt (by decide)).bind
  intro _ known
  obtain ⟨-, rfl⟩ := Wide.mul_eq_ok.mp known
  apply (Wide.tame_checkedSub covered).bind
  intro missing known
  obtain ⟨-, rfl⟩ := Wide.checkedSub_eq_ok.mp known
  have missing := Nat.lt_of_le_of_lt
    (Nat.sub_le _ (value.toNat * params.collateralFactor.toNat)) weighted
  apply (Wide.tame_mul_of_lt missing ratioOne_lt (by decide)).bind
  intro _ _
  apply (Wide.tame_checkedMul _ _).bind
  intro numerator _
  apply (Wide.tame_mul_of_lt (surcharge_lt consistent) params.targetHealthFactor.toNat_lt
    (by decide)).bind
  intro _ known
  obtain ⟨-, rfl⟩ := Wide.mul_eq_ok.mp known
  apply (Wide.tame_mul_of_lt (mul_lt_pow ratioOne_lt ratioOne_lt) params.collateralFactor.toNat_lt
    (by decide)).bind
  intro _ known
  obtain ⟨-, rfl⟩ := Wide.mul_eq_ok.mp known
  apply (Wide.tame_mul_of_lt surcharged share.lt (by decide)).bind
  intro _ known
  obtain ⟨-, rfl⟩ := Wide.mul_eq_ok.mp known
  apply (Wide.tame_checkedSub (Nat.le_of_lt divides)).bind
  intro _ known
  obtain ⟨-, rfl⟩ := Wide.checkedSub_eq_ok.mp known
  apply (Wide.tame_checkedDiv (Nat.sub_ne_zero_of_lt divides)).bind
  intro _ _
  exact tame_narrow _

/-- The products in the test for dust fit into the wide numbers. -/
theorem tame_leavesDust (consistent : params.Consistent) (repay : Amount) :
    Tame p (leavesDust params debt repay) := by
  have repaid := mul_lt_pow repay.lt_pow (surcharge_lt consistent)
  have dust := mul_lt_pow params.dustLiquidation.lt_pow ratioOne_lt
  unfold leavesDust
  apply (Wide.tame_mul_of_lt debt.lt_pow ratioOne_lt (by decide)).bind
  intro owed _
  apply (Wide.tame_mul_of_lt repay.lt_pow (surcharge_lt consistent) (by decide)).bind
  intro _ known
  obtain ⟨-, rfl⟩ := Wide.mul_eq_ok.mp known
  apply (Wide.tame_mul_of_lt params.dustLiquidation.lt_pow ratioOne_lt (by decide)).bind
  intro _ known
  obtain ⟨-, rfl⟩ := Wide.mul_eq_ok.mp known
  refine Outcome.FailsOnly.bind ?_ ?_
  · apply Wide.tame_add
    apply Wide.lt_bound (n := 159) _ (by decide)
    calc repay.toNat * params.liquidationSurcharge.toNat + params.dustLiquidation.toNat * ratioOne
        < 2 ^ 158 + 2 ^ 158 := Nat.add_lt_add repaid dust
      _ = 2 ^ 159 := by decide
  · intro covered _
    exact failsOnly_ok _

/-- What completes a liquidation is a quotient by the surcharge, which is above zero. -/
theorem tame_fullRepay (consistent : params.Consistent) :
    Tame p (fullRepay params v accumulator) := by
  unfold fullRepay
  apply (Wide.tame_checkedMul _ _).bind
  intro debt _
  apply (Wide.tame_checkedMul _ _).bind
  intro numerator _
  apply (Wide.tame_mul_of_lt (surcharge_lt consistent) accumulatorOne_lt (by decide)).bind
  intro _ known
  obtain ⟨-, rfl⟩ := Wide.mul_eq_ok.mp known
  refine Outcome.FailsOnly.bind ?_ ?_
  · apply Wide.tame_checkedDiv
    exact Nat.ne_of_gt (Nat.mul_pos consistent.surcharge_pos accumulatorOne_pos)
  · intro _ _
    apply (tame_narrow _).bind
    intro _ _
    exact tame_add _ _

variable {s : EngineState}

/-- What exhausts a vault is a quotient by the whole unit of the collateral. -/
theorem tame_exhaustingRepay (unit : 0 < s.collateralUnit.toNat) (share : Share params d) :
    Tame p (exhaustingRepay s v price d) := by
  unfold exhaustingRepay
  apply (Wide.tame_mul_of_lt v.collateral.lt_pow share.lt (by decide)).bind
  intro _ _
  apply (Wide.tame_checkedMul _ _).bind
  intro numerator _
  apply (Wide.tame_mul_of_lt ratioOne_lt s.collateralUnit.lt_pow (by decide)).bind
  intro _ known
  obtain ⟨-, rfl⟩ := Wide.mul_eq_ok.mp known
  apply (Wide.tame_checkedDiv (Nat.ne_of_gt (Nat.mul_pos ratioOne_pos unit))).bind
  intro _ _
  apply (tame_narrow _).bind
  intro _ _
  exact tame_add _ _

/-- What an amount buys is a quotient by the price and by the share that is paid of it. -/
theorem tame_collateralFor (priced : 0 < price.toNat) (share : Share params d) (repay : Amount) :
    Tame p (collateralFor s v price repay d) := by
  unfold collateralFor
  apply (Wide.tame_mul_of_lt repay.lt_pow ratioOne_lt (by decide)).bind
  intro _ _
  apply (Wide.tame_checkedMul _ _).bind
  intro numerator _
  apply (Wide.tame_mul_of_lt price.lt_pow share.lt (by decide)).bind
  intro _ known
  obtain ⟨-, rfl⟩ := Wide.mul_eq_ok.mp known
  apply (Wide.tame_checkedDiv (Nat.ne_of_gt (Nat.mul_pos priced share.pos))).bind
  intro bought _
  split
  · exact failsOnly_ok _
  · exact tame_narrow _

/-- So the bounds of an amount are tame in every regime. -/
theorem tame_repayBounds (consistent : s.params.Consistent) (unit : 0 < s.collateralUnit.toNat)
    (share : Share s.params d)
    (known : healthFactor value s.params.collateralFactor debt = .ok health)
    (unhealthy : health.toNat < ratioOne) :
    Tame p (repayBounds s v price accumulator debt value health d) := by
  unfold repayBounds
  apply (tame_reachesTarget consistent share).bind
  intro reached answer
  dsimp only
  split
  · rename_i holds
    subst holds
    apply (tame_targetRepay consistent share known unhealthy answer).bind
    intro repay _
    apply (tame_leavesDust consistent repay).bind
    intro dusty _
    split
    · apply (tame_fullRepay consistent).bind
      intro all _
      split
      · apply (tame_mulDiv (Nat.ne_of_gt consistent.surcharge_pos)).bind
        intro threshold _
        exact failsOnly_ok _
      · exact failsOnly_ok _
    · exact failsOnly_ok _
  · apply (tame_exhaustingRepay unit share).bind
    intro all _
    split
    · apply (tame_mulDiv (Nat.ne_of_gt ratioOne_pos)).bind
      intro threshold _
      exact failsOnly_ok _
    · exact failsOnly_ok _

end Unhealthy

/-- What is not solvent is below one. -/
theorem lt_of_not_isSolvent {health : Amount} (h : ¬ isSolvent health) : health.toNat < ratioOne :=
  Nat.lt_of_not_le fun solvent => h (decide_eq_true solvent)

/-- An accepted curve has a boost for every liquidator. -/
theorem tame_liquidationBoost {e : Engine} (fit : e.Fit) (liquidator : Address) :
    Tame p (e.liquidationBoost liquidator) := by
  unfold liquidationBoost
  split
  · obtain ⟨y, known⟩ := BoostCurve.boostAt_of_accepted fit.curve _
    rw [known]
    exact failsOnly_ok y
  · exact failsOnly_ok _

section Judged

variable {e : Engine} {id : VaultId} {v : Vault} {liquidator : Address}
  {amount price accumulator : Amount}

/-- The terms of a vault are tame on a fit engine at a price above zero: solvent vaults are refused
before anything is divided. -/
theorem tame_opportunity (fit : e.Fit) (priced : 0 < price.toNat) :
    Tame p (e.opportunity id v liquidator price accumulator) := by
  unfold opportunity
  apply (tame_debtOf _ _).bind
  intro debt _
  apply Outcome.FailsOnly.bind (tame_mulDiv (Nat.ne_of_gt fit.unit_bounds.1))
  intro value _
  refine Outcome.FailsOnly.bind ?_ ?_
  · unfold healthFactor
    split
    · exact failsOnly_ok _
    · rename_i owes
      exact tame_mulDiv owes
  intro health known
  apply (tame_require (by simp)).bind
  intro _ insolvent
  have unhealthy := lt_of_not_isSolvent (Outcome.require_eq_ok.mp insolvent)
  apply (tame_liquidationBoost fit liquidator).bind
  intro boost _
  apply (tame_oneMinusDiscount fit.params unhealthy).bind
  intro d discounted
  have share := oneMinusDiscount_bounds fit.params discounted
  apply (tame_repayBounds fit.params fit.unit_bounds.1 share known unhealthy).bind
  intro bounds _
  apply (tame_collateralFor priced share _).bind
  intro collateral _
  exact failsOnly_ok _

/-- The share in the terms of a vault is above zero. -/
theorem discount_pos {terms : Opportunity} (fit : e.Fit)
    (h : e.opportunity id v liquidator price accumulator = .ok terms) :
    0 < terms.discount.toNat := by
  simp only [opportunity, Outcome.bind_eq_ok, Outcome.require_eq_ok, Outcome.pure_eq_ok] at h
  obtain ⟨_, _, _, _, _, _, _, _, _, _, d, discounted, _, _, _, _, rfl⟩ := h
  have share := oneMinusDiscount_bounds fit.params discounted
  have fits : d < UInt64.size := Nat.lt_trans share.lt (by decide)
  show 0 < (UInt64.ofNat d).toNat
  rw [UInt64.toNat_ofNat', Nat.mod_eq_of_lt fits]
  exact share.pos

/-! ## Verdicts -/

variable {ctx : Context}

/-- A part of the collateral is released, and a part of the debt goes. -/
theorem tame_reduced {debtRepaid released : Amount} (grown : 0 < accumulator.toNat)
    (part : released ≤ v.collateral) :
    Tame p (Verdict.reduced ctx id v amount debtRepaid released accumulator) := by
  unfold Verdict.reduced
  apply (tame_normalize grown).bind
  intro normalized _
  apply (tame_uncheckedMinus part).bind
  intro collateral _
  refine Outcome.FailsOnly.bind ?_ ?_
  · apply tame_uncheckedMinus
    rw [Amount.le_iff, Amount.toNat_min]
    exact Nat.min_le_right _ _
  · intro debt _
    exact failsOnly_ok _

/-- So is the judgement of an amount. -/
theorem tame_judge (fit : e.Fit) (priced : 0 < price.toNat) (grown : 0 < accumulator.toNat) :
    Tame p (e.judge ctx id v amount price accumulator) := by
  unfold judge
  apply (tame_opportunity fit priced).bind
  intro terms known
  apply (tame_require (by simp)).bind
  intro _ _
  apply (tame_require (by simp)).bind
  intro _ _
  apply (Wide.tame_checkedMul _ _).bind
  intro _ _
  apply (Wide.tame_checkedMul _ _).bind
  intro numerator _
  apply (Wide.tame_checkedMul _ _).bind
  intro divisor divides
  obtain ⟨-, rfl⟩ := Wide.checkedMul_eq_ok.mp divides
  apply (Wide.tame_checkedDiv (Nat.ne_of_gt (Nat.mul_pos (discount_pos fit known) priced))).bind
  intro bought _
  apply (tame_mulDiv (Nat.ne_of_gt ratioOne_pos)).bind
  intro debtRepaid _
  split
  · exact failsOnly_ok _
  · rename_i less
    apply (tame_narrow bought).bind
    intro released fits
    apply tame_reduced grown
    rw [Amount.le_iff, narrow_eq_ok.mp fits]
    omega

/-- And so is the verdict on a vault, which may also be missing. -/
theorem tame_verdict (fit : e.Fit) (priced : 0 < price.toNat) (grown : 0 < accumulator.toNat) :
    Tame p (e.verdict ctx id amount price accumulator) := by
  unfold verdict
  apply (tame_require (by simp)).bind
  intro _ _
  apply (Registry.tame_vault _ _).bind
  intro v _
  exact tame_judge fit priced grown

/-- A price that can be missing, but is never zero. -/
structure Quoted (quote : Outcome Amount) : Prop where
  tame : quote.Tame False
  pos : ∀ price, quote = .ok price → 0 < price.toNat

/-! ## Reading -/

/-- The debt of a vault can be asked for at any time at which the engine is not overgrown. -/
theorem tame_vaultDebt (e : Engine) (id : VaultId) (now : Timestamp) :
    Tame (e.Overgrown now) (e.vaultDebt id now) := by
  unfold vaultDebt
  apply (tame_currentAccumulator e now).bind
  exact fun _ _ => tame_debtOf _ _

/-- So can the total debt. -/
theorem tame_totalDebt (e : Engine) (now : Timestamp) :
    Tame (e.Overgrown now) (e.totalDebt now) := by
  unfold totalDebt
  apply (tame_currentAccumulator e now).bind
  exact fun _ _ => tame_debtOf _ _

/-- The health of a vault, which needs a price if the vault owes anything. -/
theorem tame_vaultHealthFactor {now : Timestamp} {quote : Outcome Amount} (fit : e.Fit)
    (quoted : Quoted quote) : Tame (e.Overgrown now) (e.vaultHealthFactor quote id now) := by
  unfold vaultHealthFactor
  apply (Registry.tame_vault _ _).bind
  intro v _
  split
  · exact failsOnly_ok _
  · apply (quoted.tame.mono False.elim).bind
    intro price _
    apply (tame_currentAccumulator e now).bind
    intro accumulator _
    exact tame_healthAt fit.unit_bounds.1

/-- The terms of a liquidation, which are those of a vault that has to be unhealthy. -/
theorem tame_checkLiquidation {now : Timestamp} {quote : Outcome Amount} (fit : e.Fit)
    (quoted : Quoted quote) :
    Tame (e.Overgrown now) (e.checkLiquidation quote id liquidator now) := by
  unfold checkLiquidation
  apply (Registry.tame_vault _ _).bind
  intro v _
  apply (quoted.tame.mono False.elim).bind
  intro price known
  apply (tame_currentAccumulator e now).bind
  intro accumulator _
  exact tame_opportunity fit (quoted.pos price known)

end Judged

/-! ## A whole liquidation -/

/-- What every step of a liquidation starts from: an engine that is exact and fit, a price and an
accumulator above zero, and vaults that were skipped for causes that tell of no mistake. -/
structure Tamed (report : LiquidationReport) (e : Engine) : Prop where
  exact : e.Exact
  fit : e.Fit
  priced : 0 < report.price.toNat
  grown : 0 < report.accumulator.toNat
  skipped : ∀ entry ∈ report.skipped, entry.2.Tame

variable {ctx : Context} {report : LiquidationReport} {e : Engine}

namespace Tamed

/-- The liquidation of one vault is tame from wherever a round stands. -/
theorem tameAt_liquidateVault {id : VaultId} {amount : Amount} (h : Tamed report e) :
    TameAt p e (liquidateVault ctx id amount report.price report.accumulator) := by
  intro f e' failed
  rw [liquidateVault_eq h.exact] at failed
  cases judged : e.verdict ctx id amount report.price report.accumulator with
  | ok r =>
    rw [judged] at failed
    cases failed
  | error refused =>
    rw [judged] at failed
    cases failed
    exact tame_verdict h.fit h.priced h.grown _ judged

/-- One entry of a round is tame: its refusal is noted, and anything else is passed on. -/
theorem tameAt_next {entry : VaultId × Amount} (h : Tamed report e) :
    TameAt p e (liquidateNext ctx report entry) := by
  unfold liquidateNext
  apply (Transact.failsOnlyAt_attempt h.tameAt_liquidateVault).bind
  intro result t _
  split
  · apply failsOnlyAt_liftM_bind (tame_add _ _)
    intro received _
    apply failsOnlyAt_liftM_bind (tame_add _ _)
    intro given _
    apply failsOnlyAt_liftM_bind (tame_add _ _)
    intro lost _
    exact failsOnlyAt_pure _
  · exact failsOnlyAt_pure _

/-- An entry keeps what the next one starts from. -/
theorem next {entry : VaultId × Amount} {report' : LiquidationReport} {e' : Engine}
    (h : Tamed report e) (ok : liquidateNext ctx report entry e = .ok report' e') :
    Tamed report' e' := by
  have exact' := h.exact.liquidatedNext ok
  have fit := h.fit.of_frame (frame_liquidatedNext h.exact ok)
  rcases liquidateNext_eq_ok h.exact ok with ⟨_, _, _, _, _, same⟩ | ⟨cause, refused, _, same⟩
  · rw [same]
    exact ⟨exact', fit, h.priced, h.grown, h.skipped⟩
  · rw [same]
    refine ⟨exact', fit, h.priced, h.grown, ?_⟩
    intro entry skipped
    rcases List.mem_append.mp skipped with before | now
    · exact h.skipped entry before
    · obtain rfl := List.mem_singleton.mp now
      exact h.tameAt_liquidateVault (p := False) _ _ refused

/-- Whatever vaults a liquidation went through. -/
theorem folded {entries : List (VaultId × Amount)} {report' : LiquidationReport} {e' : Engine}
    (h : Tamed report e) (ok : entries.foldlM (liquidateNext ctx) report e = .ok report' e') :
    Tamed report' e' :=
  Transact.foldlM_induction (P := fun _ => Tamed) (fun _ _ _ _ _ _ h ok => h.next ok) h ok

end Tamed

/-- The surcharge leaves no more than what was paid to the protocol. -/
theorem tameAt_conclude (consistent : e.state.params.Consistent) :
    TameAt p e (conclude report) := by
  unfold conclude
  refine failsOnlyAt_require_bind (by simp) ?_
  intro _
  apply tameAt_getState_bind
  apply failsOnlyAt_liftM_bind (Wide.tame_sub consistent.surcharge_le)
  intro share _
  apply failsOnlyAt_liftM_bind (tame_mulDiv (Nat.ne_of_gt ratioOne_pos))
  intro amount _
  apply (tameAt_addSurplus amount).bind
  intro _ t _
  split
  · apply tameAt_getState_bind
    apply failsOnlyAt_liftM_bind (tame_add _ _)
    intro badDebt _
    refine failsOnlyAt_modify_bind ?_
    exact failsOnlyAt_pure _
  · exact failsOnlyAt_pure _

/-- The vaults of a liquidation start from what its accrual has left. -/
theorem Accrued.tamed {accumulator price : Amount} {m : Engine} (exact' : e.Exact) (fit : e.Fit)
    (booked : Accrued e ctx.now accumulator m) (priced : 0 < price.toNat) :
    Tamed ⟨price, accumulator, .zero, .zero, .zero, [], []⟩ m where
  exact := exact'.accrued booked
  fit := fit.accrued booked
  priced := priced
  grown := fit.accumulator_pos booked
  skipped _ none' := nomatch none'

/-- A round faults at most where accrual does. -/
theorem tameAt_liquidateAll {ids : List VaultId} {amounts : List Amount} (exact' : e.Exact)
    (fit : e.Fit) (quoted : Quoted ctx.price) :
    TameAt (e.Overgrown ctx.now) e (liquidateAll ctx ids amounts) := by
  unfold liquidateAll
  apply tameAt_requireUnpaused_bind
  refine failsOnlyAt_require_bind (by simp) ?_
  intro _
  refine failsOnlyAt_require_bind (by simp) ?_
  intro _
  apply (tameAt_accrue e ctx.now).bind
  intro accumulator m accrued
  apply failsOnlyAt_liftM_bind (quoted.tame.mono False.elim)
  intro price known
  have start := (accrue_eq_ok accrued).tamed exact' fit (quoted.pos price known)
  refine FailsOnlyAt.bind ?_ ?_
  · refine Transact.failsOnlyAt_foldlM (I := fun _ report t => Tamed report t) ?_ ?_ ?_
    · exact fun _ _ _ _ _ _ h => h.tameAt_next
    · exact fun _ _ _ _ _ _ h ok => h.next ok
    · exact start
  · intro report t folded
    exact tameAt_conclude (start.folded folded).fit.params

/-- A vault is never skipped for a mistake in the arithmetic. -/
theorem tame_of_skipped {ids : List VaultId} {amounts : List Amount} {e' : Engine}
    (exact' : e.Exact) (fit : e.Fit) (quoted : Quoted ctx.price)
    (h : liquidateAll ctx ids amounts e = .ok report e') :
    ∀ entry ∈ report.skipped, entry.2.Tame := by
  obtain ⟨_, price, m, m', _, _, _, booked, known, folded, _⟩ := liquidateAll_eq_ok h
  have start := booked.tamed exact' fit (quoted.pos price known)
  exact (start.folded folded).skipped

end Engine

end CollateralDebt
