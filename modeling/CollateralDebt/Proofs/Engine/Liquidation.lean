import CollateralDebt.Proofs.Engine.Verdict

/-!
# What a liquidation does

One vault is liquidated in one of two ways. It is *exhausted*: all of its collateral is given away,
it is left empty, and the debt that was not repaid is a loss. Or it is *reduced*: it keeps some
collateral, and the debt that is taken off it is worth at most what was repaid.

The vaults of a call are tried one by one, and a vault that is refused is skipped without an undo of
its own. This is sound because the only step that could be refused half way, the one on the debt
total, never is on an exact engine.

## What is proved

- `liquidateVault_deal`, `liquidateVault_eq_ok`: one vault, in either way;
- `liquidateVault_tracelessAt`: a vault that is skipped leaves no trace;
- `liquidateNext_eq_ok`, `liquidateAll_eq_ok`: a whole call;
- `Exact.liquidatedAll`: a liquidation keeps the debt total exact.
-/

namespace CollateralDebt.Engine

open Transact (bind_eq_ok)

/-! ## Terms -/

/-- Only a vault with some debt has terms, and they name its debt. -/
theorem opportunity_eq_ok {e : Engine} {id : VaultId} {v : Vault} {liquidator : Address}
    {price accumulator : Amount} {terms : Opportunity}
    (h : e.opportunity id v liquidator price accumulator = .ok terms) :
    debtOf v.normalizedDebt accumulator = .ok terms.currentDebt ∧ 0 < terms.currentDebt.toNat := by
  simp only [opportunity, Outcome.bind_eq_ok, Outcome.require_eq_ok, Outcome.pure_eq_ok] at h
  obtain ⟨debt, hdebt, value, _, health, hhealth, _, insolvent, _, _, _, _, _, _, _, _, rfl⟩ := h
  refine ⟨hdebt, ?_⟩
  -- without debt the health factor is the largest amount, which is solvent
  apply Nat.pos_of_ne_zero
  intro none'
  unfold healthFactor at hhealth
  rw [if_pos none'] at hhealth
  cases hhealth
  exact insolvent (by decide)

/-- A vault with terms is unhealthy. -/
theorem unhealthy_of_opportunity {e : Engine} {id : VaultId} {v : Vault} {liquidator : Address}
    {price accumulator : Amount} {terms : Opportunity}
    (h : e.opportunity id v liquidator price accumulator = .ok terms) :
    ∃ health, healthAt e.state v price accumulator = .ok health ∧ ¬ isSolvent health := by
  simp only [opportunity, Outcome.bind_eq_ok, Outcome.require_eq_ok] at h
  obtain ⟨debt, hdebt, value, hvalue, health, hhealth, _, insolvent, _⟩ := h
  refine ⟨health, ?_, insolvent⟩
  exact Outcome.bind_eq_ok.mpr ⟨debt, hdebt, Outcome.bind_eq_ok.mpr ⟨value, hvalue, hhealth⟩⟩

/-- A vault with terms owes something. -/
theorem ne_empty_of_opportunity {e : Engine} {id : VaultId} {v : Vault} {liquidator : Address}
    {price accumulator : Amount} {terms : Opportunity}
    (h : e.opportunity id v liquidator price accumulator = .ok terms) : v ≠ .empty := by
  obtain ⟨hdebt, positive⟩ := opportunity_eq_ok h
  rintro rfl
  have worth := (mulDiv_eq_ok.mp hdebt).2
  rw [show Vault.empty.normalizedDebt.toNat = 0 from rfl, Nat.zero_mul, Nat.zero_div] at worth
  omega

/-- An amount is within terms if it is at most the largest one and does not leave what the threshold
rules out. -/
@[simp] theorem requireWithin_eq_ok {terms : Opportunity} {id : VaultId} {amount : Amount}
    {e e' : Engine} {u : Unit} :
    requireWithin terms id amount e = .ok u e' ↔
      (amount ≤ terms.maxRepay ∧
        ¬ (terms.threshold ≠ .zero ∧ terms.threshold < amount ∧ amount < terms.maxRepay)) ∧
      e = e' := by
  simp only [requireWithin, bind_eq_ok, Transact.require_eq_ok]
  constructor
  · rintro ⟨_, _, ⟨most, rfl⟩, outside, rfl⟩
    exact ⟨⟨most, outside⟩, rfl⟩
  · rintro ⟨⟨most, outside⟩, rfl⟩
    exact ⟨(), _, ⟨most, rfl⟩, outside, rfl⟩

/-! ## One vault -/

/-- A vault was exhausted: it is empty, and what it still owed is lost. -/
theorem exhaustVault_eq_ok {now : Timestamp} {id : VaultId} {v : Vault}
    {amount debtRepaid currentDebt : Amount} {outcome : VaultLiquidation} {e e' : Engine}
    (found : e.vault? id = some v)
    (h : exhaustVault now id v amount debtRepaid currentDebt e = .ok outcome e') :
    Revised e id v .empty e' ∧ e'.state.surplus = e.state.surplus ∧
      outcome = ⟨amount, v.collateral, currentDebt.monus debtRepaid⟩ := by
  simp only [exhaustVault, bind_eq_ok, getState_eq_ok, Transact.liftM_eq_ok, Amount.minus_eq_ok,
    modifyState_eq_ok, findVault_eq_ok, putVault_eq_ok] at h
  obtain ⟨_, _, ⟨rfl, rfl⟩, total, _, ⟨htotal, rfl⟩, _, _, rfl, _, _, ⟨_, rfl⟩, _, _, rfl, h⟩ := h
  have revised : ∀ log, Revised e id v .empty
      { e with
        state := { e.state with
          totalNormalizedDebt := total
          registry := e.state.registry.setVault id .empty }
        log } :=
    fun log => ⟨found, rfl, htotal, rfl⟩
  split at h
  · simp only [bind_eq_ok, emit_eq_ok, Transact.pure_eq_ok] at h
    obtain ⟨_, _, rfl, _, _, rfl, rfl, rfl⟩ := h
    exact ⟨revised _, rfl, rfl⟩
  · simp only [bind_eq_ok, emit_eq_ok, Transact.pure_eq_ok] at h
    obtain ⟨_, _, rfl, rfl, rfl⟩ := h
    exact ⟨revised _, rfl, rfl⟩

/-- A vault was reduced: it lost the released collateral, and the debt that was repaid, which is at
most all of its debt. -/
theorem reduceVault_eq_ok {now : Timestamp} {id : VaultId} {v : Vault}
    {amount debtRepaid released accumulator : Amount} {outcome : VaultLiquidation} {e e' : Engine}
    (found : e.vault? id = some v)
    (h : reduceVault now id v amount debtRepaid released accumulator e = .ok outcome e') :
    ∃ (w : Vault) (normalized : Amount), Revised e id v w e' ∧
      e'.state.surplus = e.state.surplus ∧
      w.collateral.toNat + released.toNat = v.collateral.toNat ∧
      normalize debtRepaid accumulator = .ok normalized ∧
      w.normalizedDebt.toNat + min normalized.toNat v.normalizedDebt.toNat =
        v.normalizedDebt.toNat ∧
      outcome = ⟨amount, released, .zero⟩ := by
  simp only [reduceVault, bind_eq_ok, getState_eq_ok, Transact.liftM_eq_ok, Amount.minus_eq_ok,
    Amount.uncheckedMinus_eq_ok, modifyState_eq_ok, findVault_eq_ok, putVault_eq_ok, emit_eq_ok,
    Transact.pure_eq_ok, Amount.toNat_min] at h
  obtain ⟨normalized, _, ⟨hnormalized, rfl⟩, _, _, ⟨_, rfl⟩, collateral, _, ⟨hcollateral, rfl⟩,
    debt, _, ⟨hdebt, rfl⟩, _, _, rfl, _, _, ⟨rfl, rfl⟩, total, _, ⟨htotal, rfl⟩, _, _, rfl, _, _,
    rfl, _, _, rfl, rfl, rfl⟩ := h
  refine ⟨⟨collateral, debt⟩, normalized, ⟨found, rfl, ?_, rfl⟩, rfl, hcollateral, hnormalized,
    hdebt, rfl⟩
  show total.toNat + v.normalizedDebt.toNat = e.state.totalNormalizedDebt.toNat + debt.toNat
  have total' : total.toNat + min normalized.toNat v.normalizedDebt.toNat =
    e.state.totalNormalizedDebt.toNat := htotal
  omega

/-- What an amount makes of a vault, where it pays for `bought` of the collateral and the surcharge
leaves `debtRepaid` of it for the debt. -/
inductive Exchanged (accumulator amount debtRepaid currentDebt : Amount) (bought : Nat)
    (v : Vault) : Vault → VaultLiquidation → Prop
  | exhausted (enough : v.collateral.toNat ≤ bought) :
      Exchanged accumulator amount debtRepaid currentDebt bought v .empty
        ⟨amount, v.collateral, currentDebt.monus debtRepaid⟩
  | reduced {w : Vault} {released normalized : Amount} (exact : released.toNat = bought)
      (less : bought < v.collateral.toNat)
      (collateral : w.collateral.toNat + released.toNat = v.collateral.toNat)
      (share : normalize debtRepaid accumulator = .ok normalized)
      (debt : w.normalizedDebt.toNat + min normalized.toNat v.normalizedDebt.toNat =
        v.normalizedDebt.toNat) :
      Exchanged accumulator amount debtRepaid currentDebt bought v w ⟨amount, released, .zero⟩

/-- One vault was liquidated with an amount that is within its terms. -/
structure Deal (e : Engine) (liquidator : Address) (id : VaultId) (amount price accumulator : Amount)
    (v w : Vault) (terms : Opportunity) (outcome : VaultLiquidation) (e' : Engine) : Prop where
  revised : Revised e id v w e'
  surplus : e'.state.surplus = e.state.surplus
  quoted : e.opportunity id v liquidator price accumulator = .ok terms
  nonzero : amount ≠ .zero
  most : amount ≤ terms.maxRepay
  outside : ¬ (terms.threshold ≠ .zero ∧ terms.threshold < amount ∧ amount < terms.maxRepay)
  exchanged : ∃ (bought : Nat) (debtRepaid : Amount),
    Wide.checkedDiv (amount.toNat * ratioOne * e.state.collateralUnit.toNat)
      (terms.discount.toNat * price.toNat) = .ok bought ∧
    mulDiv amount.toNat e.state.params.liquidationSurcharge.toNat ratioOne = .ok debtRepaid ∧
    Exchanged accumulator amount debtRepaid terms.currentDebt bought v w outcome

/-- A liquidation of one vault is a deal. -/
theorem liquidateVault_deal {ctx : Context} {id : VaultId} {amount price accumulator : Amount}
    {outcome : VaultLiquidation} {e e' : Engine}
    (h : liquidateVault ctx id amount price accumulator e = .ok outcome e') :
    ∃ v w terms, Deal e ctx.caller id amount price accumulator v w terms outcome e' := by
  simp only [liquidateVault, bind_eq_ok, requireAmount_eq_ok, findVault_eq_ok, Transact.get_eq_ok,
    Transact.liftM_eq_ok, requireWithin_eq_ok, Wide.checkedMul_eq_ok] at h
  obtain ⟨_, _, ⟨nonzero, rfl⟩, v, _, ⟨found, rfl⟩, _, _, ⟨rfl, rfl⟩, terms, _, ⟨hterms, rfl⟩, _,
    _, ⟨⟨most, outside⟩, rfl⟩, _, _, ⟨⟨_, rfl⟩, rfl⟩, _, _, ⟨⟨_, rfl⟩, rfl⟩, _, _,
    ⟨⟨_, rfl⟩, rfl⟩, bought, _, ⟨hbought, rfl⟩, debtRepaid, _, ⟨hrepaid, rfl⟩, h⟩ := h
  split at h
  · rename_i enough
    simp only [bind_eq_ok, emit_eq_ok, Transact.pure_eq_ok] at h
    obtain ⟨_, e₁, exhausted, _, _, rfl, rfl, rfl⟩ := h
    obtain ⟨revised, surplus, rfl⟩ := exhaustVault_eq_ok found exhausted
    exact ⟨v, .empty, terms, ⟨revised.found, revised.registry, revised.total, revised.frame⟩,
      surplus, hterms, nonzero, most, outside, bought, debtRepaid, hbought, hrepaid,
      .exhausted enough⟩
  · rename_i less
    simp only [bind_eq_ok, Transact.liftM_eq_ok, narrow_eq_ok, emit_eq_ok,
      Transact.pure_eq_ok] at h
    obtain ⟨released, _, ⟨hreleased, rfl⟩, _, e₁, reduced, _, _, rfl, rfl, rfl⟩ := h
    obtain ⟨w, normalized, revised, surplus, collateral, share, debt, rfl⟩ :=
      reduceVault_eq_ok found reduced
    exact ⟨v, w, terms, ⟨revised.found, revised.registry, revised.total, revised.frame⟩, surplus,
      hterms, nonzero, most, outside, bought, debtRepaid, hbought, hrepaid,
      .reduced hreleased (Nat.lt_of_not_le less) collateral share debt⟩

/-- How a liquidation left a vault: empty, with what was not repaid as a loss; or with collateral,
less debt, and no loss. -/
inductive Liquidated (accumulator debtRepaid : Amount) (v w : Vault) :
    VaultLiquidation → Prop
  | exhausted {outcome : VaultLiquidation} (currentDebt : Amount) (empty : w = .empty)
      (released : outcome.collateralReleased = v.collateral)
      (debt : debtOf v.normalizedDebt accumulator = .ok currentDebt)
      (loss : outcome.badDebt = currentDebt.monus debtRepaid) :
      Liquidated accumulator debtRepaid v w outcome
  | reduced {outcome : VaultLiquidation} (change : Amount) (kept : w.collateral ≠ .zero)
      (released : w.collateral.toNat + outcome.collateralReleased.toNat = v.collateral.toNat)
      (debt : w.normalizedDebt.toNat + change.toNat = v.normalizedDebt.toNat)
      (worth : change.toNat * accumulator.toNat ≤ debtRepaid.toNat * accumulatorOne)
      (loss : outcome.badDebt = .zero) :
      Liquidated accumulator debtRepaid v w outcome

namespace Liquidated

variable {accumulator debtRepaid : Amount} {v w : Vault} {outcome : VaultLiquidation}

/-- In both ways the collateral that left the vault was released. -/
theorem released_eq (h : Liquidated accumulator debtRepaid v w outcome) :
    w.collateral.toNat + outcome.collateralReleased.toNat = v.collateral.toNat := by
  cases h with
  | exhausted _ empty released =>
    rw [empty, released]
    exact Nat.zero_add _
  | reduced _ _ released => exact released

/-- In both ways the debt did not go up. -/
theorem debt_le (h : Liquidated accumulator debtRepaid v w outcome) :
    w.normalizedDebt ≤ v.normalizedDebt := by
  cases h with
  | exhausted _ empty =>
    rw [empty]
    exact Nat.zero_le _
  | reduced change _ _ debt => exact Nat.le_of_add_right_le (Nat.le_of_eq debt)

end Liquidated

/-- What was bought of a vault with collateral left something, and what it lost of its debt is worth
at most what was repaid. -/
theorem Exchanged.liquidated {accumulator amount debtRepaid currentDebt : Amount} {bought : Nat}
    {v w : Vault} {outcome : VaultLiquidation}
    (debt : debtOf v.normalizedDebt accumulator = .ok currentDebt)
    (h : Exchanged accumulator amount debtRepaid currentDebt bought v w outcome) :
    Liquidated accumulator debtRepaid v w outcome := by
  cases h with
  | exhausted => exact .exhausted currentDebt rfl rfl debt rfl
  | @reduced _ _ normalized exact less collateral share left =>
    have worth := (mulDiv_bounds share).1
    refine .reduced (min normalized v.normalizedDebt) ?_ collateral ?_ ?_ rfl
    · rw [Amount.ne_zero_iff]
      omega
    · rwa [Amount.toNat_min]
    · rw [Amount.toNat_min]
      exact Nat.le_trans (Nat.mul_le_mul_right _ (Nat.min_le_left _ _)) worth

/-- A vault that was liquidated was unhealthy. -/
theorem unhealthy_of_liquidateVault {ctx : Context} {id : VaultId}
    {amount price accumulator : Amount} {outcome : VaultLiquidation} {e e' : Engine} {v : Vault}
    (h : liquidateVault ctx id amount price accumulator e = .ok outcome e')
    (found : e.vault? id = some v) :
    ∃ health, healthAt e.state v price accumulator = .ok health ∧ ¬ isSolvent health := by
  obtain ⟨_, _, _, deal⟩ := liquidateVault_deal h
  cases found.symm.trans deal.revised.found
  exact unhealthy_of_opportunity deal.quoted

/-- One vault was liquidated: it owed something, it was changed in one of the two ways, and the
amount was repaid, of which the surcharge leaves `debtRepaid` for the debt. -/
theorem liquidateVault_eq_ok {ctx : Context} {id : VaultId} {amount price accumulator : Amount}
    {outcome : VaultLiquidation} {e e' : Engine}
    (h : liquidateVault ctx id amount price accumulator e = .ok outcome e') :
    ∃ v w debtRepaid, Revised e id v w e' ∧ v ≠ .empty ∧ e'.state.surplus = e.state.surplus ∧
      outcome.repaid = amount ∧
      mulDiv amount.toNat e.state.params.liquidationSurcharge.toNat ratioOne = .ok debtRepaid ∧
      Liquidated accumulator debtRepaid v w outcome := by
  obtain ⟨v, w, terms, deal⟩ := liquidateVault_deal h
  obtain ⟨bought, debtRepaid, _, repaid, exchanged⟩ := deal.exchanged
  have all : outcome.repaid = amount := by cases exchanged <;> rfl
  exact ⟨v, w, debtRepaid, deal.revised, ne_empty_of_opportunity deal.quoted, deal.surplus, all,
    repaid, exchanged.liquidated (opportunity_eq_ok deal.quoted).1⟩

/-! ## Skipped vaults -/

/-- On an exact engine, a liquidation that fails leaves no trace: the vault was refused by its
verdict, before anything was done. -/
theorem liquidateVault_tracelessAt {ctx : Context} {id : VaultId}
    {amount price accumulator : Amount} {e : Engine} (h : e.Exact) :
    Transact.TracelessAt e (liquidateVault ctx id amount price accumulator) := by
  intro f e' failed
  rw [liquidateVault_eq h] at failed
  cases judged : e.verdict ctx id amount price accumulator with
  | ok r =>
    rw [judged] at failed
    cases failed
  | error refused =>
    rw [judged] at failed
    cases failed
    rfl

/-! ## A whole call -/

/-- The next vault of a call on an exact engine was liquidated and reported, or it was skipped and
nothing happened. -/
theorem liquidateNext_eq_ok {ctx : Context} {report report' : LiquidationReport} {id : VaultId}
    {amount : Amount} {e e' : Engine} (exact : e.Exact)
    (h : liquidateNext ctx report (id, amount) e = .ok report' e') :
    (∃ outcome, liquidateVault ctx id amount report.price report.accumulator e = .ok outcome e' ∧
      report'.stablecoinToReceive.toNat =
        report.stablecoinToReceive.toNat + outcome.repaid.toNat ∧
      report'.collateralToGive.toNat =
        report.collateralToGive.toNat + outcome.collateralReleased.toNat ∧
      report'.badDebt.toNat = report.badDebt.toNat + outcome.badDebt.toNat ∧
      report' = { report with
        stablecoinToReceive := report'.stablecoinToReceive
        collateralToGive := report'.collateralToGive
        badDebt := report'.badDebt
        liquidated := report.liquidated ++ [id] }) ∨
    ∃ cause, liquidateVault ctx id amount report.price report.accumulator e =
        .error (.rejected cause) e ∧
      e' = e ∧ report' = { report with skipped := report.skipped ++ [(id, cause)] } := by
  unfold liquidateNext at h
  obtain ⟨result, e₁, tried, noted⟩ := bind_eq_ok.mp h
  rcases Transact.attempt_eq_ok.mp tried with ⟨outcome, rfl, done⟩ | ⟨cause, rfl, refused⟩
  · simp only [bind_eq_ok, Transact.liftM_eq_ok, Amount.add_eq_ok, Transact.pure_eq_ok] at noted
    obtain ⟨received, _, ⟨hreceived, rfl⟩, given, _, ⟨hgiven, rfl⟩, lost, _, ⟨hlost, rfl⟩, rfl,
      rfl⟩ := noted
    exact .inl ⟨outcome, done, hreceived, hgiven, hlost, rfl⟩
  · have same := liquidateVault_tracelessAt exact _ _ refused
    subst same
    obtain ⟨rfl, rfl⟩ := Transact.pure_eq_ok.mp noted
    exact .inr ⟨cause, refused, rfl, rfl⟩

/-- The end of a liquidation: the protocol's share and the losses are booked. -/
def conclude (report : LiquidationReport) : Transact Engine LiquidationReport := do
  Transact.require (report.liquidated ≠ []) .noLiquidatableVaults
  let share ← Wide.sub ratioOne (← getState).params.liquidationSurcharge.toNat
  addSurplus (← mulDiv report.stablecoinToReceive.toNat share ratioOne)
  if report.badDebt ≠ .zero then
    let badDebt ← (← getState).badDebt.add report.badDebt
    modifyState fun s => { s with badDebt }
  return report

/-- What the end of a liquidation changes: the surplus and the losses alone. -/
theorem conclude_eq_ok {report report' : LiquidationReport} {m e : Engine} :
    conclude report m = .ok report' e ↔ report = report' ∧
      ∃ share surplus badDebt : Amount, report.liquidated ≠ [] ∧
        m.state.params.liquidationSurcharge.toNat ≤ ratioOne ∧
        mulDiv report.stablecoinToReceive.toNat
          (ratioOne - m.state.params.liquidationSurcharge.toNat) ratioOne = .ok share ∧
        surplus.toNat = m.state.surplus.toNat + share.toNat ∧
        badDebt.toNat = m.state.badDebt.toNat + report.badDebt.toNat ∧
        e = { m with state := { m.state with surplus, badDebt } } := by
  simp only [conclude, bind_eq_ok, Transact.require_eq_ok, Transact.liftM_eq_ok, getState_eq_ok,
    Wide.sub_eq_ok, addSurplus_eq_ok]
  by_cases lost : report.badDebt = .zero
  · rw [if_neg (not_not_intro lost)]
    simp only [Transact.pure_eq_ok]
    constructor
    · rintro ⟨_, _, ⟨some', rfl⟩, _, _, ⟨rfl, rfl⟩, _, _, ⟨⟨most, rfl⟩, rfl⟩, share, _,
        ⟨hshare, rfl⟩, _, _, ⟨surplus, hsurplus, rfl⟩, rfl, rfl⟩
      refine ⟨rfl, share, surplus, m.state.badDebt, some', most, hshare, hsurplus, ?_, rfl⟩
      rw [lost, Amount.toNat_zero, Nat.add_zero]
    · rintro ⟨rfl, share, surplus, badDebt, some', most, hshare, hsurplus, hbad, rfl⟩
      rw [lost, Amount.toNat_zero, Nat.add_zero] at hbad
      cases Amount.ext hbad
      exact ⟨(), _, ⟨some', rfl⟩, _, _, ⟨rfl, rfl⟩, _, _, ⟨⟨most, rfl⟩, rfl⟩, share, _,
        ⟨hshare, rfl⟩, (), _, ⟨surplus, hsurplus, rfl⟩, rfl, rfl⟩
  · rw [if_pos lost]
    simp only [bind_eq_ok, getState_eq_ok, Transact.liftM_eq_ok, Amount.add_eq_ok,
      modifyState_eq_ok, Transact.pure_eq_ok]
    constructor
    · rintro ⟨_, _, ⟨some', rfl⟩, _, _, ⟨rfl, rfl⟩, _, _, ⟨⟨most, rfl⟩, rfl⟩, share, _,
        ⟨hshare, rfl⟩, _, _, ⟨surplus, hsurplus, rfl⟩, _, _, ⟨rfl, rfl⟩, badDebt, _, ⟨hbad, rfl⟩,
        _, _, rfl, rfl, rfl⟩
      exact ⟨rfl, share, surplus, badDebt, some', most, hshare, hsurplus, hbad, rfl⟩
    · rintro ⟨rfl, share, surplus, badDebt, some', most, hshare, hsurplus, hbad, rfl⟩
      exact ⟨(), _, ⟨some', rfl⟩, _, _, ⟨rfl, rfl⟩, _, _, ⟨⟨most, rfl⟩, rfl⟩, share, _,
        ⟨hshare, rfl⟩, (), _, ⟨surplus, hsurplus, rfl⟩, _, _, ⟨rfl, rfl⟩, badDebt, _,
        ⟨hbad, rfl⟩, (), _, rfl, rfl, rfl⟩

/-- A whole liquidation: checks, accrual, the vaults one by one, the protocol's share and the
losses. -/
theorem liquidateAll_eq_ok_iff {ctx : Context} {ids : List VaultId} {amounts : List Amount}
    {report : LiquidationReport} {e e' : Engine} :
    liquidateAll ctx ids amounts e = .ok report e' ↔
      e.state.paused = false ∧ (ids.length = amounts.length ∧ ids ≠ []) ∧
      ids.length ≤ maxLiquidationBatch ∧ ∃ accumulator price m m',
        accrue ctx.now e = .ok accumulator m ∧ ctx.price = .ok price ∧
        (ids.zip amounts).foldlM (liquidateNext ctx)
          ⟨price, accumulator, .zero, .zero, .zero, [], []⟩ m = .ok report m' ∧
        conclude report m' = .ok report e' := by
  have whole : liquidateAll ctx ids amounts = (do
      requireUnpaused
      Transact.require (ids.length = amounts.length ∧ ids ≠ [])
        (.incompatibleLengths ids.length amounts.length)
      Transact.require (ids.length ≤ maxLiquidationBatch)
        (.batchTooLarge ids.length maxLiquidationBatch)
      let accumulator ← accrue ctx.now
      let price ← ctx.price
      let report ← (ids.zip amounts).foldlM (liquidateNext ctx)
        ⟨price, accumulator, .zero, .zero, .zero, [], []⟩
      conclude report) := rfl
  rw [whole]
  simp only [bind_eq_ok, requireUnpaused_eq_ok, Transact.require_eq_ok, Transact.liftM_eq_ok]
  constructor
  · rintro ⟨_, _, ⟨running, rfl⟩, _, _, ⟨lengths, rfl⟩, _, _, ⟨few, rfl⟩, accumulator, m, accrued,
      price, _, ⟨hprice, rfl⟩, report', m', folded, concluded⟩
    cases (conclude_eq_ok.mp concluded).1
    exact ⟨running, lengths, few, accumulator, price, m, m', accrued, hprice, folded, concluded⟩
  · rintro ⟨running, lengths, few, accumulator, price, m, m', accrued, hprice, folded, concluded⟩
    exact ⟨(), _, ⟨running, rfl⟩, (), _, ⟨lengths, rfl⟩, (), _, ⟨few, rfl⟩, accumulator, m,
      accrued, price, _, ⟨hprice, rfl⟩, report, m', folded, concluded⟩

/-- What a whole liquidation did. -/
theorem liquidateAll_eq_ok {ctx : Context} {ids : List VaultId} {amounts : List Amount}
    {report : LiquidationReport} {e e' : Engine}
    (h : liquidateAll ctx ids amounts e = .ok report e') :
    ∃ (accumulator price : Amount) (m m' : Engine) (share surplus badDebt : Amount),
      Accrued e ctx.now accumulator m ∧ ctx.price = .ok price ∧
      (ids.zip amounts).foldlM (liquidateNext ctx)
        ⟨price, accumulator, .zero, .zero, .zero, [], []⟩ m = .ok report m' ∧
      report.liquidated ≠ [] ∧ m'.state.params.liquidationSurcharge.toNat ≤ ratioOne ∧
      mulDiv report.stablecoinToReceive.toNat
        (ratioOne - m'.state.params.liquidationSurcharge.toNat) ratioOne = .ok share ∧
      surplus.toNat = m'.state.surplus.toNat + share.toNat ∧
      badDebt.toNat = m'.state.badDebt.toNat + report.badDebt.toNat ∧
      e' = { m' with state := { m'.state with surplus, badDebt } } := by
  obtain ⟨_, _, _, accumulator, price, m, m', accrued, hprice, folded, concluded⟩ :=
    liquidateAll_eq_ok_iff.mp h
  obtain ⟨_, share, surplus, badDebt, rest⟩ := conclude_eq_ok.mp concluded
  exact ⟨accumulator, price, m, m', share, surplus, badDebt, accrue_eq_ok accrued, hprice, folded,
    rest⟩

/-! ## What a liquidation keeps -/

/-- A step of a liquidation leaves the frame, whether it liquidates or skips. -/
theorem frame_liquidatedNext {ctx : Context} {report report' : LiquidationReport}
    {entry : VaultId × Amount} {e e' : Engine} (h : e.Exact)
    (next : liquidateNext ctx report entry e = .ok report' e') : e'.frame = e.frame := by
  rcases liquidateNext_eq_ok h next with ⟨outcome, done, _⟩ | ⟨_, _, rfl, _⟩
  · obtain ⟨v, w, _, revised, _⟩ := liquidateVault_eq_ok done
    exact revised.frame
  · rfl

/-- One entry of a round keeps the total of debt exact, whether it was liquidated or skipped. -/
theorem Exact.liquidatedNext {ctx : Context} {report report' : LiquidationReport}
    {entry : VaultId × Amount} {e e' : Engine} (h : e.Exact)
    (next : liquidateNext ctx report entry e = .ok report' e') : e'.Exact := by
  rcases liquidateNext_eq_ok h next with ⟨outcome, done, _⟩ | ⟨_, _, rfl, _⟩
  · obtain ⟨v, w, _, revised, _⟩ := liquidateVault_eq_ok done
    exact h.revised revised
  · exact h

/-- A whole round keeps the total of debt exact. -/
theorem Exact.liquidatedAll {ctx : Context} {ids : List VaultId} {amounts : List Amount}
    {report : LiquidationReport} {e e' : Engine} (h : e.Exact)
    (all : liquidateAll ctx ids amounts e = .ok report e') : e'.Exact := by
  obtain ⟨_, _, m, m', _, _, _, booked, _, folded, _, _, _, _, _, rfl⟩ := liquidateAll_eq_ok all
  have exact : m'.Exact := Transact.foldlM_induction (P := fun _ _ e => e.Exact)
    (fun _ _ _ _ _ _ h next => h.liquidatedNext next) (h.accrued booked) folded
  exact exact.congr rfl rfl rfl

end CollateralDebt.Engine
