import CollateralDebt.Engine.Liquidation
import CollateralDebt.Proofs.Engine.Exact

/-!
# Verdicts

To liquidate a vault is to judge it and then to do what was found. The judgement is the *verdict*:
what the vault is left with, the debt that goes off the total, and what is logged. It is read off
the vault and off the frame of the engine, so nothing that a liquidation does to one vault is seen
by the verdict on another. On an exact engine, doing what a verdict says never fails.

## What is proved

- `liquidateVault_eq`: liquidating a vault is doing what its verdict says;
- `verdict_congr`, `verdict_enact_of_ne`: what a verdict depends on;
- `EngineState.enact_comm`: verdicts on different vaults can be done in any order.
-/

namespace CollateralDebt

/-- What is to be done about a vault. -/
structure Verdict where
  /-- What is left in the vault. -/
  vault : Vault
  /-- The normalized debt that goes off the vault and off the total. -/
  change : Amount
  outcome : VaultLiquidation
  events : List Event

namespace Verdict

/-- The event that closes a liquidation. -/
def closing (ctx : Context) (id : VaultId) (outcome : VaultLiquidation) : Event :=
  .vaultLiquidated id ctx.caller outcome.repaid outcome.collateralReleased outcome.badDebt ctx.now

/-- The vault is to be exhausted. -/
def exhausted (ctx : Context) (id : VaultId) (v : Vault)
    (amount debtRepaid currentDebt : Amount) : Verdict :=
  let outcome : VaultLiquidation := ⟨amount, v.collateral, currentDebt.monus debtRepaid⟩
  let cleared : List Event :=
    if v.normalizedDebt ≠ .zero then [.internalDebtUpdated id v.normalizedDebt false ctx.now]
    else []
  { vault := .empty
    change := v.normalizedDebt
    outcome
    events := cleared ++
      [.collateralAmountUpdated id v.collateral false ctx.now, closing ctx id outcome] }

/-- The vault is to be reduced. -/
def reduced (ctx : Context) (id : VaultId) (v : Vault)
    (amount debtRepaid released accumulator : Amount) : Outcome Verdict := do
  let change := min (← normalize debtRepaid accumulator) v.normalizedDebt
  let collateral ← v.collateral.uncheckedMinus released
  let normalizedDebt ← v.normalizedDebt.uncheckedMinus change
  let outcome : VaultLiquidation := ⟨amount, released, .zero⟩
  return {
    vault := { collateral, normalizedDebt }
    change
    outcome
    events := [.collateralAmountUpdated id released false ctx.now,
      .internalDebtUpdated id change false ctx.now, closing ctx id outcome] }

end Verdict

/-- The state after a verdict was done. -/
def EngineState.enact (s : EngineState) (id : VaultId) (r : Verdict) : EngineState :=
  { s with
    totalNormalizedDebt := s.totalNormalizedDebt.monus r.change
    registry := s.registry.setVault id r.vault }

namespace Engine

open Transact (bind_eq_ok)

/-! ## Judging -/

/-- The verdict on a vault, at terms that the amount has to be within. -/
def judge (e : Engine) (ctx : Context) (id : VaultId) (v : Vault)
    (amount price accumulator : Amount) : Outcome Verdict := do
  let terms ← e.opportunity id v ctx.caller price accumulator
  Outcome.require (amount ≤ terms.maxRepay) (.tooHighAmount amount terms.maxRepay)
  Outcome.require
    (¬ (terms.threshold ≠ .zero ∧ terms.threshold < amount ∧ amount < terms.maxRepay))
    (.dustyLeftoverAmount id)
  let numerator ← Wide.checkedMul (← Wide.checkedMul amount.toNat ratioOne)
    e.state.collateralUnit.toNat
  let bought ← Wide.checkedDiv numerator
    (← Wide.checkedMul terms.discount.toNat price.toNat)
  let debtRepaid ← mulDiv amount.toNat e.state.params.liquidationSurcharge.toNat ratioOne
  if v.collateral.toNat ≤ bought then
    return .exhausted ctx id v amount debtRepaid terms.currentDebt
  else
    let released ← narrow bought
    Verdict.reduced ctx id v amount debtRepaid released accumulator

/-- The verdict on the vault with a number. -/
def verdict (e : Engine) (ctx : Context) (id : VaultId) (amount price accumulator : Amount) :
    Outcome Verdict := do
  Outcome.require (amount ≠ .zero) (.zeroAmount amount)
  let v ← e.state.registry.vault id
  e.judge ctx id v amount price accumulator

/-- A verdict depends on the frame of the engine and on the vault. -/
theorem verdict_congr {e e' : Engine} {ctx : Context} {id : VaultId}
    {amount price accumulator : Amount} (frame : e'.frame = e.frame)
    (vault : e'.vault? id = e.vault? id) :
    e'.verdict ctx id amount price accumulator = e.verdict ctx id amount price accumulator := by
  have framed (e : Engine) (v : Vault) : e.judge ctx id v amount price accumulator =
      (⟨e.frame.1, e.frame.2, []⟩ : Engine).judge ctx id v amount price accumulator := rfl
  have found : e'.state.registry.vault id = e.state.registry.vault id :=
    congrArg (Outcome.ofOption _) vault
  unfold verdict
  rw [found]
  simp only [framed e', framed e, frame]

/-! ## Doing what was found -/

/-- The engine after a verdict was done. -/
def enact (e : Engine) (id : VaultId) (r : Verdict) : Engine :=
  { e with state := e.state.enact id r, log := e.log ++ r.events }

/-- Do what a verdict says; nothing if the vault was refused. -/
def execute (id : VaultId) (verdict : Outcome Verdict) :
    Transact Engine VaultLiquidation := fun e =>
  match verdict with
  | .ok r => .ok r.outcome (e.enact id r)
  | .error f => .error f e

/-- A check comes in front of what is found after it. -/
theorem execute_bind {α : Type} {id : VaultId} {x : Outcome α}
    {f : α → Transact Engine VaultLiquidation} {g : α → Outcome Verdict} {e : Engine}
    (h : ∀ a, x = .ok a → f a e = execute id (g a) e) :
    ((liftM x : Transact Engine α) >>= f) e = execute id (x >>= g) e := by
  cases x with
  | ok a => exact h a rfl
  | error failure => rfl

/-- A check in front of a verdict is the same check in front of its execution. -/
theorem execute_require {id : VaultId} {p : Prop} [Decidable p] {cause : Error}
    {f : Unit → Transact Engine VaultLiquidation} {g : Unit → Outcome Verdict} {e : Engine}
    (h : p → f () e = execute id (g ()) e) :
    (Transact.require p cause >>= f) e = execute id (Outcome.require p cause >>= g) e := by
  unfold Transact.require Outcome.require
  by_cases holds : p
  · rw [if_pos holds, if_pos holds]
    exact h holds
  · rw [if_neg holds, if_neg holds]
    rfl

section Found

variable {ctx : Context} {id : VaultId} {v : Vault} {amount debtRepaid accumulator : Amount}
  {e : Engine}

/-- Exhausting a vault never fails. -/
theorem execute_exhausted {currentDebt : Amount} (found : e.vault? id = some v)
    (covered : v.normalizedDebt ≤ e.state.totalNormalizedDebt) :
    (do
      let outcome ← exhaustVault ctx.now id v amount debtRepaid currentDebt
      emit (Verdict.closing ctx id outcome)
      return outcome) e =
      execute id (.ok (.exhausted ctx id v amount debtRepaid currentDebt)) e := by
  have lowered : e.state.totalNormalizedDebt.minus v.normalizedDebt =
      .ok (e.state.totalNormalizedDebt.monus v.normalizedDebt) :=
    Amount.minus_eq_ok.mpr (Nat.sub_add_cancel covered)
  have present : e.state.registry.vault id = .ok v := Registry.vault_eq_ok.mpr found
  have exhausts : exhaustVault ctx.now id v amount debtRepaid currentDebt e =
      .ok ⟨amount, v.collateral, currentDebt.monus debtRepaid⟩
        { e with
          state := e.state.enact id (.exhausted ctx id v amount debtRepaid currentDebt)
          log := EventLog.emit
            (if v.normalizedDebt ≠ .zero then
              e.log.emit (.internalDebtUpdated id v.normalizedDebt false ctx.now) else e.log)
            (.collateralAmountUpdated id v.collateral false ctx.now) } := by
    unfold exhaustVault
    show ((liftM (e.state.totalNormalizedDebt.minus v.normalizedDebt) : Transact Engine _) >>= _)
      e = _
    rw [lowered]
    show ((liftM (e.state.registry.vault id) : Transact Engine _) >>= _) { e with state := _ } = _
    rw [present]
    by_cases owes : v.normalizedDebt ≠ .zero
    · rw [if_pos owes, if_pos owes]
      rfl
    · rw [if_neg owes, if_neg owes]
      rfl
  rw [Transact.bind_of_ok exhausts]
  show EStateM.Result.ok _ _ = .ok _ (e.enact id _)
  unfold enact Verdict.exhausted
  by_cases owes : v.normalizedDebt ≠ .zero
  · simp only [if_pos owes, EventLog.emit, List.append_assoc]
    rfl
  · simp only [if_neg owes, EventLog.emit, List.append_assoc]
    rfl

/-- Reducing a vault does what the verdict says: no part of it can fail once the vault is found and
the total covers its debt. -/
theorem execute_reduced {released : Amount} (found : e.vault? id = some v)
    (covered : v.normalizedDebt ≤ e.state.totalNormalizedDebt) :
    (do
      let outcome ← reduceVault ctx.now id v amount debtRepaid released accumulator
      emit (Verdict.closing ctx id outcome)
      return outcome) e =
      execute id (Verdict.reduced ctx id v amount debtRepaid released accumulator) e := by
  have present : e.state.registry.vault id = .ok v := Registry.vault_eq_ok.mpr found
  unfold reduceVault Verdict.reduced
  simp only [bind_assoc]
  apply execute_bind
  intro normalized _
  show ((liftM (e.state.registry.vault id) : Transact Engine _) >>= _) e = _
  rw [present]
  apply execute_bind (x := v.collateral.uncheckedMinus released)
  intro collateral _
  apply execute_bind
  intro normalizedDebt _
  have lowered : e.state.totalNormalizedDebt.minus (min normalized v.normalizedDebt) =
      .ok (e.state.totalNormalizedDebt.monus (min normalized v.normalizedDebt)) := by
    apply Amount.minus_eq_ok.mpr
    rw [Amount.le_iff] at covered
    simp only [Amount.toNat_monus, Amount.toNat_min]
    omega
  show ((liftM (e.state.totalNormalizedDebt.minus (min normalized v.normalizedDebt)) :
    Transact Engine _) >>= _) { e with state := _ } = _
  rw [lowered]
  show EStateM.Result.ok _ _ = .ok _ (e.enact id _)
  unfold enact
  simp only [EventLog.emit, List.append_assoc]
  rfl

end Found

/-- On an exact engine, liquidating a vault is doing what its verdict says. -/
theorem liquidateVault_eq {ctx : Context} {id : VaultId} {amount price accumulator : Amount}
    {e : Engine} (h : e.Exact) :
    liquidateVault ctx id amount price accumulator e =
      execute id (e.verdict ctx id amount price accumulator) e := by
  unfold liquidateVault verdict judge
  apply execute_require
  intro _
  refine execute_bind (x := e.state.registry.vault id) fun v found => ?_
  have found := Registry.vault_eq_ok.mp found
  have covered := h.covers found
  show ((liftM (e.opportunity id v ctx.caller price accumulator) : Transact Engine _) >>= _) e = _
  apply execute_bind
  intro terms _
  unfold requireWithin
  simp only [bind_assoc]
  apply execute_require
  intro _
  apply execute_require
  intro _
  apply execute_bind
  intro _ _
  apply execute_bind
  intro _ _
  apply execute_bind
  intro _ _
  apply execute_bind
  intro bought _
  apply execute_bind
  intro debtRepaid _
  split
  · exact execute_exhausted found covered
  · apply execute_bind
    intro released _
    exact execute_reduced found covered

/-! ## Doing several -/

variable {e : Engine} {ctx : Context} {id i : VaultId} {amount price accumulator : Amount}
  {r : Verdict}

/-- A verdict sets the vault that it is on, and no other. -/
theorem vault?_enact (e : Engine) (id : VaultId) (r : Verdict) (i : VaultId) :
    (e.enact id r).vault? i = if i = id then some r.vault else e.vault? i :=
  Registry.vault?_setVault e.state.registry id i r.vault

/-- A verdict does not see what was done to other vaults. -/
theorem verdict_enact_of_ne (h : i ≠ id) (r : Verdict) :
    (e.enact id r).verdict ctx i amount price accumulator =
      e.verdict ctx i amount price accumulator := by
  apply verdict_congr
  · rfl
  · rw [vault?_enact, if_neg h]

end Engine

/-- Verdicts on different vaults can be done in any order. -/
theorem EngineState.enact_comm (s : EngineState) {i j : VaultId} (h : i ≠ j) (q r : Verdict) :
    (s.enact i q).enact j r = (s.enact j r).enact i q := by
  unfold enact
  congr 1
  · exact Amount.ext (Nat.sub_right_comm ..)
  · exact Registry.setVault_comm s.registry h q.vault r.vault

end CollateralDebt
