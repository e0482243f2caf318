import Mathlib.Logic.Relation
import CollateralDebt.Proofs.Engine.Administration
import CollateralDebt.Proofs.Engine.Batch

/-!
# The steps that engines go by

Whatever a call does to an engine, it does by steps of a few kinds, and each kind writes at most one
event. `Step` lists them, and a `Trace` is any number of them. Calls write to an engine in other
places too, but these writes amount to traces: to close a vault that owes something is to take its
debt off and then to remove it.

A trace is `tidy` if none of its steps leaves dust in a vault that it takes debt from or gives debt
to, and none raises the threshold of dust. All calls but liquidations and the setter of the
threshold are.

## What is proved

- `Step`, `Trace`: what can happen to an engine;
- `Step.grown`, `Step.accruedAt_le`: the accumulator only grows, and its time never goes back;
- `trace_mintVault` and its like: what the functions of a batch do is a trace.
-/

namespace CollateralDebt

/-- The parameters with one of them set. -/
def Parameters.set (p : Parameters) (value : UInt64) : Parameter → Parameters
  | .collateralFactor => { p with collateralFactor := value }
  | .targetHealthFactor => { p with targetHealthFactor := value }
  | .borrowFee => { p with borrowFee := value }
  | .repayFee => { p with repayFee := value }
  | .interestRate => { p with interestRate := value }
  | .liquidationSurcharge => { p with liquidationSurcharge := value }
  | .maxLiquidationDiscount => { p with maxLiquidationDiscount := value }

/-- An amount that goes up or down. -/
def Amount.shift (a : Amount) (increase : Bool) (change : Amount) : Outcome Amount :=
  if increase then a.add change else a.minus change

/-- Events that tell of something which other events, or none, have put on the books. -/
def Event.isNote (event : Event) : Bool :=
  event.kind ∈ [.debtTransferred, .vaultLiquidated, .accruedToTreasury, .oracleUpdated]

namespace Engine

open Transact (bind_eq_ok)

/-- The engine in another state, with one more event in its log. -/
def book (e : Engine) (s : EngineState) (event : Event) : Engine :=
  { e with state := s, log := e.log.emit event }

/-- One step of an engine. A new interest rate is set only when all interest up to now was
booked. -/
inductive Step (tidy : Prop) (now : Timestamp) (e : Engine) : Engine → Prop
  | created {owner : Address} {id : VaultId} {registry : Registry} (named : owner ≠ .zero)
      (minted : e.state.registry.mint owner = .ok (id, registry)) :
      Step tidy now e (e.book { e.state with registry } (.transfer .zero owner id now))
  | removed {owner : Address} {id : VaultId} {registry : Registry}
      (burnt : e.state.registry.burn id = .ok (owner, registry)) :
      Step tidy now e (e.book { e.state with registry } (.transfer owner .zero id now))
  | transferred {source recipient : Address} {id : VaultId}
      (owned : e.state.registry.ownerOf id = .ok source) (named : recipient ≠ .zero) :
      Step tidy now e (e.book
        { e.state with registry := e.state.registry.move source recipient id }
        (.transfer source recipient id now))
  | approved {owner account : Address} {id : VaultId}
      (owned : e.state.registry.ownerOf id = .ok owner) (other : account ≠ owner) :
      Step tidy now e (e.book { e.state with registry := e.state.registry.setApproved id account }
        (.approval owner account id now))
  | appointed {owner operator : Address} {approved : Bool} (other : operator ≠ owner)
      (named : operator ≠ .zero) :
      Step tidy now e (e.book
        { e.state with registry := e.state.registry.setOperator owner operator approved }
        (.approvalForAll owner operator approved now))
  | listed {account : Address} (named : account ≠ .zero) :
      Step tidy now e (e.book
        { e.state with registry := e.state.registry.toggleWhitelisted account }
        (.whitelistToggled account
          ((e.state.registry.toggleWhitelisted account).isWhitelisted account) now))
  | collateral {id : VaultId} {v : Vault} (increase : Bool) {amount collateral : Amount}
      (found : e.vault? id = some v) (moved : v.collateral.shift increase amount = .ok collateral) :
      Step tidy now e (e.book
        { e.state with registry := e.state.registry.setVault id { v with collateral } }
        (.collateralAmountUpdated id amount increase now))
  | debt {id : VaultId} {v : Vault} (increase : Bool) {change normalizedDebt total : Amount}
      (found : e.vault? id = some v)
      (moved : v.normalizedDebt.shift increase change = .ok normalizedDebt)
      (booked : e.state.totalNormalizedDebt.shift increase change = .ok total)
      (clean : tidy → ¬ isDusty normalizedDebt e.state.accumulator e.state.params.dust) :
      Step tidy now e (e.book
        { e.state with
          registry := e.state.registry.setVault id { v with normalizedDebt }
          totalNormalizedDebt := total }
        (.internalDebtUpdated id change increase now))
  | accrued {accumulator : Amount} {e' : Engine} (booked : Accrued e now accumulator e') :
      Step tidy now e e'
  | balanced (surplus badDebt : Amount) :
      Step tidy now e { e with state := { e.state with surplus, badDebt } }
  | parameter {parameter : Parameter} {value : UInt64}
      (booked : parameter = .interestRate → now ≤ e.state.accruedAt) :
      Step tidy now e (e.book { e.state with params := e.state.params.set value parameter }
        (.parameterUpdated parameter value now))
  | ceiling {debtCeiling : Amount} :
      Step tidy now e (e.book { e.state with params := { e.state.params with debtCeiling } }
        (.debtCeilingUpdated debtCeiling now))
  | dusts {dust dustLiquidation dustCollateral : Amount}
      (lower : tidy → dust ≤ e.state.params.dust) :
      Step tidy now e (e.book
        { e.state with params := { e.state.params with dust, dustLiquidation, dustCollateral } }
        (.dustUpdated dust dustLiquidation dustCollateral now))
  | boost {source : Option BoostSource} {thresholds : List Amount} {multipliers : List UInt64}
      {boostCurve : BoostCurve}
      (drawn : BoostCurve.ofPoints thresholds multipliers = .ok boostCurve) :
      Step tidy now e { (e.book
        { e.state with
          params := { e.state.params with baseBoost := boostCurve.baseBoost }
          boostCurve }
        (.boostUpdated source.isSome thresholds multipliers now)) with boostSource := source }
  | whitelisting :
      Step tidy now e (e.book
        { e.state with params := { e.state.params with
          whitelistingActivated := !e.state.params.whitelistingActivated } }
        (.whitelistToggled .zero (!e.state.params.whitelistingActivated) now))
  | paused :
      Step tidy now e (e.book { e.state with paused := !e.state.paused }
        (.pauseToggled (!e.state.paused) now))
  | passed {treasury : Address} :
      Step tidy now e (e.book { e.state with treasury } (.treasuryUpdated treasury now))
  | noted (event : Event) (note : event.isNote = true) : Step tidy now e (e.book e.state event)

/-- Any number of steps. -/
abbrev Trace (tidy : Prop) (now : Timestamp) : Engine → Engine → Prop :=
  Relation.ReflTransGen (Step tidy now)

variable {tidy : Prop} {now : Timestamp} {e e' : Engine}

/-- The accumulator only grows. -/
theorem Step.grown (step : Step tidy now e e') : e.state.accumulator ≤ e'.state.accumulator := by
  cases step with
  | accrued booked =>
    rw [booked.accumulator]
    exact booked.grown
  | _ => exact Nat.le_refl _

/-- The time up to which interest was booked never goes back. -/
theorem Step.accruedAt_le (step : Step tidy now e e') : e.state.accruedAt ≤ e'.state.accruedAt := by
  cases step with
  | accrued booked =>
    rw [booked.state]
    dsimp only
    split
    · exact UInt64.le_of_lt ‹_›
    · exact UInt64.le_refl _
  | _ => exact UInt64.le_refl _

/-! ## Vaults that come and go -/

/-- A new vault is one step. -/
theorem trace_mintVault {ctx : Context} {owner : Address} {id : VaultId}
    (h : mintVault ctx owner e = .ok id e') : Trace tidy ctx.now e e' := by
  obtain ⟨_, _, checked, _⟩ := bind_eq_ok.mp h
  obtain ⟨named, -⟩ := Transact.require_eq_ok.mp checked
  obtain ⟨registry, minted, rfl⟩ := mintVault_eq_ok h
  exact .single (.created named minted)

/-- A vault that is removed is one step. -/
theorem trace_burnVault {id : VaultId} {u : Unit} (h : burnVault now id e = .ok u e') :
    Trace tidy now e e' := by
  obtain ⟨owner, registry, burnt, rfl⟩ := burnVault_eq_ok h
  exact .single (.removed burnt)

/-! ## Debt -/

theorem trace_addSurplus {amount : Amount} {u : Unit} (h : addSurplus amount e = .ok u e') :
    Trace tidy now e e' := by
  obtain ⟨surplus, _, rfl⟩ := addSurplus_eq_ok.mp h
  exact .single (.balanced _ _)

/-- An accrual is one step, with all that it books. -/
theorem trace_accrue {accumulator : Amount} (h : accrue now e = .ok accumulator e') :
    Trace tidy now e e' := .single (.accrued (accrue_eq_ok h))

/-- Debt that is added is one step, and checked for dust. -/
theorem trace_addNormalizedDebt {id : VaultId} {change : Amount} {u : Unit}
    (h : addNormalizedDebt now id change e.state.accumulator e = .ok u e') :
    Trace tidy now e e' := by
  simp only [addNormalizedDebt, bind_eq_ok, getState_eq_ok, findVault_eq_ok, Transact.liftM_eq_ok,
    Transact.require_eq_ok, putVault_eq_ok, modifyState_eq_ok, emit_eq_ok] at h
  obtain ⟨_, _, ⟨rfl, rfl⟩, v, _, ⟨found, rfl⟩, debt, _, ⟨moved, rfl⟩, _, _, ⟨⟨_, clean⟩, rfl⟩,
    _, _, rfl, total, _, ⟨booked, rfl⟩, _, _, rfl, rfl⟩ := h
  exact .single (.debt true found moved booked fun _ => clean)

/-- Setting a vault to what it is changes nothing. -/
theorem setVault_same {id : VaultId} {v : Vault} (found : e.vault? id = some v) :
    e.state.registry.setVault id v = e.state.registry := by
  have same : e.state.registry.vaults.insert id v = e.state.registry.vaults :=
    Table.insert_same found
  unfold Registry.setVault
  rw [same]

/-- Debt that is taken off is one step, and checked for dust; taking off nothing is none. -/
theorem trace_removeNormalizedDebt {id : VaultId} {change : Amount} {u : Unit}
    (h : removeNormalizedDebt now id change e.state.accumulator e = .ok u e') :
    Trace tidy now e e' := by
  simp only [removeNormalizedDebt, bind_eq_ok, getState_eq_ok, findVault_eq_ok,
    Transact.liftM_eq_ok, Transact.require_eq_ok, putVault_eq_ok, modifyState_eq_ok] at h
  obtain ⟨_, _, ⟨rfl, rfl⟩, v, _, ⟨found, rfl⟩, debt, _, ⟨moved, rfl⟩, _, _, ⟨clean, rfl⟩,
    _, _, rfl, total, _, ⟨booked, rfl⟩, _, _, rfl, h⟩ := h
  split at h
  · rw [emit_eq_ok] at h
    subst h
    exact .single (.debt false found moved booked fun _ => clean)
  · -- nothing is removed, nothing is told, and nothing has changed
    rename_i nothing
    rw [Decidable.not_not] at nothing
    subst nothing
    obtain ⟨-, rfl⟩ := Transact.pure_eq_ok.mp h
    obtain rfl : debt = v.normalizedDebt := Amount.ext (Amount.minus_eq_ok.mp moved)
    obtain rfl : total = e.state.totalNormalizedDebt := Amount.ext (Amount.minus_eq_ok.mp booked)
    show Trace tidy now e { e with state := { e.state with
      registry := e.state.registry.setVault id v } }
    rw [setVault_same found]

/-- An increase of debt is the addition of what it comes to in units of the accumulator. -/
theorem trace_increaseDebt {id : VaultId} {amount : Amount} {u : Unit}
    (h : increaseDebt now id amount e.state.accumulator e = .ok u e') : Trace tidy now e e' := by
  obtain ⟨change, _, normalized, h⟩ := bind_eq_ok.mp h
  obtain ⟨-, rfl⟩ := Transact.liftM_eq_ok.mp normalized
  exact trace_addNormalizedDebt h

/-- A decrease of debt is the removal of what it comes to, or of all that is owed. -/
theorem trace_decreaseDebt {id : VaultId} {amount repaid : Amount}
    (h : decreaseDebt now id amount e.state.accumulator e = .ok repaid e') :
    Trace tidy now e e' := by
  simp only [decreaseDebt, bind_eq_ok, findVault_eq_ok, Transact.liftM_eq_ok] at h
  obtain ⟨v, _, ⟨found, rfl⟩, change, _, ⟨_, rfl⟩, h⟩ := h
  split at h
  · simp only [bind_eq_ok, Transact.liftM_eq_ok, Transact.pure_eq_ok] at h
    obtain ⟨_, _, ⟨_, rfl⟩, _, _, removed, _, rfl⟩ := h
    exact trace_removeNormalizedDebt removed
  · simp only [bind_eq_ok, Transact.pure_eq_ok] at h
    obtain ⟨_, _, removed, _, rfl⟩ := h
    exact trace_removeNormalizedDebt removed

/-- A fee only goes to the surplus. -/
theorem trace_chargeRepayFee {repaid charged : Amount}
    (h : chargeRepayFee repaid e = .ok charged e') : Trace tidy now e e' := by
  obtain ⟨_, surplus, _, rfl⟩ := chargeRepayFee_eq_ok h
  exact .single (.balanced _ _)

/-! ## Actions -/

theorem trace_addCollateral {id : VaultId} {amount : Amount} {u : Unit}
    (h : addCollateral now id amount e = .ok u e') : Trace tidy now e e' := by
  simp only [addCollateral, bind_eq_ok, requireAmount_eq_ok, findVault_eq_ok, Transact.liftM_eq_ok,
    putVault_eq_ok, emit_eq_ok] at h
  obtain ⟨_, _, ⟨_, rfl⟩, v, _, ⟨found, rfl⟩, collateral, _, ⟨moved, rfl⟩, _, _, rfl, rfl⟩ := h
  exact .single (.collateral true found moved)

theorem trace_removeCollateral {ctx : Context} {id : VaultId} {amount : Amount} {u : Unit}
    (h : removeCollateral ctx id amount e = .ok u e') : Trace tidy ctx.now e e' := by
  simp only [removeCollateral, bind_eq_ok, requireAmount_eq_ok, requireMayAct_eq_ok,
    findVault_eq_ok] at h
  obtain ⟨_, _, ⟨_, rfl⟩, _, _, ⟨_, rfl⟩, v, _, ⟨found, rfl⟩, h⟩ := h
  split at h
  · rename_i enough
    simp only [bind_eq_ok, putVault_eq_ok, emit_eq_ok] at h
    obtain ⟨_, _, rfl, rfl⟩ := h
    exact .single (.collateral false found (dif_pos enough))
  · cases h

/-- Borrowing is an addition of debt, then a fee. -/
theorem trace_borrow {ctx : Context} {id : VaultId} {amount paid : Amount}
    (h : borrow ctx id amount e.state.accumulator e = .ok paid e') : Trace tidy ctx.now e e' := by
  simp only [borrow, bind_eq_ok, requireAmount_eq_ok, requireMayAct_eq_ok, getState_eq_ok,
    Transact.liftM_eq_ok] at h
  obtain ⟨_, _, ⟨_, rfl⟩, _, _, ⟨_, rfl⟩, _, m, increased, _, _, ⟨rfl, rfl⟩, fee, _, ⟨_, rfl⟩, _, _,
    kept, _, rfl⟩ := h
  exact (trace_increaseDebt increased).trans (trace_addSurplus kept)

/-- Repaying is a removal of debt, then a fee. -/
theorem trace_repayDebt {id : VaultId} {amount charged : Amount}
    (h : repayDebt now id amount e.state.accumulator e = .ok charged e') :
    Trace tidy now e e' := by
  simp only [repayDebt, bind_eq_ok, requireAmount_eq_ok] at h
  obtain ⟨_, _, ⟨_, rfl⟩, repaid, m, decreased, charge⟩ := h
  exact (trace_decreaseDebt decreased).trans (trace_chargeRepayFee charge)

/-- No debt at all is not dust. -/
theorem not_isDusty_zero (accumulator dust : Amount) : ¬ isDusty .zero accumulator dust := by
  simp [isDusty]

/-- To remove a vault, it does not matter what is in it. -/
theorem burn_setVault (r : Registry) (id : VaultId) (v : Vault) :
    (r.setVault id v).burn id = r.burn id := by
  unfold Registry.burn Registry.setVault
  simp only [Table.erase_insert]
  rfl

/-- Closing a vault repays its debt and removes it. -/
theorem trace_closeVault {ctx : Context} {id : VaultId} {accumulator : Amount}
    {answer : Amount × Amount} (h : closeVault ctx id accumulator e = .ok answer e') :
    Trace tidy ctx.now e e' := by
  simp only [closeVault, bind_eq_ok, requireMayAct_eq_ok, findVault_eq_ok] at h
  obtain ⟨_, _, ⟨_, rfl⟩, v, _, ⟨found, rfl⟩, h⟩ := h
  split at h
  · simp only [bind_eq_ok, Transact.pure_eq_ok] at h
    obtain ⟨_, _, ⟨rfl, rfl⟩, _, _, burnt, _, rfl⟩ := h
    exact trace_burnVault burnt
  · simp only [bind_eq_ok, Transact.liftM_eq_ok, getState_eq_ok, Transact.require_eq_ok,
      modifyState_eq_ok, emit_eq_ok, Transact.pure_eq_ok] at h
    obtain ⟨price, _, ⟨_, rfl⟩, _, _, ⟨rfl, rfl⟩, health, _, ⟨_, rfl⟩, _, _, ⟨_, rfl⟩, debt, _,
      ⟨_, rfl⟩, owed, m, charge, _, _, ⟨rfl, rfl⟩, total, _, ⟨booked, rfl⟩, _, _, rfl, _, _, rfl,
      _, _, ⟨rfl, rfl⟩, _, _, burnt, _, rfl⟩ := h
    obtain ⟨_, surplus, _, rfl⟩ := chargeRepayFee_eq_ok charge
    obtain ⟨owner, registry, hburn, rfl⟩ := burnVault_eq_ok burnt
    -- the vault is removed with its debt still in it; that the debt was taken off before is as well
    have cleared : v.normalizedDebt.shift false v.normalizedDebt = .ok .zero :=
      Amount.minus_eq_ok.mpr (Nat.zero_add _)
    have first : Step tidy ctx.now e { e with state := { e.state with surplus } } :=
      .balanced surplus e.state.badDebt
    refine (Relation.ReflTransGen.single first).trans ?_
    refine (Relation.ReflTransGen.single (.debt false found cleared booked
      fun _ => not_isDusty_zero _ _)).tail ?_
    exact .removed ((burn_setVault _ _ _).trans hburn)

/-! ## Debt between vaults -/

/-- Paying debt out is an accrual, a removal of debt and what the fees come to. -/
theorem trace_payDebtOut {id : VaultId} {amount taken : Amount}
    {senderBorrowFee senderRepayFee : UInt64}
    (h : payDebtOut now id amount senderBorrowFee senderRepayFee e = .ok taken e') :
    Trace tidy now e e' := by
  simp only [payDebtOut, bind_eq_ok, getState_eq_ok, Transact.liftM_eq_ok] at h
  obtain ⟨accumulator, m, accrued, _, _, ⟨rfl, rfl⟩, kept, _, ⟨_, rfl⟩, lessFee, _, ⟨_, rfl⟩,
    repaid, m', decreased, h⟩ := h
  obtain rfl := (accrue_eq_ok accrued).accumulator
  have paid : Trace tidy now e m' := (trace_accrue accrued).trans (trace_decreaseDebt decreased)
  split at h
  · simp only [bind_eq_ok, Transact.pure_eq_ok] at h
    obtain ⟨_, _, ⟨rfl, rfl⟩, _, _, booked, _, rfl⟩ := h
    exact paid.trans (trace_addSurplus booked)
  · simp only [bind_eq_ok, Transact.liftM_eq_ok, Transact.pure_eq_ok] at h
    obtain ⟨scaled, _, ⟨_, rfl⟩, _, _, ⟨rfl, rfl⟩, _, _, booked, _, rfl⟩ := h
    exact paid.trans (trace_addSurplus booked)

/-- Moving debt within an engine is a removal from one vault and an addition to another. -/
theorem trace_moveDebt {receiving giving : VaultId} {amount taken : Amount}
    (h : Arena.moveDebt now receiving giving amount e.state.accumulator e = .ok taken e') :
    Trace tidy now e e' := by
  simp only [Arena.moveDebt, bind_eq_ok, Transact.liftM_eq_ok, findVault_eq_ok] at h
  obtain ⟨requested, _, ⟨_, rfl⟩, giver, _, ⟨_, rfl⟩, _, m, removed, _, m', added, h⟩ := h
  obtain ⟨_, _, revised, _⟩ := removeNormalizedDebt_eq_ok removed
  rw [← accumulator_of_frame revised.frame] at added
  have moved : Trace tidy now e m' :=
    (trace_removeNormalizedDebt removed).trans (trace_addNormalizedDebt added)
  split at h
  · obtain ⟨-, rfl⟩ := Transact.liftM_eq_ok.mp h
    exact moved
  · obtain ⟨-, rfl⟩ := Transact.pure_eq_ok.mp h
    exact moved

end Engine

end CollateralDebt
