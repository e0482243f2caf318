import CollateralDebt.Engine.Administration
import CollateralDebt.Proofs.Engine.Exact
import CollateralDebt.Proofs.Engine.Fit

/-!
# Calls that move no balance

Governors and guardians set parameters, owners approve and hand over vaults, the treasury passes an
engine on. None of these calls touches a balance: the vaults, the debt total, the surplus, the
losses and the accumulator are as they were. The one exception books interest at the old rate before
it sets a new one.

They all check first and write last, so a refused one leaves no trace.

## What is proved

- `Quiet`, `Steady`, `Upkeep`: the kinds of change, and which call makes which;
- `traceless_accrue` and its like: a refused call leaves the engine as it was.
-/

namespace CollateralDebt.Engine

open Transact (bind_eq_ok)

/-- An engine with the same balances, and fit if it was fit before. -/
structure Quiet (e e' : Engine) : Prop where
  identity : e'.identity = e.identity
  accumulator : e'.state.accumulator = e.state.accumulator
  accruedAt : e'.state.accruedAt = e.state.accruedAt
  total : e'.state.totalNormalizedDebt = e.state.totalNormalizedDebt
  surplus : e'.state.surplus = e.state.surplus
  badDebt : e'.state.badDebt = e.state.badDebt
  vaults : e'.state.registry.vaults = e.state.registry.vaults
  lastId : e'.state.registry.lastId = e.state.registry.lastId
  fit : e.Fit → e'.Fit

/-- Noting an event changes no balance. -/
theorem Quiet.emit {e e' : Engine} (h : Quiet e e') (event : Event) :
    Quiet e { e' with log := e'.log.emit event } :=
  ⟨h.identity, h.accumulator, h.accruedAt, h.total, h.surplus, h.badDebt, h.vaults, h.lastId,
    fun fit => (h.fit fit).congr rfl (Nat.le_refl _)⟩

/-- An engine with the same balances and the same registry as a whole. -/
structure Steady (e e' : Engine) : Prop extends Quiet e e' where
  registry : e'.state.registry = e.state.registry

/-- The total of debt stays the sum over the vaults if neither of them changes. -/
theorem Exact.quiet {e e' : Engine} (h : e.Exact) (same : Quiet e e') : e'.Exact :=
  h.congr same.vaults same.lastId same.total

/-- An engine with the same balances, or one whose interest was booked first. -/
inductive Upkeep (e : Engine) (now : Timestamp) (e' : Engine) : Prop
  | quiet (same : Quiet e e')
  | accrued (accumulator : Amount) (m : Engine) (booked : Accrued e now accumulator m)
      (same : Quiet m e')

/-- No upkeep turns an engine into another one. -/
theorem Upkeep.identity {e e' : Engine} {now : Timestamp} (changed : Upkeep e now e') :
    e'.identity = e.identity := by
  cases changed with
  | quiet same => exact same.identity
  | accrued _ _ booked same => exact same.identity.trans booked.identity

/-- Upkeep keeps the total of debt exact, also where it books interest first. -/
theorem Exact.upkeep {e e' : Engine} {now : Timestamp} (h : e.Exact) (changed : Upkeep e now e') :
    e'.Exact := by
  cases changed with
  | quiet same => exact h.quiet same
  | accrued _ _ booked same => exact (h.accrued booked).quiet same

/-- Upkeep keeps an engine fit: what it sets was checked, and what it books only grows. -/
theorem Fit.upkeep {e e' : Engine} {now : Timestamp} (h : e.Fit) (changed : Upkeep e now e') :
    e'.Fit := by
  cases changed with
  | quiet same => exact same.fit h
  | accrued _ _ booked same => exact same.fit (h.accrued booked)

/-! ## Accepted calls -/

section Accepted

variable {ctx : Context} {e e' : Engine} {u : Unit}

/-- The check for a governor passes for governors, and only reads. -/
@[simp] theorem requireGovernor_eq_ok :
    requireGovernor ctx e = .ok u e' ↔ ctx.treasury.isGovernor ctx.caller = true ∧ e = e' :=
  Transact.require_eq_ok

@[simp] theorem requireGovernorOrGuardian_eq_ok :
    requireGovernorOrGuardian ctx e = .ok u e' ↔
      ctx.treasury.isGovernorOrGuardian ctx.caller = true ∧ e = e' := Transact.require_eq_ok

@[simp] theorem requireTreasury_eq_ok {caller : Address} :
    requireTreasury caller e = .ok u e' ↔ caller = e.state.treasury ∧ e = e' := by
  simp only [requireTreasury, bind_eq_ok, getState_eq_ok, Transact.require_eq_ok]
  constructor
  · rintro ⟨_, _, ⟨rfl, rfl⟩, h, rfl⟩
    exact ⟨h, rfl⟩
  · rintro ⟨h, rfl⟩
    exact ⟨_, _, ⟨rfl, rfl⟩, h, rfl⟩

/-- Setting a parameter that passed its check leaves an engine fit, if it was fit before. -/
theorem quiet_of_modifyParams {f : Parameters → Parameters} (h : modifyParams f e = .ok u e')
    (consistent : e.state.params.Consistent → (f e.state.params).Consistent)
    (baseBoost : (f e.state.params).baseBoost = e.state.params.baseBoost) : Quiet e e' := by
  rw [modifyParams_eq_ok] at h
  subst h
  refine ⟨rfl, rfl, rfl, rfl, rfl, rfl, rfl, rfl, fun fit => ?_⟩
  exact ⟨consistent fit.params, fit.curve, baseBoost.trans fit.baseBoost, fit.decimals, fit.unit,
    fit.accumulator⟩

/-- Setting a parameter moves no balance, but for a new interest rate, which books what the old one
has brought. -/
theorem applyParameter_eq_ok {now : Timestamp} {parameter : Parameter} {value : UInt64}
    (h : applyParameter now parameter value e = .ok u e') : Upkeep e now e' := by
  simp only [applyParameter, bind_eq_ok, getState_eq_ok] at h
  obtain ⟨_, _, ⟨rfl, rfl⟩, h⟩ := h
  cases parameter with
  | interestRate =>
    obtain ⟨accumulator, m, accrued, set⟩ := bind_eq_ok.mp h
    exact .accrued accumulator m (accrue_eq_ok accrued)
      (quiet_of_modifyParams set (fun p => { p with }) rfl)
  | collateralFactor =>
    obtain ⟨_, _, checked, set⟩ := bind_eq_ok.mp h
    obtain ⟨le, rfl⟩ := Transact.require_eq_ok.mp checked
    exact .quiet (quiet_of_modifyParams set (fun p => { p with factor_le := le }) rfl)
  | targetHealthFactor =>
    obtain ⟨_, _, checked, set⟩ := bind_eq_ok.mp h
    obtain ⟨ge, rfl⟩ := Transact.require_eq_ok.mp checked
    exact .quiet (quiet_of_modifyParams set (fun p => { p with target_ge := ge }) rfl)
  | borrowFee =>
    obtain ⟨_, _, checked, set⟩ := bind_eq_ok.mp h
    obtain ⟨le, rfl⟩ := Transact.require_eq_ok.mp checked
    exact .quiet (quiet_of_modifyParams set (fun p => { p with borrowFee_le := le }) rfl)
  | repayFee =>
    obtain ⟨_, _, checked, set⟩ := bind_eq_ok.mp h
    obtain ⟨le, rfl⟩ := Transact.require_eq_ok.mp checked
    exact .quiet (quiet_of_modifyParams set (fun p => { p with repayFee_le := le }) rfl)
  | liquidationSurcharge =>
    obtain ⟨_, _, checked, set⟩ := bind_eq_ok.mp h
    obtain ⟨⟨some', factor, le⟩, rfl⟩ := Transact.require_eq_ok.mp checked
    -- the check adds the other way round, and one bounds the surcharge by leaving out the fee
    have pos : 0 < value.toNat := UInt64.pos_iff_ne_zero.mpr some'
    rw [Nat.add_comm] at le
    exact .quiet (quiet_of_modifyParams set (fun p => { p with
      surcharge_pos := pos
      surcharge_le := Nat.le_trans (Nat.le_add_left _ _) le
      factor_le := factor
      repayFee_le := le }) rfl)
  | maxLiquidationDiscount =>
    obtain ⟨_, _, checked, set⟩ := bind_eq_ok.mp h
    obtain ⟨lt, rfl⟩ := Transact.require_eq_ok.mp checked
    exact .quiet (quiet_of_modifyParams set (fun p => { p with discount_lt := lt }) rfl)

/-- A governor's new value is upkeep: the checks before and after it only read. -/
theorem setParameter_eq_ok {parameter : Parameter} {value : UInt64}
    (h : setParameter ctx parameter value e = .ok u e') : Upkeep e ctx.now e' := by
  simp only [setParameter, bind_eq_ok, requireGovernorOrGuardian_eq_ok, emit_eq_ok] at h
  obtain ⟨_, _, ⟨_, rfl⟩, _, e₁, applied, rfl⟩ := h
  cases applyParameter_eq_ok applied with
  | quiet same => exact .quiet (same.emit _)
  | accrued accumulator m booked same => exact .accrued accumulator m booked (same.emit _)

/-- A parameter that is named by its code is set like any other. -/
theorem setParameterByCode_eq_ok {code : String} {value : UInt64}
    (h : setParameterByCode ctx code value e = .ok u e') : Upkeep e ctx.now e' := by
  simp only [setParameterByCode, bind_eq_ok, Transact.liftM_eq_ok] at h
  obtain ⟨_, _, ⟨_, rfl⟩, h⟩ := h
  exact setParameter_eq_ok h

/-- A new debt ceiling moves no balance, also if it is below the debt of now. -/
theorem setDebtCeiling_eq_ok {debtCeiling : Amount}
    (h : setDebtCeiling ctx debtCeiling e = .ok u e') : Steady e e' := by
  simp only [setDebtCeiling, bind_eq_ok, requireGovernorOrGuardian_eq_ok, modifyParams_eq_ok,
    emit_eq_ok] at h
  obtain ⟨_, _, ⟨_, rfl⟩, _, _, rfl, rfl⟩ := h
  exact ⟨⟨rfl, rfl, rfl, rfl, rfl, rfl, rfl, rfl,
    fun h => { h with params := { h.params with } }⟩, rfl⟩

/-- New bounds for dust move no balance, also if vaults are below them now. -/
theorem setDusts_eq_ok {dust dustLiquidation dustCollateral : Amount}
    (h : setDusts ctx dust dustLiquidation dustCollateral e = .ok u e') : Steady e e' := by
  simp only [setDusts, bind_eq_ok, requireGovernor_eq_ok, Transact.require_eq_ok,
    modifyParams_eq_ok, emit_eq_ok] at h
  obtain ⟨_, _, ⟨_, rfl⟩, _, _, ⟨ordered, rfl⟩, _, _, rfl, rfl⟩ := h
  exact ⟨⟨rfl, rfl, rfl, rfl, rfl, rfl, rfl, rfl,
    fun h => { h with params := { h.params with dust_le := ordered } }⟩, rfl⟩

/-- A new boost curve moves no balance, and is one that was accepted. -/
theorem setBoost_eq_ok {source : Option BoostSource} {thresholds : List Amount}
    {multipliers : List UInt64}
    (h : setBoost ctx source thresholds multipliers e = .ok u e') : Steady e e' := by
  simp only [setBoost, bind_eq_ok, requireGovernorOrGuardian_eq_ok, Transact.liftM_eq_ok,
    modifyParams_eq_ok, modifyState_eq_ok, Transact.modify_eq_ok, emit_eq_ok] at h
  obtain ⟨_, _, ⟨_, rfl⟩, curve, _, ⟨made, rfl⟩, _, _, rfl, _, _, rfl, _, _, rfl, rfl⟩ := h
  have accepted := BoostCurve.accepted_of_ofPoints made
  exact ⟨⟨rfl, rfl, rfl, rfl, rfl, rfl, rfl, rfl, fun h => { h with
    params := { h.params with boost_ne_zero := accepted.baseBoost_ne_zero }
    curve := accepted
    baseBoost := rfl }⟩, rfl⟩

/-- Pausing and resuming move no balance. -/
theorem togglePause_eq_ok (h : togglePause ctx e = .ok u e') : Steady e e' := by
  simp only [togglePause, bind_eq_ok, requireGovernorOrGuardian_eq_ok, modifyState_eq_ok,
    getState_eq_ok, emit_eq_ok] at h
  obtain ⟨_, _, ⟨_, rfl⟩, _, _, rfl, _, _, ⟨rfl, rfl⟩, rfl⟩ := h
  exact ⟨⟨rfl, rfl, rfl, rfl, rfl, rfl, rfl, rfl, fun h => h.congr rfl (Nat.le_refl _)⟩, rfl⟩

/-- A new price feed moves no balance. -/
theorem setOracle_eq_ok (h : setOracle ctx e = .ok u e') : Steady e e' := by
  simp only [setOracle, bind_eq_ok, requireGovernor_eq_ok, emit_eq_ok] at h
  obtain ⟨_, _, ⟨_, rfl⟩, rfl⟩ := h
  exact ⟨⟨rfl, rfl, rfl, rfl, rfl, rfl, rfl, rfl, fun h => h.congr rfl (Nat.le_refl _)⟩, rfl⟩

/-- Passing an engine on to another treasury moves no balance. -/
theorem setTreasury_eq_ok {treasury : Treasury} (h : setTreasury ctx treasury e = .ok u e') :
    Steady e e' := by
  simp only [setTreasury, bind_eq_ok, requireTreasury_eq_ok, getState_eq_ok,
    Transact.require_eq_ok, modifyState_eq_ok, emit_eq_ok] at h
  obtain ⟨_, _, ⟨_, rfl⟩, _, _, ⟨rfl, rfl⟩, _, _, ⟨_, rfl⟩, _, _, rfl, rfl⟩ := h
  exact ⟨⟨rfl, rfl, rfl, rfl, rfl, rfl, rfl, rfl, fun h => h.congr rfl (Nat.le_refl _)⟩, rfl⟩

/-- The whitelist decides who may receive vaults, and moves none. -/
theorem toggleWhitelist_eq_ok {account : Address}
    (h : toggleWhitelist ctx account e = .ok u e') : Quiet e e' := by
  simp only [toggleWhitelist, bind_eq_ok, requireGovernor_eq_ok] at h
  obtain ⟨_, _, ⟨_, rfl⟩, h⟩ := h
  split at h
  · simp only [bind_eq_ok, modifyParams_eq_ok, getState_eq_ok, emit_eq_ok] at h
    obtain ⟨_, _, rfl, _, _, ⟨rfl, rfl⟩, rfl⟩ := h
    exact ⟨rfl, rfl, rfl, rfl, rfl, rfl, rfl, rfl,
      fun h => { h with params := { h.params with } }⟩
  · simp only [bind_eq_ok, modifyRegistry_eq_ok, getState_eq_ok, emit_eq_ok] at h
    obtain ⟨_, _, rfl, _, _, ⟨rfl, rfl⟩, rfl⟩ := h
    exact ⟨rfl, rfl, rfl, rfl, rfl, rfl, rfl, rfl, fun h => h.congr rfl (Nat.le_refl _)⟩

/-- Approving an account for a vault moves no balance. -/
theorem approve_eq_ok {account : Address} {id : VaultId}
    (h : approve ctx account id e = .ok u e') : Quiet e e' := by
  simp only [approve, bind_eq_ok, getState_eq_ok, Transact.liftM_eq_ok, Transact.require_eq_ok,
    modifyRegistry_eq_ok, emit_eq_ok] at h
  obtain ⟨_, _, ⟨rfl, rfl⟩, _, _, ⟨_, rfl⟩, _, _, ⟨_, rfl⟩, _, _, ⟨_, rfl⟩, _, _, rfl, rfl⟩ := h
  exact ⟨rfl, rfl, rfl, rfl, rfl, rfl, rfl, rfl, fun h => h.congr rfl (Nat.le_refl _)⟩

/-- Approving an operator for all vaults moves no balance. -/
theorem setApprovalForAll_eq_ok {operator : Address} {approved : Bool}
    (h : setApprovalForAll ctx operator approved e = .ok u e') : Quiet e e' := by
  simp only [setApprovalForAll, bind_eq_ok, Transact.require_eq_ok, modifyRegistry_eq_ok,
    emit_eq_ok] at h
  obtain ⟨_, _, ⟨_, rfl⟩, _, _, ⟨_, rfl⟩, _, _, rfl, rfl⟩ := h
  exact ⟨rfl, rfl, rfl, rfl, rfl, rfl, rfl, rfl, fun h => h.congr rfl (Nat.le_refl _)⟩

/-- Handing a vault over changes its owner and no balance. -/
theorem transferVault_eq_ok {source recipient : Address} {id : VaultId}
    (h : transferVault ctx source recipient id e = .ok u e') : Quiet e e' := by
  simp only [transferVault, bind_eq_ok, requireMayAct_eq_ok, getState_eq_ok, Transact.liftM_eq_ok,
    Transact.require_eq_ok, modifyRegistry_eq_ok, emit_eq_ok] at h
  obtain ⟨_, _, ⟨_, rfl⟩, _, _, ⟨rfl, rfl⟩, owner, _, ⟨_, rfl⟩, _, _, ⟨_, rfl⟩, _, _, ⟨_, rfl⟩, _,
    _, listed, _, _, rfl, rfl⟩ := h
  cases requireWhitelisted_eq_ok listed
  exact ⟨rfl, rfl, rfl, rfl, rfl, rfl, Registry.vaults_move _ _ _ _, Registry.lastId_move _ _ _ _,
    fun h => h.congr rfl (Nat.le_refl _)⟩

end Accepted

/-! ## Refused calls -/

open Transact (Traceless Unfailing readOnly_require readOnly_liftM)

theorem readOnly_requireGovernor (ctx : Context) : Transact.ReadOnly (requireGovernor ctx) :=
  readOnly_require _ _

theorem readOnly_requireGovernorOrGuardian (ctx : Context) :
    Transact.ReadOnly (requireGovernorOrGuardian ctx) := readOnly_require _ _

theorem traceless_addSurplus (amount : Amount) : Traceless (addSurplus amount) :=
  readOnly_getState.bind_traceless fun _ =>
    (readOnly_liftM _).bind_traceless fun _ => (unfailing_modifyState _).traceless

/-- Accrual computes all that it books before it writes. -/
theorem traceless_accrue (now : Timestamp) : Traceless (accrue now) := by
  unfold accrue
  apply readOnly_getState.bind_traceless
  intro s
  apply Transact.readOnly_get.bind_traceless
  intro e
  apply (readOnly_liftM _).bind_traceless
  intro accumulator
  -- once the interest is surplus, nothing fails any more
  have booked : Unfailing (σ := Engine) (if s.accruedAt < now then do
      modifyState fun s => { s with accruedAt := now }
      pure accumulator
    else pure accumulator) := by
    split
    · exact (unfailing_modifyState _).bind fun _ => Transact.unfailing_pure _
    · exact Transact.unfailing_pure _
  dsimp only
  split
  · apply (readOnly_liftM _).bind_traceless
    intro interest
    apply (traceless_addSurplus interest).bind_unfailing
    intro _
    exact (unfailing_modifyState _).bind fun _ => (unfailing_emit _).bind fun _ => booked
  · exact booked.traceless

/-- A parameter that is refused leaves the old one in force, and no interest booked. -/
theorem traceless_applyParameter (now : Timestamp) (parameter : Parameter) (value : UInt64) :
    Traceless (applyParameter now parameter value) := by
  unfold applyParameter
  apply readOnly_getState.bind_traceless
  intro s
  cases parameter with
  | interestRate =>
    exact (traceless_accrue now).bind_unfailing fun _ => unfailing_modifyParams _
  | _ =>
    exact (readOnly_require _ _).bind_traceless fun _ => (unfailing_modifyParams _).traceless

/-- A refused call to set a parameter leaves no trace, whether its code, its caller or its value was
refused. -/
theorem traceless_setParameterByCode (ctx : Context) (code : String) (value : UInt64) :
    Traceless (setParameterByCode ctx code value) := by
  unfold setParameterByCode setParameter
  apply (readOnly_liftM _).bind_traceless
  intro parameter
  apply (readOnly_requireGovernorOrGuardian ctx).bind_traceless
  intro _
  exact (traceless_applyParameter ctx.now parameter value).bind_unfailing fun _ => unfailing_emit _

theorem traceless_setDebtCeiling (ctx : Context) (debtCeiling : Amount) :
    Traceless (setDebtCeiling ctx debtCeiling) := by
  unfold setDebtCeiling
  apply (readOnly_requireGovernorOrGuardian ctx).bind_traceless
  intro _
  exact ((unfailing_modifyParams _).bind fun _ => unfailing_emit _).traceless

theorem traceless_setDusts (ctx : Context) (dust dustLiquidation dustCollateral : Amount) :
    Traceless (setDusts ctx dust dustLiquidation dustCollateral) := by
  unfold setDusts
  apply (readOnly_requireGovernor ctx).bind_traceless
  intro _
  apply (readOnly_require _ _).bind_traceless
  intro _
  exact ((unfailing_modifyParams _).bind fun _ => unfailing_emit _).traceless

/-- A curve that is refused leaves the old one and the old source of balances in force. -/
theorem traceless_setBoost (ctx : Context) (source : Option BoostSource)
    (thresholds : List Amount) (multipliers : List UInt64) :
    Traceless (setBoost ctx source thresholds multipliers) := by
  unfold setBoost
  apply (readOnly_requireGovernorOrGuardian ctx).bind_traceless
  intro _
  apply (readOnly_liftM _).bind_traceless
  intro curve
  apply Unfailing.traceless
  apply (unfailing_modifyParams _).bind
  intro _
  apply (unfailing_modifyState _).bind
  intro _
  exact (Transact.unfailing_modify _).bind fun _ => unfailing_emit _

theorem unfailing_getState : Unfailing getState :=
  Transact.unfailing_get.bind fun _ => Transact.unfailing_pure _

theorem traceless_togglePause (ctx : Context) : Traceless (togglePause ctx) := by
  unfold togglePause
  apply (readOnly_requireGovernorOrGuardian ctx).bind_traceless
  intro _
  apply Unfailing.traceless
  apply (unfailing_modifyState _).bind
  intro _
  exact unfailing_getState.bind fun _ => unfailing_emit _

theorem traceless_setOracle (ctx : Context) : Traceless (setOracle ctx) := by
  unfold setOracle
  apply (readOnly_requireGovernor ctx).bind_traceless
  intro _
  exact (unfailing_emit _).traceless

theorem traceless_setTreasury (ctx : Context) (treasury : Treasury) :
    Traceless (setTreasury ctx treasury) := by
  unfold setTreasury
  apply (readOnly_requireTreasury ctx.caller).bind_traceless
  intro _
  apply readOnly_getState.bind_traceless
  intro s
  apply (readOnly_require _ _).bind_traceless
  intro _
  exact ((unfailing_modifyState _).bind fun _ => unfailing_emit _).traceless

/-- A refused change of the whitelist leaves it as it was. -/
theorem traceless_toggleWhitelist (ctx : Context) (account : Address) :
    Traceless (toggleWhitelist ctx account) := by
  unfold toggleWhitelist
  apply (readOnly_requireGovernor ctx).bind_traceless
  intro _
  apply Unfailing.traceless
  split
  · apply (unfailing_modifyParams _).bind
    intro _
    exact unfailing_getState.bind fun _ => unfailing_emit _
  · apply (unfailing_modifyRegistry _).bind
    intro _
    exact unfailing_getState.bind fun _ => unfailing_emit _

theorem traceless_approve (ctx : Context) (account : Address) (id : VaultId) :
    Traceless (approve ctx account id) := by
  unfold approve
  apply readOnly_getState.bind_traceless
  intro s
  dsimp only
  apply (readOnly_liftM _).bind_traceless
  intro owner
  apply (readOnly_require _ _).bind_traceless
  intro _
  apply (readOnly_require _ _).bind_traceless
  intro _
  exact ((unfailing_modifyRegistry _).bind fun _ => unfailing_emit _).traceless

theorem traceless_setApprovalForAll (ctx : Context) (operator : Address) (approved : Bool) :
    Traceless (setApprovalForAll ctx operator approved) := by
  unfold setApprovalForAll
  apply (readOnly_require _ _).bind_traceless
  intro _
  apply (readOnly_require _ _).bind_traceless
  intro _
  exact ((unfailing_modifyRegistry _).bind fun _ => unfailing_emit _).traceless

/-- A vault whose transfer is refused stays with its owner, and its approval stays too. -/
theorem traceless_transferVault (ctx : Context) (source recipient : Address) (id : VaultId) :
    Traceless (transferVault ctx source recipient id) := by
  unfold transferVault
  apply (readOnly_requireMayAct ctx.caller id).bind_traceless
  intro _
  apply readOnly_getState.bind_traceless
  intro s
  apply (readOnly_liftM _).bind_traceless
  intro owner
  apply (readOnly_require _ _).bind_traceless
  intro _
  apply (readOnly_require _ _).bind_traceless
  intro _
  apply (readOnly_requireWhitelisted ctx.caller recipient).bind_traceless
  intro _
  exact ((unfailing_modifyRegistry _).bind fun _ => unfailing_emit _).traceless

end CollateralDebt.Engine
