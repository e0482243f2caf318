import CollateralDebt.Proofs.DebtTotal
import CollateralDebt.Proofs.Engine.Trace
import CollateralDebt.Proofs.World.Run

/-!
# Every call is made of steps

A call on an engine leads it, and every other engine within its reach, along a trace. Whether the
trace is tidy can be told from the call: only a liquidation takes debt off a vault without a look at
what is left, and only the setter of the thresholds can raise the one for dust.

## What is proved

- `trace_liquidateAll`, `trace_setParameterByCode` and their like: the calls on one engine;
- `Arena.traced_processBatch`: a batch leads all engines of its arena along traces;
- `EngineCall.traced`: every accepted call does, and unless it says otherwise the traces are tidy.
-/

namespace CollateralDebt

open Transact (bind_eq_ok)

namespace Engine

variable {tidy : Prop} {now : Timestamp} {e e' : Engine} {ctx : Context}

/-! ## Liquidation -/

/-- What a verdict is: that the vault is exhausted, or that it is reduced. -/
theorem verdict_eq_ok {id : VaultId} {amount price accumulator : Amount} {r : Verdict}
    (h : e.verdict ctx id amount price accumulator = .ok r) :
    ∃ v debtRepaid, e.vault? id = some v ∧
      ((∃ currentDebt, r = .exhausted ctx id v amount debtRepaid currentDebt) ∨
        ∃ released, Verdict.reduced ctx id v amount debtRepaid released accumulator = .ok r) := by
  simp only [verdict, judge, Outcome.bind_eq_ok, Registry.vault_eq_ok] at h
  obtain ⟨_, _, v, found, terms, _, _, _, _, _, _, _, _, _, _, _, bought, _, debtRepaid, _, h⟩ := h
  refine ⟨v, debtRepaid, found, ?_⟩
  split at h
  · obtain rfl := Outcome.pure_eq_ok.mp h
    exact .inl ⟨_, rfl⟩
  · obtain ⟨released, _, reduced⟩ := Outcome.bind_eq_ok.mp h
    exact .inr ⟨released, reduced⟩

/-- The vault that is set last is the one that counts. -/
theorem setVault_setVault (r : Registry) (id : VaultId) (v w : Vault) :
    (r.setVault id v).setVault id w = r.setVault id w := by
  unfold Registry.setVault
  rw [Table.insert_insert]

section Enacted

variable {id : VaultId} {v : Vault} {amount debtRepaid : Amount}

/-- A step that sets one vault leaves every other as it was. -/
theorem vault?_book_setVault (e : Engine) (id : VaultId) (v : Vault) (total : Amount)
    (event : Event) :
    (e.book { e.state with
      registry := e.state.registry.setVault id v, totalNormalizedDebt := total } event).vault? id =
      some v :=
  (Registry.vault?_setVault _ _ _ _).trans (if_pos rfl)

/-- To exhaust a vault is to take off its debt, if it has any, and then its collateral. -/
theorem trace_exhausted {currentDebt : Amount} (found : e.vault? id = some v)
    (covered : v.normalizedDebt ≤ e.state.totalNormalizedDebt) :
    Trace tidy ctx.now e
      (e.enact id (.exhausted ctx id v amount debtRepaid currentDebt)) := by
  have cleared : v.normalizedDebt.shift false v.normalizedDebt = .ok .zero :=
    Amount.minus_eq_ok.mpr (Nat.zero_add _)
  have taken : v.collateral.shift false v.collateral = .ok .zero :=
    Amount.minus_eq_ok.mpr (Nat.zero_add _)
  have booked : e.state.totalNormalizedDebt.shift false v.normalizedDebt =
      .ok (e.state.totalNormalizedDebt.monus v.normalizedDebt) :=
    Amount.minus_eq_ok.mpr (Nat.sub_add_cancel covered)
  unfold enact Verdict.exhausted
  by_cases owes : v.normalizedDebt ≠ .zero
  · have first : Step tidy ctx.now e _ :=
      .debt false found cleared booked fun _ => not_isDusty_zero _ _
    have second : Step tidy ctx.now _ _ := .collateral false
      (vault?_book_setVault e id { v with normalizedDebt := .zero }
        (e.state.totalNormalizedDebt.monus v.normalizedDebt)
        (.internalDebtUpdated id v.normalizedDebt false ctx.now)) taken
    have whole := ((Relation.ReflTransGen.single first).tail second).tail
      (.noted (Verdict.closing ctx id
        ⟨amount, v.collateral, currentDebt.monus debtRepaid⟩) rfl)
    simp only [book, EventLog.emit, setVault_setVault, List.append_assoc] at whole
    rw [if_pos owes]
    exact whole
  · rw [Decidable.not_not] at owes
    have first : Step tidy ctx.now e _ := .collateral false found taken
    have whole := (Relation.ReflTransGen.single first).tail
      (.noted (Verdict.closing ctx id
        ⟨amount, v.collateral, currentDebt.monus debtRepaid⟩) rfl)
    simp only [book, EventLog.emit, List.append_assoc] at whole
    rw [if_neg (not_not_intro owes)]
    obtain ⟨collateral, debt⟩ := v
    subst owes
    exact whole

/-- To reduce a vault is to take collateral and then debt off it, whatever is left. -/
theorem trace_reduced {released accumulator : Amount} {r : Verdict} (found : e.vault? id = some v)
    (covered : v.normalizedDebt ≤ e.state.totalNormalizedDebt) (rough : ¬ tidy)
    (h : Verdict.reduced ctx id v amount debtRepaid released accumulator = .ok r) :
    Trace tidy ctx.now e (e.enact id r) := by
  simp only [Verdict.reduced, Outcome.bind_eq_ok, Amount.uncheckedMinus_eq_ok,
    Outcome.pure_eq_ok] at h
  obtain ⟨normalized, _, collateral, hcollateral, debt, hdebt, rfl⟩ := h
  have taken : v.collateral.shift false released = .ok collateral :=
    Amount.minus_eq_ok.mpr hcollateral
  have cleared : v.normalizedDebt.shift false (min normalized v.normalizedDebt) = .ok debt :=
    Amount.minus_eq_ok.mpr hdebt
  have booked : e.state.totalNormalizedDebt.shift false (min normalized v.normalizedDebt) =
      .ok (e.state.totalNormalizedDebt.monus (min normalized v.normalizedDebt)) := by
    apply Amount.minus_eq_ok.mpr
    rw [Amount.le_iff] at covered
    simp only [Amount.toNat_monus, Amount.toNat_min]
    omega
  have first : Step tidy ctx.now e _ := .collateral false found taken
  have second : Step tidy ctx.now _ _ := .debt false
    (vault?_book_setVault e id { v with collateral } e.state.totalNormalizedDebt
      (.collateralAmountUpdated id released false ctx.now)) cleared booked
    fun holds => absurd holds rough
  have whole := ((Relation.ReflTransGen.single first).tail second).tail
    (.noted (Verdict.closing ctx id ⟨amount, released, .zero⟩) rfl)
  simp only [book, EventLog.emit, setVault_setVault, List.append_assoc] at whole
  exact whole

end Enacted

/-- Where dust is not looked at, a liquidation goes along a trace whether it was accepted or
skipped. -/
theorem trace_liquidateNext {report report' : LiquidationReport} {entry : VaultId × Amount}
    (rough : ¬ tidy) (exact : e.Exact) (h : liquidateNext ctx report entry e = .ok report' e') :
    Trace tidy ctx.now e e' := by
  obtain ⟨id, amount⟩ := entry
  rcases liquidateNext_eq_ok exact h with ⟨outcome, done, _⟩ | ⟨_, _, rfl, _⟩
  · rw [liquidateVault_eq exact] at done
    cases judged : e.verdict ctx id amount report.price report.accumulator with
    | error refused =>
      rw [judged] at done
      cases done
    | ok r =>
      rw [judged] at done
      cases done
      obtain ⟨v, debtRepaid, found, ⟨currentDebt, rfl⟩ | ⟨released, reduced⟩⟩ :=
        verdict_eq_ok judged
      · exact trace_exhausted found (exact.covers found)
      · exact trace_reduced found (exact.covers found) rough reduced
  · exact .refl

/-- So does a round of them, after its accrual. -/
theorem trace_liquidateAll {ids : List VaultId} {amounts : List Amount}
    {report : LiquidationReport} (rough : ¬ tidy) (exact : e.Exact)
    (h : liquidateAll ctx ids amounts e = .ok report e') : Trace tidy ctx.now e e' := by
  obtain ⟨accumulator, price, m, m', share, surplus, badDebt, booked, _, folded, _, _, _, _, _,
    rfl⟩ := liquidateAll_eq_ok h
  have start : m.Exact ∧ Trace tidy ctx.now e m := ⟨exact.accrued booked, .single (.accrued booked)⟩
  have led := Transact.foldlM_induction
    (P := fun _ _ (x : Engine) => x.Exact ∧ Trace tidy ctx.now e x)
    (fun _ _ _ _ _ _ h next => ⟨h.1.liquidatedNext next,
      h.2.trans (trace_liquidateNext rough h.1 next)⟩) start folded
  exact led.2.tail (.balanced _ _)

/-! ## Administration -/

/-- A parameter was set, after accrual if it was the interest rate; no time is left then for which
interest was not booked. -/
theorem trace_applyParameter {parameter : Parameter} {value : UInt64} {u : Unit}
    (h : applyParameter now parameter value e = .ok u e') :
    ∃ m, Trace tidy now e m ∧ (parameter = .interestRate → now ≤ m.state.accruedAt) ∧
      e' = { m with state := { m.state with params := m.state.params.set value parameter } } := by
  simp only [applyParameter, bind_eq_ok, getState_eq_ok] at h
  obtain ⟨_, _, ⟨rfl, rfl⟩, h⟩ := h
  cases parameter with
  | interestRate =>
    obtain ⟨accumulator, m, accrued, set⟩ := bind_eq_ok.mp h
    have booked := accrue_eq_ok accrued
    refine ⟨m, .single (.accrued booked), fun _ => ?_, (modifyParams_eq_ok.mp set).symm⟩
    rw [booked.state]
    show now ≤ if e.state.accruedAt < now then now else e.state.accruedAt
    split
    · exact UInt64.le_refl _
    · rename_i past
      exact UInt64.not_lt.mp past
  | collateralFactor | targetHealthFactor | borrowFee | repayFee | liquidationSurcharge
  | maxLiquidationDiscount =>
    obtain ⟨_, _, checked, set⟩ := bind_eq_ok.mp h
    obtain ⟨_, rfl⟩ := Transact.require_eq_ok.mp checked
    refine ⟨e, .refl, fun same => ?_, (modifyParams_eq_ok.mp set).symm⟩
    cases same

/-- A new interest rate goes along two steps, the accrual and the rate, and any other parameter
along one. -/
theorem trace_setParameterByCode {code : String} {value : UInt64} {u : Unit}
    (h : setParameterByCode ctx code value e = .ok u e') : Trace tidy ctx.now e e' := by
  simp only [setParameterByCode, setParameter, bind_eq_ok, Transact.liftM_eq_ok,
    requireGovernorOrGuardian_eq_ok, emit_eq_ok] at h
  obtain ⟨parameter, _, ⟨_, rfl⟩, _, _, ⟨_, rfl⟩, _, _, applied, rfl⟩ := h
  obtain ⟨m, led, booked, rfl⟩ := trace_applyParameter applied
  exact led.tail (.parameter booked)

theorem trace_setDebtCeiling {debtCeiling : Amount} {u : Unit}
    (h : setDebtCeiling ctx debtCeiling e = .ok u e') : Trace tidy ctx.now e e' := by
  simp only [setDebtCeiling, bind_eq_ok, requireGovernorOrGuardian_eq_ok, modifyParams_eq_ok,
    emit_eq_ok] at h
  obtain ⟨_, _, ⟨_, rfl⟩, _, _, rfl, rfl⟩ := h
  exact .single .ceiling

/-- New bounds for dust are one step, and a tidy one if they do not raise the bound for debt. -/
theorem trace_setDusts {dust dustLiquidation dustCollateral : Amount} {u : Unit}
    (lower : tidy → dust ≤ e.state.params.dust)
    (h : setDusts ctx dust dustLiquidation dustCollateral e = .ok u e') :
    Trace tidy ctx.now e e' := by
  simp only [setDusts, bind_eq_ok, requireGovernor_eq_ok, Transact.require_eq_ok,
    modifyParams_eq_ok, emit_eq_ok] at h
  obtain ⟨_, _, ⟨_, rfl⟩, _, _, ⟨_, rfl⟩, _, _, rfl, rfl⟩ := h
  exact .single (.dusts lower)

/-- A curve is accepted as a whole, in one step. -/
theorem trace_setBoost {source : Option BoostSource} {thresholds : List Amount}
    {multipliers : List UInt64} {u : Unit}
    (h : setBoost ctx source thresholds multipliers e = .ok u e') : Trace tidy ctx.now e e' := by
  simp only [setBoost, bind_eq_ok, requireGovernorOrGuardian_eq_ok, Transact.liftM_eq_ok,
    modifyParams_eq_ok, modifyState_eq_ok, Transact.modify_eq_ok, emit_eq_ok] at h
  obtain ⟨_, _, ⟨_, rfl⟩, curve, _, ⟨drawn, rfl⟩, _, _, rfl, _, _, rfl, _, _, rfl, rfl⟩ := h
  exact .single (.boost drawn)

theorem trace_togglePause {u : Unit} (h : togglePause ctx e = .ok u e') :
    Trace tidy ctx.now e e' := by
  simp only [togglePause, bind_eq_ok, requireGovernorOrGuardian_eq_ok, modifyState_eq_ok,
    getState_eq_ok, emit_eq_ok] at h
  obtain ⟨_, _, ⟨_, rfl⟩, _, _, rfl, _, _, ⟨rfl, rfl⟩, rfl⟩ := h
  exact .single .paused

theorem trace_toggleWhitelist {account : Address} {u : Unit}
    (h : toggleWhitelist ctx account e = .ok u e') : Trace tidy ctx.now e e' := by
  simp only [toggleWhitelist, bind_eq_ok, requireGovernor_eq_ok] at h
  obtain ⟨_, _, ⟨_, rfl⟩, h⟩ := h
  split at h
  · rename_i all
    subst all
    simp only [bind_eq_ok, modifyParams_eq_ok, getState_eq_ok, emit_eq_ok] at h
    obtain ⟨_, _, rfl, _, _, ⟨rfl, rfl⟩, rfl⟩ := h
    exact .single .whitelisting
  · rename_i one
    simp only [bind_eq_ok, modifyRegistry_eq_ok, getState_eq_ok, emit_eq_ok] at h
    obtain ⟨_, _, rfl, _, _, ⟨rfl, rfl⟩, rfl⟩ := h
    exact .single (.listed one)

theorem trace_setOracle {u : Unit} (h : setOracle ctx e = .ok u e') : Trace tidy ctx.now e e' := by
  simp only [setOracle, bind_eq_ok, requireGovernor_eq_ok, emit_eq_ok] at h
  obtain ⟨_, _, ⟨_, rfl⟩, rfl⟩ := h
  exact .single (.noted _ rfl)

theorem trace_setTreasury {treasury : Treasury} {u : Unit}
    (h : setTreasury ctx treasury e = .ok u e') : Trace tidy ctx.now e e' := by
  simp only [setTreasury, bind_eq_ok, requireTreasury_eq_ok, getState_eq_ok,
    Transact.require_eq_ok, modifyState_eq_ok, emit_eq_ok] at h
  obtain ⟨_, _, ⟨_, rfl⟩, _, _, ⟨rfl, rfl⟩, _, _, ⟨_, rfl⟩, _, _, rfl, rfl⟩ := h
  exact .single .passed

/-! ## Ownership -/

theorem trace_approve {account : Address} {id : VaultId} {u : Unit}
    (h : approve ctx account id e = .ok u e') : Trace tidy ctx.now e e' := by
  simp only [approve, bind_eq_ok, getState_eq_ok, Transact.liftM_eq_ok, Transact.require_eq_ok,
    modifyRegistry_eq_ok, emit_eq_ok] at h
  obtain ⟨_, _, ⟨rfl, rfl⟩, owner, _, ⟨owned, rfl⟩, _, _, ⟨other, rfl⟩, _, _, ⟨_, rfl⟩, _, _, rfl,
    rfl⟩ := h
  exact .single (.approved owned other)

theorem trace_setApprovalForAll {operator : Address} {approved : Bool} {u : Unit}
    (h : setApprovalForAll ctx operator approved e = .ok u e') : Trace tidy ctx.now e e' := by
  simp only [setApprovalForAll, bind_eq_ok, Transact.require_eq_ok, modifyRegistry_eq_ok,
    emit_eq_ok] at h
  obtain ⟨_, _, ⟨other, rfl⟩, _, _, ⟨named, rfl⟩, _, _, rfl, rfl⟩ := h
  exact .single (.appointed other named)

theorem trace_transferVault {source recipient : Address} {id : VaultId} {u : Unit}
    (h : transferVault ctx source recipient id e = .ok u e') : Trace tidy ctx.now e e' := by
  simp only [transferVault, bind_eq_ok, requireMayAct_eq_ok, getState_eq_ok, Transact.liftM_eq_ok,
    Transact.require_eq_ok, modifyRegistry_eq_ok, emit_eq_ok] at h
  obtain ⟨_, _, ⟨_, rfl⟩, _, _, ⟨rfl, rfl⟩, owner, _, ⟨owned, rfl⟩, _, _, ⟨rfl, rfl⟩, _, _,
    ⟨named, rfl⟩, _, _, listed, _, _, rfl, rfl⟩ := h
  cases requireWhitelisted_eq_ok listed
  exact .single (.transferred owned named)

end Engine

/-! ## Batches -/

namespace Arena

variable {tidy : Prop} {now : Timestamp} {ctx : Context} {s s' : Arena} {e : Engine}

/-- Every engine of the arena goes along a trace. -/
def Traced (tidy : Prop) (now : Timestamp) (s s' : Arena) : Prop :=
  List.Forall₂ (Engine.Trace tidy now) s.engines s'.engines

/-- An arena in which nothing happens goes along the empty trace. -/
theorem Traced.refl (s : Arena) : Traced tidy now s s := List.forall₂_same.mpr fun _ _ => .refl

/-- Traces of engines can be put one after the other. -/
theorem Traced.trans {s₁ s₂ s₃ : Arena} (h₁ : Traced tidy now s₁ s₂) (h₂ : Traced tidy now s₂ s₃) :
    Traced tidy now s₁ s₃ := forall₂_trans Relation.ReflTransGen.trans h₁ h₂

/-- What happens on the ledger is no step of an engine. -/
theorem Traced.of_same (same : SameEngines s s') : Traced tidy now s s' := by
  unfold Traced
  rw [same.engines]
  exact Traced.refl s

/-- The called engine goes along a trace, and the others stay. -/
theorem Traced.engine (h : Engine.Trace tidy now s.engine e) :
    Traced tidy now s { s with engine := e } := .cons h (List.forall₂_same.mpr fun _ _ => .refl)

/-- A trace of the called engine is one of the arena. -/
theorem traced_onEngine {α : Type} {m : Transact Engine α} {a : α}
    (trace : ∀ e, m s.engine = .ok a e → Engine.Trace tidy now s.engine e)
    (h : onEngine m s = .ok a s') : Traced tidy now s s' := by
  obtain ⟨e, done, rfl⟩ := onEngine_eq_ok.mp h
  exact .engine (trace e done)

/-- Fetching debt goes along a trace of each of the two engines. -/
theorem traced_fetchDebt {receiving giving : VaultId} {givingEngine : Address}
    {amount taken : Amount}
    (h : fetchDebt ctx receiving givingEngine giving amount s.engine.state.accumulator s =
      .ok taken s') : Traced tidy ctx.now s s' := by
  simp only [fetchDebt, bind_eq_ok, Transact.require_eq_ok, Transact.get_eq_ok, onEngine_eq_ok,
    Transact.pure_eq_ok] at h
  obtain ⟨_, _, ⟨_, rfl⟩, _, _, ⟨rfl, rfl⟩, _, _, remote, _, _, ⟨e, increased, rfl⟩, rfl, rfl⟩ := h
  obtain ⟨i, r, g, place, _, paid, rfl⟩ := onRemote_eq_ok remote
  exact .cons (Engine.trace_increaseDebt increased) (forall₂_remotes_set (fun _ => .refl) place
    (Engine.trace_payDebtOut (Engine.getDebtOut_eq_ok paid)))

/-- So does taking debt in, and within one engine it is a trace of that one. -/
theorem traced_getDebtIn {receiving giving : VaultId} {givingEngine : Address} {amount : Amount}
    {u : Unit}
    (h : getDebtIn ctx receiving givingEngine giving amount s.engine.state.accumulator s =
      .ok u s') : Traced tidy ctx.now s s' := by
  simp only [getDebtIn, bind_eq_ok, Transact.get_eq_ok, onEngine_eq_ok,
    Engine.requireAmount_eq_ok, Engine.requireMayAct_eq_ok] at h
  obtain ⟨_, _, ⟨_, ⟨_, rfl⟩, rfl⟩, _, _, ⟨_, ⟨_, rfl⟩, rfl⟩, _, _, ⟨rfl, rfl⟩, h⟩ := h
  have told {taken : Amount} {m : Arena} (moved : Traced tidy ctx.now s m)
      (emitted : onEngine (Engine.emit
        (.debtTransferred receiving giving givingEngine amount taken ctx.now)) m = .ok u s') :
      Traced tidy ctx.now s s' := by
    refine moved.trans (traced_onEngine (fun e done => ?_) emitted)
    obtain rfl := Engine.emit_eq_ok.mp done
    exact .single (.noted _ rfl)
  split at h
  · obtain ⟨taken, m, moved, emitted⟩ := bind_eq_ok.mp h
    exact told (traced_onEngine (fun _ => Engine.trace_moveDebt) moved) emitted
  · obtain ⟨taken, m, fetched, emitted⟩ := bind_eq_ok.mp h
    exact told (traced_fetchDebt fetched) emitted

/-- An action leads all engines along traces. -/
theorem traced_applyAction {t t' : Tally} {action : Action}
    (h : applyAction ctx s.engine.state.accumulator t action s = .ok t' s') :
    Traced tidy ctx.now s s' := by
  cases action with
  | createVault owner =>
    simp only [applyAction, bind_eq_ok, Transact.pure_eq_ok] at h
    obtain ⟨id, _, minted, _, rfl⟩ := h
    exact traced_onEngine (fun _ => Engine.trace_mintVault) minted
  | closeVault id =>
    simp only [applyAction, bind_eq_ok, Transact.get_eq_ok, Transact.liftM_eq_ok] at h
    obtain ⟨_, _, ⟨rfl, rfl⟩, _, _, closed, _, _, ⟨_, rfl⟩, _, rfl⟩ := h
    exact traced_onEngine (fun _ => Engine.trace_closeVault) closed
  | addCollateral id amount =>
    simp only [applyAction, bind_eq_ok, Transact.get_eq_ok, Transact.liftM_eq_ok] at h
    obtain ⟨_, _, ⟨rfl, rfl⟩, _, _, added, _, rfl⟩ := h
    exact traced_onEngine (fun _ => Engine.trace_addCollateral) added
  | removeCollateral id amount =>
    simp only [applyAction, bind_eq_ok, Transact.get_eq_ok, Transact.liftM_eq_ok] at h
    obtain ⟨_, _, ⟨rfl, rfl⟩, _, _, removed, _, rfl⟩ := h
    exact traced_onEngine (fun _ => Engine.trace_removeCollateral) removed
  | repayDebt id amount =>
    simp only [applyAction, bind_eq_ok, Transact.get_eq_ok, Transact.liftM_eq_ok] at h
    obtain ⟨_, _, ⟨rfl, rfl⟩, _, _, repaid, _, rfl⟩ := h
    exact traced_onEngine (fun _ => Engine.trace_repayDebt) repaid
  | borrow id amount =>
    simp only [applyAction, bind_eq_ok, Transact.get_eq_ok, Transact.liftM_eq_ok] at h
    obtain ⟨_, _, ⟨rfl, rfl⟩, _, _, borrowed, _, rfl⟩ := h
    exact traced_onEngine (fun _ => Engine.trace_borrow) borrowed
  | getDebtIn receiving givingEngine giving amount =>
    simp only [applyAction, bind_eq_ok, Transact.get_eq_ok, Transact.pure_eq_ok] at h
    obtain ⟨_, _, ⟨rfl, rfl⟩, _, _, moved, _, rfl⟩ := h
    exact traced_getDebtIn moved
  | permit signed =>
    simp only [applyAction, bind_eq_ok, onLedger_eq_ok, Transact.pure_eq_ok] at h
    obtain ⟨_, _, ⟨l, _, rfl⟩, _, rfl⟩ := h
    exact .refl s

/-- A batch leads all engines along traces: its actions do, and settling touches none. -/
theorem traced_processBatch {p : Parties} {actions : List Action} {payment : Payment}
    (h : processBatch ctx p actions s = .ok payment s') : Traced tidy ctx.now s s' := by
  obtain ⟨tally, s₁, gathered, rfl, settled⟩ := processBatch_eq_ok h
  obtain ⟨accumulator, m, booked, folded, _⟩ := gather_eq_ok gathered
  have start : ({ s with engine := m } : Arena).engine.state.accumulator = accumulator ∧
      Traced tidy ctx.now s { s with engine := m } :=
    ⟨booked.accumulator, .engine (.single (.accrued booked))⟩
  have led := Transact.foldlM_induction
    (P := fun _ _ (x : Arena) => x.engine.state.accumulator = accumulator ∧ Traced tidy ctx.now s x)
    (fun _ _ _ _ _ _ so applied => by
      obtain ⟨rfl, led⟩ := so
      exact ⟨Engine.accumulator_of_frame (applyAction_cases applied).frame,
        led.trans (traced_applyAction applied)⟩) start folded
  exact led.2.trans (.of_same ((keeps_settle ctx p tally.payment s₁).1 _ _ settled))

/-- Settling with the treasury books interest, and then empties what is to be settled. -/
theorem traced_processAccrual {accrual : TreasuryAccrual}
    (h : processAccrual ctx s = .ok accrual s') : Traced tidy ctx.now s s' := by
  unfold processAccrual at h
  obtain ⟨_, _, allowed, h⟩ := bind_eq_ok.mp h
  obtain ⟨_, hallowed, rfl⟩ := onEngine_eq_ok.mp allowed
  obtain ⟨_, rfl⟩ := Engine.requireTreasury_eq_ok.mp hallowed
  obtain ⟨accumulator, s₁, booked, h⟩ := bind_eq_ok.mp h
  obtain ⟨_, _, got, h⟩ := bind_eq_ok.mp h
  obtain ⟨rfl, rfl⟩ := Transact.get_eq_ok.mp got
  obtain ⟨_, s₂, reset, h⟩ := bind_eq_ok.mp h
  have cleared : Traced tidy ctx.now s s₂ := by
    refine (traced_onEngine (fun _ => Engine.trace_accrue) booked).trans
      (traced_onEngine (fun e done => ?_) reset)
    obtain rfl := Engine.modifyState_eq_ok.mp done
    exact .single (.balanced _ _)
  have told {event : Event} {u : Unit} {m : Arena} (note : event.isNote = true)
      (emitted : onEngine (Engine.emit event) m = .ok u s') (engines : SameEngines s₂ m) :
      Traced tidy ctx.now s s' := by
    refine (cleared.trans (.of_same engines)).trans (traced_onEngine (fun e done => ?_) emitted)
    obtain rfl := Engine.emit_eq_ok.mp done
    exact .single (.noted _ note)
  split at h
  · obtain ⟨_, _, paid, h⟩ := bind_eq_ok.mp h
    obtain ⟨l, _, rfl⟩ := onLedger_eq_ok.mp paid
    obtain ⟨_, _, noted, h⟩ := bind_eq_ok.mp h
    obtain ⟨-, rfl⟩ := Transact.pure_eq_ok.mp h
    exact told rfl noted ⟨rfl, rfl⟩
  · obtain ⟨_, _, noted, h⟩ := bind_eq_ok.mp h
    obtain ⟨-, rfl⟩ := Transact.pure_eq_ok.mp h
    exact told rfl noted ⟨rfl, rfl⟩

end Arena

/-! ## All calls -/

namespace EngineCall

variable {tidy : Prop} {ctx : Context} {s s' : Arena}

/-- A call on an engine that can leave no dust behind: no liquidation, and no setter that raises the
threshold. -/
def Careful (e : Engine) : EngineCall → Prop
  | .liquidate _ _ _ => False
  | .setDusts dust _ _ => dust ≤ e.state.params.dust
  | _ => True

instance (e : Engine) : DecidablePred (Careful e)
  | .liquidate .. => inferInstanceAs (Decidable False)
  | .setDusts dust _ _ => inferInstanceAs (Decidable (dust ≤ e.state.params.dust))
  | .batch .. | .encodedBatch .. | .getDebtOut .. | .accrueToTreasury | .setParameter ..
  | .setDebtCeiling .. | .setBoost .. | .togglePause | .toggleWhitelist .. | .approve ..
  | .setApprovalForAll .. | .transferVault .. => inferInstanceAs (Decidable True)

/-- A call that answers nothing goes along the trace of its step. -/
theorem traced_quietly {m : Transact Engine Unit} {reply : EngineReply}
    (trace : ∀ e, m s.engine = .ok () e → Engine.Trace tidy ctx.now s.engine e)
    (h : quietly m s = .ok reply s') : Arena.Traced tidy ctx.now s s' := by
  obtain ⟨e, done, -, rfl⟩ := quietly_eq_ok h
  exact .engine (trace e done)

/-- An accepted call leads all engines along traces, which are tidy if the call is careful. -/
theorem traced {call : EngineCall} {reply : EngineReply} (exact : s.engine.Exact)
    (careful : tidy → call.Careful s.engine) (h : call.run ctx s = .ok reply s') :
    Arena.Traced tidy ctx.now s s' := by
  cases call with
  | batch parties actions =>
    obtain ⟨_, _, done, h⟩ := bind_eq_ok.mp h
    obtain ⟨-, rfl⟩ := Transact.pure_eq_ok.mp h
    exact Arena.traced_processBatch (Arena.atomically_eq_ok.mp done)
  | encodedBatch parties kinds payloads =>
    obtain ⟨_, _, done, h⟩ := bind_eq_ok.mp h
    obtain ⟨-, rfl⟩ := Transact.pure_eq_ok.mp h
    obtain ⟨actions, _, decoded, done⟩ := bind_eq_ok.mp done
    obtain ⟨-, rfl⟩ := Transact.liftM_eq_ok.mp decoded
    exact Arena.traced_processBatch (Arena.atomically_eq_ok.mp done)
  | liquidate parties ids amounts =>
    obtain ⟨_, _, done, h⟩ := bind_eq_ok.mp h
    obtain ⟨-, rfl⟩ := Transact.pure_eq_ok.mp h
    obtain ⟨report, _, all, done⟩ := bind_eq_ok.mp (Arena.atomically_eq_ok.mp done)
    obtain ⟨_, _, paid, done⟩ := bind_eq_ok.mp done
    obtain ⟨-, rfl⟩ := Transact.pure_eq_ok.mp done
    exact (Arena.traced_onEngine (fun _ => Engine.trace_liquidateAll careful exact) all).trans
      (.of_same ((Arena.keeps_handleRepay _ _ _ _ _).1 _ _ paid))
  | getDebtOut id amount borrowFee repayFee =>
    obtain ⟨_, _, done, h⟩ := bind_eq_ok.mp h
    obtain ⟨-, rfl⟩ := Transact.pure_eq_ok.mp h
    exact Arena.traced_onEngine
      (fun _ paid => Engine.trace_payDebtOut (Engine.getDebtOut_eq_ok paid)) done
  | accrueToTreasury =>
    obtain ⟨_, _, done, h⟩ := bind_eq_ok.mp h
    obtain ⟨-, rfl⟩ := Transact.pure_eq_ok.mp h
    exact Arena.traced_processAccrual (Arena.atomically_eq_ok.mp done)
  | setParameter code value => exact traced_quietly (fun _ => Engine.trace_setParameterByCode) h
  | setDebtCeiling debtCeiling => exact traced_quietly (fun _ => Engine.trace_setDebtCeiling) h
  | setDusts dust dustLiquidation dustCollateral =>
    exact traced_quietly (fun _ => Engine.trace_setDusts careful) h
  | setBoost source thresholds multipliers =>
    exact traced_quietly (fun _ => Engine.trace_setBoost) h
  | togglePause => exact traced_quietly (fun _ => Engine.trace_togglePause) h
  | toggleWhitelist account => exact traced_quietly (fun _ => Engine.trace_toggleWhitelist) h
  | approve account id => exact traced_quietly (fun _ => Engine.trace_approve) h
  | setApprovalForAll operator approved =>
    exact traced_quietly (fun _ => Engine.trace_setApprovalForAll) h
  | transferVault source recipient id =>
    exact traced_quietly (fun _ => Engine.trace_transferVault) h

end EngineCall

end CollateralDebt
