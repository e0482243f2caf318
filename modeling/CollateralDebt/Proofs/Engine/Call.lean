import CollateralDebt.Engine.Call
import CollateralDebt.Proofs.Engine.Administration
import CollateralDebt.Proofs.Engine.Batch
import CollateralDebt.Proofs.Engine.Liquidation
import CollateralDebt.Proofs.Engine.Undo

/-!
# What a call on an engine does

A call that is accepted is a batch, a liquidation, the giving side of a transfer of debt, a
settlement with the treasury, or one that moves no balance. A call that is refused leaves no trace,
whatever it is: only what its swapper was asked for stays.

## What is proved

- `processAccrual_minted`, `processAccrual_eq_ok`: what settling with the treasury does;
- `EngineCall.run_cases`: an accepted call is one of the cases of `Accepted`;
- `EngineCall.run_eq_error`: a refused call left nothing but requests.
-/

namespace CollateralDebt

open Transact (bind_eq_ok)

/-- The payment that a liquidation settles. -/
def LiquidationReport.payment (report : LiquidationReport) : Payment :=
  ⟨.zero, report.stablecoinToReceive, report.collateralToGive, .zero⟩

namespace Arena

/-- Settling with the treasury: after accrual, surplus and losses are netted and start anew, and
what is left of the surplus is minted to the treasury. -/
theorem processAccrual_minted {ctx : Context} {s s' : Arena} {accrual : TreasuryAccrual}
    (h : processAccrual ctx s = .ok accrual s') :
    ∃ (accumulator : Amount) (m : Engine) (log : EventLog) (l : Ledger),
      Engine.Accrued s.engine ctx.now accumulator m ∧
      accrual = ⟨m.state.surplus.monus m.state.badDebt, m.state.badDebt.monus m.state.surplus⟩ ∧
      (if accrual.surplus ≠ .zero then
        Ledger.mint m.state.stablecoin m.state.address m.state.treasury accrual.surplus ctx.now
          s.ledger = .ok () l
      else l = s.ledger) ∧
      s' = { s with
        engine := { m with state := { m.state with surplus := .zero, badDebt := .zero }, log }
        ledger := l } := by
  unfold processAccrual at h
  obtain ⟨_, _, allowed, h⟩ := bind_eq_ok.mp h
  obtain ⟨_, hallowed, rfl⟩ := onEngine_eq_ok.mp allowed
  obtain ⟨_, rfl⟩ := Engine.requireTreasury_eq_ok.mp hallowed
  obtain ⟨accumulator, _, booked, h⟩ := bind_eq_ok.mp h
  obtain ⟨m, accrued, rfl⟩ := onEngine_eq_ok.mp booked
  obtain ⟨_, _, got, h⟩ := bind_eq_ok.mp h
  obtain ⟨rfl, rfl⟩ := Transact.get_eq_ok.mp got
  obtain ⟨_, _, reset, h⟩ := bind_eq_ok.mp h
  obtain ⟨_, anew, rfl⟩ := onEngine_eq_ok.mp reset
  obtain rfl := Engine.modifyState_eq_ok.mp anew
  have accrued := Engine.accrue_eq_ok accrued
  split at h
  · rename_i left
    obtain ⟨_, _, paid, h⟩ := bind_eq_ok.mp h
    obtain ⟨l, minted, rfl⟩ := onLedger_eq_ok.mp paid
    obtain ⟨_, _, noted, h⟩ := bind_eq_ok.mp h
    obtain ⟨_, emitted, rfl⟩ := onEngine_eq_ok.mp noted
    obtain rfl := Engine.emit_eq_ok.mp emitted
    obtain ⟨rfl, rfl⟩ := Transact.pure_eq_ok.mp h
    refine ⟨accumulator, m, _, l, accrued, rfl, ?_, rfl⟩
    rw [if_pos left]
    exact minted
  · rename_i nothing
    obtain ⟨_, _, noted, h⟩ := bind_eq_ok.mp h
    obtain ⟨_, emitted, rfl⟩ := onEngine_eq_ok.mp noted
    obtain rfl := Engine.emit_eq_ok.mp emitted
    obtain ⟨rfl, rfl⟩ := Transact.pure_eq_ok.mp h
    refine ⟨accumulator, m, _, s.ledger, accrued, rfl, ?_, rfl⟩
    rw [if_neg nothing]

/-- Settling with the treasury adds what is left of the surplus to the treasury's balance and to the
supply. -/
theorem processAccrual_eq_ok {ctx : Context} {s s' : Arena} {accrual : TreasuryAccrual}
    (h : processAccrual ctx s = .ok accrual s') :
    ∃ (accumulator : Amount) (m : Engine) (log : EventLog) (l : Ledger),
      Engine.Accrued s.engine ctx.now accumulator m ∧
      accrual = ⟨m.state.surplus.monus m.state.badDebt, m.state.badDebt.monus m.state.surplus⟩ ∧
      (∀ x y, (l.balanceOf x y).toNat = (s.ledger.balanceOf x y).toNat +
        Ledger.portion m.state.stablecoin m.state.treasury accrual.surplus.toNat x y) ∧
      (∀ x, (l.totalSupply x).toNat = (s.ledger.totalSupply x).toNat +
        Ledger.issue m.state.stablecoin accrual.surplus.toNat x) ∧
      s' = { s with
        engine := { m with state := { m.state with surplus := .zero, badDebt := .zero }, log }
        ledger := l } := by
  obtain ⟨accumulator, m, log, l, accrued, told, minted, rfl⟩ := processAccrual_minted h
  split at minted
  · obtain ⟨balance, supply⟩ := Ledger.mint_eq_ok minted
    exact ⟨accumulator, m, log, l, accrued, told, balance, supply, rfl⟩
  · rename_i nothing
    rw [Decidable.not_not] at nothing
    refine ⟨accumulator, m, log, l, accrued, told, fun x y => ?_, fun x => ?_, rfl⟩
    · rw [minted, nothing, Amount.toNat_zero, Ledger.portion_zero, Nat.add_zero]
    · rw [minted, nothing, Amount.toNat_zero, Ledger.issue_zero, Nat.add_zero]

end Arena

namespace EngineCall

variable {ctx : Context} {s s' : Arena}

/-- The batch that a call is, plain or on the wire. -/
def asBatch : EngineCall → Option (Parties × List Action)
  | .batch parties actions => some (parties, actions)
  | .encodedBatch parties kinds payloads =>
    (decodeActions kinds payloads).toOption.map fun actions => (parties, actions)
  | _ => none

/-- The swapper of a call that has one. -/
def swapper : EngineCall → Option Swapper
  | .batch parties _ => parties.swapper
  | .encodedBatch parties _ _ => parties.swapper
  | .liquidate parties _ _ => parties.swapper
  | _ => none

/-- The account that a call takes funds from, if there is one. -/
def source : EngineCall → Option Address
  | .batch parties _ => some parties.source
  | .encodedBatch parties _ _ => some parties.source
  | .liquidate parties _ _ => some parties.source
  | _ => none

/-- The parties of a call that is a batch are those of the batch. -/
theorem parties_of_asBatch {call : EngineCall} {p : Parties} {actions : List Action}
    (h : call.asBatch = some (p, actions)) :
    call.swapper = p.swapper ∧ call.source = some p.source := by
  cases call with
  | batch parties actions' =>
    cases h
    exact ⟨rfl, rfl⟩
  | encodedBatch parties kinds payloads =>
    obtain ⟨_, _, same⟩ := Option.map_eq_some_iff.mp h
    cases same
    exact ⟨rfl, rfl⟩
  | _ => cases h

/-- What an accepted call did, by the kind of call. -/
inductive Accepted (ctx : Context) (s : Arena) : EngineCall → EngineReply → Arena → Prop
  | batch {call : EngineCall} {p : Parties} {actions : List Action} {payment : Payment}
      {s' : Arena} (is : call.asBatch = some (p, actions))
      (done : Arena.processBatch ctx p actions s = .ok payment s') :
      Accepted ctx s call (.payment payment) s'
  | liquidate {p : Parties} {ids : List VaultId} {amounts : List Amount}
      {report : LiquidationReport} {e : Engine} {s' : Arena}
      (done : Engine.liquidateAll ctx ids amounts s.engine = .ok report e)
      (paid : Arena.handleRepay ctx p report.collateralToGive report.stablecoinToReceive
        { s with engine := e } = .ok () s') :
      Accepted ctx s (.liquidate p ids amounts) (.report report) s'
  | getDebtOut {id : VaultId} {amount taken : Amount} {borrowFee repayFee : UInt64} {e : Engine}
      (paid : Engine.payDebtOut ctx.now id amount borrowFee repayFee s.engine = .ok taken e) :
      Accepted ctx s (.getDebtOut id amount borrowFee repayFee) (.debtTaken taken)
        { s with engine := e }
  | accrueToTreasury {accrual : TreasuryAccrual} {s' : Arena}
      (done : Arena.processAccrual ctx s = .ok accrual s') :
      Accepted ctx s .accrueToTreasury (.accrual accrual) s'
  | upkeep {call : EngineCall} {e : Engine} (is : call.asBatch = none)
      (changed : Engine.Upkeep s.engine ctx.now e) :
      Accepted ctx s call .nothing { s with engine := e }

/-! ## Accepted calls -/

/-- An accepted call that is a batch has run it, whichever way its actions were written. -/
theorem Accepted.processBatch {call : EngineCall} {p : Parties} {actions : List Action}
    {reply : EngineReply} (h : Accepted ctx s call reply s')
    (batch : call.asBatch = some (p, actions)) :
    ∃ payment, Arena.processBatch ctx p actions s = .ok payment s' := by
  cases h with
  | batch is done =>
    cases batch.symm.trans is
    exact ⟨_, done⟩
  | upkeep is => cases batch.symm.trans is
  | _ => cases batch

/-- A call that answers nothing has run its step on the engine, and nothing else. -/
theorem quietly_eq_ok {m : Transact Engine Unit} {reply : EngineReply}
    (h : quietly m s = .ok reply s') :
    ∃ e, m s.engine = .ok () e ∧ reply = .nothing ∧ s' = { s with engine := e } := by
  unfold quietly at h
  obtain ⟨_, _, done, h⟩ := bind_eq_ok.mp h
  obtain ⟨e, ok, rfl⟩ := Arena.onEngine_eq_ok.mp done
  obtain ⟨rfl, rfl⟩ := Transact.pure_eq_ok.mp h
  exact ⟨e, ok, rfl, rfl⟩

/-- A call that moves no balance is a case of `Accepted`. -/
theorem accepted_of_quietly {m : Transact Engine Unit} {call : EngineCall} {reply : EngineReply}
    (is : call.asBatch = none)
    (upkeep : ∀ e, m s.engine = .ok () e → Engine.Upkeep s.engine ctx.now e)
    (h : quietly m s = .ok reply s') : Accepted ctx s call reply s' := by
  obtain ⟨e, ok, rfl, rfl⟩ := quietly_eq_ok h
  exact .upkeep is (upkeep e ok)

/-- An accepted call is one of the cases of `Accepted`. -/
theorem run_cases {call : EngineCall} {reply : EngineReply}
    (h : call.run ctx s = .ok reply s') : Accepted ctx s call reply s' := by
  cases call with
  | batch parties actions =>
    obtain ⟨_, _, done, h⟩ := bind_eq_ok.mp h
    obtain ⟨rfl, rfl⟩ := Transact.pure_eq_ok.mp h
    exact .batch rfl (Arena.atomically_eq_ok.mp done)
  | encodedBatch parties kinds payloads =>
    obtain ⟨_, _, done, h⟩ := bind_eq_ok.mp h
    obtain ⟨rfl, rfl⟩ := Transact.pure_eq_ok.mp h
    obtain ⟨actions, _, decoded, done⟩ := bind_eq_ok.mp done
    obtain ⟨hdecoded, rfl⟩ := Transact.liftM_eq_ok.mp decoded
    refine .batch ?_ (Arena.atomically_eq_ok.mp done)
    rw [asBatch, hdecoded]
    rfl
  | liquidate parties ids amounts =>
    obtain ⟨_, _, done, h⟩ := bind_eq_ok.mp h
    obtain ⟨rfl, rfl⟩ := Transact.pure_eq_ok.mp h
    obtain ⟨report, _, all, done⟩ := bind_eq_ok.mp (Arena.atomically_eq_ok.mp done)
    obtain ⟨e, liquidated, rfl⟩ := Arena.onEngine_eq_ok.mp all
    obtain ⟨_, _, paid, done⟩ := bind_eq_ok.mp done
    obtain ⟨rfl, rfl⟩ := Transact.pure_eq_ok.mp done
    exact .liquidate liquidated paid
  | getDebtOut id amount borrowFee repayFee =>
    obtain ⟨_, _, done, h⟩ := bind_eq_ok.mp h
    obtain ⟨rfl, rfl⟩ := Transact.pure_eq_ok.mp h
    obtain ⟨e, paid, rfl⟩ := Arena.onEngine_eq_ok.mp done
    exact .getDebtOut (Engine.getDebtOut_eq_ok paid)
  | accrueToTreasury =>
    obtain ⟨_, _, done, h⟩ := bind_eq_ok.mp h
    obtain ⟨rfl, rfl⟩ := Transact.pure_eq_ok.mp h
    exact .accrueToTreasury (Arena.atomically_eq_ok.mp done)
  | setParameter code value =>
    exact accepted_of_quietly rfl (fun _ => Engine.setParameterByCode_eq_ok) h
  | setDebtCeiling debtCeiling =>
    exact accepted_of_quietly rfl (fun _ ok => .quiet (Engine.setDebtCeiling_eq_ok ok).toQuiet) h
  | setDusts dust dustLiquidation dustCollateral =>
    exact accepted_of_quietly rfl (fun _ ok => .quiet (Engine.setDusts_eq_ok ok).toQuiet) h
  | setBoost source thresholds multipliers =>
    exact accepted_of_quietly rfl (fun _ ok => .quiet (Engine.setBoost_eq_ok ok).toQuiet) h
  | togglePause =>
    exact accepted_of_quietly rfl (fun _ ok => .quiet (Engine.togglePause_eq_ok ok).toQuiet) h
  | toggleWhitelist account =>
    exact accepted_of_quietly rfl (fun _ ok => .quiet (Engine.toggleWhitelist_eq_ok ok)) h
  | approve account id =>
    exact accepted_of_quietly rfl (fun _ ok => .quiet (Engine.approve_eq_ok ok)) h
  | setApprovalForAll operator approved =>
    exact accepted_of_quietly rfl (fun _ ok => .quiet (Engine.setApprovalForAll_eq_ok ok)) h
  | transferVault source recipient id =>
    exact accepted_of_quietly rfl (fun _ ok => .quiet (Engine.transferVault_eq_ok ok)) h

/-! ## Refused calls -/

/-- A step of the engine that leaves no trace when it fails leaves none in the arena. -/
theorem onEngine_eq_error {α : Type} {m : Transact Engine α} {f : Failure}
    (traceless : Transact.Traceless m) (h : Arena.onEngine m s = .error f s') : s' = s :=
  Transact.traceless_zoom (fun _ => rfl) traceless s f s' h

/-- Such a call leaves no trace if its step leaves none. -/
theorem quietly_eq_error {m : Transact Engine Unit} {f : Failure}
    (traceless : Transact.Traceless m) (h : quietly m s = .error f s') : s' = s := by
  unfold quietly at h
  rcases Transact.bind_eq_error.mp h with h | ⟨_, _, _, h⟩
  · exact onEngine_eq_error traceless h
  · cases h

/-- A refused call left nothing but what its swapper was asked for. -/
theorem run_eq_error {call : EngineCall} {f : Failure} (h : call.run ctx s = .error f s') :
    s' = { s with requests := s'.requests } := by
  -- a trace of nothing at all is in particular one of requests alone
  have nothing : s' = s → s' = { s with requests := s'.requests } := by
    rintro rfl
    rfl
  cases call with
  | batch parties actions =>
    rcases Transact.bind_eq_error.mp h with h | ⟨_, _, _, h⟩
    · exact Arena.atomically_eq_error (Arena.appends_processBatch ctx parties actions) h
    · cases h
  | encodedBatch parties kinds payloads =>
    rcases Transact.bind_eq_error.mp h with h | ⟨_, _, _, h⟩
    · rcases Transact.bind_eq_error.mp h with h | ⟨actions, _, decoded, h⟩
      · exact nothing (Transact.liftM_eq_error.mp h).2.symm
      · obtain ⟨_, rfl⟩ := Transact.liftM_eq_ok.mp decoded
        exact Arena.atomically_eq_error (Arena.appends_processBatch ctx parties actions) h
    · cases h
  | liquidate parties ids amounts =>
    rcases Transact.bind_eq_error.mp h with h | ⟨_, _, _, h⟩
    · exact Arena.atomically_eq_error (Arena.appends_liquidate ctx parties ids amounts) h
    · cases h
  | getDebtOut id amount borrowFee repayFee =>
    rcases Transact.bind_eq_error.mp h with h | ⟨_, _, _, h⟩
    · exact nothing (onEngine_eq_error (Engine.traceless_getDebtOut _ _ _ _ _ _ _) h)
    · cases h
  | accrueToTreasury =>
    rcases Transact.bind_eq_error.mp h with h | ⟨_, _, _, h⟩
    · exact Arena.atomically_eq_error (Arena.appends_processAccrual ctx) h
    · cases h
  | setParameter code value =>
    exact nothing (quietly_eq_error (Engine.traceless_setParameterByCode ctx code value) h)
  | setDebtCeiling debtCeiling =>
    exact nothing (quietly_eq_error (Engine.traceless_setDebtCeiling ctx debtCeiling) h)
  | setDusts dust dustLiquidation dustCollateral =>
    exact nothing (quietly_eq_error (Engine.traceless_setDusts ctx _ _ _) h)
  | setBoost source thresholds multipliers =>
    exact nothing (quietly_eq_error (Engine.traceless_setBoost ctx _ _ _) h)
  | togglePause => exact nothing (quietly_eq_error (Engine.traceless_togglePause ctx) h)
  | toggleWhitelist account =>
    exact nothing (quietly_eq_error (Engine.traceless_toggleWhitelist ctx account) h)
  | approve account id => exact nothing (quietly_eq_error (Engine.traceless_approve ctx _ _) h)
  | setApprovalForAll operator approved =>
    exact nothing (quietly_eq_error (Engine.traceless_setApprovalForAll ctx _ _) h)
  | transferVault source recipient id =>
    exact nothing (quietly_eq_error (Engine.traceless_transferVault ctx _ _ _) h)

end EngineCall

end CollateralDebt
