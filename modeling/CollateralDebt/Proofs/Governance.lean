import CollateralDebt.Proofs.Configuration
import CollateralDebt.Proofs.World.Trace

/-!
# Who governs the settings

The settings of an engine are written by setters alone, and each setter asks for a role before it
writes: all but one for a governor or a guardian of the treasury that the engine is connected to,
and the handing over for the treasury itself. Batches, liquidations, settlements and the calls of
owners read the settings and leave them as they are, on the called engine and on every other one.

## What is proved

- `Engine.bylaws`, `Engine.lasting_bylaws`: the settings that are governed, and that nothing but a
  setter decides them;
- `EngineCall.bylaws_run`: an accepted call of an outsider leaves them;
- `World.bylaws_next`: so does every call of an outsider, accepted or refused;
- `configuration_consistent`: settings go together in every reachable world, engines stay what they
  are, and outsiders change no settings.
-/

namespace CollateralDebt

open Transact (bind_eq_ok)

namespace Engine

/-- The settings that are governed: the parameters, the boost curve, whether the engine is paused,
who is listed, and the treasury. -/
def bylaws (e : Engine) : Parameters × BoostCurve × Bool × KeySet Address × Address :=
  (e.state.params, e.state.boostCurve, e.state.paused, e.state.registry.whitelist,
    e.state.treasury)

/-- Neither vaults nor bookings decide what is governed. -/
theorem lasting_bylaws : Lasting bylaws where
  framed same listed := by
    unfold bylaws
    rw [listed]
    exact congrArg (fun f => (f.1.params, f.1.boostCurve, f.1.paused, _, f.1.treasury)) same
  accrued booked := by
    unfold bylaws
    rw [booked.state]
  netted _ _ _ _ := rfl

/-! ## Calls of owners -/

section Owners

variable {ctx : Context} {e e' : Engine} {u : Unit}

/-- Owners can approve accounts, and govern nothing by it. -/
theorem bylaws_approve {account : Address} {id : VaultId}
    (h : approve ctx account id e = .ok u e') : e'.bylaws = e.bylaws := by
  simp only [approve, bind_eq_ok, getState_eq_ok, Transact.liftM_eq_ok, Transact.require_eq_ok,
    modifyRegistry_eq_ok, emit_eq_ok] at h
  obtain ⟨_, _, ⟨rfl, rfl⟩, _, _, ⟨_, rfl⟩, _, _, ⟨_, rfl⟩, _, _, ⟨_, rfl⟩, _, _, rfl, rfl⟩ := h
  rfl

/-- Nor by naming operators. -/
theorem bylaws_setApprovalForAll {operator : Address} {approved : Bool}
    (h : setApprovalForAll ctx operator approved e = .ok u e') : e'.bylaws = e.bylaws := by
  simp only [setApprovalForAll, bind_eq_ok, Transact.require_eq_ok, modifyRegistry_eq_ok,
    emit_eq_ok] at h
  obtain ⟨_, _, ⟨_, rfl⟩, _, _, ⟨_, rfl⟩, _, _, rfl, rfl⟩ := h
  rfl

/-- Nor by handing their vaults over. -/
theorem bylaws_transferVault {source recipient : Address} {id : VaultId}
    (h : transferVault ctx source recipient id e = .ok u e') : e'.bylaws = e.bylaws := by
  simp only [transferVault, bind_eq_ok, requireMayAct_eq_ok, getState_eq_ok, Transact.liftM_eq_ok,
    Transact.require_eq_ok, modifyRegistry_eq_ok, emit_eq_ok] at h
  obtain ⟨_, _, ⟨_, rfl⟩, _, _, ⟨rfl, rfl⟩, owner, _, ⟨_, rfl⟩, _, _, ⟨_, rfl⟩, _, _, ⟨_, rfl⟩, _,
    _, listed, _, _, rfl, rfl⟩ := h
  cases requireWhitelisted_eq_ok listed
  unfold bylaws
  simp only [Registry.whitelist_move]

/-- Announcing another price source writes nothing but an event. -/
theorem bylaws_setOracle (h : setOracle ctx e = .ok u e') : e'.bylaws = e.bylaws := by
  simp only [setOracle, bind_eq_ok, requireGovernor_eq_ok, emit_eq_ok] at h
  obtain ⟨_, _, ⟨_, rfl⟩, rfl⟩ := h
  rfl

end Owners

/-! ## Setters -/

section Setters

variable {β : Type} {ctx : Context} {e e' : Engine} {b : β}

/-- What starts by asking for a governor or a guardian is accepted from nobody else. -/
theorem governs_of_requireGovernorOrGuardian {m : Unit → Transact Engine β}
    (h : (requireGovernorOrGuardian ctx >>= m) e = .ok b e') :
    ctx.treasury.isGovernorOrGuardian ctx.caller = true := by
  obtain ⟨_, _, asked, _⟩ := bind_eq_ok.mp h
  exact (requireGovernorOrGuardian_eq_ok.mp asked).1

/-- Governors are among the governors and guardians. -/
theorem governs_of_requireGovernor {m : Unit → Transact Engine β}
    (h : (requireGovernor ctx >>= m) e = .ok b e') :
    ctx.treasury.isGovernorOrGuardian ctx.caller = true := by
  obtain ⟨_, _, asked, _⟩ := bind_eq_ok.mp h
  have governs := (requireGovernor_eq_ok.mp asked).1
  unfold Treasury.isGovernor at governs
  unfold Treasury.isGovernorOrGuardian
  rw [governs, Bool.true_or]

/-- Only those who govern or guard set parameters. -/
theorem governs_of_setParameterByCode {code : String} {value : UInt64} {u : Unit}
    (h : setParameterByCode ctx code value e = .ok u e') :
    ctx.treasury.isGovernorOrGuardian ctx.caller = true := by
  obtain ⟨_, _, _, set⟩ := bind_eq_ok.mp h
  exact governs_of_requireGovernorOrGuardian set

end Setters

end Engine

/-! ## Calls on engines -/

/-- An accepted call of an account that neither governs nor guards leaves what is governed, on all
engines within its reach. -/
theorem EngineCall.bylaws_run {ctx : Context} {s s' : Arena} {call : EngineCall}
    {reply : EngineReply} (hs : s.Exact)
    (outsider : ctx.treasury.isGovernorOrGuardian ctx.caller = false)
    (h : call.run ctx s = .ok reply s') :
    s'.engines.map Engine.bylaws = s.engines.map Engine.bylaws := by
  have denied (governs : ctx.treasury.isGovernorOrGuardian ctx.caller = true) :
      s'.engines.map Engine.bylaws = s.engines.map Engine.bylaws := by
    cases outsider.symm.trans governs
  rcases (run_cases h).lasting Engine.lasting_bylaws hs with same | ⟨e, rfl, _, _⟩
  · exact same
  -- what answers nothing is a step of the called engine alone
  have alone {m : Transact Engine Unit} (ran : quietly m s = .ok .nothing s')
      (kept : ∀ e, m s.engine = .ok () e → e.bylaws = s.engine.bylaws) :
      s'.engines.map Engine.bylaws = s.engines.map Engine.bylaws := by
    obtain ⟨e, done, -, rfl⟩ := quietly_eq_ok ran
    exact Arena.lasting_engine (kept e done)
  cases call with
  | batch | encodedBatch | liquidate | getDebtOut | accrueToTreasury =>
    obtain ⟨_, _, _, answer⟩ := bind_eq_ok.mp h
    cases (Transact.pure_eq_ok.mp answer).1
  | setParameter code value =>
    obtain ⟨_, done, _⟩ := quietly_eq_ok h
    exact denied (Engine.governs_of_setParameterByCode done)
  | setDebtCeiling | setBoost | togglePause =>
    obtain ⟨_, done, _⟩ := quietly_eq_ok h
    exact denied (Engine.governs_of_requireGovernorOrGuardian done)
  | setDusts | toggleWhitelist =>
    obtain ⟨_, done, _⟩ := quietly_eq_ok h
    exact denied (Engine.governs_of_requireGovernor done)
  | approve account id => exact alone h fun _ => Engine.bylaws_approve
  | setApprovalForAll operator approved => exact alone h fun _ => Engine.bylaws_setApprovalForAll
  | transferVault source recipient id => exact alone h fun _ => Engine.bylaws_transferVault

namespace World

variable {w : World}

/-! ## Outsiders -/

/-- Whether an account governs or guards the treasury that the engine at a place is connected to. -/
def governs (w : World) (place : Nat) (account : Address) : Bool :=
  (w.seats[place]?).any fun seat =>
    (w.treasuries[seat.treasury]?).any (·.isGovernorOrGuardian account)

/-- A call that is no business of those who run an engine: it is no call on an engine at all, or it
is made by an account that neither governs nor guards the called engine, and that is not its
treasury where the engine is handed over. -/
def Outside (w : World) : Call → Prop
  | .engine place caller _ _ _ => w.governs place caller = false
  | .setOracle place caller _ _ => w.governs place caller = false
  | .setTreasury place caller _ _ =>
    w.governs place caller = false ∧ ∀ e ∈ engine? w.seats place, caller ≠ e.state.treasury
  | _ => True

instance (w : World) : DecidablePred w.Outside
  | .engine place caller _ _ _ => inferInstanceAs (Decidable (w.governs place caller = false))
  | .setOracle place caller _ _ => inferInstanceAs (Decidable (w.governs place caller = false))
  | .setTreasury place caller _ _ => inferInstanceAs (Decidable (w.governs place caller = false ∧
      ∀ e ∈ engine? w.seats place, caller ≠ e.state.treasury))
  | .ledger .. | .openTreasury .. | .treasury .. | .addMinter .. | .openFeed .. | .feed ..
  | .deploy .. => inferInstanceAs (Decidable True)

/-- An engine is called with the treasury that it is connected to. -/
theorem treasury_of_context {seat : Seat} {caller : Address} {now : Timestamp} {ctx : Context}
    (h : w.context seat caller now = .ok ctx) :
    w.treasuries[seat.treasury]? = some ctx.treasury ∧ ctx.caller = caller := by
  simp only [context, Outcome.bind_eq_ok, atPlace_eq_ok, Outcome.pure_eq_ok] at h
  obtain ⟨treasury, behind, feed, _, rfl⟩ := h
  exact ⟨behind, rfl⟩

/-- Outsiders are outsiders to the treasury that the engine is called with. -/
theorem outsider_of_context {place : Nat} {seat : Seat} {caller : Address} {now : Timestamp}
    {ctx : Context} (outside : w.governs place caller = false) (found : w.seats[place]? = some seat)
    (h : w.context seat caller now = .ok ctx) :
    ctx.treasury.isGovernorOrGuardian ctx.caller = false := by
  obtain ⟨behind, rfl⟩ := treasury_of_context h
  unfold governs at outside
  rw [found, Option.any_some, behind, Option.any_some] at outside
  exact outside

/-- The governed settings of all engines, by their places. -/
def bylaws (w : World) : List (Parameters × BoostCurve × Bool × KeySet Address × Address) :=
  w.seats.map fun seat => seat.engine.bylaws

/-- A new connection changes what is governed at most as its step of the engine does. -/
theorem bylaws_connect {α : Type} {place : Nat} (check : World → Outcome α) {caller : Address}
    {now : Timestamp} {m : α → Context → Transact Engine Unit} (connection : Seat → Seat)
    (keeps : ∀ seat, (connection seat).engine = seat.engine)
    (traceless : ∀ a ctx, Transact.Traceless (m a ctx))
    (step : ∀ a seat ctx e, w.seats[place]? = some seat → w.context seat caller now = .ok ctx →
      m a ctx seat.engine = .ok () e → e.bylaws = seat.engine.bylaws) :
    ((connect check place caller now m connection).after w).bylaws = w.bylaws := by
  rcases connect_cases traceless w with ⟨a, seat, ctx, e, found, circumstances, done, same⟩ | same
  · rw [same]
    -- the new connection changes the seat, and not the engine that sits there
    have read := congrArg (List.map Engine.bylaws)
      (map_engine_modify keeps (putEngine w.seats place e) place)
    rw [List.map_map, List.map_map] at read
    exact read.trans
      (map_putEngine (engine?_of_seat found) (step a seat ctx e found circumstances done))
  · rw [same]

/-- A call of an outsider, accepted or refused, leaves what is governed on every engine; it may
found another one. -/
theorem bylaws_next (hw : ∀ seat ∈ w.seats, seat.engine.Exact) {call : Call}
    (outside : w.Outside call) : ∃ founded, (w.next call).bylaws = w.bylaws ++ founded := by
  have still (same : (w.next call).bylaws = w.bylaws) :
      ∃ founded, (w.next call).bylaws = w.bylaws ++ founded := ⟨[], by rw [same, List.append_nil]⟩
  cases call with
  | engine place caller now remotes call =>
    apply still
    unfold bylaws
    cases answer : callEngine place caller now remotes call w with
    | ok reply w' =>
      rw [next_engine answer]
      obtain ⟨seat, ctx, s, s', found, circumstances, stage, ran, rfl⟩ := callEngine_eq_ok answer
      exact map_putEngines (nodup_places _ _) stage.engines (EngineCall.bylaws_run (stage.exact hw)
        (outsider_of_context outside found circumstances) ran)
    | error f w' => rw [(beside_next_engine answer).seats]
  | setOracle place caller now feedPlace =>
    exact still (bylaws_connect (fun w => atPlace w.feeds feedPlace)
      (fun seat => { seat with feed := feedPlace }) (fun _ => rfl)
      (fun _ => Engine.traceless_setOracle) fun _ _ _ _ _ _ => Engine.bylaws_setOracle)
  | setTreasury place caller now treasuryPlace =>
    refine still (bylaws_connect (fun w => atPlace w.treasuries treasuryPlace)
      (fun seat => { seat with treasury := treasuryPlace }) (fun _ => rfl)
      (fun successor ctx => Engine.traceless_setTreasury ctx successor)
      fun successor seat ctx e found circumstances done => ?_)
    -- the treasury itself is no outsider here
    obtain ⟨_, _, asked, _⟩ := bind_eq_ok.mp done
    have treasury := (Engine.requireTreasury_eq_ok.mp asked).1
    rw [(treasury_of_context circumstances).2] at treasury
    exact absurd treasury (outside.2 seat.engine (engine?_of_seat found))
  | deploy config treasuryPlace feedPlace now =>
    rcases seats_next_deploy w config treasuryPlace feedPlace now with
      ⟨_, _, e, _, _, seats⟩ | seats
    · unfold bylaws
      rw [seats, List.map_append]
      exact ⟨_, rfl⟩
    · unfold bylaws
      rw [seats]
      exact ⟨[], (List.append_nil _).symm⟩
  | _ =>
    apply still
    unfold bylaws
    rw [seats_next w rfl]

/-! ## The settings -/

end World

/-- An engine whose settings go together: the checks of parameters and boost curves would accept
them again, the curve starts with the base boost, and one whole unit of collateral is ten to the
power of its decimals, of which there are at most 27. -/
structure Engine.Configured (e : Engine) : Prop where
  validated : e.state.params.validate = .ok ()
  accepted : BoostCurve.ofPoints e.state.boostCurve.thresholds e.state.boostCurve.multipliers =
    .ok e.state.boostCurve
  baseBoost : e.state.boostCurve.baseBoost = e.state.params.baseBoost
  decimals : e.state.collateralDecimals.toNat ≤ 27
  unit : e.state.collateralUnit.toNat = 10 ^ e.state.collateralDecimals.toNat

/-- A fit engine is configured as its checks ask for. -/
theorem Engine.Fit.configured {e : Engine} (h : e.Fit) : e.Configured where
  validated := Parameters.validate_eq_ok.mpr h.params
  accepted := h.curve
  baseBoost := h.baseBoost.symm
  decimals := h.decimals
  unit := by
    obtain ⟨unit, known, value⟩ := Amount.pow10_of_le h.decimals
    cases h.unit.symm.trans known
    exact value

namespace World

/-- What is read off all engines alike, founded ones apart, is read off each. -/
theorem exists_seat_of_map {α : Type} {f : Engine → α} {seats seats' : List Seat} {founded : List α}
    (same : (seats'.map fun seat => f seat.engine) =
      (seats.map fun seat => f seat.engine) ++ founded)
    {i : Nat} {seat : Seat} (found : seats[i]? = some seat) :
    ∃ seat', seats'[i]? = some seat' ∧ f seat'.engine = f seat.engine := by
  have small : i < (seats.map fun seat => f seat.engine).length := by
    rw [List.length_map]
    exact (List.getElem?_eq_some_iff.mp found).1
  have read : (seats'.map fun seat => f seat.engine)[i]? = some (f seat.engine) := by
    rw [same, List.getElem?_append_left small, List.getElem?_map, found]
    rfl
  rw [List.getElem?_map] at read
  obtain ⟨seat', there, value⟩ := Option.map_eq_some_iff.mp read
  exact ⟨seat', there, value⟩

/-- The configuration is consistent. In every reachable world the settings of every engine go
together; whatever is called from there on, every engine keeps its place, its address, its name, its
assets and their precision; and a call of an outsider, accepted or refused, leaves the parameters,
the boost curve, the pause, the whitelist and the treasury of every engine. -/
theorem configuration_consistent {w : World} (h : w.Reachable) :
    (∀ seat ∈ w.seats, seat.engine.Configured) ∧
    (∀ (calls : List Call) (i : Nat) (seat : Seat), w.seats[i]? = some seat →
      ∃ seat' : Seat, (w.run calls).seats[i]? = some seat' ∧
        seat'.engine.identity = seat.engine.identity) ∧
    ∀ call, w.Outside call → ∀ (i : Nat) (seat : Seat), w.seats[i]? = some seat →
      ∃ seat' : Seat, (w.next call).seats[i]? = some seat' ∧
        seat'.engine.bylaws = seat.engine.bylaws := by
  refine ⟨fun seat mem => (h.fit seat mem).configured, fun calls i seat found => ?_,
    fun call outside i seat found => ?_⟩
  · obtain ⟨founded, same⟩ := identities_run calls h.exact
    exact exists_seat_of_map same found
  · obtain ⟨founded, same⟩ := bylaws_next h.exact outside
    exact exists_seat_of_map same found

/-- The small market under other settings: a higher surcharge, other thresholds of dust, and a curve
of two points. -/
def reformed : List Call := smallMarket ++ [
  .engine 0 (account 3) 1 [] (.setParameter "LS" 950000000),
  .engine 0 (account 3) 1 [] (.setDusts (tenths 5) (tenths 10) (tenths 20)),
  .engine 0 (account 3) 1 [] (.setBoost none [.zero, tenths 10] [2000000000, 3000000000])]

/-- An attempt of the borrower to have a higher collateral factor. -/
def meddling : Call := .engine 0 (account 5) 2 [] (.setParameter "CF" 950000000)

set_option maxRecDepth 10000 in
/-- The borrower is no governor, so the reformed market stays as it was reformed. -/
theorem configuration_consistent_reformed :
    ∃ seat seat' : Seat, (history reformed).seats[0]? = some seat ∧
      (history reformed).Outside meddling ∧
      seat.engine.state.params.liquidationSurcharge = 950000000 ∧
      seat.engine.state.params.baseBoost = 2000000000 ∧ seat.engine.Configured ∧
      ((history reformed).next meddling).seats[0]? = some seat' ∧
      seat'.engine.identity = seat.engine.identity ∧
      seat'.engine.bylaws = seat.engine.bylaws := by
  have outside : (history reformed).Outside meddling := by decide +kernel
  have computed : (match (history reformed).seats[0]? with
    | some seat => decide (seat.engine.state.params.liquidationSurcharge = 950000000 ∧
        seat.engine.state.params.baseBoost = 2000000000)
    | none => false) = true := by decide +kernel
  split at computed
  · rename_i seat found
    obtain ⟨surcharge, boost⟩ := of_decide_eq_true computed
    obtain ⟨configured, lasting, kept⟩ := configuration_consistent ⟨reformed, rfl⟩
    obtain ⟨seat', there, bylaws⟩ := kept meddling outside 0 seat found
    obtain ⟨seat'', there', identity⟩ := lasting [meddling] 0 seat found
    rw [run_singleton, there] at there'
    cases there'
    exact ⟨seat, seat', found, outside, surcharge, boost,
      configured seat (List.mem_of_getElem? found), there, identity, bylaws⟩
  · cases computed

end World

end CollateralDebt
