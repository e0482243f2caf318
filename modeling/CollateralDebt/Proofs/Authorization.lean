import CollateralDebt.Proofs.Engine.Rights
import CollateralDebt.Proofs.World.Run

/-!
# Only authorized accounts weaken a vault

A vault is weakened if it is removed, loses collateral, gains debt, or changes its owner or its
approved account. Many calls come close to vaults of others: anybody may deposit and repay, debt is
taken out of vaults of this and of other engines, a batch creates and closes vaults and names the
newest one by 0, and some actions ask for no rights at all. Still, whoever weakens a vault was its
owner, its approved account or an operator of its owner when the call began.

The one exception is liquidation. It leaves owner and approval alone and takes on no debt, and it
reaches a vault only if the vault was unhealthy at the price that was read and at the accumulator of
the moment.

## What is proved

- `Engine.spared_or_foreclosed`: what a liquidation does to a vault;
- `EngineCall.guarded`, `EngineCall.spared_or_foreclosed`: what a call does to the called engine;
- `EngineCall.Accepted.spared_remotes`: what a call does to the other engines;
- `World.excused_of_weakened`: any accepted call in a reachable world.
-/

namespace CollateralDebt

open Transact (bind_eq_ok)

/-! ## Liquidations -/

namespace Engine

/-- A vault that was liquidated: only its balances have changed, its debt is no more than it was,
and it was unhealthy at the price and at the accumulator of the moment. -/
structure Foreclosed (price : Outcome Amount) (now : Timestamp) (id : VaultId) (e e' : Engine) :
    Prop where
  title : e'.state.registry.title id = e.state.registry.title id
  debt : ∃ v w, e.vault? id = some v ∧ e'.vault? id = some w ∧ w.normalizedDebt ≤ v.normalizedDebt
  unhealthy : ∃ v p accumulator health, e.vault? id = some v ∧ price = .ok p ∧
    e.currentAccumulator now = .ok accumulator ∧
    healthAt e.state v p accumulator = .ok health ∧ health.toNat < ratioOne

/-- The health of a vault depends on the frame of the engine and on the vault. -/
theorem healthAt_congr {e e' : Engine} (h : e'.frame = e.frame) (v : Vault)
    (price accumulator : Amount) :
    healthAt e'.state v price accumulator = healthAt e.state v price accumulator := by
  have framed (e : Engine) :
      healthAt e.state v price accumulator = healthAt e.frame.1 v price accumulator := rfl
  rw [framed e', framed e, h]

/-- How far a vault has got while the vaults `ids` of a round were processed: it is as it was, or it
was one of them, was unhealthy at the start, and owes no more. -/
def Fared (price accumulator : Amount) (m : Engine) (ids : List VaultId) (e : Engine) : Prop :=
  ∀ id v, m.vault? id = some v → e.vault? id = some v ∨
    id ∈ ids ∧ (∃ w, e.vault? id = some w ∧ w.normalizedDebt ≤ v.normalizedDebt) ∧
      ∃ health, healthAt m.state v price accumulator = .ok health ∧ ¬ isSolvent health

variable {price accumulator : Amount} {m e e' : Engine} {ids : List VaultId}

/-- The next vault of a round: the first time that it is liquidated it is as it was at the start. -/
theorem Fared.next {ctx : Context} {report report' : LiquidationReport} {id : VaultId}
    {amount : Amount} (fared : Fared report.price report.accumulator m ids e) (exact : e.Exact)
    (frame : e.frame = m.frame)
    (next : liquidateNext ctx report (id, amount) e = .ok report' e') :
    Fared report.price report.accumulator m (ids ++ [id]) e' := by
  intro i v found
  rcases liquidateNext_eq_ok exact next with ⟨outcome, done, _⟩ | ⟨_, _, rfl, _⟩
  · obtain ⟨u, w, _, revised, _, _, _, _, liquidated⟩ := liquidateVault_eq_ok done
    by_cases here : i = id
    · subst here
      have now' : e'.vault? i = some w := by
        rw [revised.vault?, if_pos rfl]
      have among : i ∈ ids ++ [i] := List.mem_append_right _ (List.mem_singleton.mpr rfl)
      rcases fared i v found with same | ⟨_, ⟨u', before, less⟩, unhealthy⟩
      · cases same.symm.trans revised.found
        obtain ⟨health, known, insolvent⟩ := unhealthy_of_liquidateVault done revised.found
        rw [healthAt_congr frame] at known
        exact .inr ⟨among, ⟨w, now', liquidated.debt_le⟩, health, known, insolvent⟩
      · cases before.symm.trans revised.found
        exact .inr ⟨among, ⟨w, now', Nat.le_trans liquidated.debt_le less⟩, unhealthy⟩
    · rw [revised.vault?, if_neg here]
      exact (fared i v found).imp_right fun h => ⟨List.mem_append_left _ h.1, h.2⟩
  · exact (fared i v found).imp_right fun h => ⟨List.mem_append_left _ h.1, h.2⟩

/-- What a round keeps: no title changes, and every vault fares as `Fared` says. -/
theorem fared_of_foldlM {ctx : Context} {report : LiquidationReport}
    {entries : List (VaultId × Amount)} (exact : m.Exact)
    (folded : entries.foldlM (liquidateNext ctx) ⟨price, accumulator, .zero, .zero, .zero, [], []⟩ m
      = .ok report e) :
    (∀ id, e.state.registry.title id = m.state.registry.title id) ∧
      Fared price accumulator m (entries.map (·.1)) e := by
  have kept := Transact.foldlM_induction
    (P := fun done (report : LiquidationReport) x => x.Exact ∧ x.frame = m.frame ∧
      (report.price = price ∧ report.accumulator = accumulator) ∧
      (∀ id, x.state.registry.title id = m.state.registry.title id) ∧
      Fared price accumulator m (done.map (·.1)) x)
    (fun done report entry x report' x' sofar next => ?_)
    ⟨exact, rfl, ⟨rfl, rfl⟩, fun _ => rfl, fun _ _ found => .inl found⟩ folded
  · exact kept.2.2.2
  · obtain ⟨exact, frame, ⟨rfl, rfl⟩, titles, fared⟩ := sofar
    refine ⟨exact.liquidatedNext next, (frame_liquidatedNext exact next).trans frame, ?_, ?_, ?_⟩
    · rcases liquidateNext_eq_ok exact next with ⟨_, _, _, _, _, same⟩ | ⟨_, _, _, same⟩
      · rw [same]
        exact ⟨rfl, rfl⟩
      · rw [same]
        exact ⟨rfl, rfl⟩
    · rcases liquidateNext_eq_ok exact next with ⟨_, done, _⟩ | ⟨_, _, rfl, _⟩
      · obtain ⟨_, _, _, revised, _⟩ := liquidateVault_eq_ok done
        exact fun id => (revised.title id).trans (titles id)
      · exact titles
    · rw [List.map_append]
      exact fared.next exact frame next

/-- A liquidation spares a vault or forecloses on it. -/
theorem spared_or_foreclosed {ctx : Context} {ids : List VaultId} {amounts : List Amount}
    {report : LiquidationReport} (exact : e.Exact)
    (all : liquidateAll ctx ids amounts e = .ok report e') {id : VaultId} {v : Vault}
    (found : e.vault? id = some v) :
    Spared id e e' ∨ id ∈ ids ∧ Foreclosed ctx.price ctx.now id e e' := by
  obtain ⟨accumulator, p, m, m', _, surplus, badDebt, booked, hprice, folded, _, _, _, _, _, rfl⟩ :=
    liquidateAll_eq_ok all
  obtain ⟨titles, fared⟩ := fared_of_foldlM (exact.accrued booked) folded
  have title : m'.state.registry.title id = e.state.registry.title id := by
    rw [titles, booked.registry]
  rcases fared id v ((booked.vault? id).trans found) with same | ⟨among, ⟨w, after, less⟩, health,
    known, insolvent⟩
  · exact .inl (.of_same (same.trans found.symm) title)
  · obtain ⟨_, entry, rfl⟩ := List.mem_map.mp among
    refine .inr ⟨(List.of_mem_zip entry).1, title, ⟨v, w, found, after, less⟩, v, p, accumulator,
      health, found, hprice, booked.current, ?_, ?_⟩
    · rw [booked.state] at known
      exact known
    · exact Nat.lt_of_not_le fun solvent => insolvent (decide_eq_true solvent)

end Engine

/-! ## Batches -/

namespace Arena

/-- A batch is guarded, up to its settlement. -/
theorem guarded_gather {ctx : Context} {actions : List Action} {tally : Tally} {s s' : Arena}
    (exact : s.Exact) (h : gather ctx actions s = .ok tally s') :
    Engine.Guarded ctx.caller s.engine s'.engine := by
  obtain ⟨accumulator, m, booked, folded, _⟩ := gather_eq_ok h
  have kept := Transact.foldlM_induction
    (P := fun _ _ (x : Arena) => x.Exact ∧
      x.engine.state.registry.operators = s.engine.state.registry.operators ∧
      Engine.Guarded ctx.caller s.engine x.engine)
    (fun _ t action x t' x' sofar ok => ?_) ⟨?_, ?_, ?_⟩ folded
  · exact kept.2.2
  · obtain ⟨exact, operators, guarded⟩ := sofar
    have applied := applyAction_cases ok
    exact ⟨applied.exact exact, applied.operators.trans operators,
      guarded.trans operators (applied.guarded exact.engine.numbered fun _ =>
        mayAct_of_applyAction ok)⟩
  · exact ⟨exact.engine.accrued booked, exact.remotes⟩
  · show m.state.registry.operators = _
    rw [booked.registry]
  · exact .of_registry booked.registry

/-- The other engines are spared by an action. -/
theorem Applied.spared_remotes {accumulator : Amount} {s s' : Arena} {t t' : Tally}
    {action : Action} (h : Applied accumulator s t action t' s') :
    List.Forall₂ (fun e e' => ∀ id, Engine.Spared id e e') (s.remotes.map (·.engine))
      (s'.remotes.map (·.engine)) := by
  cases h with
  | fetchDebt i r now borrowFee repayFee g taken change v w e t' other place paid =>
    exact forall₂_remotes_set (fun e id => .refl id e) place (Engine.spared_of_payDebtOut paid)
  | _ => exact List.forall₂_same.mpr fun e _ id => .refl id e

end Arena

/-! ## Calls on an engine -/

namespace EngineCall

variable {ctx : Context} {s s' : Arena} {call : EngineCall} {reply : EngineReply}

/-- An accepted batch is guarded: its settlement leaves the engine alone. -/
theorem guarded_processBatch {p : Parties} {actions : List Action} {payment : Payment}
    (h : Arena.processBatch ctx p actions s = .ok payment s') (exact : s.Exact) :
    Engine.Guarded ctx.caller s.engine s'.engine := by
  obtain ⟨tally, s₁, gathered, rfl, settled⟩ := Arena.processBatch_eq_ok h
  rw [((Arena.keeps_settle _ _ _ _).1 _ _ settled).engine]
  exact Arena.guarded_gather exact gathered

/-- A call that concerns the engine alone is guarded if its step is. -/
theorem guarded_of_quietly {m : Transact Engine Unit}
    (guarded : ∀ e, m s.engine = .ok () e → Engine.Guarded ctx.caller s.engine e)
    (h : quietly m s = .ok reply s') : Engine.Guarded ctx.caller s.engine s'.engine := by
  obtain ⟨e, ok, _, rfl⟩ := quietly_eq_ok h
  exact guarded e ok

/-- An accepted call is guarded, unless it is a liquidation. -/
theorem guarded (h : call.run ctx s = .ok reply s') (exact : s.Exact)
    (other : ¬ ∃ p ids amounts, call = .liquidate p ids amounts) :
    Engine.Guarded ctx.caller s.engine s'.engine := by
  cases call with
  | batch parties actions =>
    obtain ⟨_, done⟩ := (run_cases h).processBatch rfl
    exact guarded_processBatch done exact
  | encodedBatch parties kinds payloads =>
    obtain ⟨_, _, _, answered⟩ := bind_eq_ok.mp h
    obtain ⟨rfl, -⟩ := Transact.pure_eq_ok.mp answered
    cases run_cases h with
    | batch is done => exact guarded_processBatch done exact
  | liquidate parties ids amounts => exact absurd ⟨parties, ids, amounts, rfl⟩ other
  | getDebtOut id amount borrowFee repayFee =>
    obtain ⟨_, _, _, answered⟩ := bind_eq_ok.mp h
    obtain ⟨rfl, -⟩ := Transact.pure_eq_ok.mp answered
    cases run_cases h with
    | getDebtOut paid => exact .of_spared (Engine.spared_of_payDebtOut paid)
  | accrueToTreasury =>
    obtain ⟨_, _, _, answered⟩ := bind_eq_ok.mp h
    obtain ⟨rfl, -⟩ := Transact.pure_eq_ok.mp answered
    cases run_cases h with
    | accrueToTreasury done =>
      obtain ⟨_, m, _, _, booked, _, _, _, rfl⟩ := Arena.processAccrual_eq_ok done
      exact .of_registry booked.registry
  | setParameter code value =>
    exact guarded_of_quietly (fun _ ok => .of_registry (Engine.registry_setParameterByCode ok)) h
  | setDebtCeiling debtCeiling =>
    exact guarded_of_quietly (fun _ ok => .of_registry (Engine.setDebtCeiling_eq_ok ok).registry) h
  | setDusts dust dustLiquidation dustCollateral =>
    exact guarded_of_quietly (fun _ ok => .of_registry (Engine.setDusts_eq_ok ok).registry) h
  | setBoost source thresholds multipliers =>
    exact guarded_of_quietly (fun _ ok => .of_registry (Engine.setBoost_eq_ok ok).registry) h
  | togglePause =>
    exact guarded_of_quietly (fun _ ok => .of_registry (Engine.togglePause_eq_ok ok).registry) h
  | toggleWhitelist account =>
    exact guarded_of_quietly (fun _ ok => Engine.guarded_toggleWhitelist ok) h
  | approve account id => exact guarded_of_quietly (fun _ ok => Engine.guarded_approve ok) h
  | setApprovalForAll operator approved =>
    exact guarded_of_quietly (fun _ ok => Engine.guarded_setApprovalForAll ok) h
  | transferVault source recipient id =>
    exact guarded_of_quietly (fun _ ok => Engine.guarded_transferVault ok) h

/-- An accepted liquidation spares a vault or forecloses on it. -/
theorem spared_or_foreclosed {p : Parties} {ids : List VaultId} {amounts : List Amount}
    (h : (EngineCall.liquidate p ids amounts).run ctx s = .ok reply s') (exact : s.Exact)
    {id : VaultId} {v : Vault} (found : s.engine.vault? id = some v) :
    Engine.Spared id s.engine s'.engine ∨
      id ∈ ids ∧ Engine.Foreclosed ctx.price ctx.now id s.engine s'.engine := by
  obtain ⟨_, _, _, answered⟩ := bind_eq_ok.mp h
  obtain ⟨rfl, -⟩ := Transact.pure_eq_ok.mp answered
  cases run_cases h with
  | liquidate done paid =>
    rw [((Arena.keeps_handleRepay _ _ _ _ _).1 _ _ paid).engine]
    exact Engine.spared_or_foreclosed exact.engine done found

/-- An accepted call spares all vaults of other engines. -/
theorem Accepted.spared_remotes (h : Accepted ctx s call reply s') :
    List.Forall₂ (fun e e' => ∀ id, Engine.Spared id e e') (s.remotes.map (·.engine))
      (s'.remotes.map (·.engine)) := by
  have all (l : List Engine) : List.Forall₂ (fun e e' => ∀ id, Engine.Spared id e e') l l :=
    List.forall₂_same.mpr fun e _ id => .refl id e
  cases h with
  | batch _ done =>
    obtain ⟨tally, s₁, gathered, rfl, settled⟩ := Arena.processBatch_eq_ok done
    obtain ⟨accumulator, m, booked, folded, _⟩ := Arena.gather_eq_ok gathered
    rw [((Arena.keeps_settle _ _ _ _).1 _ _ settled).remotes]
    refine Transact.foldlM_induction
      (P := fun _ _ (x : Arena) => List.Forall₂ (fun e e' => ∀ id, Engine.Spared id e e')
        (s.remotes.map (·.engine)) (x.remotes.map (·.engine)))
      (fun _ _ _ _ _ _ sofar ok => ?_) (all _) folded
    exact forall₂_trans (fun h₁ h₂ id => (h₁ id).trans (h₂ id)) sofar
      (Arena.applyAction_cases ok).spared_remotes
  | liquidate done paid =>
    rw [((Arena.keeps_handleRepay _ _ _ _ _).1 _ _ paid).remotes]
    exact all _
  | getDebtOut paid => exact all _
  | accrueToTreasury done =>
    obtain ⟨_, _, _, _, _, _, _, _, rfl⟩ := Arena.processAccrual_eq_ok done
    exact all _
  | upkeep _ changed => exact all _

end EngineCall

/-! ## Weakened vaults -/

/-- The ways in which a vault that was there can be weakened. -/
inductive Engine.Weakened (id : VaultId) (before after : Engine) : Prop
  | removed {v : Vault} (found : before.vault? id = some v) (gone : after.vault? id = none)
  | withdrawn {v w : Vault} (found : before.vault? id = some v) (kept : after.vault? id = some w)
      (less : w.collateral < v.collateral)
  | indebted {v w : Vault} (found : before.vault? id = some v) (kept : after.vault? id = some w)
      (more : v.normalizedDebt < w.normalizedDebt)
  | handed {v : Vault} (found : before.vault? id = some v)
      (owner : after.state.registry.owners.get? id ≠ before.state.registry.owners.get? id)
  | entrusted {v : Vault} (found : before.vault? id = some v)
      (approval : after.state.registry.approvals.get? id ≠
        before.state.registry.approvals.get? id)

namespace Engine

variable {id : VaultId} {before after : Engine}

/-- Only a vault that was there can be weakened. -/
theorem Weakened.exists_vault (h : Weakened id before after) : ∃ v, before.vault? id = some v := by
  cases h with
  | removed found | withdrawn found | indebted found | handed found | entrusted found =>
    exact ⟨_, found⟩

/-- A vault that is spared is not weakened. -/
theorem Spared.not_weakened (h : Spared id before after) : ¬ Weakened id before after := by
  intro weakened
  obtain ⟨v, found⟩ := weakened.exists_vault
  obtain ⟨w, kept, better⟩ := h.exists_vault found
  cases weakened with
  | removed _ gone => cases kept.symm.trans gone
  | withdrawn found' kept' less =>
    cases found.symm.trans found'
    cases kept.symm.trans kept'
    exact absurd better.collateral (Nat.not_le_of_lt less)
  | indebted found' kept' more =>
    cases found.symm.trans found'
    cases kept.symm.trans kept'
    exact absurd better.debt (Nat.not_le_of_lt more)
  | handed _ owner => exact owner (congrArg (·.1) h.title)
  | entrusted _ approval => exact approval (congrArg (·.2) h.title)

end Engine

/-! ## All calls -/

namespace World

/-- What excuses that a vault was weakened: it was the engine that was called, and the caller was
entitled to the vault when the call began, or the call was a liquidation of the vault, which was
unhealthy by the feed that the engine is connected to. -/
def Excused (w : World) (call : Call) (place : Nat) (id : VaultId) (before after : Engine) : Prop :=
  ∃ caller now remotes engineCall, call = .engine place caller now remotes engineCall ∧
    (before.state.registry.Entitled caller id ∨
      ∃ seat feed p ids amounts, w.seats[place]? = some seat ∧
        w.feeds[seat.feed]? = some feed ∧ engineCall = .liquidate p ids amounts ∧ id ∈ ids ∧
        Engine.Foreclosed (feed.read now) now id before after)

/-- The engine that is called: whatever is weakened is excused. -/
theorem excused_of_called {w : World} {place : Nat} {caller : Address} {now : Timestamp}
    {remotes : List Nat} {call : EngineCall} {reply : EngineReply} {w' : World} {before : Engine}
    (hw : ∀ seat ∈ w.seats, seat.engine.Exact)
    (answer : callEngine place caller now remotes call w = .ok reply w')
    (standing : engine? w.seats place = some before) :
    ∃ after, engine? w'.seats place = some after ∧ ∀ id, Engine.Weakened id before after →
      Excused w (.engine place caller now remotes call) place id before after := by
  obtain ⟨seat, ctx, s, s', found, circumstances, stage, ran, rfl⟩ := callEngine_eq_ok answer
  obtain ⟨feed, connected, rfl, rfl, read⟩ := context_eq_ok circumstances
  cases standing.symm.trans stage.engine
  have exact := stage.exact hw
  refine ⟨s'.engine, engine?_restage stage s', fun id weakened => ?_⟩
  obtain ⟨v, there⟩ := weakened.exists_vault
  refine ⟨_, _, _, _, rfl, ?_⟩
  by_cases liquidates : ∃ p ids amounts, call = .liquidate p ids amounts
  · obtain ⟨p, ids, amounts, rfl⟩ := liquidates
    rcases EngineCall.spared_or_foreclosed ran exact there with spared | ⟨among, foreclosed⟩
    · exact absurd weakened spared.not_weakened
    · rw [read] at foreclosed
      exact .inr ⟨seat, feed, p, ids, amounts, found, connected, rfl, among, foreclosed⟩
  · rcases EngineCall.guarded ran exact liquidates id v there with may | spared
    · exact .inl (Registry.mayAct_eq_ok_true.mp may)
    · exact absurd weakened spared.not_weakened

/-- A call that is not on the engine spares all of its vaults. -/
theorem spared_of_change {w w' : World} {call : Call} (change : Change w call w') {place : Nat}
    {before : Engine}
    (standing : engine? w.seats place = some before)
    (elsewhere : ∀ caller now remotes engineCall,
      call ≠ .engine place caller now remotes engineCall) :
    ∃ after, engine? w'.seats place = some after ∧ ∀ id, Engine.Spared id before after := by
  have unmoved (e : Engine) : ∀ id, Engine.Spared id e e := fun id => .refl id e
  have read (seats : List Seat) : engine? seats place = (seats.map (·.engine))[place]? := by
    unfold engine?
    rw [List.getElem?_map]
  cases change with
  | still same =>
    rw [same.seats]
    exact ⟨before, standing, unmoved before⟩
  | ledger => exact ⟨before, standing, unmoved before⟩
  | founded fresh seats =>
    refine ⟨before, ?_, unmoved before⟩
    rw [read] at standing ⊢
    have inside := (List.getElem?_eq_some_iff.mp standing).1
    rw [seats, List.map_append, List.getElem?_append_left inside]
    exact standing
  | @connected _ other o e _ found steady engines =>
    rw [read, engines, ← read]
    by_cases here : other = place
    · subst here
      cases standing.symm.trans found
      refine ⟨e, engine?_putEngine_self found e, fun id => .of_same ?_ ?_⟩
      · unfold Engine.vault?
        rw [steady.registry]
      · rw [steady.registry]
    · rw [engine?_putEngine_of_ne e here]
      exact ⟨before, standing, unmoved before⟩
  | @called other caller now remotes call ctx s s' reply stage accepted answer =>
    have ne : place ≠ other := by
      rintro rfl
      exact elsewhere caller now remotes call rfl
    obtain ⟨outside, nodup⟩ := List.nodup_cons.mp (nodup_places other remotes)
    cases stage.engines with
    | cons _ rest =>
      apply rel_putEngines (R := fun e e' => ∀ id, Engine.Spared id e e') unmoved nodup
        (standing_putEngine outside s'.engine rest) accepted.spared_remotes
      rw [engine?_putEngine_of_ne _ ne.symm]
      exact standing

/-- In every reachable world, whatever call is accepted: every engine is still there, and every vault
that was weakened was weakened by an entitled caller or by a liquidation, as `Excused` says. -/
theorem excused_of_weakened {w w' : World} {call : Call} (reachable : w.Reachable)
    (accepted : call.run w = .ok () w') {place : Nat} {before : Engine}
    (standing : engine? w.seats place = some before) :
    ∃ after, engine? w'.seats place = some after ∧
      ∀ id, Engine.Weakened id before after → Excused w call place id before after := by
  by_cases here : ∃ caller now remotes engineCall,
      call = .engine place caller now remotes engineCall
  · obtain ⟨caller, now, remotes, engineCall, rfl⟩ := here
    obtain ⟨reply, _, answer, ended⟩ := bind_eq_ok.mp accepted
    obtain ⟨-, rfl⟩ := Transact.pure_eq_ok.mp ended
    exact excused_of_called reachable.exact answer standing
  · have change : Change w call w' := by
      have ended : w.next call = w' := by
        unfold next Transact.after
        rw [accepted]
      rw [← ended]
      exact change_next w call
    obtain ⟨after, stands, spared⟩ := spared_of_change change standing
      fun caller now remotes engineCall same => here ⟨caller, now, remotes, engineCall, same⟩
    exact ⟨after, stands, fun id weakened => absurd weakened (spared id).not_weakened⟩

/-- The small market after the price fell to 1.1 and the stablecoins were sold to a stranger. -/
def sold : List Call := smallMarket ++ [
  .feed 0 0 (.updatePrice (account 4) (tenths 11)),
  .ledger 0 (.transfer (account 1) (account 5) (account 9) (tenths 100))]

/-- The stranger liquidates the borrower's vault. -/
def strangersCall : Call :=
  .engine 0 (account 9) 0 [] (.liquidate ⟨account 9, account 9, [], none⟩ [1] [buyout])

set_option maxRecDepth 10000 in
/-- A stranger weakens the vault of the borrower, and is excused. -/
theorem excused_stranger : ∃ w' before after, strangersCall.run (history sold) = .ok () w' ∧
    engine? (history sold).seats 0 = some before ∧ engine? w'.seats 0 = some after ∧
    Engine.Weakened 1 before after ∧ ¬ before.state.registry.Entitled (account 9) 1 ∧
    Excused (history sold) strangersCall 0 1 before after := by
  have facts : (match strangersCall.run (history sold) with
      | .ok () w' => match engine? (history sold).seats 0, engine? w'.seats 0 with
        | some before, some after =>
          decide (before.state.registry.mayAct (account 9) 1 = .ok false ∧
            (before.vault? 1).map (·.collateral.toNat) = some (10 * tokenOne) ∧
            (after.vault? 1).map (·.collateral.toNat) = some 0)
        | none, _ => false
        | some _, none => false
      | .error _ _ => false) = true := by decide +kernel
  split at facts
  · rename_i w' accepted
    split at facts
    · rename_i before after standing stands
      obtain ⟨stranger, had, has⟩ := of_decide_eq_true facts
      obtain ⟨v, found, full⟩ := Option.map_eq_some_iff.mp had
      obtain ⟨u, kept, none'⟩ := Option.map_eq_some_iff.mp has
      have weakened : Engine.Weakened 1 before after := by
        refine .withdrawn found kept ?_
        show u.collateral.toNat < v.collateral.toNat
        rw [full, none']
        decide
      obtain ⟨after', same, excused⟩ := excused_of_weakened ⟨sold, rfl⟩ accepted standing
      cases same.symm.trans stands
      refine ⟨w', before, after, accepted, standing, stands, weakened, ?_, excused 1 weakened⟩
      intro entitled
      cases stranger.symm.trans (Registry.mayAct_eq_ok_true.mpr entitled)
    all_goals cases facts
  · cases facts

end World

end CollateralDebt
