import CollateralDebt.Proofs.DebtTotal
import CollateralDebt.Proofs.Engine.LiquidationRound

/-!
# Liquidations of one call are independent

A liquidation names several vaults, and some of them may have to be skipped. Nothing is undone for a
vault that is skipped, and every vault is liquidated on what the ones before it left behind; and yet
each of them fares as if it had been alone. Leaving out the vaults that are skipped leaves the same
world in every respect, and another order of the vaults differs from the first one in nothing but
the order of entries and events.

## What is proved

- `Engine.Round.independent`: every vault fares as if it were alone;
- `Engine.liquidateAll_dropped`, `Engine.liquidateAll_perm`: a liquidation without the vaults that
  were skipped, and in another order;
- `World.liquidations_independent`: an accepted liquidation in a reachable world.
-/

namespace CollateralDebt

open Transact (bind_eq_ok)

/-! ## One engine -/

namespace Engine

/-- What became of the vaults of a liquidation that began with the engine `before`, booked its
interest in `m` and ended with `after`: each of them was liquidated or skipped; it was liquidated
exactly if `liquidateVault` liquidates it alone, and then it is left as that leaves it; it was
skipped exactly for the cause for which `liquidateVault` refuses it alone; and all vaults that were
not liquidated are as they were. -/
structure Independent (ctx : Context) (price accumulator : Amount) (before m after : Engine)
    (entries : List (VaultId × Amount)) (report : LiquidationReport) : Prop where
  reported : (report.liquidated ++ report.skipped.map (·.1)).Perm (entries.map (·.1))
  liquidated : ∀ id amount, (id, amount) ∈ entries → (id ∈ report.liquidated ↔
    ∃ outcome alone, liquidateVault ctx id amount price accumulator m = .ok outcome alone)
  record : ∀ id amount outcome alone, (id, amount) ∈ entries →
    liquidateVault ctx id amount price accumulator m = .ok outcome alone →
    after.vault? id = alone.vault? id
  skipped : ∀ id amount cause, (id, amount) ∈ entries → ((id, cause) ∈ report.skipped ↔
    ∃ alone, liquidateVault ctx id amount price accumulator m = .error (.rejected cause) alone)
  kept : ∀ id, id ∉ report.liquidated → after.vault? id = before.vault? id

section Alone

variable {ctx : Context} {id : VaultId} {amount price accumulator : Amount} {e e' : Engine}

/-- A vault is liquidated exactly if there is a verdict, and then as it says. -/
theorem liquidateVault_eq_ok_iff {outcome : VaultLiquidation} (h : e.Exact) :
    liquidateVault ctx id amount price accumulator e = .ok outcome e' ↔
      ∃ r, e.verdict ctx id amount price accumulator = .ok r ∧ outcome = r.outcome ∧
        e' = e.enact id r := by
  rw [liquidateVault_eq h]
  unfold execute
  cases e.verdict ctx id amount price accumulator with
  | ok r =>
    constructor
    · rintro ⟨⟩
      exact ⟨r, rfl, rfl, rfl⟩
    · rintro ⟨_, ⟨⟩, rfl, rfl⟩
      rfl
  | error f =>
    constructor
    · rintro ⟨⟩
    · rintro ⟨_, ⟨⟩, _⟩

/-- A vault is refused exactly if it has no verdict, and for the same cause. -/
theorem liquidateVault_eq_error_iff {f : Failure} (h : e.Exact) :
    (∃ e', liquidateVault ctx id amount price accumulator e = .error f e') ↔
      e.verdict ctx id amount price accumulator = .error f := by
  rw [liquidateVault_eq h]
  unfold execute
  cases e.verdict ctx id amount price accumulator with
  | ok r =>
    constructor
    · rintro ⟨_, ⟨⟩⟩
    · rintro ⟨⟩
  | error f' =>
    constructor
    · rintro ⟨_, ⟨⟩⟩
      rfl
    · rintro ⟨⟩
      exact ⟨e, rfl⟩

end Alone

variable {ctx : Context} {ids ids' : List VaultId} {amounts amounts' : List Amount}
  {report : LiquidationReport} {price accumulator : Amount} {e e' m : Engine}

/-- A round from the start of a liquidation. -/
theorem Round.independent {entries : List (VaultId × Amount)}
    (round : Round ctx entries ⟨price, accumulator, .zero, .zero, .zero, [], []⟩ m report e')
    (exact : m.Exact) (distinct : (entries.map (·.1)).Nodup) :
    Independent ctx price accumulator m m e' entries report := by
  obtain ⟨decided, reported, rfl⟩ := round
  have liquidated : report.liquidated = (m.verdicts ctx price accumulator entries).map (·.1) :=
    reported.liquidated
  have skipped : report.skipped = m.refusals ctx price accumulator entries := reported.skipped
  refine ⟨?_, fun id amount mem => ?_, fun id amount outcome alone mem done => ?_,
    fun id amount cause mem => ?_, fun id out => ?_⟩
  · rw [liquidated, skipped]
    exact perm_of_decided decided
  · simp only [liquidateVault_eq_ok_iff exact]
    rw [liquidated]
    constructor
    · intro listed
      obtain ⟨⟨_, r⟩, among, rfl⟩ := List.mem_map.mp listed
      obtain ⟨amount', entry, judged⟩ := mem_verdicts.mp among
      cases List.inj_on_of_nodup_map distinct mem entry rfl
      exact ⟨r.outcome, _, r, judged, rfl, rfl⟩
    · rintro ⟨_, _, r, judged, _⟩
      exact List.mem_map_of_mem (mem_verdicts.mpr ⟨amount, mem, judged⟩)
  · obtain ⟨r, judged, rfl, rfl⟩ := (liquidateVault_eq_ok_iff exact).mp done
    rw [vault?_enact, if_pos rfl]
    exact vault?_enactAll_of_mem (nodup_verdicts distinct) (mem_verdicts.mpr ⟨amount, mem, judged⟩)
  · rw [liquidateVault_eq_error_iff exact, skipped, mem_refusals]
    constructor
    · rintro ⟨amount', entry, judged⟩
      cases List.inj_on_of_nodup_map distinct mem entry rfl
      exact judged
    · intro judged
      exact ⟨amount, mem, judged⟩
  · rw [liquidated] at out
    exact vault?_enactAll_of_notMem out

/-- The vaults of a request, named once each. -/
theorem nodup_entries (lengths : ids.length = amounts.length) (distinct : ids.Nodup) :
    ((ids.zip amounts).map (·.1)).Nodup := by
  show ((ids.zip amounts).map Prod.fst).Nodup
  rw [List.map_fst_zip (Nat.le_of_eq lengths)]
  exact distinct

/-- What the vaults of a whole liquidation have to do with each other: nothing. -/
theorem independent_of_liquidateAll (exact : e.Exact) (distinct : ids.Nodup)
    (all : liquidateAll ctx ids amounts e = .ok report e') :
    ∃ accumulator price m, accrue ctx.now e = .ok accumulator m ∧ ctx.price = .ok price ∧
      Independent ctx price accumulator e m e' (ids.zip amounts) report := by
  obtain ⟨_, ⟨lengths, _⟩, _, accumulator, price, m, m', accrued, hprice, folded, concluded⟩ :=
    liquidateAll_eq_ok_iff.mp all
  have booked := accrue_eq_ok accrued
  have exact := exact.accrued booked
  have distinct := nodup_entries lengths distinct
  obtain ⟨reported, liquidated, record, skipped, kept⟩ :=
    ((foldlM_liquidateNext_iff exact distinct).mp folded).independent exact distinct
  obtain ⟨_, _, _, _, _, _, _, _, _, rfl⟩ := conclude_eq_ok.mp concluded
  refine ⟨accumulator, price, m, accrued, hprice, reported, liquidated, record, skipped, ?_⟩
  intro id out
  exact (kept id out).trans (booked.vault? id)

/-- Leaving out the vaults that were skipped changes nothing. -/
theorem liquidateAll_dropped (exact : e.Exact) (distinct : ids.Nodup)
    (all : liquidateAll ctx ids amounts e = .ok report e')
    (lengths' : ids'.length = amounts'.length)
    (dropped : ids'.zip amounts' =
      (ids.zip amounts).filter fun entry => entry.1 ∈ report.liquidated) :
    liquidateAll ctx ids' amounts' e = .ok { report with skipped := [] } e' := by
  obtain ⟨running, ⟨lengths, _⟩, few, accumulator, price, m, m', accrued, hprice, folded,
    concluded⟩ := liquidateAll_eq_ok_iff.mp all
  have exact := exact.accrued (accrue_eq_ok accrued)
  have distinct := nodup_entries lengths distinct
  have round := ((foldlM_liquidateNext_iff exact distinct).mp folded).of_dropped distinct rfl
  rw [← dropped] at round
  have distinct' : ((ids'.zip amounts').map (·.1)).Nodup := by
    rw [dropped]
    exact distinct.sublist (List.filter_sublist.map _)
  obtain ⟨_, share, surplus, badDebt, some', rest⟩ := conclude_eq_ok.mp concluded
  have size : ids'.length ≤ ids.length :=
    calc ids'.length = (ids'.zip amounts').length := by
          rw [List.length_zip, lengths', Nat.min_self]
      _ ≤ (ids.zip amounts).length := by
          rw [dropped]
          exact List.length_filter_le _ _
      _ ≤ ids.length := by
          rw [List.length_zip]
          exact Nat.min_le_left _ _
  refine liquidateAll_eq_ok_iff.mpr ⟨running, ⟨lengths', ?_⟩, Nat.le_trans size few, accumulator,
    price, m, m', accrued, hprice, (foldlM_liquidateNext_iff exact distinct').mpr round,
    conclude_eq_ok.mpr ⟨rfl, share, surplus, badDebt, some', rest⟩⟩
  -- a vault that was liquidated is among those that were not left out
  rintro rfl
  have none' : report.liquidated = [] := by
    have reported := round.reported.liquidated
    exact reported
  exact some' none'

/-- Another order of the vaults comes to the same, but for the order of entries and events. -/
theorem liquidateAll_perm (exact : e.Exact) (distinct : ids.Nodup)
    (all : liquidateAll ctx ids amounts e = .ok report e')
    (lengths' : ids'.length = amounts'.length)
    (perm : (ids'.zip amounts').Perm (ids.zip amounts)) :
    ∃ liquidated skipped log, liquidated.Perm report.liquidated ∧ skipped.Perm report.skipped ∧
      log.Perm e'.log ∧ liquidateAll ctx ids' amounts' e =
        .ok { report with liquidated, skipped } { e' with log } := by
  obtain ⟨running, ⟨lengths, any⟩, few, accumulator, price, m, m', accrued, hprice, folded,
    concluded⟩ := liquidateAll_eq_ok_iff.mp all
  have exact := exact.accrued (accrue_eq_ok accrued)
  have distinct := nodup_entries lengths distinct
  have distinct' := (perm.map Prod.fst).nodup_iff.mpr distinct
  obtain ⟨liquidated, skipped, log, liquidateds, skippeds, logs, round⟩ :=
    ((foldlM_liquidateNext_iff exact distinct).mp folded).perm distinct perm
  obtain ⟨_, share, surplus, badDebt, some', most, hshare, hsurplus, hbad, rfl⟩ :=
    conclude_eq_ok.mp concluded
  have size : ids'.length = ids.length := by
    have same := perm.length_eq
    rw [List.length_zip, List.length_zip, ← lengths', ← lengths, Nat.min_self, Nat.min_self] at same
    exact same
  refine ⟨liquidated, skipped, log, liquidateds, skippeds, logs, ?_⟩
  refine liquidateAll_eq_ok_iff.mpr ⟨running, ⟨lengths', ?_⟩, size ▸ few, accumulator, price, m,
    { m' with log }, accrued, hprice, (foldlM_liquidateNext_iff exact distinct').mpr round,
    conclude_eq_ok.mpr ⟨rfl, share, surplus, badDebt, ?_, most, hshare, hsurplus, hbad, rfl⟩⟩
  · rintro rfl
    exact any (List.eq_nil_of_length_eq_zero size.symm)
  · rintro rfl
    exact some' liquidateds.symm.eq_nil

end Engine

/-! ## Settling -/

namespace Arena

/-- The arena with another log of the engine. -/
def relog (log : EventLog) (s : Arena) : Arena := { s with engine := { s.engine with log } }

variable {log : EventLog}

theorem blind_onLedger {α : Type} (m : Transact Ledger α) :
    Transact.Blind (relog log) (onLedger m) := by
  intro s a s' h
  obtain ⟨l, done, rfl⟩ := onLedger_eq_ok.mp h
  exact onLedger_eq_ok.mpr ⟨l, done, rfl⟩

theorem blind_askSwapper (swapper : Option Swapper) (request : SwapRequest) :
    Transact.Blind (relog log) (askSwapper swapper request) := by
  unfold askSwapper
  cases swapper with
  | none => exact Transact.blind_pure ()
  | some swap =>
    refine Transact.Blind.bind ?_ fun _ => blind_onLedger _
    exact Transact.blind_modify fun _ => rfl

/-- Settling does not look into the log of the engine. -/
theorem blind_handleRepay (ctx : Context) (p : Parties) (released burnt : Amount) :
    Transact.Blind (relog log) (handleRepay ctx p released burnt) := by
  have burning (e : EngineState) (request : SwapRequest) : Transact.Blind (relog log) (do
      if burnt ≠ .zero then
        askSwapper p.swapper request
        onLedger
          (Ledger.burnFrom e.stablecoin e.address p.source ctx.caller burnt ctx.now)) := by
    split
    · exact (blind_askSwapper _ _).bind fun _ => blind_onLedger _
    · exact Transact.blind_pure ()
  unfold handleRepay
  apply Transact.blind_get_bind
  · intro s
    rfl
  · intro s
    dsimp only
    split
    · exact (blind_onLedger _).bind fun _ => burning _ _
    · exact burning _ _

end Arena

/-- A liquidation is accepted if the vaults are liquidated and the flows are settled. -/
theorem EngineCall.run_liquidate {ctx : Context} {p : Parties} {ids : List VaultId}
    {amounts : List Amount} {report : LiquidationReport} {s s' : Arena} {e : Engine}
    (done : Engine.liquidateAll ctx ids amounts s.engine = .ok report e)
    (paid : Arena.handleRepay ctx p report.collateralToGive report.stablecoinToReceive
      { s with engine := e } = .ok () s') :
    (EngineCall.liquidate p ids amounts).run ctx s = .ok (.report report) s' := by
  refine bind_eq_ok.mpr ⟨report, s', Arena.atomically_eq_ok.mpr ?_, rfl⟩
  exact bind_eq_ok.mpr ⟨report, _, Arena.onEngine_eq_ok.mpr ⟨e, done, rfl⟩,
    bind_eq_ok.mpr ⟨(), s', paid, rfl⟩⟩

namespace World

/-! ## The world -/

/-- Putting back the arena with another engine in it puts that engine back. -/
theorem restage_engine (w : World) (place : Nat) (remotes : List Nat) (s : Arena) (e : Engine) :
    w.restage place remotes { s with engine := e } =
      { w.restage place remotes s with
        seats := putEngine (w.restage place remotes s).seats place e } := by
  have outside := (List.nodup_cons.mp (nodup_places place remotes)).1
  have last (e : Engine) : putEngines w.seats ((places place remotes).zip
      ({ s with engine := e } : Arena).engines) =
      putEngine (putEngines w.seats ((otherPlaces place remotes).zip (s.remotes.map (·.engine))))
        place e := putEngines_putEngine outside
  unfold restage
  rw [last e, last s.engine, putEngine_putEngine]

/-- Every accepted liquidation of vaults that are named once each, in every reachable world: with
the accrued engine and the price that it goes by, each vault fares as `Engine.Independent` says. The
same request without the vaults that were skipped leaves the same world, logs included. And the same
pairs in another order leave the same world but for the order of events in the log of the engine,
with the same price, accumulator and totals and the same entries in the report. -/
theorem liquidations_independent {w w' : World} {place : Nat} {caller : Address} {now : Timestamp}
    {remotes : List Nat} {p : Parties} {ids : List VaultId} {amounts : List Amount}
    {report : LiquidationReport} (reachable : w.Reachable) (distinct : ids.Nodup)
    (accepted : callEngine place caller now remotes (.liquidate p ids amounts) w =
      .ok (.report report) w') :
    ∃ seat ctx accumulator price m after,
      w.seats[place]? = some seat ∧ w.context seat caller now = .ok ctx ∧
      Engine.accrue ctx.now seat.engine = .ok accumulator m ∧ ctx.price = .ok price ∧
      engine? w'.seats place = some after ∧
      Engine.Independent ctx price accumulator seat.engine m after (ids.zip amounts) report ∧
      (∀ (ids' : List VaultId) (amounts' : List Amount), ids'.length = amounts'.length →
        ids'.zip amounts' = (ids.zip amounts).filter (fun entry => entry.1 ∈ report.liquidated) →
        callEngine place caller now remotes (.liquidate p ids' amounts') w =
          .ok (.report { report with skipped := [] }) w') ∧
      ∀ (ids' : List VaultId) (amounts' : List Amount), ids'.length = amounts'.length →
        (ids'.zip amounts').Perm (ids.zip amounts) →
        ∃ liquidated skipped log, liquidated.Perm report.liquidated ∧
          skipped.Perm report.skipped ∧ log.Perm after.log ∧
          callEngine place caller now remotes (.liquidate p ids' amounts') w =
            .ok (.report { report with liquidated, skipped })
              { w' with seats := putEngine w'.seats place { after with log } } := by
  rcases callEngine_cases place caller now remotes w with absent | ⟨seat, ctx, s, found, hctx,
    stage, same⟩
  · cases accepted.symm.trans (absent _)
  have answers {ids' : List VaultId} {amounts' : List Amount} {report' : LiquidationReport}
      {s' : Arena} (ran : (EngineCall.liquidate p ids' amounts').run ctx s =
        .ok (.report report') s') :
      callEngine place caller now remotes (.liquidate p ids' amounts') w =
        .ok (.report report') (w.restage place remotes s') := by
    rw [same, ran]
  obtain ⟨s', ran, rfl⟩ : ∃ s', (EngineCall.liquidate p ids amounts).run ctx s =
      .ok (.report report) s' ∧ w' = w.restage place remotes s' := by
    rw [same] at accepted
    split at accepted
    · rename_i ran
      cases accepted
      exact ⟨_, ran, rfl⟩
    · cases accepted
  have own : seat.engine = s.engine := by
    have standing := stage.engine
    unfold engine? at standing
    rw [found] at standing
    exact Option.some.inj standing
  have exact := (stage.exact reachable.exact).engine
  cases EngineCall.run_cases ran with
  | @liquidate _ _ _ _ e _ done paid =>
    have engine := ((Arena.keeps_handleRepay _ _ _ _ _).1 _ _ paid).engine
    obtain ⟨accumulator, price, m, accrued, hprice, independent⟩ :=
      Engine.independent_of_liquidateAll exact distinct done
    refine ⟨seat, ctx, accumulator, price, m, e, found, hctx, own ▸ accrued, hprice, ?_,
      own ▸ independent, fun ids' amounts' lengths dropped => ?_,
      fun ids' amounts' lengths perm => ?_⟩
    · rw [engine?_restage stage, engine]
    · exact answers (EngineCall.run_liquidate
        (Engine.liquidateAll_dropped exact distinct done lengths dropped) paid)
    · obtain ⟨liquidated, skipped, log, liquidateds, skippeds, logs, reordered⟩ :=
        Engine.liquidateAll_perm exact distinct done lengths perm
      refine ⟨liquidated, skipped, log, liquidateds, skippeds, logs, ?_⟩
      have settled : Arena.handleRepay ctx p report.collateralToGive report.stablecoinToReceive
          (Arena.relog log { s with engine := e }) = .ok () (Arena.relog log s') :=
        Arena.blind_handleRepay _ _ _ _ _ _ _ paid
      rw [answers (EngineCall.run_liquidate reordered settled)]
      have relogged : Arena.relog log s' = { s' with engine := { e with log } } := by
        unfold Arena.relog
        rw [engine]
      rw [relogged, restage_engine]

/-- The small market with another vault, which has five times the collateral of the first one, after
the price fell to 1.1. -/
def twoVaults : List Call := smallMarket ++ [
  .engine 0 (account 5) 0 [] (.batch borrower
    [.createVault (account 5), .addCollateral 0 (tenths 500),
      .borrow 0 (tenths 100)]),
  .feed 0 0 (.updatePrice (account 4) (tenths 11))]

/-- A liquidation of the healthy vault, of the other one and of one that does not exist. -/
def mixed : EngineCall :=
  .liquidate borrower [2, 1, 3] [tenths 10, buyout, tenths 10]

set_option maxRecDepth 10000 in
/-- The first vault is liquidated, and liquidating it alone leaves the same world. -/
theorem mixed_independent : ∃ report w', report.liquidated = [1] ∧
    report.skipped.map (·.1) = [2, 3] ∧
    callEngine 0 (account 5) 0 [] mixed (history twoVaults) = .ok (.report report) w' ∧
    callEngine 0 (account 5) 0 [] (.liquidate borrower [1] [buyout]) (history twoVaults) =
      .ok (.report { report with skipped := [] }) w' := by
  have accepted : (match callEngine 0 (account 5) 0 [] mixed (history twoVaults) with
      | .ok (.report report) _ =>
        decide (report.liquidated = [1] ∧ report.skipped.map (·.1) = [2, 3])
      | _ => false) = true := by decide +kernel
  split at accepted
  · rename_i report w' ended
    obtain ⟨liquidated, skipped⟩ := of_decide_eq_true accepted
    obtain ⟨_, _, _, _, _, _, _, _, _, _, _, _, dropped, _⟩ :=
      liquidations_independent ⟨twoVaults, rfl⟩ (by decide) ended
    refine ⟨report, w', liquidated, skipped, ended, dropped _ _ rfl ?_⟩
    rw [liquidated]
    rfl
  · cases accepted

end World

end CollateralDebt
