import CollateralDebt.Proofs.World.Step

/-!
# The debt total is exact

The debt total of an engine is stored beside the vaults and moved along with them by every action,
by closing, by both kinds of liquidation and by the transfers of debt inside an engine and between
two. In every reachable world it is the sum of what the vaults owe, on every engine, whatever was
called, when, by whom, and whether it was accepted.

## What is proved

- `Arena.Applied.exact`, `EngineCall.Accepted.exact`: one action and one call keep engines exact;
- `World.Reachable.exact`: every engine of a reachable world is exact;
- `World.totalNormalizedDebt_eq_sum`: the same as an equation between the total and the vaults.
-/

namespace CollateralDebt

namespace Arena

/-- Every engine of the arena is exact. -/
structure Exact (s : Arena) : Prop where
  engine : s.engine.Exact
  remotes : ∀ r ∈ s.remotes, r.engine.Exact

/-- An arena is exact if all of its engines are. -/
theorem exact_iff {s : Arena} : s.Exact ↔ ∀ e ∈ s.engines, e.Exact := by
  rw [forall_engines]
  exact ⟨fun h => ⟨h.engine, h.remotes⟩, fun h => ⟨h.1, h.2⟩⟩

/-- Arenas with the same engines are exact together. -/
theorem Exact.congr {s s' : Arena} (h : s.Exact) (same : SameEngines s s') : s'.Exact where
  engine := by
    rw [same.engine]
    exact h.engine
  remotes := by
    rw [same.remotes]
    exact h.remotes

/-- An action keeps every engine exact. -/
theorem Applied.exact {accumulator : Amount} {s s' : Arena} {t t' : Tally} {action : Action}
    (h : Applied accumulator s t action t' s') (hs : s.Exact) : s'.Exact := by
  cases h with
  | createVault id e made => exact ⟨hs.engine.created made, hs.remotes⟩
  | closeVault v e owed repaid t' closed => exact ⟨hs.engine.removed closed, hs.remotes⟩
  | addCollateral v w e t' revised => exact ⟨hs.engine.revised revised, hs.remotes⟩
  | removeCollateral v w e t' revised => exact ⟨hs.engine.revised revised, hs.remotes⟩
  | repayDebt v w change repaid charged e t' revised =>
    exact ⟨hs.engine.revised revised, hs.remotes⟩
  | borrow v w change fee paid e t' revised => exact ⟨hs.engine.revised revised, hs.remotes⟩
  | moveDebt v w v' w' moved m e t' own given collateral debt received =>
    exact ⟨(hs.engine.revised given).revised received, hs.remotes⟩
  | fetchDebt i r now borrowFee repayFee g taken change v w e t' other place paid revised =>
    refine ⟨hs.engine.revised revised, fun r' mem => ?_⟩
    rcases List.mem_or_eq_of_mem_set mem with mem | rfl
    · exact hs.remotes r' mem
    · exact (hs.remotes r (List.mem_of_getElem? place)).paidOut paid
  | permit l same => exact ⟨hs.engine, hs.remotes⟩

/-- The actions of a batch keep all engines of the arena exact. -/
theorem Exact.gathered {ctx : Context} {actions : List Action} {tally : Tally} {s s' : Arena}
    (hs : s.Exact) (h : gather ctx actions s = .ok tally s') : s'.Exact := by
  obtain ⟨accumulator, m, booked, folded, _⟩ := gather_eq_ok h
  have start : Exact { s with engine := m } := ⟨hs.engine.accrued booked, hs.remotes⟩
  exact Transact.foldlM_induction (P := fun _ _ s => Exact s)
    (fun _ _ _ _ _ _ hs applied => (applyAction_cases applied).exact hs) start folded

/-- A batch keeps every engine exact: its actions do, and settling touches none. -/
theorem Exact.processBatch {ctx : Context} {p : Parties} {actions : List Action}
    {payment : Payment} {s s' : Arena} (hs : s.Exact)
    (h : processBatch ctx p actions s = .ok payment s') : s'.Exact := by
  obtain ⟨tally, s₁, gathered, rfl, settled⟩ := processBatch_eq_ok h
  exact (hs.gathered gathered).congr ((keeps_settle ctx p tally.payment s₁).1 _ _ settled)

end Arena

/-- An accepted call keeps every engine exact. -/
theorem EngineCall.Accepted.exact {ctx : Context} {s s' : Arena} {call : EngineCall}
    {reply : EngineReply} (h : Accepted ctx s call reply s') (hs : s.Exact) : s'.Exact := by
  cases h with
  | batch _ done => exact hs.processBatch done
  | @liquidate p ids amounts report e _ done paid =>
    have liquidated : Arena.Exact { s with engine := e } :=
      ⟨hs.engine.liquidatedAll done, hs.remotes⟩
    exact liquidated.congr ((Arena.keeps_handleRepay _ _ _ _ _).1 _ _ paid)
  | getDebtOut paid => exact ⟨hs.engine.paidOut paid, hs.remotes⟩
  | accrueToTreasury done =>
    obtain ⟨_, m, log, l, booked, _, _, _, rfl⟩ := Arena.processAccrual_eq_ok done
    exact ⟨(hs.engine.accrued booked).congr rfl rfl rfl, hs.remotes⟩
  | upkeep _ changed => exact ⟨hs.engine.upkeep changed, hs.remotes⟩

namespace World

/-- An arena is exact if the world is that it was taken from. -/
theorem Stage.exact {w : World} {place : Nat} {remotes : List Nat} {s : Arena}
    (stage : w.Stage place remotes s) (h : ∀ seat ∈ w.seats, seat.engine.Exact) : s.Exact :=
  Arena.exact_iff.mpr (stage.forall_engines h)

/-- One call, accepted or refused, keeps every engine exact. -/
theorem Change.exact {w w' : World} {call : Call} (h : Change w call w')
    (hw : ∀ seat ∈ w.seats, seat.engine.Exact) : ∀ seat ∈ w'.seats, seat.engine.Exact := by
  refine h.forall_engines (fun _ fresh => fresh.exact) (fun _ _ steady exact => ?_)
    (fun accepted exact => ?_) hw
  · exact exact.quiet steady.toQuiet
  · exact Arena.exact_iff.mp (accepted.exact (Arena.exact_iff.mpr exact))

/-- Every engine of a reachable world is exact. -/
theorem Reachable.exact {w : World} (h : w.Reachable) : ∀ seat ∈ w.seats, seat.engine.Exact := by
  refine h.induction (P := fun w => ∀ seat ∈ w.seats, seat.engine.Exact) ?_ ?_
  · intro seat mem
    cases mem
  · intro w call _ hw
    exact (change_next w call).exact hw

/-- In every reachable world, the debt total of every engine is the sum of the normalized debt of
all vaults in its registry. -/
theorem totalNormalizedDebt_eq_sum {w : World} (h : w.Reachable) :
    ∀ seat ∈ w.seats, seat.engine.state.totalNormalizedDebt.toNat =
      (seat.engine.state.registry.vaults.values.map (·.normalizedDebt.toNat)).sum :=
  fun seat mem => (h.exact seat mem).total

set_option maxRecDepth 10000 in
/-- In the small market the total is the debt of its one borrower. -/
theorem totalNormalizedDebt_smallMarket :
    (history smallMarket).seats.map (·.engine.state.totalNormalizedDebt.toNat) = [10 * tokenOne] ∧
      ∀ seat ∈ (history smallMarket).seats, seat.engine.state.totalNormalizedDebt.toNat =
        (seat.engine.state.registry.vaults.values.map (·.normalizedDebt.toNat)).sum :=
  ⟨by decide +kernel, totalNormalizedDebt_eq_sum ⟨smallMarket, rfl⟩⟩

end World

end CollateralDebt
