import CollateralDebt.Proofs.NetFlows
import CollateralDebt.Proofs.Repayment

/-!
# Borrowing and repaying at once

A batch that borrows an amount and repays the same amount leaves the debt of the vault as it was, to
the unit. Both actions turn the amount into the same number of units; the repayment cannot be cut off
by the debt, which has just grown by as much.

The flows do not cancel as well. The fees are paid in any case, and for a vault that had no debt the
repayment is of everything, so that the debt is counted and not the amount. It is less than the amount
by what the loan was rounded down by, and this is all that can be gained: less than one unit of
normalized debt is worth.

## What is proved

- `Engine.round_trip`: borrowing and repaying;
- `World.borrow_repay_unchanged`: the two of them in a batch.
-/

namespace CollateralDebt

open Transact (bind_eq_ok)

namespace Engine

variable {ctx : Context} {now : Timestamp} {e e' m : Engine} {id : VaultId}
  {amount accumulator paid charged : Amount}

/-- A vault that borrows an amount and repays it is as it was, and so is every other vault and the
total. What was paid out is less than a normalized unit above what was charged. -/
theorem round_trip (borrowed : borrow ctx id amount accumulator e = .ok paid m)
    (returned : repayDebt now id amount accumulator m = .ok charged e') :
    (∀ i, e'.vault? i = e.vault? i) ∧
      e'.state.totalNormalizedDebt = e.state.totalNormalizedDebt ∧
      (paid.toNat : ℚ) - charged.toNat < accumulator.toNat / accumulatorOne := by
  obtain ⟨v, w, change, fee, out, collateral, normalized, more, -, -, parts⟩ := borrow_eq_ok borrowed
  obtain ⟨w', v', back⟩ := repaid_of_repayDebt returned
  have between : m.vault? id = some w := by rw [out.vault?, if_pos rfl]
  cases between.symm.trans back.revised.found
  -- both actions turn the amount into the same units
  have units := (mulDiv_eq_ok.mp normalized).2
  have fewer := back.debt
  rw [← units, Nat.min_eq_left (by omega)] at fewer
  have same : v' = v :=
    Vault.ext (back.collateral.trans collateral) (Amount.ext (by omega))
  subst same
  refine ⟨fun i => ?_, ?_, ?_⟩
  · by_cases own : i = id
    · rw [own, back.revised.vault?, if_pos rfl, out.found]
    · rw [back.revised.vault?, if_neg own, out.vault?, if_neg own]
  · have total := out.total
    have total' := back.revised.total
    exact Amount.ext (by omega)
  · obtain ⟨most, least⟩ := mulDiv_bounds normalized
    have loan := (worth_bounds 0 most (by omega)).2
    have fall := back.fall_le
    rw [owed_sub_owed accumulator fewer] at fall
    have less : (paid.toNat : ℚ) ≤ amount.toNat := by exact_mod_cast (by omega)
    rw [Nat.cast_zero, sub_zero] at loan
    linarith

end Engine

namespace Arena

variable {ctx : Context} {accumulator amount : Amount} {s s' : Arena} {t : Tally} {id id' : VaultId}

/-- The two actions one after the other, from an empty tally. -/
theorem round_trip_actions (one : s.engine.state.resolve id = s.engine.state.resolve id')
    (done : [Action.borrow id amount, .repayDebt id' amount].foldlM (applyAction ctx accumulator)
      .zero s = .ok t s') :
    ∃ paid charged m, Engine.borrow ctx (s.engine.state.resolve id) amount accumulator s.engine =
        .ok paid m ∧
      Engine.repayDebt ctx.now (s.engine.state.resolve id) amount accumulator m =
        .ok charged s'.engine ∧
      t.payment.stablecoinToGive = paid ∧ t.payment.stablecoinToReceive = charged := by
  simp only [List.foldlM_cons, List.foldlM_nil, applyAction, bind_eq_ok, Transact.get_eq_ok,
    onEngine_eq_ok, Transact.liftM_eq_ok, Transact.pure_eq_ok] at done
  obtain ⟨t₁, _, ⟨_, _, ⟨rfl, rfl⟩, paid, _, ⟨m, borrowed, rfl⟩, gave, rfl⟩, t₂, _,
    ⟨_, _, ⟨rfl, rfl⟩, charged, _, ⟨e, returned, rfl⟩, received, rfl⟩, rfl, rfl⟩ := done
  obtain ⟨given, -⟩ := Tally.giveStablecoin_eq_ok gave
  obtain ⟨taken, -⟩ := Tally.receiveStablecoin_eq_ok received
  obtain ⟨_, _, _, _, out, _⟩ := Engine.borrow_eq_ok borrowed
  have still : m.state.resolve id' = s.engine.state.resolve id := by
    rw [one, EngineState.resolve, EngineState.resolve, out.registry, Registry.lastId_setVault]
  rw [still] at returned
  have toGive : t₂.payment.stablecoinToGive.toNat = paid.toNat := by
    rw [taken.stablecoinToGive, given.stablecoinToGive]
    exact Nat.zero_add _
  have toReceive : t₂.payment.stablecoinToReceive.toNat = charged.toNat := by
    rw [taken.stablecoinToReceive, given.stablecoinToReceive]
    exact Nat.zero_add _
  exact ⟨paid, charged, m, borrowed, returned, Amount.ext toGive, Amount.ext toReceive⟩

end Arena

namespace World

/-- **Borrowing and repaying at once.** An accepted batch, read or encoded and with or without a
swapper, that borrows an amount for a vault and repays the same amount of that vault, in any world
and with any fees. All vaults of the engine are as they were, also in their debt, and so is the total;
and what the batch pays out is above what it charges by less than what a unit of normalized debt is
worth. -/
theorem borrow_repay_unchanged {w w' : World} {place : Nat} {caller : Address} {now : Timestamp}
    {remotes : List Nat} {call : EngineCall} {p : Parties} {id id' : VaultId} {amount : Amount}
    {seat : Seat} {payment : Payment} (found : w.seats[place]? = some seat)
    (one : seat.engine.state.resolve id = seat.engine.state.resolve id')
    (is : call.asBatch = some (p, [.borrow id amount, .repayDebt id' amount]))
    (accepted : callEngine place caller now remotes call w = .ok (.payment payment) w') :
    ∃ accumulator e', seat.engine.currentAccumulator now = .ok accumulator ∧
      engine? w'.seats place = some e' ∧ (∀ i, e'.vault? i = seat.engine.vault? i) ∧
      e'.state.totalNormalizedDebt = seat.engine.state.totalNormalizedDebt ∧
      (payment.stablecoinToGive.toNat : ℚ) - payment.stablecoinToReceive.toNat <
        accumulator.toNat / accumulatorOne := by
  obtain ⟨seat', ctx, s, s', found', hctx, stage, ran, rfl⟩ := callEngine_eq_ok accepted
  cases found.symm.trans found'
  obtain ⟨_, _, -, hnow, _⟩ := context_eq_ok hctx
  have own : seat.engine = s.engine :=
    Option.some.inj ((engine?_of_seat found).symm.trans stage.engine)
  cases EngineCall.run_cases ran with
  | batch is' done =>
    cases is.symm.trans is'
    obtain ⟨tally, s₁, gathered, rfl, settled⟩ := Arena.processBatch_eq_ok done
    obtain ⟨accumulator, m, booked, folded, -⟩ := Arena.gather_eq_ok gathered
    rw [hnow, ← own] at booked
    have resolves (i : VaultId) : m.state.resolve i = seat.engine.state.resolve i := by
      rw [EngineState.resolve, EngineState.resolve, booked.state]
    obtain ⟨paid, charged, _, borrowed, returned, gave, received⟩ :=
      Arena.round_trip_actions (by rw [resolves, resolves, one]) folded
    obtain ⟨vaults, total, value⟩ := Engine.round_trip borrowed returned
    have ended : s'.engine = s₁.engine := ((Arena.keeps_settle _ _ _ _).1 _ _ settled).engine
    refine ⟨accumulator, s'.engine, booked.current, engine?_restage stage s', fun i => ?_, ?_, ?_⟩
    · rw [ended, vaults, booked.vault?]
    · rw [ended, total, booked.total]
    · rwa [gave, received]

/-- The small market with interest and with fees, and a second vault that owes nothing. -/
def spareVault : List Call := feeMarket ++ [
  .engine 0 (account 5) 0 [] (.batch borrower [.createVault (account 5), .addCollateral 0 (tenths 100)])]

/-- Two stablecoins are borrowed for a vault, and repaid. -/
def thereAndBack (id : VaultId) : List Action := [.borrow id (tenths 20), .repayDebt id (tenths 20)]

/-- Half a hundredth of the loan is kept, and a hundredth of what is charged. -/
def fare : Payment where
  stablecoinToGive := ⟨1_990_000_000_000_000_000, by decide⟩
  stablecoinToReceive := ⟨2_020_202_020_202_020_203, by decide⟩
  collateralToGive := .zero
  collateralToReceive := .zero

/-- After some interest, the trip is made for the fees, and the vault is as it was, and so is the
total. Only the second vault is without debt. -/
def BackAgain (id : VaultId) : Prop :=
  ∃ seat w' e' v, (history spareVault).seats[0]? = some seat ∧
    seat.engine.vault? id = some v ∧ (v.normalizedDebt = .zero ↔ id = 2) ∧
    callEngine 0 (account 5) 1000 [] (.batch borrower (thereAndBack id)) (history spareVault) =
      .ok (.payment fare) w' ∧
    engine? w'.seats 0 = some e' ∧ e'.vault? id = some v ∧
    e'.state.totalNormalizedDebt = seat.engine.state.totalNormalizedDebt

set_option maxRecDepth 10000 in
/-- Both vaults are as they were, the one with debt and the one without. -/
theorem borrow_repay_unchanged_spare : BackAgain 1 ∧ BackAgain 2 := by
  have facts : ([1, 2].all fun id : VaultId => (history spareVault).seats[0]?.any fun seat =>
      (seat.engine.vault? id).any fun v => decide ((v.normalizedDebt = .zero ↔ id = 2) ∧
        EStateM.run' (callEngine 0 (account 5) 1000 [] (.batch borrower (thereAndBack id)))
          (history spareVault) = some (.payment fare))) = true := by
    decide +kernel
  have back (id : VaultId) (mem : id ∈ [1, 2]) : BackAgain id := by
    have standing := List.all_eq_true.mp facts id mem
    simp only [Option.any_eq_true, decide_eq_true_eq, Transact.run'_eq_some] at standing
    obtain ⟨seat, found, v, owes, clear, w', accepted⟩ := standing
    have batch : (EngineCall.batch borrower (thereAndBack id)).asBatch =
        some (borrower, thereAndBack id) := rfl
    obtain ⟨_, e', -, standing', vaults, total, -⟩ :=
      borrow_repay_unchanged found rfl batch accepted
    exact ⟨seat, w', e', v, found, owes, clear, accepted, standing', (vaults id).trans owes, total⟩
  exact ⟨back 1 (by simp), back 2 (by simp)⟩

end World

end CollateralDebt
