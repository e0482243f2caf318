import Mathlib.Data.Finset.Card
import Mathlib.Data.Rat.Cast.Order
import Mathlib.Tactic.Linarith
import Mathlib.Tactic.Positivity
import Mathlib.Tactic.Ring
import CollateralDebt.Proofs.Engine.Administration
import CollateralDebt.Proofs.Engine.Liquidation

/-!
# What an engine is worth

The debt of all vaults at the accumulator, with the losses that were not settled yet and without the
surplus that was not paid out yet, is what the engine's part of the supply is covered by. It is
counted exactly, in units of the accumulator, so that every change of it is an equation or an
inequality of integers: what is paid out is covered by what was lent, up to one unit of normalized
debt; what leaves a vault is covered by what is charged for it; and a liquidation falls short by at
most one stablecoin unit for each vault that it exhausts.

## What is proved

- `backing_mul`: the worth as a number of stablecoins;
- `Revised.worth`, `Removed.worth`: what a change of one vault does to the worth;
- `Revised.worth_lent`, `Revised.worth_repaid`: debt that is taken on and debt that is paid back;
- `worth_accrued`, `worth_paidOut`, `worth_liquidatedAll`: whole steps.
-/

namespace CollateralDebt.Engine

/-- The debt of all vaults, with unsettled losses and without unpaid surplus, in units of the
accumulator. -/
def worth (e : Engine) : ℤ :=
  e.state.totalNormalizedDebt.toNat * e.state.accumulator.toNat +
    (e.state.badDebt.toNat - e.state.surplus.toNat) * accumulatorOne

/-- The debt of all vaults, with unsettled losses and without unpaid surplus: the stablecoins that
the engine stands for. -/
def backing (e : Engine) : ℚ :=
  e.state.totalNormalizedDebt.toNat * e.state.accumulator.toNat / accumulatorOne +
    e.state.badDebt.toNat - e.state.surplus.toNat

/-- The backing is the worth in whole units: nothing was rounded for it. -/
theorem backing_mul (e : Engine) : e.backing * accumulatorOne = e.worth := by
  have positive : (accumulatorOne : ℚ) ≠ 0 := Nat.cast_ne_zero.mpr accumulatorOne_pos.ne'
  unfold backing worth
  push_cast
  rw [sub_mul, add_mul, div_mul_cancel₀ _ positive]
  ring

variable {e m e' : Engine} {id : VaultId} {v w : Vault}

/-! ## One vault -/

/-- Changing a vault changes the worth by what its debt is worth and by the surplus. -/
theorem Revised.worth (h : Revised e id v w e') :
    e'.worth + v.normalizedDebt.toNat * e.state.accumulator.toNat +
        e'.state.surplus.toNat * accumulatorOne =
      e.worth + w.normalizedDebt.toNat * e.state.accumulator.toNat +
        e.state.surplus.toNat * accumulatorOne := by
  have total : (e'.state.totalNormalizedDebt.toNat + v.normalizedDebt.toNat : ℤ) =
      e.state.totalNormalizedDebt.toNat + w.normalizedDebt.toNat := by
    exact_mod_cast h.total
  have scaled := congrArg (· * (e.state.accumulator.toNat : ℤ)) total
  unfold Engine.worth
  rw [accumulator_of_frame h.frame, badDebt_of_frame h.frame]
  linarith

/-- Debt was paid back, and what was charged for it covers its worth and the fee. -/
theorem Revised.worth_repaid {change repaid charged : Nat} (h : Revised e id v w e')
    (debt : w.normalizedDebt.toNat + change = v.normalizedDebt.toNat)
    (covered : change * e.state.accumulator.toNat ≤ repaid * accumulatorOne)
    (surplus : e'.state.surplus.toNat + repaid = e.state.surplus.toNat + charged) :
    e.worth ≤ e'.worth + charged * accumulatorOne := by
  have changed := h.worth
  rw [← debt] at changed
  zify at covered surplus
  have scaled := congrArg (· * (accumulatorOne : ℤ)) surplus
  push_cast at changed
  linarith

/-- Debt was taken on for an amount: its worth falls short of it by less than one unit. -/
theorem Revised.worth_lent {amount accumulator change : Amount} {fee : Nat}
    (h : Revised e id v w e') (at' : e.state.accumulator = accumulator)
    (normalized : normalize amount accumulator = .ok change)
    (debt : w.normalizedDebt.toNat = v.normalizedDebt.toNat + change.toNat)
    (surplus : e'.state.surplus.toNat = e.state.surplus.toNat + fee) :
    e.worth + amount.toNat * accumulatorOne ≤
      e'.worth + fee * accumulatorOne + accumulator.toNat := by
  have changed := h.worth
  have nearly := (mulDiv_bounds normalized).2
  rw [at', debt, surplus] at changed
  zify at nearly
  push_cast at changed
  linarith

/-- Only collateral was changed. -/
theorem Revised.worth_same (h : Revised e id v w e') (debt : w.normalizedDebt = v.normalizedDebt)
    (surplus : e'.state.surplus = e.state.surplus) : e'.worth = e.worth := by
  have changed := h.worth
  rw [debt, surplus] at changed
  linarith

/-- A vault was closed, and what was charged for its debt covers its worth and the fee. -/
theorem Removed.worth {repaid owed : Nat} (h : Removed e id v e')
    (covered : v.normalizedDebt.toNat * e.state.accumulator.toNat ≤ repaid * accumulatorOne)
    (surplus : e'.state.surplus.toNat + repaid = e.state.surplus.toNat + owed) :
    e.worth ≤ e'.worth + owed * accumulatorOne := by
  have total : (e'.state.totalNormalizedDebt.toNat + v.normalizedDebt.toNat : ℤ) =
      e.state.totalNormalizedDebt.toNat := by
    exact_mod_cast h.total
  have scaled := congrArg (· * (e.state.accumulator.toNat : ℤ)) total
  zify at covered surplus
  have scaled' := congrArg (· * (accumulatorOne : ℤ)) surplus
  unfold Engine.worth
  rw [accumulator_of_frame h.frame, badDebt_of_frame h.frame]
  linarith

/-- A new vault is worth nothing. -/
theorem Created.worth (h : Created e id e') : e'.worth = e.worth := by
  unfold Engine.worth
  rw [h.total, h.surplus, accumulator_of_frame h.frame, badDebt_of_frame h.frame]

/-- The worth is read off balances alone. -/
theorem Quiet.worth (h : Quiet e e') : e'.worth = e.worth := by
  unfold Engine.worth
  rw [h.total, h.accumulator, h.badDebt, h.surplus]

/-! ## Steps -/

/-- Interest is booked as surplus rounded down, so what is owed grows by at least as much. -/
theorem worth_accrued {now : Timestamp} {accumulator : Amount}
    (h : Accrued e now accumulator e') : e.worth ≤ e'.worth := by
  have grown := Amount.le_iff.mp h.grown
  have badDebt : e'.state.badDebt = e.state.badDebt := by rw [h.state]
  have booked := Nat.div_mul_le_self (e.state.totalNormalizedDebt.toNat *
    (accumulator.toNat - e.state.accumulator.toNat)) accumulatorOne
  unfold worth
  rw [h.accumulator, h.total, badDebt, h.interest]
  zify [grown] at booked
  push_cast [grown]
  linarith

/-- Upkeep lowers no worth: the interest that it books is owed by the vaults, and its share of the
surplus was rounded down. -/
theorem worth_upkeep {now : Timestamp} (h : Upkeep e now e') : e.worth ≤ e'.worth := by
  cases h with
  | quiet same => exact same.worth.ge
  | accrued _ _ booked same => exact (worth_accrued booked).trans same.worth.ge

/-- Debt that another engine takes on is covered by what that engine takes on. -/
theorem worth_paidOut {now : Timestamp} {amount taken : Amount}
    {senderBorrowFee senderRepayFee : UInt64}
    (h : payDebtOut now id amount senderBorrowFee senderRepayFee e = .ok taken e') :
    e.worth ≤ e'.worth + taken.toNat * accumulatorOne := by
  obtain ⟨accumulator, m, v, w, change, repaid, booked, revised, _, debt, covered, surplus⟩ :=
    payDebtOut_eq_ok h
  rw [← booked.accumulator] at covered
  exact (worth_accrued booked).trans (revised.worth_repaid debt covered surplus)

/-- The shared debt moved inside the engine: the two changes cancel. -/
theorem worth_moved {giving receiving : VaultId} {v' w' : Vault} {moved : Nat}
    (given : Revised e giving v w m)
    (debt : w.normalizedDebt.toNat + moved = v.normalizedDebt.toNat)
    (received : Revised m receiving v' w' e')
    (debt' : w'.normalizedDebt.toNat = v'.normalizedDebt.toNat + moved)
    (surplus : e'.state.surplus = e.state.surplus) : e'.worth = e.worth := by
  have first := given.worth
  have second := received.worth
  rw [← debt] at first
  rw [debt', surplus, accumulator_of_frame given.frame] at second
  push_cast at first second
  linarith

/-! ## Liquidations -/

/-- The vaults of a list that exist and are empty. -/
def emptyAmong (e : Engine) (ids : List VaultId) : Finset VaultId :=
  ids.toFinset.filter fun id => e.vault? id = some .empty

/-- The vault of a liquidation counts if it was left empty, because it was not empty before. -/
theorem card_emptyAmong (h : Revised e id v w e') (owed : v ≠ .empty) (ids : List VaultId) :
    (e.emptyAmong ids).card + (if w = .empty then 1 else 0) ≤
      (e'.emptyAmong (ids ++ [id])).card := by
  -- vaults that were empty are other vaults, and those have not changed
  have others : e.emptyAmong ids ⊆ (e'.emptyAmong (ids ++ [id])).erase id := by
    intro i mem
    obtain ⟨listed, empty⟩ := Finset.mem_filter.mp mem
    have other : i ≠ id := by
      rintro rfl
      exact owed (Option.some.inj (h.found.symm.trans empty))
    rw [Finset.mem_erase, emptyAmong, Finset.mem_filter, h.vault?, if_neg other]
    refine ⟨other, ?_, empty⟩
    rw [List.mem_toFinset, List.mem_append]
    exact .inl (List.mem_toFinset.mp listed)
  have least := Finset.card_le_card others
  split
  · rename_i empty
    have mem : id ∈ e'.emptyAmong (ids ++ [id]) := by
      rw [emptyAmong, Finset.mem_filter, h.vault?, if_pos rfl, empty, List.mem_toFinset]
      exact ⟨List.mem_append_right _ (List.mem_singleton.mpr rfl), rfl⟩
    have one := Finset.card_erase_add_one mem
    omega
  · exact least.trans (Finset.card_le_card (Finset.erase_subset _ _))

/-- What a liquidation takes off the worth is repaid or lost, up to one unit if nothing is left. -/
theorem Revised.worth_liquidated {accumulator debtRepaid : Amount} {outcome : VaultLiquidation}
    (h : Revised e id v w e') (at' : e.state.accumulator = accumulator)
    (surplus : e'.state.surplus = e.state.surplus)
    (done : Liquidated accumulator debtRepaid v w outcome) :
    e.worth ≤ e'.worth + ((outcome.badDebt.toNat + debtRepaid.toNat +
      if w = .empty then 1 else 0 : Nat) : ℤ) * accumulatorOne := by
  have changed := h.worth
  rw [at', surplus] at changed
  cases done with
  | exhausted currentDebt empty _ debt loss =>
    subst empty
    have nearly := (mulDiv_bounds debt).2
    have split : currentDebt.toNat ≤ outcome.badDebt.toNat + debtRepaid.toNat := by
      rw [loss, Amount.toNat_monus]
      omega
    have scaled := Nat.mul_le_mul_right accumulatorOne split
    have none' : Vault.empty.normalizedDebt.toNat = 0 := rfl
    rw [if_pos rfl]
    rw [none'] at changed
    zify at nearly scaled
    push_cast at changed ⊢
    linarith
  | reduced change kept _ debt covered loss =>
    have some' : w ≠ .empty := by
      rintro rfl
      exact kept rfl
    rw [← debt] at changed
    rw [if_neg some', loss, Amount.toNat_zero]
    zify at covered
    push_cast at changed ⊢
    linarith

/-- What a liquidation has come to so far, from the engine `m` on: what the worth has lost was
repaid after the surcharge or is reported as lost, up to one unit for each vault left empty. -/
structure Liquidating (m : Engine) (report : LiquidationReport) (e : Engine) : Prop where
  exact : e.Exact
  frame : e.frame = m.frame
  accumulator : report.accumulator = m.state.accumulator
  covered : ∃ repaid : Nat,
    repaid * ratioOne ≤
      report.stablecoinToReceive.toNat * m.state.params.liquidationSurcharge.toNat ∧
    m.worth ≤ e.worth + ((report.badDebt.toNat + repaid +
      (e.emptyAmong report.liquidated).card : Nat) : ℤ) * accumulatorOne

/-- One more entry adds to what was repaid and lost at least what it takes from the worth, up to one
unit if it leaves its vault empty. -/
theorem Liquidating.next {ctx : Context} {report report' : LiquidationReport}
    {entry : VaultId × Amount} (h : Liquidating m report e)
    (next : liquidateNext ctx report entry e = .ok report' e') : Liquidating m report' e' := by
  obtain ⟨repaid, part, covered⟩ := h.covered
  rcases liquidateNext_eq_ok h.exact next with ⟨outcome, done, received, _, lost, same⟩ |
    ⟨_, _, rfl, same⟩
  · obtain ⟨v, w, debtRepaid, revised, owed, surplus, amount, surcharged, liquidated⟩ :=
      liquidateVault_eq_ok done
    have at' : e.state.accumulator = report.accumulator :=
      (accumulator_of_frame h.frame).trans h.accumulator.symm
    refine ⟨h.exact.revised revised, revised.frame.trans h.frame, ?_, repaid + debtRepaid.toNat,
      ?_, ?_⟩
    · rw [same]
      exact h.accumulator
    · have less := (mulDiv_bounds surcharged).1
      rw [params_of_frame h.frame, ← amount] at less
      rw [received, Nat.add_mul, Nat.add_mul]
      omega
    · have one := revised.worth_liquidated at' surplus liquidated
      have count := card_emptyAmong revised owed report.liquidated
      have ids : report'.liquidated = report.liquidated ++ [entry.1] := by rw [same]
      have scaled := Nat.mul_le_mul_right accumulatorOne count
      rw [ids, lost]
      zify at scaled
      push_cast at covered one scaled ⊢
      linarith
  · refine ⟨h.exact, h.frame, ?_, repaid, ?_, ?_⟩
    · rw [same]
      exact h.accumulator
    · rw [same]
      exact part
    · rw [same]
      exact covered

/-- What a liquidation takes off the worth is what the liquidator pays, up to one unit for each
vault that it left empty. -/
theorem worth_liquidatedAll {ctx : Context} {ids : List VaultId} {amounts : List Amount}
    {report : LiquidationReport} (h : e.Exact)
    (all : liquidateAll ctx ids amounts e = .ok report e') :
    e.worth ≤ e'.worth + ((report.stablecoinToReceive.toNat +
      (e'.emptyAmong report.liquidated).card : Nat) : ℤ) * accumulatorOne := by
  obtain ⟨accumulator, price, m, m', share, surplus, badDebt, booked, _, folded, _, most, hshare,
    hsurplus, hbad, rfl⟩ := liquidateAll_eq_ok all
  have start : Liquidating m ⟨price, accumulator, .zero, .zero, .zero, [], []⟩ m := by
    refine ⟨h.accrued booked, rfl, booked.accumulator.symm, 0, ?_, ?_⟩
    · rw [Nat.zero_mul]
      exact Nat.zero_le _
    · exact le_add_of_nonneg_right (by positivity)
  have ended := Transact.foldlM_induction (P := fun _ report e => Liquidating m report e)
    (fun _ _ _ _ _ _ h next => h.next next) start folded
  obtain ⟨repaid, part, covered⟩ := ended.covered
  -- the protocol's share and what is repaid are parts of what the liquidator pays
  have parts : share.toNat + repaid ≤ report.stablecoinToReceive.toNat := by
    have shared := (mulDiv_bounds hshare).1
    rw [params_of_frame ended.frame] at shared most
    rw [Nat.mul_sub] at shared
    have whole := Nat.mul_le_mul_left report.stablecoinToReceive.toNat most
    apply Nat.le_of_mul_le_mul_right _ ratioOne_pos
    rw [Nat.add_mul]
    omega
  have scaled := Nat.mul_le_mul_right accumulatorOne parts
  have grown := worth_accrued booked
  have empty : Engine.emptyAmong { m' with state := { m'.state with surplus, badDebt } }
    report.liquidated = m'.emptyAmong report.liquidated := rfl
  have after : Engine.worth { m' with state := { m'.state with surplus, badDebt } } =
      m'.worth + (report.badDebt.toNat - share.toNat) * accumulatorOne := by
    unfold worth
    dsimp only
    rw [hsurplus, hbad]
    push_cast
    ring
  rw [empty, after]
  zify at scaled
  push_cast at covered scaled ⊢
  linarith

end CollateralDebt.Engine
