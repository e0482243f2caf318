import CollateralDebt.Proofs.Compounding
import CollateralDebt.Proofs.Configuration
import CollateralDebt.Proofs.World.Drain

/-!
# Debt never shrinks by itself

The accumulator of an engine is booked now and then, and worked out from its last booking in
between. What is read of it depends on when it was booked, since every booking rounds, and on the
rate, which may change. Still no read is below an earlier one: before the rate changes, all interest
is booked, and from a booking on no read is below what was booked. A vault's debt goes with the
accumulator as long as nobody takes any of it out.

## What is proved

- `Engine.ReadsFrom`: no read from a time on is below a given one; what one step keeps of this
  (`ReadsFrom.step`), and a run (`reads_run`);
- `debt_never_shrinks`: accumulators, bookings and debts along a run.
-/

namespace CollateralDebt

/-- One result is no larger than another, and it is there whenever the other is. -/
def Outcome.AtMost (x y : Outcome Amount) : Prop := ∀ b, y = .ok b → ∃ a, x = .ok a ∧ a ≤ b

/-- Less normalized debt under a smaller accumulator is less actual debt. -/
theorem debtOf_mono {normalized normalized' accumulator accumulator' : Amount}
    (hn : normalized ≤ normalized') (ha : accumulator ≤ accumulator') :
    (debtOf normalized accumulator).AtMost (debtOf normalized' accumulator') := by
  intro debt' h
  obtain ⟨some', whole⟩ := mulDiv_eq_ok.mp h
  have less : normalized.toNat * accumulator.toNat / accumulatorOne ≤ debt'.toNat := by
    rw [whole]
    exact Nat.div_le_div_right (Nat.mul_le_mul hn ha)
  exact ⟨⟨_, Nat.lt_of_le_of_lt less debt'.isLt⟩, mulDiv_eq_ok.mpr ⟨some', rfl⟩, less⟩

namespace Engine

variable {tidy : Prop} {first : Outcome Amount} {since now : Timestamp} {e e' : Engine}

/-! ## Reads of the accumulator -/

/-- No read of the accumulator from a time on is below the first one. -/
def ReadsFrom (first : Outcome Amount) (since : Timestamp) (e : Engine) : Prop :=
  ∀ now, since ≤ now → first.AtMost (e.currentAccumulator now)

/-- No read is below one that was made of the same engine earlier. -/
theorem readsFrom_self (e : Engine) (now : Timestamp) :
    e.ReadsFrom (e.currentAccumulator now) now :=
  fun _ later _ read => accumulate_mono (Nat.sub_le_sub_right later _) read

/-- Reads from a later time on are not below the first one either. -/
theorem ReadsFrom.later (h : e.ReadsFrom first since) (later : since ≤ now) :
    e.ReadsFrom first now := fun t ht => h t (UInt64.le_trans later ht)

/-- An engine that computes the accumulator from the same data reads the same. -/
theorem ReadsFrom.congr (h : e.ReadsFrom first since)
    (accumulator : e'.state.accumulator = e.state.accumulator)
    (rate : e'.state.params.interestRate = e.state.params.interestRate)
    (accruedAt : e'.state.accruedAt = e.state.accruedAt) : e'.ReadsFrom first since := by
  unfold ReadsFrom currentAccumulator
  rw [accumulator, rate, accruedAt]
  exact h

/-- If the accumulator that is on the books was not below the first read, no read will be. -/
theorem readsFrom_of_booked {first' : Amount} (read : first = .ok first')
    (le : first' ≤ e.state.accumulator) : e.ReadsFrom first since :=
  fun _ _ _ current => ⟨first', read, Nat.le_trans le (accumulate_ge current)⟩

/-- A step leaves no read from its time on below the first one. -/
theorem ReadsFrom.step (h : e.ReadsFrom first since) (later : since ≤ now)
    (step : Step tidy now e e') : e'.ReadsFrom first now := by
  have from_now := h.later later
  cases step with
  | @accrued accumulator _ booked =>
    obtain ⟨first', read, le⟩ := from_now now (UInt64.le_refl now) accumulator booked.current
    rw [← booked.accumulator] at le
    exact readsFrom_of_booked read le
  | @parameter parameter value booked =>
    by_cases rate : parameter = .interestRate
    · -- the rate changes when nothing is left to book
      have current : e.currentAccumulator now = .ok e.state.accumulator := by
        unfold currentAccumulator
        rw [Nat.sub_eq_zero_of_le (UInt64.le_iff_toNat_le.mp (booked rate))]
        exact accumulate_zero _ _
      obtain ⟨first', read, le⟩ := from_now now (UInt64.le_refl now) _ current
      exact readsFrom_of_booked read le
    · refine from_now.congr rfl ?_ rfl
      cases parameter with
      | interestRate => exact absurd rfl rate
      | _ => rfl
  | _ => exact from_now.congr rfl rfl rfl

/-- Bookings and new rates on the way lower no later read. -/
theorem ReadsFrom.trace (h : e.ReadsFrom first since) (later : since ≤ now)
    (trace : Trace tidy now e e') : e'.ReadsFrom first now := by
  induction trace with
  | refl => exact h.later later
  | tail _ step ih => exact ih.step (UInt64.le_refl now) step

/-! ## Bookings -/

/-- What was booked, and when, never goes back. -/
theorem Descends.grown (h : e.Descends e') :
    e.state.accumulator ≤ e'.state.accumulator ∧ e.state.accruedAt ≤ e'.state.accruedAt := by
  induction h with
  | refl => exact ⟨Nat.le_refl _, UInt64.le_refl _⟩
  | tail _ step ih =>
    obtain ⟨now, step⟩ := step
    exact ⟨Nat.le_trans ih.1 step.grown, UInt64.le_trans ih.2 step.accruedAt_le⟩

/-! ## Debts -/

/-- If a vault owes no less and the accumulator reads no less, its debt reads no less. -/
theorem vaultDebt_mono {id : VaultId} {t t' : Timestamp} (more : e.owes id ≤ e'.owes id)
    (grown : (e.currentAccumulator t).AtMost (e'.currentAccumulator t')) :
    (e.vaultDebt id t).AtMost (e'.vaultDebt id t') := by
  have owes (e : Engine) :
      Amount.toNat (((e.vault? id).map (·.normalizedDebt)).getD .zero) = e.owes id := by
    unfold Engine.owes
    cases e.vault? id <;> rfl
  intro debt' h
  obtain ⟨accumulator', read', h⟩ := Outcome.bind_eq_ok.mp h
  obtain ⟨accumulator, read, le⟩ := grown accumulator' read'
  have normalized : ((e.vault? id).map (·.normalizedDebt)).getD .zero ≤
      ((e'.vault? id).map (·.normalizedDebt)).getD .zero := by
    rw [Amount.le_iff, owes, owes]
    exact more
  obtain ⟨debt, worth, less⟩ := debtOf_mono normalized le debt' h
  exact ⟨debt, Outcome.bind_eq_ok.mpr ⟨accumulator, read, worth⟩, less⟩

end Engine

namespace World

variable {w : World} {place : Nat} {first : Outcome Amount} {since t : Timestamp} {e e' : Engine}

/-- After a run whose calls reach the engine in order, no read is below the first one. -/
theorem reads_run {calls : List Call} (hw : w.Reachable) (standing : engine? w.seats place = some e)
    (stands : engine? (w.run calls).seats place = some e')
    (ordered : (since :: calls.filterMap (Call.reaches place) ++ [t]).Pairwise (· ≤ ·))
    (h : e.ReadsFrom first since) : first.AtMost (e'.currentAccumulator t) := by
  induction calls generalizing w e since with
  | nil =>
    cases standing.symm.trans stands
    exact h t (List.rel_of_pairwise_cons ordered (List.mem_singleton_self t))
  | cons call rest ih =>
    have next : ∃ n, engine? (w.next call).seats place = some n ∧ LedBy False call place e n :=
      traced_next hw.exact nofun standing
    obtain ⟨n, between, led⟩ := next
    rcases led with rfl | ⟨now, reaches, trace⟩
    · -- the call may have reached the engine at a time of its own, or not at all
      have fewer : (rest.filterMap (Call.reaches place)).Sublist
          ((call :: rest).filterMap (Call.reaches place)) :=
        (List.sublist_cons_self call rest).filterMap _
      exact ih (hw.next call) between stands
        (ordered.sublist ((fewer.cons_cons since).append_right [t])) h
    · rw [List.filterMap_cons_some reaches] at ordered
      have later : since ≤ now := List.rel_of_pairwise_cons ordered (List.mem_cons_self ..)
      exact ih (hw.next call) between stands ordered.of_cons (h.trace later trace)

/-- Debt never shrinks by itself. The accumulator is at least one, and over a run neither it nor the
time up to which it was booked goes back. If the calls that reach the engine come in the order of
their times, a read before them is no larger than one after them, be it of the accumulator or of the
debt of a vault that no call drains. More time never makes less of an accumulator. -/
theorem debt_never_shrinks (calls : List Call) (hw : w.Reachable)
    (standing : engine? w.seats place = some e) :
    ∃ e', engine? (w.run calls).seats place = some e' ∧
      accumulatorOne ≤ e.state.accumulator.toNat ∧ e.state.accumulator ≤ e'.state.accumulator ∧
      e.state.accruedAt ≤ e'.state.accruedAt ∧
      (∀ t₀ t₁, (t₀ :: calls.filterMap (Call.reaches place) ++ [t₁]).Pairwise (· ≤ ·) →
        (e.currentAccumulator t₀).AtMost (e'.currentAccumulator t₁) ∧
        ∀ id, Throughout (fun w call => (place, id) ∉ w.drained call) w calls →
          (e.vaultDebt id t₀).AtMost (e'.vaultDebt id t₁)) ∧
      ∀ accumulator rate elapsed elapsed', elapsed ≤ elapsed' →
        (accumulate accumulator rate elapsed).AtMost (accumulate accumulator rate elapsed') := by
  have ran : ∃ e', engine? (w.run calls).seats place = some e' ∧ e.Descends e' :=
    descends_run hw standing
  obtain ⟨e', stands, descends⟩ := ran
  obtain ⟨seat, found, rfl⟩ := Option.map_eq_some_iff.mp standing
  obtain ⟨grown, later⟩ := descends.grown
  refine ⟨e', stands, (hw.fit seat (List.mem_of_getElem? found)).accumulator, grown, later,
    fun t₀ t₁ ordered => ?_, fun _ _ _ _ less _ => accumulate_mono less⟩
  have reads := reads_run hw standing stands ordered (seat.engine.readsFrom_self t₀)
  exact ⟨reads, fun id spared => Engine.vaultDebt_mono (owes_run hw standing stands spared) reads⟩

/-- The small market with interest. -/
def lending : List Call :=
  smallMarket ++ [.engine 0 (account 3) 0 [] (.setParameter "IR" 158_153_934_393_112_649)]

/-- Collateral is added, which books the interest so far; then the rate is halved. -/
def season : List Call := [
  .engine 0 (account 5) 1000 [] (.batch borrower [.addCollateral 1 (tenths 10)]),
  .engine 0 (account 3) 2000 [] (.setParameter "IR" 79_076_967_196_556_324)]

set_option maxRecDepth 10000 in
/-- The debt of the vault grows, through a booking and a change of the rate. -/
theorem debt_never_shrinks_season :
    ∃ e e' debt debt', engine? (history lending).seats 0 = some e ∧
      engine? ((history lending).run season).seats 0 = some e' ∧
      e.vaultDebt 1 500 = .ok debt ∧ e'.vaultDebt 1 3000 = .ok debt' ∧
      debt ≤ debt' ∧ debt ≠ debt' ∧ e.state.accumulator ≤ e'.state.accumulator ∧
      (accumulate e.state.accumulator 1 1).AtMost (accumulate e.state.accumulator 1 2) := by
  have facts : ((engine? (history lending).seats 0).any fun e =>
      (engine? ((history lending).run season).seats 0).any fun e' =>
        (e.vaultDebt 1 500).toOption.any fun debt =>
          (e'.vaultDebt 1 3000).toOption.any fun debt' => decide (debt ≠ debt')) = true := by
    decide +kernel
  simp only [Option.any_eq_true, Outcome.toOption_eq_some, decide_eq_true_eq] at facts
  obtain ⟨e, standing, e', stands, debt, before, debt', after, grew⟩ := facts
  obtain ⟨_, same, -, grown, -, reads, faster⟩ := debt_never_shrinks season ⟨_, rfl⟩ standing
  cases stands.symm.trans same
  obtain ⟨-, debts⟩ := reads 500 3000 (by decide)
  obtain ⟨_, read, less⟩ := debts 1 (by decide +kernel) debt' after
  cases before.symm.trans read
  exact ⟨e, e', debt, debt', standing, stands, before, after, less, grew, grown,
    faster e.state.accumulator 1 1 2 (by decide)⟩

end World

end CollateralDebt
