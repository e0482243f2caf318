import CollateralDebt.Proofs.Engine.Exchange
import CollateralDebt.Proofs.Independence
import CollateralDebt.Proofs.Netting

/-!
# Debt that changes hands

A transfer of debt creates none and forgives none. Inside one engine the same normalized units leave
one vault and come to the other, so nothing is rounded and the totals stand still, also for a vault
that takes over its own debt. Between engines the units are of different worth, and the giving
engine may keep a part for the fees that the move would have dodged. What it reports as taken covers
what it counts as repaid, the difference is its surplus, and each vault follows its own number up to
one unit of its accumulator.

The bounds are kept in whole numbers until the last step: `change` normalized units at an
accumulator, against so many units of debt.

## What is proved

- `MovedWithin`, `moveDebt_moves`: a transfer inside an engine;
- `decreaseDebt_bounds`, `worth_bounds`: how far a vault follows the amount, from both sides;
- `PaidOut`, `payDebtOut_pays`: the giving engine of a transfer between engines;
- `TakenOn`, `takenOn_of_revised`: the receiving one;
- `debt_transfer_conserves`: the action in every state.
-/

namespace CollateralDebt

namespace Engine

open Transact (bind_eq_ok)

variable {now : Timestamp} {e e' m : Engine} {id receiving giving : VaultId}
  {amount accumulator taken repaid : Amount} {v w : Vault}

/-! ## Inside one engine -/

/-- Normalized units left one vault of an engine, `v`, and came to another, `w`. They are now `v'`
and `w'`. A vault that took them over from itself is as it was. -/
structure MovedWithin (e : Engine) (receiving giving : VaultId) (units : Nat) (v w v' w' : Vault)
    (e' : Engine) : Prop where
  giver : e.vault? giving = some v
  taker : e.vault? receiving = some w
  gave : e'.vault? giving = some v'
  took : e'.vault? receiving = some w'
  collateral : v'.collateral = v.collateral ∧ w'.collateral = w.collateral
  gives : receiving ≠ giving → v'.normalizedDebt.toNat + units = v.normalizedDebt.toNat
  takes : receiving ≠ giving → w'.normalizedDebt.toNat = w.normalizedDebt.toNat + units
  itself : receiving = giving → v' = v ∧ w' = w
  others : ∀ i, i ≠ giving → i ≠ receiving → e'.vault? i = e.vault? i
  total : e'.state.totalNormalizedDebt = e.state.totalNormalizedDebt
  surplus : e'.state.surplus = e.state.surplus
  frame : e'.frame = e.frame

/-- Units that leave a vault and then come to a vault are moved. -/
theorem movedWithin_of_revised {v₁ w₁ v₂ w₂ : Vault} {units : Nat}
    (left : Revised e giving v₁ w₁ m) (collateral : w₁.collateral = v₁.collateral)
    (fewer : w₁.normalizedDebt.toNat + units = v₁.normalizedDebt.toNat)
    (came : Revised m receiving v₂ w₂ e') (collateral' : w₂.collateral = v₂.collateral)
    (more : w₂.normalizedDebt.toNat = v₂.normalizedDebt.toNat + units)
    (surplus : e'.state.surplus = e.state.surplus) :
    ∃ w v' w', MovedWithin e receiving giving units v₁ w v' w' e' := by
  have total : e'.state.totalNormalizedDebt = e.state.totalNormalizedDebt := by
    have out := left.total
    have back := came.total
    exact Amount.ext (by omega)
  have frame := came.frame.trans left.frame
  have others : ∀ i, i ≠ giving → i ≠ receiving → e'.vault? i = e.vault? i := by
    intro i foreign foreign'
    rw [came.vault?, if_neg foreign', left.vault?, if_neg foreign]
  have between : m.vault? giving = some w₁ := by rw [left.vault?, if_pos rfl]
  have kept : e'.vault? receiving = some w₂ := by rw [came.vault?, if_pos rfl]
  by_cases own : receiving = giving
  · -- the units come back to where they left
    subst own
    cases between.symm.trans came.found
    have same : w₂ = v₁ :=
      Vault.ext (collateral'.trans collateral) (Amount.ext (more.trans fewer))
    subst same
    exact ⟨w₂, w₂, w₂, left.found, left.found, kept, kept, ⟨rfl, rfl⟩, absurd rfl, absurd rfl,
      fun _ => ⟨rfl, rfl⟩, others, total, surplus, frame⟩
  · have standing : e.vault? receiving = some v₂ := by
      have found := came.found
      rwa [left.vault?, if_neg own] at found
    have given : e'.vault? giving = some w₁ := by
      rw [came.vault?, if_neg (Ne.symm own)]
      exact between
    exact ⟨v₂, w₁, w₂, left.found, standing, given, kept, ⟨collateral, collateral'⟩,
      fun _ => fewer, fun _ => more, fun same => absurd same own, others, total, surplus, frame⟩

/-- Inside one engine, as many units are moved as the amount comes to, or all that are owed. -/
theorem moveDebt_moves (h : Arena.moveDebt now receiving giving amount accumulator e =
    .ok taken e') :
    ∃ v w v' w', MovedWithin e receiving giving
      (min (amount.toNat * accumulatorOne / accumulator.toNat) v.normalizedDebt.toNat)
      v w v' w' e' := by
  simp only [Arena.moveDebt, bind_eq_ok, Transact.liftM_eq_ok, findVault_eq_ok] at h
  obtain ⟨requested, _, ⟨hrequested, rfl⟩, giver, _, ⟨found, rfl⟩, _, m, removed, _, e₁, added,
    h⟩ := h
  have whole := (mulDiv_eq_ok.mp hrequested).2
  obtain ⟨v₁, w₁, left, same, fewer, _, kept, _⟩ := removeNormalizedDebt_eq_ok removed
  obtain ⟨v₂, w₂, came, same', more, _, _, kept', _⟩ := addNormalizedDebt_eq_ok added
  cases found.symm.trans left.found
  -- what is answered depends on the amounts, the engine does not
  have ended : e' = e₁ := by
    split at h
    · rw [Transact.liftM_eq_ok] at h
      exact h.2.symm
    · rw [Transact.pure_eq_ok] at h
      exact h.2.symm
  subst ended
  rw [Amount.toNat_min, whole] at fewer more
  exact ⟨_, movedWithin_of_revised left same fewer came same' more (kept'.trans kept)⟩

/-! ## Amounts and normalized units -/

/-- Removed debt falls short of what was counted as repaid by less than a normalized unit and one
more unit of debt. -/
theorem decreaseDebt_bounds (h : decreaseDebt now id amount accumulator e = .ok repaid e') :
    ∃ (v w : Vault) (change : Nat), Revised e id v w e' ∧ w.collateral = v.collateral ∧
      w.normalizedDebt.toNat + change = v.normalizedDebt.toNat ∧
      change * accumulator.toNat ≤ repaid.toNat * accumulatorOne ∧
      repaid.toNat * accumulatorOne <
        change * accumulator.toNat + accumulator.toNat + accumulatorOne ∧
      repaid ≤ amount ∧ e'.state.surplus = e.state.surplus := by
  have one := accumulatorOne_pos
  simp only [decreaseDebt, bind_eq_ok, findVault_eq_ok, Transact.liftM_eq_ok] at h
  obtain ⟨v, _, ⟨found, rfl⟩, change, _, ⟨hchange, rfl⟩, h⟩ := h
  split at h
  · rename_i full
    simp only [bind_eq_ok, Transact.liftM_eq_ok, Transact.pure_eq_ok] at h
    obtain ⟨repaid, _, ⟨hrepaid, rfl⟩, _, _, removed, rfl, rfl⟩ := h
    obtain ⟨v', w, revised, same, debt, _, surplus, _⟩ := removeNormalizedDebt_eq_ok removed
    obtain ⟨least, most⟩ := mulDivUp_bounds hrepaid
    exact ⟨v', w, v.normalizedDebt.toNat, revised, same, debt, least, by omega,
      debtOfUp_le hchange full hrepaid, surplus⟩
  · simp only [bind_eq_ok, Transact.pure_eq_ok] at h
    obtain ⟨_, _, removed, rfl, rfl⟩ := h
    obtain ⟨v', w, revised, same, debt, _, surplus, _⟩ := removeNormalizedDebt_eq_ok removed
    obtain ⟨most, least⟩ := mulDiv_bounds hchange
    exact ⟨v', w, change.toNat, revised, same, debt, most, by omega, Nat.le_refl _, surplus⟩

/-- What a number of normalized units is worth, against the amount that they were rounded from. -/
theorem worth_bounds {change : Nat} (slack : Nat)
    (most : change * accumulator.toNat ≤ amount.toNat * accumulatorOne)
    (least : amount.toNat * accumulatorOne <
      change * accumulator.toNat + accumulator.toNat + slack * accumulatorOne) :
    (change * accumulator.toNat / accumulatorOne : ℚ) ≤ amount.toNat ∧
      (amount.toNat - accumulator.toNat / accumulatorOne - slack : ℚ) <
        change * accumulator.toNat / accumulatorOne := by
  have one := cast_accumulatorOne_pos
  have most' : (change : ℚ) * accumulator.toNat ≤ amount.toNat * accumulatorOne := by
    exact_mod_cast most
  have least' : (amount.toNat : ℚ) * accumulatorOne <
      change * accumulator.toNat + accumulator.toNat + slack * accumulatorOne := by
    exact_mod_cast least
  constructor
  · rwa [div_le_iff₀ one]
  · have short : (amount.toNat : ℚ) <
        (change * accumulator.toNat + accumulator.toNat + slack * accumulatorOne) /
          accumulatorOne := by
      rwa [lt_div_iff₀ one]
    rw [add_div, add_div, mul_div_cancel_right₀ _ one.ne'] at short
    linarith

/-- What is owed less, as the worth of the units that left. -/
theorem owed_sub_owed {change : Nat} (accumulator : Amount)
    (fewer : w.normalizedDebt.toNat + change = v.normalizedDebt.toNat) :
    v.owed accumulator - w.owed accumulator =
      change * accumulator.toNat / accumulatorOne := by
  rw [Vault.owed_of_add accumulator fewer, sub_sub_cancel]

/-! ## Between engines -/

/-- An engine repaid debt of one of its vaults for another engine, which has the given fees. It
booked its interest, kept a share for the fees, counted `repaid` of debt as repaid, and reported
that `taken` is to be taken on. The vault `v` is now `v'`. -/
structure PaidOut (e : Engine) (now : Timestamp) (id : VaultId) (amount : Amount)
    (borrowFee repayFee : UInt64) (accumulator : Amount) (m : Engine)
    (kept taken repaid : Amount) (v v' : Vault) (e' : Engine) : Prop where
  accrued : Accrued e now accumulator m
  share : feeKept (e.state.params.repayFee.toNat - repayFee.toNat)
    (borrowFee.toNat - e.state.params.borrowFee.toNat) = .ok kept
  repaid_le : repaid ≤ taken
  taken_le : taken ≤ amount
  covered : repaid.toNat * ratioOne ≤ taken.toNat * kept.toNat
  surplus : e'.state.surplus.toNat = m.state.surplus.toNat + (taken.toNat - repaid.toNat)
  giver : e.vault? id = some v
  gave : e'.vault? id = some v'
  collateral : v'.collateral = v.collateral
  fall_le : v.owed accumulator - v'.owed accumulator ≤ repaid.toNat
  lt_fall : repaid.toNat - accumulator.toNat / accumulatorOne - 1 <
    v.owed accumulator - v'.owed accumulator
  others : ∀ i, i ≠ id → e'.vault? i = e.vault? i
  total : e'.state.totalNormalizedDebt.toNat + v.normalizedDebt.toNat =
    e.state.totalNormalizedDebt.toNat + v'.normalizedDebt.toNat
  frame : e'.frame = m.frame

/-- What the other engine is told to take on covers what was repaid, at the share that was kept:
the whole amount, or what was repaid with the fees on top of it. -/
theorem taken_covers {kept lessFee : Amount} (keeps : kept.toNat ≤ ratioOne)
    (hless : mulDiv amount.toNat kept.toNat ratioOne = .ok lessFee) (atMost : repaid ≤ lessFee)
    (h : taken = amount ∨
      ∃ scaled, mulDivUp repaid.toNat ratioOne kept.toNat = .ok scaled ∧ taken = min scaled amount) :
    repaid ≤ taken ∧ taken ≤ amount ∧
      repaid.toNat * ratioOne ≤ taken.toNat * kept.toNat := by
  have less : repaid.toNat ≤ amount.toNat := Nat.le_trans atMost (mulDiv_le keeps hless)
  have covers : repaid.toNat * ratioOne ≤ amount.toNat * kept.toNat :=
    Nat.le_trans (Nat.mul_le_mul_right ratioOne (Amount.le_iff.mp atMost)) (mulDiv_bounds hless).1
  rcases h with rfl | ⟨scaled, hscaled, rfl⟩
  · exact ⟨less, Nat.le_refl _, covers⟩
  · simp only [Amount.le_iff, Amount.toNat_min]
    refine ⟨Nat.le_min.mpr ⟨mulDivUp_ge keeps hscaled, less⟩, Nat.min_le_right _ _, ?_⟩
    rcases Nat.le_total scaled.toNat amount.toNat with small | large
    · rw [Nat.min_eq_left small]
      exact (mulDivUp_bounds hscaled).1
    · rw [Nat.min_eq_right large]
      exact covers

/-- The giving side of a transfer between engines. -/
theorem payDebtOut_pays {borrowFee repayFee : UInt64}
    (h : payDebtOut now id amount borrowFee repayFee e = .ok taken e') :
    ∃ accumulator m kept repaid v v',
      PaidOut e now id amount borrowFee repayFee accumulator m kept taken repaid v v' e' := by
  simp only [payDebtOut, bind_eq_ok, getState_eq_ok, Transact.liftM_eq_ok] at h
  obtain ⟨accumulator, m, booked, _, _, ⟨rfl, rfl⟩, kept, _, ⟨hkept, rfl⟩, lessFee, _,
    ⟨hless, rfl⟩, repaid, e₁, decreased, h⟩ := h
  obtain ⟨v, v', change, revised, same, fewer, most, least, atMost, unspent⟩ :=
    decreaseDebt_bounds decreased
  have ended : (taken = amount ∨ ∃ scaled,
      mulDivUp repaid.toNat ratioOne kept.toNat = .ok scaled ∧ taken = min scaled amount) ∧
      ∃ surplus : Amount,
        surplus.toNat = e₁.state.surplus.toNat + (taken.monus repaid).toNat ∧
        { e₁ with state := { e₁.state with surplus } } = e' := by
    split at h
    · simp only [bind_eq_ok, addSurplus_eq_ok, Transact.pure_eq_ok] at h
      obtain ⟨_, _, ⟨rfl, rfl⟩, _, _, booked', rfl, rfl⟩ := h
      exact ⟨.inl rfl, booked'⟩
    · simp only [bind_eq_ok, Transact.liftM_eq_ok, addSurplus_eq_ok, Transact.pure_eq_ok] at h
      obtain ⟨scaled, _, ⟨hscaled, rfl⟩, _, _, ⟨rfl, rfl⟩, _, _, booked', rfl, rfl⟩ := h
      exact ⟨.inr ⟨scaled, hscaled, rfl⟩, booked'⟩
  obtain ⟨reported, surplus, hsurplus, rfl⟩ := ended
  obtain ⟨repaid_le, taken_le, covered⟩ := taken_covers (feeKept_le hkept) hless atMost reported
  have accrued := accrue_eq_ok booked
  have params : m.state.params = e.state.params := by rw [accrued.state]
  rw [params] at hkept
  obtain ⟨fall_le, lt_fall⟩ := worth_bounds 1 most (by omega)
  rw [Amount.toNat_monus, unspent] at hsurplus
  rw [← owed_sub_owed accumulator fewer] at fall_le lt_fall
  refine ⟨accumulator, m, kept, repaid, v, v', accrued, hkept, repaid_le, taken_le, covered,
    hsurplus, ?_, ?_, same, fall_le, by simpa using lt_fall, fun i foreign => ?_, ?_,
    revised.frame⟩
  · rw [← accrued.vault?]
    exact revised.found
  · exact (revised.vault? id).trans (if_pos rfl)
  · exact (revised.vault? i).trans ((if_neg foreign).trans (accrued.vault? i))
  · rw [← accrued.total]
    exact revised.total

/-- An engine took on debt for one of its vaults, which was `w` and is now `w'`. -/
structure TakenOn (e : Engine) (id : VaultId) (taken accumulator : Amount) (w w' : Vault)
    (e' : Engine) : Prop where
  taker : e.vault? id = some w
  took : e'.vault? id = some w'
  collateral : w'.collateral = w.collateral
  rise_le : w'.owed accumulator - w.owed accumulator ≤ taken.toNat
  lt_rise : taken.toNat - accumulator.toNat / accumulatorOne <
    w'.owed accumulator - w.owed accumulator
  others : ∀ i, i ≠ id → e'.vault? i = e.vault? i
  total : e'.state.totalNormalizedDebt.toNat + w.normalizedDebt.toNat =
    e.state.totalNormalizedDebt.toNat + w'.normalizedDebt.toNat
  surplus : e'.state.surplus = e.state.surplus
  frame : e'.frame = e.frame

/-- The receiving side of a transfer between engines. -/
theorem takenOn_of_revised {change : Amount} (revised : Revised e id v w e')
    (collateral : w.collateral = v.collateral)
    (hchange : normalize taken accumulator = .ok change)
    (more : w.normalizedDebt.toNat = v.normalizedDebt.toNat + change.toNat)
    (surplus : e'.state.surplus = e.state.surplus) : TakenOn e id taken accumulator v w e' := by
  obtain ⟨most, least⟩ := mulDiv_bounds hchange
  obtain ⟨rise_le, lt_rise⟩ := worth_bounds 0 most (by omega)
  rw [← owed_sub_owed accumulator more.symm] at rise_le lt_rise
  refine ⟨revised.found, (revised.vault? id).trans (if_pos rfl), collateral, rise_le,
    by simpa using lt_rise, fun i foreign => (revised.vault? i).trans (if_neg foreign),
    revised.total, surplus, revised.frame⟩

end Engine

/-! ## The action -/

namespace Arena

open Transact (bind_eq_ok)

variable {ctx : Context} {accumulator amount : Amount} {s s' : Arena} {t t' : Tally}
  {receiving giving : VaultId} {givingEngine : Address}

/-- Taking debt into a vault out of a vault of this or of another engine, in whatever state it
succeeds. It pays and charges nothing. Inside the engine, whole units change hands. Out of another
engine, the repaid debt is covered by what is taken on, each of the two vaults follows its number,
and what the numbers differ by is surplus of the other engine. -/
theorem debt_transfer_conserves
    (done : applyAction ctx accumulator t (.getDebtIn receiving givingEngine giving amount) s =
      .ok t' s') :
    t'.payment = t.payment ∧ s'.ledger = s.ledger ∧ s'.requests = s.requests ∧
      (givingEngine = s.engine.state.address → s'.remotes = s.remotes ∧ ∃ v w v' w',
        Engine.MovedWithin s.engine (s.engine.state.resolve receiving) giving
          (min (amount.toNat * accumulatorOne / accumulator.toNat) v.normalizedDebt.toNat)
          v w v' w' s'.engine) ∧
      (givingEngine ≠ s.engine.state.address →
        ∃ i r r' accumulator' m kept taken repaid v v' w w',
          s.remotes[i]? = some r ∧ r.engine.state.address = givingEngine ∧
          s'.remotes = s.remotes.set i { r with engine := r' } ∧
          r.engine.PaidOut ctx.now giving amount s.engine.state.params.borrowFee
            s.engine.state.params.repayFee accumulator' m kept taken repaid v v' r' ∧
          s.engine.TakenOn (s.engine.state.resolve receiving) taken accumulator w w' s'.engine) := by
  simp only [applyAction, getDebtIn, bind_eq_ok, Transact.get_eq_ok, onEngine_eq_ok,
    Engine.requireAmount_eq_ok, Engine.requireMayAct_eq_ok] at done
  obtain ⟨_, _, ⟨rfl, rfl⟩, _, _, ⟨_, _, ⟨_, ⟨_, rfl⟩, rfl⟩, _, _, ⟨_, ⟨_, rfl⟩, rfl⟩, _, _,
    ⟨rfl, rfl⟩, h⟩, tallied⟩ := done
  obtain ⟨rfl, rfl⟩ := Transact.pure_eq_ok.mp tallied
  split at h
  · rename_i own
    simp only [bind_eq_ok, onEngine_eq_ok, Engine.emit_eq_ok] at h
    obtain ⟨taken, _, ⟨e, moved, rfl⟩, _, rfl, rfl⟩ := h
    obtain ⟨v, w, v', w', within⟩ := Engine.moveDebt_moves moved
    exact ⟨rfl, rfl, rfl, fun _ => ⟨rfl, v, w, v', w', { within with }⟩, fun other => absurd own other⟩
  · rename_i other
    simp only [bind_eq_ok, onEngine_eq_ok, Engine.emit_eq_ok] at h
    obtain ⟨taken, _, fetched, _, rfl, rfl⟩ := h
    simp only [fetchDebt, bind_eq_ok, Transact.require_eq_ok, Transact.get_eq_ok, onEngine_eq_ok,
      Transact.pure_eq_ok] at fetched
    obtain ⟨_, _, ⟨_, rfl⟩, _, _, ⟨rfl, rfl⟩, _, _, remote, _, _, ⟨e, increased, rfl⟩, rfl,
      rfl⟩ := fetched
    obtain ⟨i, r, r', place, address, paid, rfl⟩ := onRemote_eq_ok remote
    obtain ⟨accumulator', m, kept, repaid, v, v', out⟩ :=
      Engine.payDebtOut_pays (Engine.getDebtOut_eq_ok paid)
    obtain ⟨w, w', change, revised, same, hchange, more, surplus⟩ :=
      Engine.increaseDebt_eq_ok increased
    have on := Engine.takenOn_of_revised revised same hchange more surplus
    exact ⟨rfl, rfl, rfl, fun own => absurd own other, fun _ =>
      ⟨i, r, r', accumulator', m, kept, _, repaid, v, v', w, w', place, address, rfl, out,
        { on with }⟩⟩

end Arena

/-! ## In the small markets -/

namespace World

/-- The arena of a batch by the account 5, after its interest was booked. -/
def underway (calls : List Call) (place : Nat) (remotes : List Nat) (now : Timestamp) :
    Option (Context × Amount × Arena) := do
  let w := history calls
  let seat ← w.seats[place]?
  let ctx ← (w.context seat (account 5) now).toOption
  let others ← (remotes.mapM w.remote).toOption
  match Engine.accrue now seat.engine with
  | .ok accumulator engine =>
    some (ctx, accumulator, ⟨engine, w.ledger, others, w.requests⟩)
  | .error _ _ => none

/-- The outcome of one action. -/
def actedOn (ctx : Context) (accumulator : Amount) (s : Arena) (action : Action) :
    Option (Tally × Arena) :=
  match Arena.applyAction ctx accumulator .zero action s with
  | .ok t s' => some (t, s')
  | .error _ _ => none

/-- What is computed as the outcome of an action is one that was accepted. -/
theorem actedOn_eq_some {ctx : Context} {accumulator : Amount} {s s' : Arena} {action : Action}
    {t : Tally} (h : actedOn ctx accumulator s action = some (t, s')) :
    Arena.applyAction ctx accumulator .zero action s = .ok t s' := by
  unfold actedOn at h
  split at h
  · rename_i done
    cases h
    exact done
  · cases h

/-- The address of the small market. -/
def marketAddress : Address := Engine.addressOf (account 2) (account 7) "market"

set_option maxRecDepth 10000 in
/-- Debt is taken over from the other market, and from the other vault of the same one. -/
theorem debt_transfer_conserves_markets :
    (∃ ctx accumulator s t s' r r' accumulator' m kept taken repaid v v' w w',
      underway twoMarkets 1 [0] 1000 = some (ctx, accumulator, s) ∧
      Arena.applyAction ctx accumulator .zero (.getDebtIn 1 marketAddress 1 (tenths 20)) s =
        .ok t s' ∧
      Engine.PaidOut r ctx.now 1 (tenths 20) s.engine.state.params.borrowFee
        s.engine.state.params.repayFee accumulator' m kept taken repaid v v' r' ∧
      s.engine.TakenOn (s.engine.state.resolve 1) taken accumulator w w' s'.engine) ∧
    ∃ ctx accumulator s t s' v w v' w',
      underway twoVaults 0 [] 1000 = some (ctx, accumulator, s) ∧
      Arena.applyAction ctx accumulator .zero (.getDebtIn 2 marketAddress 1 (tenths 20)) s =
        .ok t s' ∧
      s.engine.MovedWithin (s.engine.state.resolve 2) 1
        (min ((tenths 20).toNat * accumulatorOne / accumulator.toNat) v.normalizedDebt.toNat)
        v w v' w' s'.engine := by
  have facts : ((underway twoMarkets 1 [0] 1000).any fun (ctx, accumulator, s) =>
      (actedOn ctx accumulator s (.getDebtIn 1 marketAddress 1 (tenths 20))).any fun _ =>
        decide (marketAddress ≠ s.engine.state.address)) = true := by decide +kernel
  have facts' : ((underway twoVaults 0 [] 1000).any fun (ctx, accumulator, s) =>
      (actedOn ctx accumulator s (.getDebtIn 2 marketAddress 1 (tenths 20))).any fun _ =>
        decide (marketAddress = s.engine.state.address)) = true := by decide +kernel
  simp only [Option.any_eq_true, decide_eq_true_eq] at facts facts'
  obtain ⟨⟨ctx, accumulator, s⟩, reached, ⟨t, s'⟩, acted, other⟩ := facts
  obtain ⟨⟨ctx₁, accumulator₁, s₁⟩, reached₁, ⟨t₁, s₁'⟩, acted₁, own⟩ := facts'
  constructor
  · have done := actedOn_eq_some acted
    obtain ⟨-, -, -, -, across⟩ := Arena.debt_transfer_conserves done
    obtain ⟨_, r, r', accumulator', m, kept, taken, repaid, v, v', w, w', -, -, -, out, on⟩ :=
      across other
    exact ⟨ctx, accumulator, s, t, s', r.engine, r', accumulator', m, kept, taken, repaid, v, v',
      w, w', reached, done, out, on⟩
  · have done := actedOn_eq_some acted₁
    obtain ⟨-, -, -, inside, -⟩ := Arena.debt_transfer_conserves done
    obtain ⟨-, v, w, v', w', within⟩ := inside own
    exact ⟨ctx₁, accumulator₁, s₁, t₁, s₁', v, w, v', w', reached₁, done, within⟩

end World

end CollateralDebt
