import CollateralDebt.Proofs.World.Run

/-!
# What a batch guarantees

A batch checks the vaults that its actions have touched, once, when all actions are done. That is
enough: an action that lowers the collateral of a vault or raises its debt touches the vault, a
vault that is only improved needs no check, and a vault that appears in a batch owes nothing until
it is touched. Vaults of other engines can only be relieved of debt.

## What is proved

- `healthy_of_checkTouched`, `Engine.opportunity_of_healthAt`: a vault that was checked is healthy,
  and a healthy vault cannot be liquidated;
- `Arena.Applied.kept`: vaults that were not touched are no worse than before;
- `Arena.Applied.relieved`: vaults of other engines are no worse than before;
- `World.checked_of_batch`: an accepted batch.
-/

namespace CollateralDebt

open Transact (bind_eq_ok)

/-! ## Vaults that were checked -/

/-- A healthy vault cannot be liquidated. -/
theorem Engine.opportunity_of_healthAt {e : Engine} {id : VaultId} {v : Vault}
    {price accumulator health : Amount}
    (healthy : Engine.healthAt e.state v price accumulator = .ok health)
    (solvent : isSolvent health) (liquidator : Address) :
    e.opportunity id v liquidator price accumulator =
      .error (.rejected (.healthyVault id health)) := by
  obtain ⟨debt, hdebt, healthy⟩ := Outcome.bind_eq_ok.mp healthy
  obtain ⟨value, hvalue, healthy⟩ := Outcome.bind_eq_ok.mp healthy
  have refused : Outcome.require (¬ isSolvent health) (.healthyVault id health) =
      .error (.rejected (.healthyVault id health)) := if_neg (not_not_intro solvent)
  unfold opportunity
  dsimp only
  rw [hdebt]
  show (collateralValue v.collateral price e.state.collateralUnit >>= _) = _
  rw [hvalue]
  show (healthFactor value e.state.params.collateralFactor debt >>= _) = _
  rw [healthy]
  show (Outcome.require (¬ isSolvent health) (.healthyVault id health) >>= _) = _
  rw [refused]
  rfl

/-- Every vault that was checked exists no more, owes nothing, or is healthy at the price that was
read. -/
theorem healthy_of_checkTouched {ctx : Context} {accumulator : Amount} {s : EngineState}
    {ids : List VaultId} (h : Arena.checkTouched ctx accumulator s ids = .ok ()) {id : VaultId}
    (mem : id ∈ ids) {v : Vault} (found : s.registry.vault? id = some v)
    (owes : v.normalizedDebt ≠ .zero) :
    ∃ price health, ctx.price = .ok price ∧ Engine.healthAt s v price accumulator = .ok health ∧
      isSolvent health := by
  induction ids with
  | nil => cases mem
  | cons first rest ih =>
    unfold Arena.checkTouched at h
    rcases List.mem_cons.mp mem with rfl | mem
    · rw [found] at h
      dsimp only at h
      rw [if_pos owes] at h
      obtain ⟨price, read, h⟩ := Outcome.bind_eq_ok.mp h
      obtain ⟨health, healthy, h⟩ := Outcome.bind_eq_ok.mp h
      obtain ⟨_, solvent, _⟩ := Outcome.bind_eq_ok.mp h
      exact ⟨price, health, read, healthy, Outcome.require_eq_ok.mp solvent⟩
    · -- whatever was checked first, the rest was checked as well
      apply ih _ mem
      split at h
      · split at h
        · obtain ⟨_, _, h⟩ := Outcome.bind_eq_ok.mp h
          obtain ⟨_, _, h⟩ := Outcome.bind_eq_ok.mp h
          obtain ⟨_, _, h⟩ := Outcome.bind_eq_ok.mp h
          exact h
        · exact h
      · exact h

/-- The ceiling was checked without rounding. -/
theorem le_of_checkDebtCeiling {accumulator : Amount} {s : EngineState}
    (h : Arena.checkDebtCeiling accumulator s = .ok ()) :
    s.totalNormalizedDebt.toNat * accumulator.toNat ≤
      s.params.debtCeiling.toNat * accumulatorOne := by
  unfold Arena.checkDebtCeiling at h
  split at h
  · obtain ⟨_, _, refused⟩ := Outcome.bind_eq_ok.mp h
    exact (Outcome.reject_eq_ok.mp refused).elim
  · rename_i low
    exact Nat.le_of_not_lt low

/-! ## Vaults of the engine -/

namespace Engine

/-- Every vault that was not touched owes nothing, or is no worse than it was; a new vault was
empty. -/
def Kept (start : Engine) (seen : KeySet VaultId) (e : Engine) : Prop :=
  ∀ id v, e.vault? id = some v → id ∉ seen.keys →
    v.normalizedDebt = .zero ∨ Vault.NoWorse ((start.vault? id).getD .empty) v

variable {start e e' : Engine} {seen : KeySet VaultId} {id : VaultId} {v w : Vault}

/-- Where the vaults are the same, nothing has to be touched. -/
theorem kept_of_vaults (same : ∀ id, e.vault? id = start.vault? id) : Kept start .empty e := by
  intro id v found _
  rw [← same, found]
  exact .inr (.refl v)

/-- A vault may be improved. -/
theorem Kept.improved (h : Kept start seen e) (revised : Revised e id v w e')
    (better : v.NoWorse w) : Kept start seen e' := by
  intro i x found out
  rw [revised.vault?] at found
  split at found
  · rename_i here
    subst here
    obtain rfl := Option.some.inj found
    rcases h i v revised.found out with clear | before
    · exact .inl (better.debt_eq_zero clear)
    · exact .inr (before.trans better)
  · exact h i x found out

/-- A vault may be changed in any way if it is touched. -/
theorem Kept.touched (h : Kept start seen e) (revised : Revised e id v w e') :
    Kept start (KeySet.insert seen id) e' := by
  intro i x found out
  rw [Table.mem_keys_insert, not_or] at out
  rw [revised.vault?, if_neg out.1] at found
  exact h i x found out.2

/-- A vault may be closed. -/
theorem Kept.removed (h : Kept start seen e) (closed : Removed e id v e') :
    Kept start seen e' := by
  intro i x found out
  rw [closed.vault?] at found
  split at found
  · cases found
  · exact h i x found out

/-- A vault may be created. -/
theorem Kept.created (h : Kept start seen e) (made : Created e id e') :
    Kept start seen e' := by
  intro i x found out
  rw [made.vault?] at found
  split at found
  · obtain rfl := Option.some.inj found
    exact .inl rfl
  · exact h i x found out

end Engine

/-- An action keeps the vaults that were not touched. -/
theorem Arena.Applied.kept {accumulator : Amount} {s s' : Arena} {t t' : Tally} {action : Action}
    {start : Engine} (h : Applied accumulator s t action t' s')
    (hs : Engine.Kept start t.touched s.engine) : Engine.Kept start t'.touched s'.engine := by
  cases h with
  | createVault id e made => exact hs.created made
  | closeVault v e owed repaid t' closed worth surplus added touched =>
    rw [touched]
    exact hs.removed closed
  | addCollateral v w e t' revised collateral debt surplus added touched =>
    rw [touched]
    refine hs.improved revised ⟨?_, Nat.le_of_eq (congrArg Amount.toNat debt)⟩
    exact Nat.le_of_add_right_le (Nat.le_of_eq collateral.symm)
  | removeCollateral v w e t' revised collateral debt surplus added touched =>
    rw [touched]
    exact hs.touched revised
  | repayDebt v w change repaid charged e t' revised collateral debt worth surplus added touched =>
    rw [touched]
    exact hs.improved revised (.of_repaid collateral debt)
  | borrow v w change fee paid e t' revised collateral normalized debt surplus parts added
      touched =>
    rw [touched]
    exact hs.touched revised
  | moveDebt v w v' w' moved m e t' own given collateral debt received collateral' debt' surplus
      added touched =>
    rw [touched]
    exact (hs.improved given (.of_repaid collateral debt)).touched received
  | fetchDebt i r now borrowFee repayFee g taken change v w e t' other place paid revised collateral
      normalized debt surplus added touched =>
    rw [touched]
    exact hs.touched revised
  | permit l same => exact hs

/-! ## Vaults of other engines -/

namespace Engine

/-- The same vaults, none of them worse. -/
def Relieved (e e' : Engine) : Prop :=
  ∀ id, Option.Rel Vault.NoWorse (e.vault? id) (e'.vault? id)

/-- The same vaults are no worse. -/
theorem Relieved.of_vaults {e e' : Engine} (same : ∀ id, e'.vault? id = e.vault? id) :
    Relieved e e' := by
  intro id
  rw [same]
  cases e.vault? id with
  | none => exact .none
  | some v => exact .some (.refl v)

theorem Relieved.refl (e : Engine) : Relieved e e := .of_vaults fun _ => rfl

/-- What is no worse after each of two steps is no worse after both. -/
theorem Relieved.trans {e₁ e₂ e₃ : Engine} (h₁ : Relieved e₁ e₂) (h₂ : Relieved e₂ e₃) :
    Relieved e₁ e₃ := by
  intro id
  have first := h₁ id
  have second := h₂ id
  generalize e₁.vault? id = a, e₂.vault? id = b, e₃.vault? id = c at first second ⊢
  cases first with
  | none => exact second
  | some better =>
    cases second with
    | some better' => exact .some (better.trans better')

/-- Revising one vault for the better makes none worse. -/
theorem Relieved.revised {e e' : Engine} {id : VaultId} {v w : Vault} (h : Revised e id v w e')
    (better : v.NoWorse w) : Relieved e e' := by
  intro i
  rw [h.vault?]
  by_cases here : i = id
  · rw [if_pos here, here, h.found]
    exact .some better
  · rw [if_neg here]
    exact Relieved.refl e i

/-- The giving side of a transfer of debt is relieved. -/
theorem Relieved.paidOut {now : Timestamp} {id : VaultId} {amount taken : Amount}
    {senderBorrowFee senderRepayFee : UInt64} {e e' : Engine}
    (paid : payDebtOut now id amount senderBorrowFee senderRepayFee e = .ok taken e') :
    Relieved e e' := by
  obtain ⟨_, m, _, _, _, _, booked, revised, collateral, debt, _⟩ := payDebtOut_eq_ok paid
  exact (Relieved.of_vaults booked.vault?).trans (.revised revised (.of_repaid collateral debt))

end Engine

namespace Arena

/-- An action relieves the vaults of other engines, or leaves them. -/
theorem Applied.relieved {accumulator : Amount} {s s' : Arena} {t t' : Tally} {action : Action}
    (h : Applied accumulator s t action t' s') :
    List.Forall₂ Engine.Relieved (s.remotes.map (·.engine)) (s'.remotes.map (·.engine)) := by
  cases h with
  | fetchDebt i r now borrowFee repayFee g taken change v w e t' other place paid =>
    exact forall₂_remotes_set Engine.Relieved.refl place (.paidOut paid)
  | _ => exact List.forall₂_same.mpr fun e _ => .refl e

/-- What was gathered, and what was checked of it. -/
theorem gather_guarantee {ctx : Context} {actions : List Action} {tally : Tally} {s s' : Arena}
    (h : gather ctx actions s = .ok tally s') :
    (∀ id v, s'.engine.vault? id = some v → v.normalizedDebt = .zero ∨
      Vault.NoWorse ((s.engine.vault? id).getD .empty) v ∨
      ∃ price health, ctx.price = .ok price ∧
        Engine.healthAt s'.engine.state v price s'.engine.state.accumulator = .ok health ∧
        isSolvent health) ∧
    List.Forall₂ Engine.Relieved (s.remotes.map (·.engine)) (s'.remotes.map (·.engine)) ∧
    (s.engine.state.totalNormalizedDebt < s'.engine.state.totalNormalizedDebt →
      s'.engine.state.totalNormalizedDebt.toNat * s'.engine.state.accumulator.toNat ≤
        s'.engine.state.params.debtCeiling.toNat * accumulatorOne) := by
  obtain ⟨accumulator, m, booked, folded, checked, ceiling⟩ := gather_eq_ok h
  obtain ⟨frame, kept⟩ := Transact.foldlM_induction
    (P := fun _ (t : Tally) (x : Arena) => x.engine.frame = m.frame ∧
      Engine.Kept s.engine t.touched x.engine)
    (fun _ _ _ _ _ _ sofar ok =>
      have applied := applyAction_cases ok
      ⟨applied.frame.trans sofar.1, applied.kept sofar.2⟩)
    ⟨rfl, Engine.kept_of_vaults booked.vault?⟩ folded
  have at' := (Engine.accumulator_of_frame frame).trans booked.accumulator
  refine ⟨fun id v found => ?_, ?_, fun more => ?_⟩
  · by_cases mem : id ∈ tally.touched.keys
    · by_cases clear : v.normalizedDebt = .zero
      · exact .inl clear
      · rw [at']
        exact .inr (.inr (healthy_of_checkTouched checked mem found clear))
    · rcases kept id v found mem with clear | better
      · exact .inl clear
      · exact .inr (.inl better)
  · refine Transact.foldlM_induction
      (P := fun _ _ (x : Arena) =>
        List.Forall₂ Engine.Relieved (s.remotes.map (·.engine)) (x.remotes.map (·.engine)))
      (fun _ _ _ _ _ _ sofar ok => ?_) (List.forall₂_same.mpr fun e _ => .refl e) folded
    exact forall₂_trans (R := Engine.Relieved) Engine.Relieved.trans sofar
      (applyAction_cases ok).relieved
  · rw [← booked.total] at more
    rw [at']
    exact le_of_checkDebtCeiling (ceiling more)

end Arena

/-! ## The guarantee -/

/-- What an accepted batch guarantees of the engine that it was called on, by the feed that the
engine is connected to: a vault that has less collateral or more debt than before, where a new vault
was empty, owes nothing, or the price was read, the vault is healthy at that price and at the
accumulator, and nobody can liquidate it at these; and if there is more debt, it is within the
ceiling. -/
structure Engine.Checked (feed : PriceFeed) (now : Timestamp) (before after : Engine) : Prop where
  vaults : ∀ id v, after.vault? id = some v →
    v.collateral < ((before.vault? id).getD .empty).collateral ∨
      ((before.vault? id).getD .empty).normalizedDebt < v.normalizedDebt →
    v.normalizedDebt = .zero ∨
    ∃ price health, feed.read now = .ok price ∧
      Engine.healthAt after.state v price after.state.accumulator = .ok health ∧
      ratioOne ≤ health.toNat ∧
      ∀ liquidator, after.opportunity id v liquidator price after.state.accumulator =
        .error (.rejected (.healthyVault id health))
  ceiling : before.state.totalNormalizedDebt < after.state.totalNormalizedDebt →
    after.state.totalNormalizedDebt.toNat * after.state.accumulator.toNat ≤
      after.state.params.debtCeiling.toNat * accumulatorOne

namespace World

/-- After every accepted batch, plain or on the wire, the vaults of the engine that have become
worse and the debt ceiling were checked, and no vault of another engine has less collateral or more
debt than before. -/
theorem checked_of_batch {w w' : World} {place : Nat} {caller : Address} {now : Timestamp}
    {remotes : List Nat} {call : EngineCall} {p : Parties} {actions : List Action}
    {reply : EngineReply} (batch : call.asBatch = some (p, actions))
    (accepted : callEngine place caller now remotes call w = .ok reply w') :
    (∃ seat feed after, w.seats[place]? = some seat ∧ w.feeds[seat.feed]? = some feed ∧
      engine? w'.seats place = some after ∧ Engine.Checked feed now seat.engine after) ∧
    ∀ other before, other ≠ place → engine? w.seats other = some before →
      ∃ after, engine? w'.seats other = some after ∧ Engine.Relieved before after := by
  obtain ⟨seat, ctx, s, s', found, circumstances, stage, ran, rfl⟩ := callEngine_eq_ok accepted
  obtain ⟨payment, done⟩ := (EngineCall.run_cases ran).processBatch batch
  obtain ⟨tally, s₁, gathered, rfl, settled⟩ := Arena.processBatch_eq_ok done
  have same := (Arena.keeps_settle _ _ _ _).1 _ _ settled
  obtain ⟨vaults, others, ceiling⟩ := Arena.gather_guarantee gathered
  rw [← same.engine] at vaults ceiling
  rw [← same.remotes] at others
  constructor
  · obtain ⟨feed, connected, -, -, read⟩ := context_eq_ok circumstances
    have own : seat.engine = s.engine := by
      have standing := stage.engine
      unfold engine? at standing
      rw [found] at standing
      exact Option.some.inj standing
    rw [← own] at vaults ceiling
    refine ⟨seat, feed, s'.engine, found, connected, engine?_restage stage s', ?_, ceiling⟩
    intro id v there worse
    rcases vaults id v there with clear | better | ⟨price, health, known, healthy, solvent⟩
    · exact .inl clear
    · rcases worse with less | more
      · exact absurd better.collateral (Nat.not_le_of_lt less)
      · exact absurd better.debt (Nat.not_le_of_lt more)
    · refine .inr ⟨price, health, read ▸ known, healthy, of_decide_eq_true solvent, ?_⟩
      exact Engine.opportunity_of_healthAt healthy solvent
  · intro other before elsewhere standing
    obtain ⟨outside, nodup⟩ := List.nodup_cons.mp (nodup_places place remotes)
    cases stage.engines with
    | cons _ rest =>
      apply rel_putEngines Engine.Relieved.refl nodup (standing_putEngine outside s'.engine rest)
        others
      rw [engine?_putEngine_of_ne _ elsewhere.symm]
      exact standing

set_option maxRecDepth 10000 in
/-- The batch that opens the one vault of the small market. -/
theorem checked_smallMarket : ∃ reply w',
    callEngine 0 (account 5) 0 [] opening (history (smallMarket.take 8)) = .ok reply w' ∧
    (∃ seat feed after, (history (smallMarket.take 8)).seats[0]? = some seat ∧
      (history (smallMarket.take 8)).feeds[seat.feed]? = some feed ∧
      engine? w'.seats 0 = some after ∧ Engine.Checked feed 0 seat.engine after) ∧
    ∀ other before, other ≠ 0 → engine? (history (smallMarket.take 8)).seats other = some before →
      ∃ after, engine? w'.seats other = some after ∧ Engine.Relieved before after := by
  have accepted : ((callEngine 0 (account 5) 0 [] opening).run'
      (history (smallMarket.take 8))).isSome = true := by decide +kernel
  unfold EStateM.run' EStateM.run at accepted
  cases ok : callEngine 0 (account 5) 0 [] opening (history (smallMarket.take 8)) with
  | ok reply w' => exact ⟨reply, w', rfl, checked_of_batch rfl ok⟩
  | error f w' =>
    rw [ok] at accepted
    cases accepted

end World

end CollateralDebt
