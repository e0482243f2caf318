import CollateralDebt.Proofs.Engine.Exact
import CollateralDebt.Proofs.Engine.Settlement

/-!
# What an action does

An accepted action changes the engine in one way that its kind determines, adds its flows to the
tally, and touches the vault whose health may have dropped. Taking debt from another engine changes
that engine as well. `Applied` says all of this, one case for each kind of action, and is what every
statement about batches is proved from.

## What is proved

- `createVault_applied` and its like, `applyAction_cases`: an accepted action is one of the cases of
  `Applied`;
- `Applied.frame`, `Applied.funds`: what no action changes;
- `processBatch_eq`, `gather_eq_ok`: a batch is gathered, then settled.
-/

namespace CollateralDebt

open Transact (bind_eq_ok)

/-! ## Tallies -/

/-- A tally with more to give and to receive, and the same vaults. -/
structure Tally.Added (t t' : Tally) (stablecoinGiven stablecoinReceived collateralGiven
    collateralReceived : Nat) : Prop where
  stablecoinToGive :
    t'.payment.stablecoinToGive.toNat = t.payment.stablecoinToGive.toNat + stablecoinGiven
  stablecoinToReceive :
    t'.payment.stablecoinToReceive.toNat = t.payment.stablecoinToReceive.toNat + stablecoinReceived
  collateralToGive :
    t'.payment.collateralToGive.toNat = t.payment.collateralToGive.toNat + collateralGiven
  collateralToReceive :
    t'.payment.collateralToReceive.toNat = t.payment.collateralToReceive.toNat + collateralReceived

namespace Tally

variable {t t' : Tally} {amount : Amount}

/-- Stablecoins to give are added to those of before, and no vault is touched by it. -/
theorem giveStablecoin_eq_ok (h : t.giveStablecoin amount = .ok t') :
    Added t t' amount.toNat 0 0 0 ∧ t'.touched = t.touched := by
  simp only [giveStablecoin, Outcome.bind_eq_ok, Amount.add_eq_ok, Outcome.pure_eq_ok] at h
  obtain ⟨_, sum, rfl⟩ := h
  exact ⟨⟨sum, rfl, rfl, rfl⟩, rfl⟩

/-- Stablecoins to receive are added to those of before. -/
theorem receiveStablecoin_eq_ok (h : t.receiveStablecoin amount = .ok t') :
    Added t t' 0 amount.toNat 0 0 ∧ t'.touched = t.touched := by
  simp only [receiveStablecoin, Outcome.bind_eq_ok, Amount.add_eq_ok, Outcome.pure_eq_ok] at h
  obtain ⟨_, sum, rfl⟩ := h
  exact ⟨⟨rfl, sum, rfl, rfl⟩, rfl⟩

/-- Collateral to give is added to that of before. -/
theorem giveCollateral_eq_ok (h : t.giveCollateral amount = .ok t') :
    Added t t' 0 0 amount.toNat 0 ∧ t'.touched = t.touched := by
  simp only [giveCollateral, Outcome.bind_eq_ok, Amount.add_eq_ok, Outcome.pure_eq_ok] at h
  obtain ⟨_, sum, rfl⟩ := h
  exact ⟨⟨rfl, rfl, sum, rfl⟩, rfl⟩

/-- Collateral to receive is added to that of before. -/
theorem receiveCollateral_eq_ok (h : t.receiveCollateral amount = .ok t') :
    Added t t' 0 0 0 amount.toNat ∧ t'.touched = t.touched := by
  simp only [receiveCollateral, Outcome.bind_eq_ok, Amount.add_eq_ok, Outcome.pure_eq_ok] at h
  obtain ⟨_, sum, rfl⟩ := h
  exact ⟨⟨rfl, rfl, rfl, sum⟩, rfl⟩

end Tally

namespace Arena

/-- What an accepted action did to the arena and the tally, by the kind of action. -/
inductive Applied (accumulator : Amount) (s : Arena) (t : Tally) :
    Action → Tally → Arena → Prop
  | createVault {owner : Address} (id : VaultId) (e : Engine)
      (made : Engine.Created s.engine id e) :
      Applied accumulator s t (.createVault owner) t { s with engine := e }
  | closeVault {id : VaultId} (v : Vault) (e : Engine) (owed repaid : Nat) (t' : Tally)
      (closed : Engine.Removed s.engine (s.engine.state.resolve id) v e)
      (worth : v.normalizedDebt.toNat * accumulator.toNat ≤ repaid * accumulatorOne)
      (surplus : e.state.surplus.toNat + repaid = s.engine.state.surplus.toNat + owed)
      (added : Tally.Added t t' 0 owed v.collateral.toNat 0) (touched : t'.touched = t.touched) :
      Applied accumulator s t (.closeVault id) t' { s with engine := e }
  | addCollateral {id : VaultId} {amount : Amount} (v w : Vault) (e : Engine) (t' : Tally)
      (revised : Engine.Revised s.engine (s.engine.state.resolve id) v w e)
      (collateral : w.collateral.toNat = v.collateral.toNat + amount.toNat)
      (debt : w.normalizedDebt = v.normalizedDebt)
      (surplus : e.state.surplus = s.engine.state.surplus)
      (added : Tally.Added t t' 0 0 0 amount.toNat) (touched : t'.touched = t.touched) :
      Applied accumulator s t (.addCollateral id amount) t' { s with engine := e }
  | removeCollateral {id : VaultId} {amount : Amount} (v w : Vault) (e : Engine) (t' : Tally)
      (revised : Engine.Revised s.engine (s.engine.state.resolve id) v w e)
      (collateral : w.collateral.toNat + amount.toNat = v.collateral.toNat)
      (debt : w.normalizedDebt = v.normalizedDebt)
      (surplus : e.state.surplus = s.engine.state.surplus)
      (added : Tally.Added t t' 0 0 amount.toNat 0)
      (touched : t'.touched = KeySet.insert t.touched (s.engine.state.resolve id)) :
      Applied accumulator s t (.removeCollateral id amount) t' { s with engine := e }
  | repayDebt {id : VaultId} {amount : Amount} (v w : Vault) (change repaid charged : Amount)
      (e : Engine) (t' : Tally)
      (revised : Engine.Revised s.engine (s.engine.state.resolve id) v w e)
      (collateral : w.collateral = v.collateral)
      (debt : w.normalizedDebt.toNat + change.toNat = v.normalizedDebt.toNat)
      (worth : change.toNat * accumulator.toNat ≤ repaid.toNat * accumulatorOne)
      (surplus : e.state.surplus.toNat + repaid.toNat =
        s.engine.state.surplus.toNat + charged.toNat)
      (added : Tally.Added t t' 0 charged.toNat 0 0) (touched : t'.touched = t.touched) :
      Applied accumulator s t (.repayDebt id amount) t' { s with engine := e }
  | borrow {id : VaultId} {amount : Amount} (v w : Vault) (change fee paid : Amount) (e : Engine)
      (t' : Tally) (revised : Engine.Revised s.engine (s.engine.state.resolve id) v w e)
      (collateral : w.collateral = v.collateral)
      (normalized : normalize amount accumulator = .ok change)
      (debt : w.normalizedDebt.toNat = v.normalizedDebt.toNat + change.toNat)
      (surplus : e.state.surplus.toNat = s.engine.state.surplus.toNat + fee.toNat)
      (parts : paid.toNat + fee.toNat = amount.toNat)
      (added : Tally.Added t t' paid.toNat 0 0 0)
      (touched : t'.touched = KeySet.insert t.touched (s.engine.state.resolve id)) :
      Applied accumulator s t (.borrow id amount) t' { s with engine := e }
  | moveDebt {receiving giving : VaultId} {givingEngine : Address} {amount : Amount}
      (v w v' w' : Vault) (moved : Amount) (m e : Engine) (t' : Tally)
      (own : givingEngine = s.engine.state.address)
      (given : Engine.Revised s.engine giving v w m)
      (collateral : w.collateral = v.collateral)
      (debt : w.normalizedDebt.toNat + moved.toNat = v.normalizedDebt.toNat)
      (received : Engine.Revised m (s.engine.state.resolve receiving) v' w' e)
      (collateral' : w'.collateral = v'.collateral)
      (debt' : w'.normalizedDebt.toNat = v'.normalizedDebt.toNat + moved.toNat)
      (surplus : e.state.surplus = s.engine.state.surplus)
      (added : Tally.Added t t' 0 0 0 0)
      (touched : t'.touched = KeySet.insert t.touched (s.engine.state.resolve receiving)) :
      Applied accumulator s t (.getDebtIn receiving givingEngine giving amount) t'
        { s with engine := e }
  | fetchDebt {receiving giving : VaultId} {givingEngine : Address} {amount : Amount}
      (i : Nat) (r : Remote) (now : Timestamp) (borrowFee repayFee : UInt64) (g : Engine)
      (taken change : Amount) (v w : Vault) (e : Engine) (t' : Tally)
      (other : givingEngine ≠ s.engine.state.address) (place : s.remotes[i]? = some r)
      (paid : Engine.payDebtOut now giving amount borrowFee repayFee r.engine = .ok taken g)
      (revised : Engine.Revised s.engine (s.engine.state.resolve receiving) v w e)
      (collateral : w.collateral = v.collateral)
      (normalized : normalize taken accumulator = .ok change)
      (debt : w.normalizedDebt.toNat = v.normalizedDebt.toNat + change.toNat)
      (surplus : e.state.surplus = s.engine.state.surplus)
      (added : Tally.Added t t' 0 0 0 0)
      (touched : t'.touched = KeySet.insert t.touched (s.engine.state.resolve receiving)) :
      Applied accumulator s t (.getDebtIn receiving givingEngine giving amount) t'
        { s with engine := e, remotes := s.remotes.set i { r with engine := g } }
  | permit {signed : Permit} (l : Ledger) (same : Ledger.SameFunds s.ledger l) :
      Applied accumulator s t (.permit signed) t { s with ledger := l }

variable {ctx : Context} {accumulator : Amount} {s s' : Arena} {t t' : Tally}

/-- Debt was taken from another engine: that engine paid it out, and this one took it on. -/
theorem fetchDebt_eq_ok {receiving giving : VaultId} {givingEngine : Address}
    {amount taken : Amount}
    (h : fetchDebt ctx receiving givingEngine giving amount accumulator s = .ok taken s') :
    ∃ i r g v w change e, s.remotes[i]? = some r ∧
      Engine.payDebtOut ctx.now giving amount s.engine.state.params.borrowFee
        s.engine.state.params.repayFee r.engine = .ok taken g ∧
      Engine.Revised s.engine receiving v w e ∧ w.collateral = v.collateral ∧
      normalize taken accumulator = .ok change ∧
      w.normalizedDebt.toNat = v.normalizedDebt.toNat + change.toNat ∧
      e.state.surplus = s.engine.state.surplus ∧
      s' = { s with engine := e, remotes := s.remotes.set i { r with engine := g } } := by
  simp only [fetchDebt, bind_eq_ok, Transact.require_eq_ok, Transact.get_eq_ok, onEngine_eq_ok,
    Transact.pure_eq_ok] at h
  obtain ⟨_, _, ⟨_, rfl⟩, _, _, ⟨rfl, rfl⟩, _, _, remote, _, _, ⟨e, increased, rfl⟩, rfl, rfl⟩ := h
  obtain ⟨i, r, g, place, _, paid, rfl⟩ := onRemote_eq_ok remote
  obtain ⟨v, w, change, revised, same, normalized, debt, surplus⟩ :=
    Engine.increaseDebt_eq_ok increased
  exact ⟨i, r, g, v, w, change, e, place, Engine.getDebtOut_eq_ok paid, revised, same, normalized,
    debt, surplus, rfl⟩

/-- A new vault costs nothing, and is empty. -/
theorem createVault_applied {owner : Address}
    (h : applyAction ctx accumulator t (.createVault owner) s = .ok t' s') :
    Applied accumulator s t (.createVault owner) t' s' := by
  simp only [applyAction, bind_eq_ok, onEngine_eq_ok, Transact.pure_eq_ok] at h
  obtain ⟨id, _, ⟨e, minted, rfl⟩, rfl, rfl⟩ := h
  exact .createVault id e (Engine.created_of_mintVault minted)

/-- Closing a vault asks for its whole debt and gives all of its collateral. -/
theorem closeVault_applied {id : VaultId}
    (h : applyAction ctx accumulator t (.closeVault id) s = .ok t' s') :
    Applied accumulator s t (.closeVault id) t' s' := by
  simp only [applyAction, bind_eq_ok, Transact.get_eq_ok, onEngine_eq_ok,
    Transact.liftM_eq_ok] at h
  obtain ⟨_, _, ⟨rfl, rfl⟩, ⟨owed, collateral⟩, _, ⟨e, closed, rfl⟩, t₁, _, ⟨received, rfl⟩, given,
    rfl⟩ := h
  obtain ⟨v, repaid, removed, rfl, worth, surplus⟩ := Engine.closeVault_eq_ok closed
  obtain ⟨added₁, same₁⟩ := Tally.receiveStablecoin_eq_ok received
  obtain ⟨added₂, same₂⟩ := Tally.giveCollateral_eq_ok given
  refine .closeVault v e owed.toNat repaid t' removed worth surplus ⟨?_, ?_, ?_, ?_⟩
    (same₂.trans same₁)
  · exact added₂.stablecoinToGive.trans added₁.stablecoinToGive
  · exact added₂.stablecoinToReceive.trans added₁.stablecoinToReceive
  · rw [added₂.collateralToGive, added₁.collateralToGive, Nat.add_zero]
  · exact added₂.collateralToReceive.trans added₁.collateralToReceive

/-- Collateral that is added is asked for at the end. -/
theorem addCollateral_applied {id : VaultId} {amount : Amount}
    (h : applyAction ctx accumulator t (.addCollateral id amount) s = .ok t' s') :
    Applied accumulator s t (.addCollateral id amount) t' s' := by
  simp only [applyAction, bind_eq_ok, Transact.get_eq_ok, onEngine_eq_ok,
    Transact.liftM_eq_ok] at h
  obtain ⟨_, _, ⟨rfl, rfl⟩, _, _, ⟨e, done, rfl⟩, received, rfl⟩ := h
  obtain ⟨v, w, revised, collateral, debt, surplus⟩ := Engine.addCollateral_eq_ok done
  obtain ⟨added, same⟩ := Tally.receiveCollateral_eq_ok received
  exact .addCollateral v w e t' revised collateral debt surplus added same

/-- Collateral that is removed is given at the end, and the vault is checked then. -/
theorem removeCollateral_applied {id : VaultId} {amount : Amount}
    (h : applyAction ctx accumulator t (.removeCollateral id amount) s = .ok t' s') :
    Applied accumulator s t (.removeCollateral id amount) t' s' := by
  simp only [applyAction, bind_eq_ok, Transact.get_eq_ok, onEngine_eq_ok,
    Transact.liftM_eq_ok] at h
  obtain ⟨_, _, ⟨rfl, rfl⟩, _, _, ⟨e, done, rfl⟩, given, rfl⟩ := h
  obtain ⟨v, w, revised, collateral, debt, surplus⟩ := Engine.removeCollateral_eq_ok done
  obtain ⟨added, same⟩ := Tally.giveCollateral_eq_ok given
  exact .removeCollateral v w e t' revised collateral debt surplus
    ⟨added.1, added.2, added.3, added.4⟩ same

/-- A repayment asks for what was repaid, with its fee. -/
theorem repayDebt_applied {id : VaultId} {amount : Amount}
    (h : applyAction ctx accumulator t (.repayDebt id amount) s = .ok t' s') :
    Applied accumulator s t (.repayDebt id amount) t' s' := by
  simp only [applyAction, bind_eq_ok, Transact.get_eq_ok, onEngine_eq_ok,
    Transact.liftM_eq_ok] at h
  obtain ⟨_, _, ⟨rfl, rfl⟩, charged, _, ⟨e, done, rfl⟩, received, rfl⟩ := h
  obtain ⟨v, w, change, repaid, revised, collateral, debt, worth, surplus⟩ :=
    Engine.repayDebt_eq_ok done
  obtain ⟨added, same⟩ := Tally.receiveStablecoin_eq_ok received
  exact .repayDebt v w change repaid charged e t' revised collateral debt worth surplus added same

/-- A borrower owes the amount and is given the amount without its fee. -/
theorem borrow_applied {id : VaultId} {amount : Amount}
    (h : applyAction ctx accumulator t (.borrow id amount) s = .ok t' s') :
    Applied accumulator s t (.borrow id amount) t' s' := by
  simp only [applyAction, bind_eq_ok, Transact.get_eq_ok, onEngine_eq_ok,
    Transact.liftM_eq_ok] at h
  obtain ⟨_, _, ⟨rfl, rfl⟩, paid, _, ⟨e, done, rfl⟩, given, rfl⟩ := h
  obtain ⟨v, w, change, fee, revised, collateral, normalized, debt, _, surplus, parts⟩ :=
    Engine.borrow_eq_ok done
  obtain ⟨added, same⟩ := Tally.giveStablecoin_eq_ok given
  exact .borrow v w change fee paid e t' revised collateral normalized debt surplus parts
    ⟨added.1, added.2, added.3, added.4⟩ same

/-- Taking debt in from another engine settles nothing in coins: one vault owes what another has
paid. -/
theorem getDebtIn_applied {receiving giving : VaultId} {givingEngine : Address}
    {amount : Amount}
    (h : applyAction ctx accumulator t (.getDebtIn receiving givingEngine giving amount) s =
      .ok t' s') :
    Applied accumulator s t (.getDebtIn receiving givingEngine giving amount) t' s' := by
  simp only [applyAction, getDebtIn, bind_eq_ok, Transact.get_eq_ok, onEngine_eq_ok,
    Engine.requireAmount_eq_ok, Engine.requireMayAct_eq_ok] at h
  obtain ⟨_, _, ⟨rfl, rfl⟩, _, _, ⟨_, _, ⟨_, ⟨_, rfl⟩, rfl⟩, _, _, ⟨_, ⟨_, rfl⟩, rfl⟩, _, _,
    ⟨rfl, rfl⟩, h⟩, done⟩ := h
  obtain ⟨rfl, rfl⟩ := Transact.pure_eq_ok.mp done
  split at h
  · rename_i own
    simp only [bind_eq_ok, onEngine_eq_ok, Engine.emit_eq_ok] at h
    obtain ⟨taken, _, ⟨e, moved, rfl⟩, _, rfl, rfl⟩ := h
    obtain ⟨m, v, w, v', w', units, given, same, debt, received, same', debt', surplus⟩ :=
      Engine.moveDebt_eq_ok moved
    exact .moveDebt v w v' w' units m _ _ own given same debt
      ⟨received.found, received.registry, received.total, received.frame⟩ same' debt' surplus
      ⟨rfl, rfl, rfl, rfl⟩ rfl
  · rename_i other
    simp only [bind_eq_ok, onEngine_eq_ok, Engine.emit_eq_ok] at h
    obtain ⟨taken, _, fetched, _, rfl, rfl⟩ := h
    obtain ⟨i, r, g, v, w, change, e, place, paid, revised, same, normalized, debt, surplus,
      rfl⟩ := fetchDebt_eq_ok fetched
    exact .fetchDebt i r ctx.now _ _ g taken change v w _ _ other place paid
      ⟨revised.found, revised.registry, revised.total, revised.frame⟩ same normalized debt surplus
      ⟨rfl, rfl, rfl, rfl⟩ rfl

/-- A permit in a batch changes allowances and nonces of the ledger, and no engine. -/
theorem permit_applied {signed : Permit}
    (h : applyAction ctx accumulator t (.permit signed) s = .ok t' s') :
    Applied accumulator s t (.permit signed) t' s' := by
  simp only [applyAction, bind_eq_ok, onLedger_eq_ok, Transact.pure_eq_ok] at h
  obtain ⟨_, _, ⟨l, done, rfl⟩, rfl, rfl⟩ := h
  exact .permit l ((Ledger.keeps_permit signed ctx.now s.ledger).1 _ _ done)

/-- An accepted action is one of the cases of `Applied`. -/
theorem applyAction_cases {action : Action}
    (h : applyAction ctx accumulator t action s = .ok t' s') :
    Applied accumulator s t action t' s' := by
  cases action with
  | createVault owner => exact createVault_applied h
  | closeVault id => exact closeVault_applied h
  | addCollateral id amount => exact addCollateral_applied h
  | removeCollateral id amount => exact removeCollateral_applied h
  | repayDebt id amount => exact repayDebt_applied h
  | borrow id amount => exact borrow_applied h
  | getDebtIn receiving givingEngine giving amount => exact getDebtIn_applied h
  | permit signed => exact permit_applied h

/-- An action changes vaults, the debt total and the surplus of the called engine, nothing else. -/
theorem Applied.frame {action : Action} (h : Applied accumulator s t action t' s') :
    s'.engine.frame = s.engine.frame := by
  cases h with
  | createVault id e made => exact made.frame
  | closeVault v e owed repaid t' closed => exact closed.frame
  | addCollateral v w e t' revised => exact revised.frame
  | removeCollateral v w e t' revised => exact revised.frame
  | repayDebt v w change repaid charged e t' revised => exact revised.frame
  | borrow v w change fee paid e t' revised => exact revised.frame
  | moveDebt v w v' w' moved m e t' own given collateral debt received =>
    exact received.frame.trans given.frame
  | fetchDebt i r now borrowFee repayFee g taken change v w e t' other place paid revised =>
    exact revised.frame
  | permit l same => rfl

/-- An action moves no funds: flows are settled at the end, and a permit moves nothing. -/
theorem Applied.funds {action : Action} (h : Applied accumulator s t action t' s') :
    Ledger.SameFunds s.ledger s'.ledger := by
  cases h with
  | permit l same => exact same
  | _ => exact .refl _

/-- Behind every engine stands the treasury that stood there. -/
theorem Applied.treasuries {action : Action} (h : Applied accumulator s t action t' s') :
    s'.remotes.map (·.treasury) = s.remotes.map (·.treasury) := by
  cases h with
  | fetchDebt i r now borrowFee repayFee g taken change v w e t' other place =>
    show (s.remotes.set i { r with engine := g }).map (·.treasury) = _
    obtain ⟨small, rfl⟩ := List.getElem?_eq_some_iff.mp place
    have small' : i < (s.remotes.map (·.treasury)).length := by
      rw [List.length_map]
      exact small
    have there : (s.remotes.map (·.treasury))[i] = s.remotes[i].treasury := List.getElem_map _
    rw [List.map_set]
    show (s.remotes.map (·.treasury)).set i s.remotes[i].treasury = _
    rw [← there]
    exact List.set_getElem_self small'
  | _ => rfl

/-- No action moves funds: all of them wait for the settlement at the end. -/
theorem funds_actions {actions : List Action}
    (h : actions.foldlM (applyAction ctx accumulator) t s = .ok t' s') :
    Ledger.SameFunds s.ledger s'.ledger :=
  Transact.foldlM_induction (P := fun _ _ x => Ledger.SameFunds s.ledger x.ledger)
    (fun _ _ _ _ _ _ same ok => same.trans (applyAction_cases ok).funds) (.refl _) h

/-! ## Batches -/

/-- A batch up to its settlement: accrual, the actions one by one, and the checks. -/
def gather (ctx : Context) (actions : List Action) : Transact Arena Tally := do
  onEngine Engine.requireUnpaused
  Transact.require (actions ≠ []) (.incompatibleLengths 0 0)
  Transact.require (actions.length ≤ maxBatchActions)
    (.batchTooLarge actions.length maxBatchActions)
  let accumulator ← onEngine (Engine.accrue ctx.now)
  let before := (← get).engine.state.totalNormalizedDebt
  let tally ← actions.foldlM (applyAction ctx accumulator) Tally.zero
  let s := (← get).engine.state
  checkTouched ctx accumulator s tally.touched.keys
  if before < s.totalNormalizedDebt then
    checkDebtCeiling accumulator s
  return tally

/-- A batch is gathered, then settled. -/
theorem processBatch_eq (ctx : Context) (p : Parties) (actions : List Action) :
    processBatch ctx p actions = (do
      let tally ← gather ctx actions
      settle ctx p tally.payment
      return tally.payment) := by
  unfold processBatch gather
  simp only [bind_assoc]
  refine bind_congr fun _ => bind_congr fun _ => bind_congr fun _ => ?_
  refine bind_congr fun accumulator => bind_congr fun s => bind_congr fun tally => ?_
  refine bind_congr fun s' => bind_congr fun _ => ?_
  split
  · rw [bind_assoc]
    simp only [pure_bind]
  · rw [pure_bind]

/-- What was gathered: accrual, the actions one by one, and the checks that passed. -/
theorem gather_eq_ok {actions : List Action} {tally : Tally}
    (h : gather ctx actions s = .ok tally s') :
    ∃ accumulator m, Engine.Accrued s.engine ctx.now accumulator m ∧
      actions.foldlM (applyAction ctx accumulator) Tally.zero { s with engine := m } =
        .ok tally s' ∧
      checkTouched ctx accumulator s'.engine.state tally.touched.keys = .ok () ∧
      (m.state.totalNormalizedDebt < s'.engine.state.totalNormalizedDebt →
        checkDebtCeiling accumulator s'.engine.state = .ok ()) := by
  unfold gather at h
  obtain ⟨_, _, unpaused, h⟩ := bind_eq_ok.mp h
  obtain ⟨_, hunpaused, rfl⟩ := onEngine_eq_ok.mp unpaused
  obtain ⟨_, rfl⟩ := Engine.requireUnpaused_eq_ok.mp hunpaused
  obtain ⟨_, _, some', h⟩ := bind_eq_ok.mp h
  obtain ⟨_, rfl⟩ := Transact.require_eq_ok.mp some'
  obtain ⟨_, _, few, h⟩ := bind_eq_ok.mp h
  obtain ⟨_, rfl⟩ := Transact.require_eq_ok.mp few
  obtain ⟨accumulator, _, booked, h⟩ := bind_eq_ok.mp h
  obtain ⟨m, accrued, rfl⟩ := onEngine_eq_ok.mp booked
  obtain ⟨_, _, got, h⟩ := bind_eq_ok.mp h
  obtain ⟨rfl, rfl⟩ := Transact.get_eq_ok.mp got
  obtain ⟨tally, s₁, folded, h⟩ := bind_eq_ok.mp h
  obtain ⟨_, _, got', h⟩ := bind_eq_ok.mp h
  obtain ⟨rfl, rfl⟩ := Transact.get_eq_ok.mp got'
  obtain ⟨_, _, lifted, h⟩ := bind_eq_ok.mp h
  obtain ⟨checked, rfl⟩ := Transact.liftM_eq_ok.mp lifted
  split at h
  · obtain ⟨_, _, lifted, h⟩ := bind_eq_ok.mp h
    obtain ⟨ceiling, rfl⟩ := Transact.liftM_eq_ok.mp lifted
    obtain ⟨rfl, rfl⟩ := Transact.pure_eq_ok.mp h
    exact ⟨accumulator, m, Engine.accrue_eq_ok accrued, folded, checked, fun _ => ceiling⟩
  · rename_i low
    obtain ⟨rfl, rfl⟩ := Transact.pure_eq_ok.mp h
    exact ⟨accumulator, m, Engine.accrue_eq_ok accrued, folded, checked,
      fun high => absurd high low⟩

/-- An accepted batch was gathered and settled. -/
theorem processBatch_eq_ok {p : Parties} {actions : List Action} {payment : Payment}
    (h : processBatch ctx p actions s = .ok payment s') :
    ∃ tally s₁, gather ctx actions s = .ok tally s₁ ∧ payment = tally.payment ∧
      settle ctx p payment s₁ = .ok () s' := by
  rw [processBatch_eq] at h
  obtain ⟨tally, s₁, gathered, h⟩ := bind_eq_ok.mp h
  obtain ⟨_, _, settled, h⟩ := bind_eq_ok.mp h
  obtain ⟨rfl, rfl⟩ := Transact.pure_eq_ok.mp h
  exact ⟨tally, s₁, gathered, rfl, settled⟩

end Arena

end CollateralDebt
