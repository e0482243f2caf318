import CollateralDebt.Proofs.World.Run

/-!
# What an engine holds for its vaults

The collateral of all vaults of an engine changes with every action by what the action adds to the
flows of collateral, and with every liquidated vault by what is given for it. So by the time a call
is settled, what its engine is about to release has already left the vaults.

## What is proved

- `Arena.Applied.deposits`, `Arena.deposits_gather`: a batch before it is settled;
- `deposits_liquidatedAll`: a liquidation before it is settled;
- `Arena.Applied.elsewhere`: other engines keep their collateral.
-/

namespace CollateralDebt

namespace Engine

/-- The collateral of all vaults. -/
def deposits (e : Engine) : Nat := e.sum (·.collateral.toNat)

/-- The collateral of all vaults is read off the vaults alone. -/
theorem deposits_of_vaults {e e' : Engine}
    (same : e'.state.registry.vaults = e.state.registry.vaults) : e'.deposits = e.deposits := by
  unfold deposits sum
  rw [same]

/-- Accrual moves no collateral. -/
theorem deposits_accrued {e e' : Engine} {now : Timestamp} {accumulator : Amount}
    (h : Accrued e now accumulator e') : e'.deposits = e.deposits :=
  deposits_of_vaults (congrArg Registry.vaults h.registry)

/-- No call that sets something moves collateral. -/
theorem deposits_upkeep {e e' : Engine} {now : Timestamp} (h : Upkeep e now e') :
    e'.deposits = e.deposits := by
  cases h with
  | quiet same => exact deposits_of_vaults same.vaults
  | accrued _ _ booked same =>
    exact (deposits_of_vaults same.vaults).trans (deposits_accrued booked)

/-- A vault whose collateral was not changed. -/
theorem Revised.deposits_same {e e' : Engine} {id : VaultId} {v w : Vault}
    (h : Revised e id v w e') (collateral : w.collateral = v.collateral) :
    e'.deposits = e.deposits := by
  have sums := h.sum (·.collateral.toNat)
  rw [collateral] at sums
  exact Nat.add_right_cancel sums

/-- A vault that pays its debt out keeps its collateral. -/
theorem deposits_paidOut {now : Timestamp} {id : VaultId} {amount taken : Amount}
    {senderBorrowFee senderRepayFee : UInt64} {e e' : Engine}
    (paid : payDebtOut now id amount senderBorrowFee senderRepayFee e = .ok taken e') :
    e'.deposits = e.deposits := by
  obtain ⟨_, m, _, _, _, _, booked, revised, collateral, _⟩ := payDebtOut_eq_ok paid
  exact (revised.deposits_same collateral).trans (deposits_accrued booked)

/-- What a liquidation gives away is what has left the vaults. -/
theorem deposits_liquidatedAll {ctx : Context} {ids : List VaultId} {amounts : List Amount}
    {report : LiquidationReport} {e e' : Engine} (h : e.Exact)
    (all : liquidateAll ctx ids amounts e = .ok report e') :
    e'.deposits + report.collateralToGive.toNat = e.deposits := by
  obtain ⟨accumulator, price, m, m', _, _, _, booked, _, folded, _, _, _, _, _, rfl⟩ :=
    liquidateAll_eq_ok all
  have given := Transact.foldlM_induction
    (P := fun _ (report : LiquidationReport) (e : Engine) => e.Exact ∧
      e.deposits + report.collateralToGive.toNat = m.deposits)
    (fun done report entry x report' x' sofar next => by
      refine ⟨sofar.1.liquidatedNext next, ?_⟩
      rcases liquidateNext_eq_ok sofar.1 next with ⟨outcome, done, _, given, _⟩ | ⟨_, _, rfl, same⟩
      · obtain ⟨v, w, _, revised, _, _, _, _, liquidated⟩ := liquidateVault_eq_ok done
        have sums := revised.sum (·.collateral.toNat)
        have released := liquidated.released_eq
        have before := sofar.2
        unfold deposits at before ⊢
        omega
      · rw [same]
        exact sofar.2)
    ⟨h.accrued booked, rfl⟩ folded
  exact given.2.trans (deposits_accrued booked)

end Engine

namespace Arena

/-- The collateral of the called engine's vaults changes by what an action adds to the flows. -/
theorem Applied.deposits {accumulator : Amount} {s s' : Arena} {t t' : Tally} {action : Action}
    (h : Applied accumulator s t action t' s') (exact : s.engine.Exact) :
    s'.engine.deposits + t'.payment.collateralToGive.toNat + t.payment.collateralToReceive.toNat =
      s.engine.deposits + t.payment.collateralToGive.toNat +
        t'.payment.collateralToReceive.toNat := by
  cases h with
  | createVault id e made =>
    have sums := made.sum exact.numbered (·.collateral.toNat) rfl
    unfold Engine.deposits
    dsimp only
    omega
  | closeVault v e owed repaid t' closed worth surplus added =>
    have sums := closed.sum (·.collateral.toNat)
    have given := added.collateralToGive
    have received := added.collateralToReceive
    unfold Engine.deposits
    dsimp only
    omega
  | addCollateral v w e t' revised collateral debt surplus added =>
    have sums := revised.sum (·.collateral.toNat)
    have given := added.collateralToGive
    have received := added.collateralToReceive
    unfold Engine.deposits
    dsimp only
    omega
  | removeCollateral v w e t' revised collateral debt surplus added =>
    have sums := revised.sum (·.collateral.toNat)
    have given := added.collateralToGive
    have received := added.collateralToReceive
    unfold Engine.deposits
    dsimp only
    omega
  | repayDebt v w change repaid charged e t' revised collateral debt worth surplus added =>
    rw [revised.deposits_same collateral, added.collateralToGive, added.collateralToReceive]
    rfl
  | borrow v w change fee paid e t' revised collateral normalized debt surplus parts added =>
    rw [revised.deposits_same collateral, added.collateralToGive, added.collateralToReceive]
    rfl
  | moveDebt v w v' w' moved m e t' own given collateral debt received collateral' debt' surplus
      added =>
    rw [received.deposits_same collateral', given.deposits_same collateral,
      added.collateralToGive, added.collateralToReceive]
    rfl
  | fetchDebt i r now borrowFee repayFee g taken change v w e t' other place paid revised collateral
      normalized debt surplus added =>
    rw [revised.deposits_same collateral, added.collateralToGive, added.collateralToReceive]
    rfl
  | permit l same => rfl

/-- No action changes the collateral of another engine. -/
theorem Applied.elsewhere {accumulator : Amount} {s s' : Arena} {t t' : Tally} {action : Action}
    (h : Applied accumulator s t action t' s') :
    s'.remotes.map (fun r => (r.engine.identity, r.engine.deposits)) =
      s.remotes.map fun r => (r.engine.identity, r.engine.deposits) := by
  cases h with
  | fetchDebt i r now borrowFee repayFee g taken change v w e t' other place paid =>
    apply map_remotes_set (f := fun e => (e.identity, e.deposits)) place
    rw [Engine.identity_paidOut paid, Engine.deposits_paidOut paid]
  | _ => rfl

/-- What the actions of a batch added to the vaults and took off them is what its settlement is to
receive and to give. -/
theorem deposits_gather {ctx : Context} {actions : List Action} {tally : Tally} {s s' : Arena}
    (exact : s.Exact) (h : gather ctx actions s = .ok tally s') :
    s'.engine.deposits + tally.payment.collateralToGive.toNat =
      s.engine.deposits + tally.payment.collateralToReceive.toNat := by
  obtain ⟨accumulator, m, booked, folded, _⟩ := gather_eq_ok h
  have start : Exact { s with engine := m } := ⟨exact.engine.accrued booked, exact.remotes⟩
  have acted := Transact.foldlM_induction
    (P := fun _ (t : Tally) (x : Arena) => x.Exact ∧
      x.engine.deposits + t.payment.collateralToGive.toNat =
        m.deposits + t.payment.collateralToReceive.toNat)
    (fun done t action x t' x' sofar ok => by
      have applied := applyAction_cases ok
      have flows := applied.deposits sofar.1.engine
      have before := sofar.2
      refine ⟨applied.exact sofar.1, ?_⟩
      omega)
    ⟨start, rfl⟩ folded
  rw [← Engine.deposits_accrued booked]
  exact acted.2

/-- The other engines keep their collateral in a batch: all that they give is debt. -/
theorem elsewhere_gather {ctx : Context} {actions : List Action} {tally : Tally} {s s' : Arena}
    (h : gather ctx actions s = .ok tally s') :
    s'.remotes.map (fun r => (r.engine.identity, r.engine.deposits)) =
      s.remotes.map fun r => (r.engine.identity, r.engine.deposits) := by
  obtain ⟨accumulator, m, booked, folded, _⟩ := gather_eq_ok h
  refine Transact.foldlM_induction
    (P := fun _ _ (x : Arena) => x.remotes.map (fun r => (r.engine.identity, r.engine.deposits)) =
      s.remotes.map fun r => (r.engine.identity, r.engine.deposits))
    (fun _ _ _ _ _ _ same ok => (applyAction_cases ok).elsewhere.trans same) ?_ folded
  rfl

/-- Up to its settlement a batch moves no funds. -/
theorem funds_gather {ctx : Context} {actions : List Action} {tally : Tally} {s s' : Arena}
    (h : gather ctx actions s = .ok tally s') : Ledger.SameFunds s.ledger s'.ledger := by
  obtain ⟨accumulator, m, booked, folded, _⟩ := gather_eq_ok h
  have kept := funds_actions folded
  exact kept

end Arena

end CollateralDebt
