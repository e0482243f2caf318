import CollateralDebt.Proofs.Engine.Administration
import CollateralDebt.Proofs.Engine.Batch

/-!
# Rights on vaults

An account may act on a vault as its owner, as its approved account or as an operator of its owner.
Everything that could make a vault worse for its owner asks for this first: whatever an account does
to a vault that it may not act on, the vault keeps its owner and its approval, loses no collateral
and gains no debt.

Rights do not come and go within a batch. No action changes who the operators are, and the title of
a vault only goes with the vault, so whoever may act on it at some point of a batch could do so at
the beginning.

## What is proved

- `Guarded`: what an account may do to the vaults that there are, and how steps add up;
- `Arena.mayAct_of_applyAction`: which actions ask for rights, and on which vault;
- `Arena.Applied.guarded`: what an action does is guarded;
- `guarded_approve` and its like: so are the calls that move no balance.
-/

namespace CollateralDebt

open Transact (bind_eq_ok)

namespace Engine

/-! ## Vaults that are spared -/

/-- Nothing about a vault is worse: it is still there, with at least as much collateral and at most
as much debt, and with the same owner and the same approved account. -/
structure Spared (id : VaultId) (e e' : Engine) : Prop where
  vault : Option.Rel Vault.NoWorse (e.vault? id) (e'.vault? id)
  title : e'.state.registry.title id = e.state.registry.title id

namespace Spared

variable {id : VaultId} {e e₁ e₂ e₃ : Engine}

/-- What kept its balances and its title is spared. -/
theorem of_same {e' : Engine} (vault : e'.vault? id = e.vault? id)
    (title : e'.state.registry.title id = e.state.registry.title id) : Spared id e e' := by
  refine ⟨?_, title⟩
  rw [vault]
  cases e.vault? id with
  | none => exact .none
  | some v => exact .some (.refl v)

theorem refl (id : VaultId) (e : Engine) : Spared id e e := of_same rfl rfl

/-- What two steps spare, both together do. -/
theorem trans (h₁ : Spared id e₁ e₂) (h₂ : Spared id e₂ e₃) : Spared id e₁ e₃ := by
  refine ⟨?_, h₂.title.trans h₁.title⟩
  have first := h₁.vault
  have second := h₂.vault
  generalize e₁.vault? id = a, e₂.vault? id = b, e₃.vault? id = c at first second ⊢
  cases first with
  | none => exact second
  | some better =>
    cases second with
    | some better' => exact .some (better.trans better')

/-- A vault that is spared is still there, and no worse. -/
theorem exists_vault {e' : Engine} {v : Vault} (h : Spared id e e') (found : e.vault? id = some v) :
    ∃ w, e'.vault? id = some w ∧ v.NoWorse w := by
  have rel := h.vault
  rw [found] at rel
  generalize e'.vault? id = b at rel
  cases rel with
  | some better => exact ⟨_, rfl, better⟩

end Spared

/-! ## What an account may do -/

/-- Every vault that was there is spared, or the account may act on it. -/
def Guarded (caller : Address) (e e' : Engine) : Prop :=
  ∀ id v, e.vault? id = some v →
    e.state.registry.mayAct caller id = .ok true ∨ Spared id e e'

namespace Guarded

variable {caller : Address} {e e' e₁ e₂ e₃ : Engine} {id : VaultId} {v w : Vault}

/-- A step that spares every vault needs no right. -/
theorem of_spared (h : ∀ id, Spared id e e') : Guarded caller e e' := fun id _ _ => .inr (h id)

/-- Nor does a step that leaves the registry alone. -/
theorem of_registry (same : e'.state.registry = e.state.registry) : Guarded caller e e' := by
  apply of_spared
  intro id
  apply Spared.of_same
  · unfold vault?
    rw [same]
  · rw [same]

theorem refl (caller : Address) (e : Engine) : Guarded caller e e := of_registry rfl

/-- Whoever may act on a vault after a step by which it was spared could do so before. -/
theorem trans (h₁ : Guarded caller e₁ e₂)
    (operators : e₂.state.registry.operators = e₁.state.registry.operators)
    (h₂ : Guarded caller e₂ e₃) : Guarded caller e₁ e₃ := by
  intro id v found
  rcases h₁ id v found with may | spared
  · exact .inl may
  · obtain ⟨w, found', _⟩ := spared.exists_vault found
    rcases h₂ id w found' with may | spared'
    · rw [Registry.mayAct_congr caller spared.title operators] at may
      exact .inl may
    · exact .inr (spared.trans spared')

/-- A vault on which the account may act, where all others are as they were. -/
theorem of_mayAct (may : e.state.registry.mayAct caller id = .ok true)
    (others : ∀ i, i ≠ id → e'.vault? i = e.vault? i)
    (titles : ∀ i, i ≠ id → e'.state.registry.title i = e.state.registry.title i) :
    Guarded caller e e' := by
  intro i u _
  by_cases here : i = id
  · subst here
    exact .inl may
  · exact .inr (.of_same (others i here) (titles i here))

end Guarded

section Changes

variable {caller : Address} {e e' : Engine} {id : VaultId} {v w : Vault}

/-- Revising a vault changes neither its owner nor its approved account, nor those of another one.
-/
theorem Revised.title (h : Revised e id v w e') (i : VaultId) :
    e'.state.registry.title i = e.state.registry.title i := by
  rw [h.registry]
  rfl

/-- Revising a vault changes no operator. -/
theorem Revised.operators (h : Revised e id v w e') :
    e'.state.registry.operators = e.state.registry.operators := by
  rw [h.registry]
  rfl

/-- A vault may be improved by anybody. -/
theorem Revised.spared (h : Revised e id v w e') (better : v.NoWorse w) (i : VaultId) :
    Spared i e e' := by
  refine ⟨?_, h.title i⟩
  rw [h.vault?]
  by_cases here : i = id
  · rw [if_pos here, here, h.found]
    exact .some better
  · rw [if_neg here]
    exact (Spared.refl i e).vault

/-- A vault may be changed in any way by those who may act on it. -/
theorem Revised.guarded (h : Revised e id v w e')
    (may : e.state.registry.mayAct caller id = .ok true) : Guarded caller e e' := by
  refine .of_mayAct may (fun i ne => ?_) fun i _ => h.title i
  rw [h.vault?, if_neg ne]

/-- A vault is removed by one who may act on it, and no other vault is worse for it. -/
theorem Removed.guarded (h : Removed e id v e')
    (may : e.state.registry.mayAct caller id = .ok true) : Guarded caller e e' := by
  obtain ⟨owner, burnt⟩ := h.burnt
  refine .of_mayAct may (fun i ne => ?_) (Registry.title_burn burnt).1
  rw [h.vault?, if_neg ne]

/-- The number of a new vault is not that of one that was there. -/
theorem Created.guarded (h : Created e id e') (numbered : e.state.registry.Numbered) :
    Guarded caller e e' := by
  obtain ⟨owner, minted⟩ := h.minted
  intro i v found
  have ne : i ≠ id := by
    rintro rfl
    cases (h.fresh numbered).symm.trans found
  refine .inr (.of_same ?_ ((Registry.title_mint minted).1 i ne))
  rw [h.vault?, if_neg ne]

/-- The giving side of a transfer of debt is spared. -/
theorem spared_of_payDebtOut {now : Timestamp} {amount taken : Amount}
    {senderBorrowFee senderRepayFee : UInt64}
    (paid : payDebtOut now id amount senderBorrowFee senderRepayFee e = .ok taken e')
    (i : VaultId) : Spared i e e' := by
  obtain ⟨_, m, _, _, _, _, booked, revised, collateral, debt, _⟩ := payDebtOut_eq_ok paid
  have accrued : Spared i e m := by
    refine .of_same (booked.vault? i) ?_
    rw [booked.registry]
  exact accrued.trans (revised.spared (.of_repaid collateral debt) i)

end Changes

end Engine

/-! ## Batches -/

/-- The vault on which an action asks for rights, if there is one. -/
def Action.governs (s : EngineState) : Action → Option VaultId
  | .closeVault id => some (s.resolve id)
  | .removeCollateral id _ => some (s.resolve id)
  | .borrow id _ => some (s.resolve id)
  | .getDebtIn receiving _ _ _ => some (s.resolve receiving)
  | _ => none

namespace Arena

variable {ctx : Context} {accumulator : Amount} {s s' : Arena} {t t' : Tally} {action : Action}

/-- An action that asks for rights is accepted from those alone who have them. -/
theorem mayAct_of_applyAction {id : VaultId}
    (h : applyAction ctx accumulator t action s = .ok t' s')
    (governs : action.governs s.engine.state = some id) :
    s.engine.state.registry.mayAct ctx.caller id = .ok true := by
  cases action with
  | closeVault i =>
    cases governs
    simp only [applyAction, Engine.closeVault, bind_eq_ok, Transact.get_eq_ok, onEngine_eq_ok,
      Engine.requireMayAct_eq_ok] at h
    obtain ⟨_, _, ⟨rfl, rfl⟩, _, _, ⟨_, ⟨_, _, ⟨may, rfl⟩, _⟩, _⟩, _⟩ := h
    exact may
  | removeCollateral i amount =>
    cases governs
    simp only [applyAction, Engine.removeCollateral, bind_eq_ok, Transact.get_eq_ok,
      onEngine_eq_ok, Engine.requireAmount_eq_ok, Engine.requireMayAct_eq_ok] at h
    obtain ⟨_, _, ⟨rfl, rfl⟩, _, _, ⟨_, ⟨_, _, ⟨_, rfl⟩, _, _, ⟨may, rfl⟩, _⟩, _⟩, _⟩ := h
    exact may
  | borrow i amount =>
    cases governs
    simp only [applyAction, Engine.borrow, bind_eq_ok, Transact.get_eq_ok, onEngine_eq_ok,
      Engine.requireAmount_eq_ok, Engine.requireMayAct_eq_ok] at h
    obtain ⟨_, _, ⟨rfl, rfl⟩, _, _, ⟨_, ⟨_, _, ⟨_, rfl⟩, _, _, ⟨may, rfl⟩, _⟩, _⟩, _⟩ := h
    exact may
  | getDebtIn receiving givingEngine giving amount =>
    cases governs
    simp only [applyAction, getDebtIn, bind_eq_ok, Transact.get_eq_ok, onEngine_eq_ok,
      Engine.requireAmount_eq_ok, Engine.requireMayAct_eq_ok] at h
    obtain ⟨_, _, ⟨rfl, rfl⟩, _, _, ⟨_, _, ⟨_, ⟨_, rfl⟩, rfl⟩, _, _, ⟨_, ⟨may, rfl⟩, rfl⟩, _⟩,
      _⟩ := h
    exact may
  | _ => cases governs

/-- No action changes who the operators are. -/
theorem Applied.operators (h : Applied accumulator s t action t' s') :
    s'.engine.state.registry.operators = s.engine.state.registry.operators := by
  cases h with
  | createVault id e made =>
    obtain ⟨_, minted⟩ := made.minted
    exact (Registry.title_mint minted).2
  | closeVault v e owed repaid t' closed =>
    obtain ⟨_, burnt⟩ := closed.burnt
    exact (Registry.title_burn burnt).2
  | addCollateral v w e t' revised => exact revised.operators
  | removeCollateral v w e t' revised => exact revised.operators
  | repayDebt v w change repaid charged e t' revised => exact revised.operators
  | borrow v w change fee paid e t' revised => exact revised.operators
  | moveDebt v w v' w' moved m e t' own given collateral debt received =>
    exact received.operators.trans given.operators
  | fetchDebt i r now borrowFee repayFee g taken change v w e t' other place paid revised =>
    exact revised.operators
  | permit l same => rfl

/-- An action is guarded. -/
theorem Applied.guarded (h : Applied accumulator s t action t' s')
    (numbered : s.engine.state.registry.Numbered)
    (may : ∀ id, action.governs s.engine.state = some id →
      s.engine.state.registry.mayAct ctx.caller id = .ok true) :
    Engine.Guarded ctx.caller s.engine s'.engine := by
  cases h with
  | createVault id e made => exact made.guarded numbered
  | closeVault v e owed repaid t' closed => exact closed.guarded (may _ rfl)
  | addCollateral v w e t' revised collateral debt =>
    refine .of_spared (revised.spared ⟨?_, Nat.le_of_eq (congrArg Amount.toNat debt)⟩)
    exact Nat.le_of_add_right_le (Nat.le_of_eq collateral.symm)
  | removeCollateral v w e t' revised => exact revised.guarded (may _ rfl)
  | repayDebt v w change repaid charged e t' revised collateral debt =>
    exact .of_spared (revised.spared (.of_repaid collateral debt))
  | borrow v w change fee paid e t' revised => exact revised.guarded (may _ rfl)
  | moveDebt v w v' w' moved m e t' own given collateral debt received =>
    -- the rights on the receiving vault were checked before the giving one changed
    refine (Engine.Guarded.of_spared (given.spared (.of_repaid collateral debt))).trans
      given.operators (received.guarded ?_)
    rw [Registry.mayAct_congr ctx.caller (given.title _) given.operators]
    exact may _ rfl
  | fetchDebt i r now borrowFee repayFee g taken change v w e t' other place paid revised =>
    exact revised.guarded (may _ rfl)
  | permit l same => exact .refl _ _

end Arena

/-! ## Calls that move no balance -/

namespace Engine

section Calls

variable {ctx : Context} {e e' : Engine} {u : Unit}

/-- An account is approved by the owner, or by an operator of the owner. -/
theorem guarded_approve {account : Address} {id : VaultId}
    (h : approve ctx account id e = .ok u e') : Guarded ctx.caller e e' := by
  simp only [approve, bind_eq_ok, getState_eq_ok, Transact.liftM_eq_ok, Transact.require_eq_ok,
    modifyRegistry_eq_ok, emit_eq_ok] at h
  obtain ⟨_, _, ⟨rfl, rfl⟩, owner, _, ⟨owns, rfl⟩, _, _, ⟨_, rfl⟩, _, _, ⟨holds, rfl⟩, _, _, rfl,
    rfl⟩ := h
  have may := Registry.mayAct_eq_ok_true.mpr ⟨owner, owns, holds.imp_right .inr⟩
  exact .of_mayAct may (fun _ _ => rfl) fun _ ne => Registry.title_setApproved _ _ ne

/-- A vault is given away by those who may act on it. -/
theorem guarded_transferVault {source recipient : Address} {id : VaultId}
    (h : transferVault ctx source recipient id e = .ok u e') : Guarded ctx.caller e e' := by
  have quiet := transferVault_eq_ok h
  simp only [transferVault, bind_eq_ok, requireMayAct_eq_ok, getState_eq_ok, Transact.liftM_eq_ok,
    Transact.require_eq_ok, modifyRegistry_eq_ok, emit_eq_ok] at h
  obtain ⟨_, _, ⟨may, rfl⟩, _, _, ⟨rfl, rfl⟩, owner, _, ⟨_, rfl⟩, _, _, ⟨_, rfl⟩, _, _, ⟨_, rfl⟩, _,
    _, listed, _, _, rfl, rfl⟩ := h
  cases requireWhitelisted_eq_ok listed
  refine .of_mayAct may (fun i _ => ?_) fun _ ne => Registry.title_move _ _ _ ne
  unfold vault? Registry.vault?
  rw [quiet.vaults]

/-- Approving operators changes no vault and no title. -/
theorem guarded_setApprovalForAll {operator : Address} {approved : Bool}
    (h : setApprovalForAll ctx operator approved e = .ok u e') : Guarded ctx.caller e e' := by
  simp only [setApprovalForAll, bind_eq_ok, Transact.require_eq_ok, modifyRegistry_eq_ok,
    emit_eq_ok] at h
  obtain ⟨_, _, ⟨_, rfl⟩, _, _, ⟨_, rfl⟩, _, _, rfl, rfl⟩ := h
  exact .of_spared fun _ => .of_same rfl rfl

/-- The whitelist of an account says what it may receive, and takes no vault from anyone. -/
theorem guarded_toggleWhitelist {account : Address}
    (h : toggleWhitelist ctx account e = .ok u e') : Guarded ctx.caller e e' := by
  simp only [toggleWhitelist, bind_eq_ok, requireGovernor_eq_ok] at h
  obtain ⟨_, _, ⟨_, rfl⟩, h⟩ := h
  split at h
  · simp only [bind_eq_ok, modifyParams_eq_ok, getState_eq_ok, emit_eq_ok] at h
    obtain ⟨_, _, rfl, _, _, ⟨rfl, rfl⟩, rfl⟩ := h
    exact .of_registry rfl
  · simp only [bind_eq_ok, modifyRegistry_eq_ok, getState_eq_ok, emit_eq_ok] at h
    obtain ⟨_, _, rfl, _, _, ⟨rfl, rfl⟩, rfl⟩ := h
    exact .of_spared fun _ => .of_same rfl rfl

/-- Parameters are no part of the registry. -/
theorem registry_setParameterByCode {code : String} {value : UInt64}
    (h : setParameterByCode ctx code value e = .ok u e') :
    e'.state.registry = e.state.registry := by
  simp only [setParameterByCode, setParameter, applyParameter, bind_eq_ok, Transact.liftM_eq_ok,
    requireGovernorOrGuardian_eq_ok, getState_eq_ok, emit_eq_ok] at h
  obtain ⟨parameter, _, ⟨_, rfl⟩, _, _, ⟨_, rfl⟩, _, e₁, ⟨_, _, ⟨rfl, rfl⟩, h⟩, rfl⟩ := h
  cases parameter with
  | interestRate =>
    obtain ⟨accumulator, m, accrued, set⟩ := bind_eq_ok.mp h
    obtain rfl := modifyParams_eq_ok.mp set
    exact (accrue_eq_ok accrued).registry
  | _ =>
    obtain ⟨_, _, checked, set⟩ := bind_eq_ok.mp h
    obtain ⟨_, rfl⟩ := Transact.require_eq_ok.mp checked
    obtain rfl := modifyParams_eq_ok.mp set
    rfl

end Calls

end Engine

end CollateralDebt
