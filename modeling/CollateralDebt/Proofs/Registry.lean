import CollateralDebt.Registry
import CollateralDebt.Proofs.Table
import CollateralDebt.Proofs.Transact

/-!
# The vaults of a registry

Of a registry's tables, the vaults and the last number given out carry the balances of a market. The
changes of ownership and approval leave both alone.

## What is proved

- `vault?_setVault`: a vault that is set is found, and the others are as before;
- `mint_eq_ok`, `burn_eq_ok`: what creation and removal do to the vaults;
- `vaults_move` and its like: what the other changes leave alone;
- `title_mint` and its like: whose owner and approval a change leaves alone, and `mayAct_congr`: what
  they decide;
- `whitelist_mint` and its like: who is listed does not depend on the vaults;
- `Numbered`: the numbers of vaults are at most the last one given out, so a new vault replaces
  none.
-/

namespace CollateralDebt.Registry

theorem vault_eq_ok {r : Registry} {id : VaultId} {v : Vault} :
    r.vault id = .ok v ↔ r.vault? id = some v := Outcome.ofOption_eq_ok

@[simp] theorem vaults_setVault (r : Registry) (id : VaultId) (v : Vault) :
    (r.setVault id v).vaults = r.vaults.insert id v := rfl

@[simp] theorem lastId_setVault (r : Registry) (id : VaultId) (v : Vault) :
    (r.setVault id v).lastId = r.lastId := rfl

/-- A vault that is set is found, and the others are as before. -/
theorem vault?_setVault (r : Registry) (id i : VaultId) (v : Vault) :
    (r.setVault id v).vault? i = if i = id then some v else r.vault? i := by
  unfold vault?
  rw [vaults_setVault]
  split
  · rename_i h
    rw [h, Table.get?_insert_self]
  · rename_i h
    rw [Table.get?_insert_of_ne _ v h]

/-- What is found after a vault was set is this vault, or was there before. -/
theorem setVault_cases {r : Registry} {id i : VaultId} {v w : Vault}
    (there : (r.setVault id v).vault? i = some w) : (i = id ∧ w = v) ∨ r.vault? i = some w := by
  rw [vault?_setVault] at there
  split at there
  · rename_i here
    exact .inl ⟨here, (Option.some.inj there).symm⟩
  · exact .inr there

/-- Different vaults can be set in any order. -/
theorem setVault_comm (r : Registry) {i j : VaultId} (h : i ≠ j) (v w : Vault) :
    (r.setVault i v).setVault j w = (r.setVault j w).setVault i v := by
  unfold setVault
  rw [Table.insert_comm r.vaults h]

@[simp] theorem vaults_addOwned (r : Registry) (owner : Address) (id : VaultId) :
    (r.addOwned owner id).vaults = r.vaults := rfl

@[simp] theorem lastId_addOwned (r : Registry) (owner : Address) (id : VaultId) :
    (r.addOwned owner id).lastId = r.lastId := rfl

@[simp] theorem vaults_removeOwned (r : Registry) (owner : Address) (id : VaultId) :
    (r.removeOwned owner id).vaults = r.vaults := by
  unfold removeOwned
  split <;> rfl

@[simp] theorem lastId_removeOwned (r : Registry) (owner : Address) (id : VaultId) :
    (r.removeOwned owner id).lastId = r.lastId := by
  unfold removeOwned
  split <;> rfl

/-- A transfer moves no balance. -/
@[simp] theorem vaults_move (r : Registry) (source recipient : Address) (id : VaultId) :
    (r.move source recipient id).vaults = r.vaults := by
  simp only [move, vaults_addOwned, vaults_removeOwned]

/-- A transfer gives out no number. -/
@[simp] theorem lastId_move (r : Registry) (source recipient : Address) (id : VaultId) :
    (r.move source recipient id).lastId = r.lastId := by
  simp only [move, lastId_addOwned, lastId_removeOwned]

/-- A new vault is empty, and its number is one more than the last. -/
theorem mint_eq_ok {r r' : Registry} {owner : Address} {id : VaultId}
    (h : r.mint owner = .ok (id, r')) :
    id.toNat = r.lastId.toNat + 1 ∧ r'.lastId = id ∧ r'.vaults = r.vaults.insert id .empty := by
  unfold mint at h
  split at h
  · rename_i small
    cases h
    refine ⟨?_, rfl, rfl⟩
    rw [UInt64.toNat_add]
    exact Nat.mod_eq_of_lt small
  · cases h

/-- A removed vault is gone, and its number is not given out again. -/
theorem burn_eq_ok {r r' : Registry} {owner : Address} {id : VaultId}
    (h : r.burn id = .ok (owner, r')) : r'.lastId = r.lastId ∧ r'.vaults = r.vaults.erase id := by
  simp only [burn, Outcome.bind_eq_ok, Outcome.pure_eq_ok, Prod.mk.injEq] at h
  obtain ⟨_, _, rfl, rfl⟩ := h
  simp only [lastId_removeOwned, vaults_removeOwned, and_self]

/-! ## Rights -/

/-- Who owns a vault, and who is approved for it. -/
def title (r : Registry) (id : VaultId) : Option Address × Option Address :=
  (r.owners.get? id, r.approvals.get? id)

/-- Who may act on a vault depends on its title and on the operators. -/
theorem mayAct_congr {r r' : Registry} {id : VaultId} (account : Address)
    (title : r'.title id = r.title id) (operators : r'.operators = r.operators) :
    r'.mayAct account id = r.mayAct account id := by
  have owner : r'.owners.get? id = r.owners.get? id := congrArg (·.1) title
  have approval : r'.approvals.get? id = r.approvals.get? id := congrArg (·.2) title
  unfold mayAct ownerOf isOperator
  rw [owner, approval, operators]

/-- The owner of a vault, its approved account and the operators of its owner. -/
def Entitled (r : Registry) (account : Address) (id : VaultId) : Prop :=
  ∃ owner, r.ownerOf id = .ok owner ∧
    (account = owner ∨ r.approvals.get? id = some account ∨ r.isOperator owner account)

/-- Those who may act on a vault are those who are entitled to it. -/
theorem mayAct_eq_ok_true {r : Registry} {id : VaultId} {account : Address} :
    r.mayAct account id = .ok true ↔ r.Entitled account id := by
  simp only [Entitled, mayAct, Outcome.bind_eq_ok, Outcome.pure_eq_ok, Bool.or_eq_true,
    decide_eq_true_eq, or_assoc]

/-- Titles are read off the owners and the approvals, not off the sets of owned vaults. -/
@[simp] theorem title_addOwned (r : Registry) (owner : Address) (id i : VaultId) :
    (r.addOwned owner id).title i = r.title i := rfl

@[simp] theorem title_removeOwned (r : Registry) (owner : Address) (id i : VaultId) :
    (r.removeOwned owner id).title i = r.title i := by
  unfold removeOwned
  split <;> rfl

@[simp] theorem operators_removeOwned (r : Registry) (owner : Address) (id : VaultId) :
    (r.removeOwned owner id).operators = r.operators := by
  unfold removeOwned
  split <;> rfl

/-- A new vault changes no title of another one, and no operator. -/
theorem title_mint {r r' : Registry} {owner : Address} {id : VaultId}
    (h : r.mint owner = .ok (id, r')) :
    (∀ i, i ≠ id → r'.title i = r.title i) ∧ r'.operators = r.operators := by
  unfold mint at h
  split at h
  · cases h
    refine ⟨fun i ne => ?_, rfl⟩
    rw [title_addOwned]
    exact Prod.ext (Table.get?_insert_of_ne _ _ ne) rfl
  · cases h

/-- Removing a vault changes no title of another one, and no operator. -/
theorem title_burn {r r' : Registry} {owner : Address} {id : VaultId}
    (h : r.burn id = .ok (owner, r')) :
    (∀ i, i ≠ id → r'.title i = r.title i) ∧ r'.operators = r.operators := by
  simp only [burn, Outcome.bind_eq_ok, Outcome.pure_eq_ok, Prod.mk.injEq] at h
  obtain ⟨_, _, rfl, rfl⟩ := h
  refine ⟨fun i ne => ?_, operators_removeOwned _ _ _⟩
  rw [title_removeOwned]
  exact Prod.ext (Table.get?_erase_of_ne _ ne) (Table.get?_erase_of_ne _ ne)

/-- Giving a vault away changes no title of another one. -/
theorem title_move (r : Registry) (source recipient : Address) {id i : VaultId} (ne : i ≠ id) :
    (r.move source recipient id).title i = r.title i := by
  have moved : (((({ r with approvals := r.approvals.erase id } : Registry).removeOwned source
      id).addOwned recipient id)).title i = (r.owners.get? i, (r.approvals.erase id).get? i) := by
    rw [title_addOwned, title_removeOwned]
    rfl
  refine Prod.ext ?_ ?_
  · show ((Table.insert _ id recipient).get? i) = _
    rw [Table.get?_insert_of_ne _ _ ne]
    exact congrArg (·.1) moved
  · refine (congrArg (·.2) moved).trans ?_
    exact Table.get?_erase_of_ne _ ne

/-- Approving an account for a vault changes no title of another one. -/
theorem title_setApproved (r : Registry) (account : Address) {id i : VaultId} (ne : i ≠ id) :
    (r.setApproved id account).title i = r.title i := by
  refine Prod.ext rfl ?_
  unfold setApproved
  split
  · exact Table.get?_erase_of_ne _ ne
  · exact Table.get?_insert_of_ne _ _ ne

/-! ## The whitelist -/

@[simp] theorem whitelist_removeOwned (r : Registry) (owner : Address) (id : VaultId) :
    (r.removeOwned owner id).whitelist = r.whitelist := by
  unfold removeOwned
  split <;> rfl

theorem whitelist_mint {r r' : Registry} {owner : Address} {id : VaultId}
    (h : r.mint owner = .ok (id, r')) : r'.whitelist = r.whitelist := by
  unfold mint at h
  split at h
  · cases h
    rfl
  · cases h

theorem whitelist_burn {r r' : Registry} {owner : Address} {id : VaultId}
    (h : r.burn id = .ok (owner, r')) : r'.whitelist = r.whitelist := by
  simp only [burn, Outcome.bind_eq_ok, Outcome.pure_eq_ok, Prod.mk.injEq] at h
  obtain ⟨_, _, rfl, rfl⟩ := h
  exact whitelist_removeOwned _ _ _

theorem whitelist_move (r : Registry) (source recipient : Address) (id : VaultId) :
    (r.move source recipient id).whitelist = r.whitelist := by
  simp only [move, addOwned, whitelist_removeOwned]

/-! ## Numbers of vaults -/

/-- Every vault has a number that was given out. -/
def Numbered (r : Registry) : Prop := ∀ id v, r.vault? id = some v → id.toNat ≤ r.lastId.toNat

/-- Whether vaults have numbers that were given out is read off the vaults and the last number. -/
theorem numbered_congr {r r' : Registry} (hv : r'.vaults = r.vaults) (hl : r'.lastId = r.lastId)
    (h : r.Numbered) : r'.Numbered := by
  intro id v found
  rw [hl]
  refine h id v ?_
  unfold vault? at found ⊢
  rw [← hv]
  exact found

/-- Replacing a vault that is there needs no new number. -/
theorem numbered_setVault {r : Registry} {id : VaultId} {old : Vault} (v : Vault)
    (found : r.vault? id = some old) (h : r.Numbered) : (r.setVault id v).Numbered := by
  intro i w hi
  rw [vault?_setVault] at hi
  rw [lastId_setVault]
  split at hi
  · rename_i eq
    exact eq ▸ h id old found
  · exact h i w hi

end CollateralDebt.Registry
