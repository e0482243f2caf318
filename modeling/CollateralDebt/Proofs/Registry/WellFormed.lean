import Mathlib.Data.List.Sort
import CollateralDebt.Proofs.Registry

/-!
# Well-formed registries

A registry says in five tables who has which vault and who may act on it, and every change of
ownership writes to several of them. In a well-formed registry the tables agree: what one of them
says of a vault or of an owner, the others do not contradict.

## What is proved

- `WellFormed`: what the tables have in common, kept by every change of a registry;
- `vaultsOf_eq_filter`, `balanceOf_eq_length`: in a well-formed registry, the vaults of an owner are
  the numbers that the owner is recorded for;
- `Continues`: numbers go up, and a vault that comes up has a number beyond all earlier ones.
-/

namespace CollateralDebt

namespace Registry

variable {r r' : Registry} {owner other : Address} {id i : VaultId}

/-- The owner of a vault is the one noted in the table of owners. -/
theorem ownerOf_eq_ok : r.ownerOf id = .ok owner ↔ r.owners.get? id = some owner :=
  Outcome.ofOption_eq_ok

/-- A vault exists as a token if it has an owner. -/
theorem exists?_eq_true : r.exists? id = true ↔ ∃ owner, r.owners.get? id = some owner :=
  Option.isSome_iff_exists

/-! ## The vaults of each owner -/

/-- A number is among those of an owner if the set of the owner has it. -/
theorem mem_vaultsOf :
    id ∈ r.vaultsOf owner ↔ ∃ ids, r.owned.get? owner = some ids ∧ id ∈ ids.keys := by
  unfold vaultsOf
  cases r.owned.get? owner with
  | none => simp
  | some ids => simp

theorem vaultsOf_congr (same : r'.owned.get? owner = r.owned.get? owner) :
    r'.vaultsOf owner = r.vaultsOf owner := by
  unfold vaultsOf
  rw [same]

/-- Adding a vault to an owner's set adds it there and nowhere else. -/
theorem mem_vaultsOf_addOwned :
    i ∈ (r.addOwned owner id).vaultsOf other ↔ (other = owner ∧ i = id) ∨ i ∈ r.vaultsOf other := by
  by_cases here : other = owner
  · subst here
    have found : (r.addOwned other id).owned.get? other =
        some (KeySet.insert (r.owned.getD other .empty) id) := Table.get?_insert_self _ _ _
    have before : i ∈ (r.owned.getD other .empty).keys ↔ i ∈ r.vaultsOf other := by
      unfold vaultsOf Table.getD
      cases r.owned.get? other <;> exact Iff.rfl
    simp only [mem_vaultsOf, found, Option.some.injEq, exists_eq_left', Table.mem_keys_insert,
      before, true_and]
  · rw [vaultsOf_congr (Table.get?_insert_of_ne _ _ here)]
    simp only [here, false_and, false_or]

/-- Removing a vault from an owner's set removes it there and nowhere else. -/
theorem mem_vaultsOf_removeOwned :
    i ∈ (r.removeOwned owner id).vaultsOf other ↔
      i ∈ r.vaultsOf other ∧ ¬ (other = owner ∧ i = id) := by
  unfold removeOwned
  cases found : r.owned.get? owner with
  | none =>
    have nothing : other = owner → i ∉ r.vaultsOf other := by
      rintro rfl mem
      obtain ⟨_, there, _⟩ := mem_vaultsOf.mp mem
      cases found.symm.trans there
    exact ⟨fun mem => ⟨mem, fun ⟨here, _⟩ => nothing here mem⟩, (·.1)⟩
  | some ids =>
    by_cases here : other = owner
    · subst here
      have before : i ∈ r.vaultsOf other ↔ i ∈ ids.keys := by
        simp only [mem_vaultsOf, found, Option.some.injEq, exists_eq_left']
      simp only [before, true_and, ← ne_eq, ← Table.mem_keys_erase]
      cases last : (ids.erase id).isEmpty with
      | true =>
        rw [Table.eq_empty_of_isEmpty last]
        simp only [mem_vaultsOf, if_true, Table.get?_erase_self]
        constructor
        · rintro ⟨_, there, _⟩
          cases there
        · intro mem
          cases mem
      | false =>
        simp only [mem_vaultsOf, Bool.false_eq_true, if_false, Table.get?_insert_self,
          Option.some.injEq, exists_eq_left']
    · rw [vaultsOf_congr (r := r)]
      · simp only [here, false_and, not_false_eq_true, and_true]
      · show (if _ then _ else _ : Table Address (KeySet VaultId)).get? other = _
        split
        · exact Table.get?_erase_of_ne _ here
        · exact Table.get?_insert_of_ne _ _ here

/-- No owner has an empty set of vaults. -/
def Inhabited (owned : Table Address (KeySet VaultId)) : Prop :=
  ∀ owner, owned.get? owner ≠ some .empty

/-- Replacing a set by one with members leaves no set empty. -/
theorem inhabited_insert {owned : Table Address (KeySet VaultId)} {ids : KeySet VaultId}
    (h : Inhabited owned) (some? : ids ≠ .empty) : Inhabited (owned.insert owner ids) := by
  intro other
  by_cases here : other = owner
  · subst here
    rw [Table.get?_insert_self]
    exact fun same => some? (Option.some.inj same)
  · rw [Table.get?_insert_of_ne _ _ here]
    exact h other

/-- A set that a vault was added to has a member. -/
theorem inhabited_addOwned (h : Inhabited r.owned) : Inhabited (r.addOwned owner id).owned :=
  inhabited_insert h (Table.insert_ne_empty _ _ _)

/-- A set that loses its last member is removed with it. -/
theorem inhabited_removeOwned (h : Inhabited r.owned) :
    Inhabited (r.removeOwned owner id).owned := by
  unfold removeOwned
  split
  · exact h
  · rename_i ids _
    dsimp only
    cases last : (ids.erase id).isEmpty with
    | true =>
      intro other
      rw [if_pos rfl]
      by_cases here : other = owner
      · subst here
        rw [Table.get?_erase_self]
        nofun
      · rw [Table.get?_erase_of_ne _ here]
        exact h other
    | false =>
      rw [if_neg Bool.false_ne_true]
      refine inhabited_insert h fun same => ?_
      rw [same] at last
      cases last

/-! ## Tables that agree -/

/-- The tables of a registry agree. -/
structure WellFormed (r : Registry) : Prop where
  /-- The table of vaults and the table of owners have the same numbers. -/
  ids : ∀ id, (r.vaults.get? id).isSome = (r.owners.get? id).isSome
  /-- The vaults of each owner are the inverse of the table of owners. -/
  owned : ∀ owner id, id ∈ r.vaultsOf owner ↔ r.owners.get? id = some owner
  inhabited : Inhabited r.owned
  /-- No vault belongs to the zero address. -/
  named : ∀ id owner, r.owners.get? id = some owner → owner ≠ .zero
  /-- An approval is for a vault that exists, and goes to someone else than its owner. -/
  approved : ∀ id account, r.approvals.get? id = some account →
    account ≠ .zero ∧ ∃ owner, r.owners.get? id = some owner ∧ account ≠ owner
  /-- An operator is someone else than the owner. -/
  operators : ∀ owner operator, r.isOperator owner operator = true →
    operator ≠ .zero ∧ operator ≠ owner
  numbered : ∀ id owner, r.owners.get? id = some owner → 1 ≤ id.toNat ∧ id.toNat ≤ r.lastId.toNat

/-- The tables of a new registry agree, as there is nothing in them. -/
theorem wellFormed_empty : WellFormed .empty where
  ids _ := rfl
  owned _ _ := ⟨nofun, nofun⟩
  inhabited _ := nofun
  named _ _ := nofun
  approved _ _ := nofun
  operators _ _ := nofun
  numbered _ _ := nofun

/-! ## Changes -/

/-- The sets of owned vaults are a table of their own. -/
theorem owners_removeOwned (r : Registry) (owner : Address) (id : VaultId) :
    (r.removeOwned owner id).owners = r.owners := by
  unfold removeOwned
  split <;> rfl

theorem approvals_removeOwned (r : Registry) (owner : Address) (id : VaultId) :
    (r.removeOwned owner id).approvals = r.approvals := by
  unfold removeOwned
  split <;> rfl

/-- A vault was given to a new owner, or to none. Nobody is approved for it, and all other vaults
are as they were. -/
structure Reassigned (r : Registry) (id : VaultId) (owner? : Option Address) (r' : Registry) :
    Prop where
  vaults : ∀ i, (r'.vaults.get? i).isSome =
    if i = id then owner?.isSome else (r.vaults.get? i).isSome
  owners : ∀ i, r'.owners.get? i = if i = id then owner? else r.owners.get? i
  owned : ∀ other i, i ∈ r'.vaultsOf other ↔
    if i = id then owner? = some other else i ∈ r.vaultsOf other
  inhabited : Inhabited r'.owned
  approvals : ∀ i, r'.approvals.get? i = if i = id then none else r.approvals.get? i
  operators : r'.operators = r.operators

namespace WellFormed

/-- Nobody is approved for a vault that nobody owns. -/
theorem approvals_of_absent (h : r.WellFormed) (absent : r.owners.get? id = none) :
    r.approvals.get? id = none := by
  cases found : r.approvals.get? id with
  | none => rfl
  | some account =>
    obtain ⟨_, _, there, _⟩ := h.approved id account found
    cases absent.symm.trans there

/-- A number beyond the last one is free. -/
theorem owners_of_beyond (h : r.WellFormed) (beyond : r.lastId.toNat < id.toNat) :
    r.owners.get? id = none := by
  cases found : r.owners.get? id with
  | none => rfl
  | some owner =>
    have := (h.numbered id owner found).2
    omega

/-- Tables that agree still do when a vault was given to someone, or to nobody. -/
theorem reassigned {owner? : Option Address} (h : r.WellFormed) (change : Reassigned r id owner? r')
    (named : owner? ≠ some .zero) (grown : r.lastId.toNat ≤ r'.lastId.toNat)
    (numbered : owner?.isSome → 1 ≤ id.toNat ∧ id.toNat ≤ r'.lastId.toNat) : r'.WellFormed where
  ids i := by
    rw [change.vaults, change.owners]
    split
    · rfl
    · exact h.ids i
  owned other i := by
    rw [change.owned, change.owners]
    split
    · exact Iff.rfl
    · exact h.owned other i
  inhabited := change.inhabited
  named i owner there := by
    rw [change.owners] at there
    split at there
    · exact fun zero => named (zero ▸ there)
    · exact h.named i owner there
  approved i account there := by
    rw [change.approvals] at there
    split at there
    · cases there
    · rename_i ne
      obtain ⟨given, owner, owns, other⟩ := h.approved i account there
      refine ⟨given, owner, ?_, other⟩
      rw [change.owners, if_neg ne]
      exact owns
  operators := by
    unfold isOperator
    rw [change.operators]
    exact h.operators
  numbered i owner there := by
    rw [change.owners] at there
    split at there
    · rename_i here
      exact here ▸ numbered (there ▸ rfl)
    · have := h.numbered i owner there
      omega

/-! ### Vaults that come, go and change hands -/

/-- A new vault is given to its first owner. -/
theorem reassigned_mint (h : r.WellFormed) (minted : r.mint owner = .ok (id, r')) :
    Reassigned r id (some owner) r' := by
  obtain ⟨next, -, -⟩ := mint_eq_ok minted
  have free : r.owners.get? id = none := h.owners_of_beyond (by omega)
  unfold Registry.mint at minted
  split at minted
  · cases minted
    refine ⟨fun i => ?_, fun i => ?_, fun other i => ?_, inhabited_addOwned h.inhabited,
      fun i => ?_, rfl⟩
    · show ((r.vaults.insert _ _).get? i).isSome = _
      rw [Table.get?_insert_ite]
      split <;> rfl
    · show (r.owners.insert _ _).get? i = _
      rw [Table.get?_insert_ite]
    · rw [mem_vaultsOf_addOwned]
      change _ ∨ i ∈ r.vaultsOf other ↔ _
      split
      · rename_i here
        rw [h.owned, here, free]
        simp [eq_comm]
      · rename_i ne
        simp only [ne, and_false, false_or]
    · split
      · rename_i here
        rw [here]
        exact h.approvals_of_absent free
      · rfl
  · cases minted

/-- Minting for an account keeps the tables in agreement. -/
theorem mint (h : r.WellFormed) (named : owner ≠ .zero) (minted : r.mint owner = .ok (id, r')) :
    r'.WellFormed := by
  obtain ⟨next, last, -⟩ := mint_eq_ok minted
  subst last
  exact h.reassigned (h.reassigned_mint minted) (fun zero => named (Option.some.inj zero))
    (by omega) fun _ => by omega

/-- A vault that is burnt is given to nobody. -/
theorem reassigned_burn (h : r.WellFormed) (burnt : r.burn id = .ok (owner, r')) :
    Reassigned r id none r' := by
  simp only [burn, Outcome.bind_eq_ok, Outcome.pure_eq_ok, Prod.mk.injEq, ownerOf_eq_ok] at burnt
  obtain ⟨_, owns, rfl, rfl⟩ := burnt
  refine ⟨fun i => ?_, fun i => ?_, fun other i => ?_, inhabited_removeOwned h.inhabited,
    fun i => ?_, operators_removeOwned _ _ _⟩
  · rw [vaults_removeOwned, Table.get?_erase_ite]
    split <;> rfl
  · rw [owners_removeOwned, Table.get?_erase_ite]
  · rw [mem_vaultsOf_removeOwned]
    change i ∈ r.vaultsOf other ∧ _ ↔ _
    split
    · rename_i here
      rw [h.owned, here, owns]
      simp [eq_comm]
    · rename_i ne
      simp only [ne, and_false, not_false_eq_true, and_true]
  · rw [approvals_removeOwned, Table.get?_erase_ite]

/-- Burning keeps the tables in agreement. -/
theorem burn (h : r.WellFormed) (burnt : r.burn id = .ok (owner, r')) : r'.WellFormed :=
  h.reassigned (h.reassigned_burn burnt) nofun
    (Nat.le_of_eq (congrArg UInt64.toNat (burn_eq_ok burnt).1.symm)) nofun

/-- A transfer gives a vault to the recipient, also if that is its owner. -/
theorem reassigned_move {source : Address} (h : r.WellFormed)
    (owns : r.owners.get? id = some source) (recipient : Address) :
    Reassigned r id (some recipient) (r.move source recipient id) := by
  refine ⟨fun i => ?_, fun i => ?_, fun other i => ?_,
    inhabited_addOwned (inhabited_removeOwned h.inhabited), fun i => ?_,
    operators_removeOwned _ _ _⟩
  · rw [vaults_move]
    split
    · rename_i here
      rw [here, h.ids, owns]
      rfl
    · rfl
  · show Table.get? (Table.insert _ id recipient) i = _
    rw [Table.get?_insert_ite]
    show (if _ then _ else Table.get? (Registry.owners (removeOwned _ _ _)) _) = _
    rw [owners_removeOwned]
  · change i ∈ (addOwned (removeOwned _ source id) recipient id).vaultsOf other ↔ _
    rw [mem_vaultsOf_addOwned, mem_vaultsOf_removeOwned]
    change _ ∨ i ∈ r.vaultsOf other ∧ _ ↔ _
    split
    · rename_i here
      rw [h.owned, here, owns]
      simp [eq_comm]
    · rename_i ne
      simp only [ne, and_false, false_or, not_false_eq_true, and_true]
  · show Table.get? (Registry.approvals (removeOwned _ _ _)) i = _
    rw [approvals_removeOwned, Table.get?_erase_ite]

/-- A transfer to an account keeps the tables in agreement. -/
theorem move {source recipient : Address} (h : r.WellFormed)
    (owns : r.owners.get? id = some source) (named : recipient ≠ .zero) :
    (r.move source recipient id).WellFormed := by
  refine h.reassigned (h.reassigned_move owns recipient)
    (fun zero => named (Option.some.inj zero)) ?_ fun _ => ?_
  · rw [lastId_move]
  · rw [lastId_move]
    exact h.numbered id source owns

/-! ### Balances and rights -/

/-- New balances of a vault are no matter of who owns it. -/
theorem setVault {old : Vault} (h : r.WellFormed) (found : r.vault? id = some old) (v : Vault) :
    (r.setVault id v).WellFormed where
  ids i := by
    rw [vaults_setVault, Table.get?_insert_ite]
    split
    · rename_i here
      rw [here]
      exact (congrArg Option.isSome found).symm.trans (h.ids id)
    · exact h.ids i
  owned := h.owned
  inhabited := h.inhabited
  named := h.named
  approved := h.approved
  operators := h.operators
  numbered := h.numbered

/-- An approved account other than the owner keeps the tables in agreement. -/
theorem setApproved {account : Address} (h : r.WellFormed) (owns : r.owners.get? id = some owner)
    (other : account ≠ owner) : (r.setApproved id account).WellFormed where
  ids := h.ids
  owned := h.owned
  inhabited := h.inhabited
  named := h.named
  approved i approved there := by
    unfold Registry.setApproved at there
    dsimp only at there
    split at there
    · rw [Table.get?_erase] at there
      split at there
      · cases there
      · exact h.approved i approved there
    · rename_i given
      rw [Table.get?_insert_ite] at there
      split at there
      · rename_i here
        cases there
        exact ⟨given, owner, here ▸ owns, other⟩
      · exact h.approved i approved there
  operators := h.operators
  numbered := h.numbered

/-- So does an operator other than the account that names it. -/
theorem setOperator {operator : Address} (h : r.WellFormed) (other : operator ≠ owner)
    (named : operator ≠ .zero) (approved : Bool) :
    (r.setOperator owner operator approved).WellFormed where
  ids := h.ids
  owned := h.owned
  inhabited := h.inhabited
  named := h.named
  approved := h.approved
  operators o p there := by
    by_cases here : (o, p) = (owner, operator)
    · cases here
      exact ⟨named, other⟩
    · refine h.operators o p ?_
      unfold isOperator Registry.setOperator Table.contains at there
      cases approved with
      | true =>
        dsimp only at there
        rw [if_pos rfl] at there
        rw [KeySet.insert, Table.get?_insert_of_ne _ _ here] at there
        exact there
      | false =>
        dsimp only at there
        rw [if_neg Bool.false_ne_true, Table.get?_erase_of_ne _ here] at there
        exact there
  numbered := h.numbered

/-- The whitelist takes no part in the agreement. -/
theorem toggleWhitelisted (h : r.WellFormed) (account : Address) :
    (r.toggleWhitelisted account).WellFormed :=
  ⟨h.ids, h.owned, h.inhabited, h.named, h.approved, h.operators, h.numbered⟩

end WellFormed

/-! ## Reading a registry whose tables agree -/

/-- The vaults with balances are the vaults with owners, in the same order. -/
theorem WellFormed.keys_eq (h : r.WellFormed) : r.vaults.keys = r.owners.keys := by
  have lt {ν : Type} (t : Table VaultId ν) : t.keys.Pairwise (· < ·) :=
    t.sorted_keys.imp Std.compare_eq_lt.mp
  refine (lt _).eq_of_mem_iff (lt _) fun id => ?_
  simp only [Table.mem_keys_iff, ← Option.isSome_iff_exists, h.ids]

/-- The vaults of an owner are the numbers that are recorded for the owner, ascending. -/
theorem WellFormed.vaultsOf_eq_filter (h : r.WellFormed) (owner : Address) :
    r.vaultsOf owner = r.owners.keys.filter fun id => r.owners.get? id = some owner := by
  have ascending : (r.vaultsOf owner).Pairwise (· < ·) := by
    unfold vaultsOf
    cases r.owned.get? owner with
    | none => exact .nil
    | some ids => exact ids.sorted_keys.imp Std.compare_eq_lt.mp
  refine ascending.eq_of_mem_iff
    ((r.owners.sorted_keys.imp Std.compare_eq_lt.mp).filter _) fun id => ?_
  rw [h.owned, List.mem_filter, decide_eq_true_iff, Table.mem_keys_iff]
  exact ⟨fun owns => ⟨⟨owner, owns⟩, owns⟩, (·.2)⟩

/-- The number of vaults of an owner is the length of their list. -/
theorem balanceOf_eq_length (r : Registry) (owner : Address) :
    r.balanceOf owner = (r.vaultsOf owner).length := by
  unfold balanceOf vaultsOf
  cases r.owned.get? owner with
  | none => rfl
  | some ids => exact (List.length_map _).symm

/-! ## Numbers that are not given out again -/

/-- The last number does not go down, and a vault that was not there before has a number beyond
it. -/
structure Continues (r r' : Registry) : Prop where
  lastId : r.lastId.toNat ≤ r'.lastId.toNat
  fresh : ∀ id, r'.exists? id = true → r.exists? id = true ∨ r.lastId.toNat < id.toNat

namespace Continues

/-- Where the owners and the last number are the same, numbers continue. -/
theorem of_owners (lastId : r'.lastId = r.lastId) (owners : r'.owners = r.owners) :
    Continues r r' where
  lastId := Nat.le_of_eq (congrArg UInt64.toNat lastId.symm)
  fresh id there := by
    unfold exists? at there ⊢
    exact .inl (owners ▸ there)

theorem refl (r : Registry) : Continues r r := .of_owners rfl rfl

/-- Numbers that continue twice continue. -/
theorem trans {r₁ r₂ r₃ : Registry} (h₁ : Continues r₁ r₂) (h₂ : Continues r₂ r₃) :
    Continues r₁ r₃ where
  lastId := Nat.le_trans h₁.lastId h₂.lastId
  fresh id there := by
    rcases h₂.fresh id there with before | beyond
    · exact h₁.fresh id before
    · exact .inr (Nat.lt_of_le_of_lt h₁.lastId beyond)

/-- A change of who has a vault continues a registry if the vault was there, or has a new number. -/
theorem of_reassigned {owner? : Option Address} (change : Reassigned r id owner? r')
    (lastId : r.lastId.toNat ≤ r'.lastId.toNat)
    (known : owner?.isSome → r.exists? id = true ∨ r.lastId.toNat < id.toNat) :
    Continues r r' where
  lastId := lastId
  fresh i there := by
    unfold exists? Table.contains at there ⊢
    rw [change.owners] at there
    split at there
    · rename_i here
      exact here ▸ known there
    · exact .inl there

end Continues

namespace WellFormed

/-- A new vault has a number beyond the last. -/
theorem continues_mint (h : r.WellFormed) (minted : r.mint owner = .ok (id, r')) :
    Continues r r' := by
  obtain ⟨next, last, -⟩ := mint_eq_ok minted
  subst last
  exact .of_reassigned (h.reassigned_mint minted) (by omega) fun _ => .inr (by omega)

/-- Burning gives out no number. -/
theorem continues_burn (h : r.WellFormed) (burnt : r.burn id = .ok (owner, r')) :
    Continues r r' :=
  .of_reassigned (h.reassigned_burn burnt)
    (Nat.le_of_eq (congrArg UInt64.toNat (burn_eq_ok burnt).1.symm)) nofun

/-- A transfer is of a vault that was there before. -/
theorem continues_move {source : Address} (h : r.WellFormed)
    (owns : r.owners.get? id = some source) (recipient : Address) :
    Continues r (r.move source recipient id) :=
  .of_reassigned (h.reassigned_move owns recipient)
    (Nat.le_of_eq (congrArg UInt64.toNat (lastId_move _ _ _ _).symm))
    fun _ => .inl (exists?_eq_true.mpr ⟨source, owns⟩)

end WellFormed

end Registry

end CollateralDebt
