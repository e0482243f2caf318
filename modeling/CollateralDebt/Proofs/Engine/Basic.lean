import CollateralDebt.Engine.Ownership
import CollateralDebt.Engine.Accrual
import CollateralDebt.Proofs.FixedPoint
import CollateralDebt.Proofs.Registry

/-!
# The steps of an engine

What the steps that all calls share do when they succeed: reading and writing of the state, the
checks, the log; then accrual, and the creation and removal of vaults.

Between accruals a call changes little of an engine: balances of vaults and who owns them, the debt
total, the surplus and the log. Everything else is the engine's `frame`, so one equation says that
the market, its parameters and its accumulator are as they were.

## What is proved

- one law for each shared step;
- `Revised`, `Removed`, `Created`: one vault was set, closed or made and the debt total moved with
  it, and what this means for lookups and sums;
- `accrue_eq_ok`: accrual raises the accumulator, books its interest and leaves the vaults alone.
-/

namespace CollateralDebt

/-- At least as much collateral, and at most as much debt. -/
structure Vault.NoWorse (v w : Vault) : Prop where
  collateral : v.collateral ≤ w.collateral
  debt : w.normalizedDebt ≤ v.normalizedDebt

namespace Vault.NoWorse

variable {u v w : Vault}

theorem refl (v : Vault) : NoWorse v v := ⟨Nat.le_refl _, Nat.le_refl _⟩

theorem trans (h₁ : NoWorse u v) (h₂ : NoWorse v w) : NoWorse u w :=
  ⟨Nat.le_trans h₁.collateral h₂.collateral, Nat.le_trans h₂.debt h₁.debt⟩

/-- Less debt on the same collateral. -/
theorem of_repaid {change : Nat} (collateral : w.collateral = v.collateral)
    (debt : w.normalizedDebt.toNat + change = v.normalizedDebt.toNat) : NoWorse v w :=
  ⟨Nat.le_of_eq (congrArg Amount.toNat collateral.symm), Nat.le_of_add_right_le (Nat.le_of_eq debt)⟩

/-- A vault without debt that becomes no worse still has none. -/
theorem debt_eq_zero (h : NoWorse v w) (clear : v.normalizedDebt = .zero) :
    w.normalizedDebt = .zero := by
  have less := Amount.le_iff.mp h.debt
  rw [clear, Amount.toNat_zero] at less
  exact Amount.ext (Nat.le_zero.mp less)

end Vault.NoWorse

namespace Engine

open Transact (bind_eq_ok)

/-! ## Shared steps -/

@[simp] theorem getState_eq_ok {e e' : Engine} {s : EngineState} :
    getState e = .ok s e' ↔ e.state = s ∧ e = e' := by
  simp only [getState, bind_eq_ok, Transact.get_eq_ok, Transact.pure_eq_ok]
  constructor
  · rintro ⟨_, _, ⟨rfl, rfl⟩, rfl, rfl⟩
    exact ⟨rfl, rfl⟩
  · rintro ⟨rfl, rfl⟩
    exact ⟨e, e, ⟨rfl, rfl⟩, rfl, rfl⟩

@[simp] theorem emit_eq_ok {event : Event} {e e' : Engine} {u : Unit} :
    emit event e = .ok u e' ↔ { e with log := e.log.emit event } = e' := Transact.modify_eq_ok

@[simp] theorem modifyState_eq_ok {f : EngineState → EngineState} {e e' : Engine} {u : Unit} :
    modifyState f e = .ok u e' ↔ { e with state := f e.state } = e' := Transact.modify_eq_ok

@[simp] theorem modifyRegistry_eq_ok {f : Registry → Registry} {e e' : Engine} {u : Unit} :
    modifyRegistry f e = .ok u e' ↔
      { e with state := { e.state with registry := f e.state.registry } } = e' :=
  modifyState_eq_ok

@[simp] theorem modifyParams_eq_ok {f : Parameters → Parameters} {e e' : Engine} {u : Unit} :
    modifyParams f e = .ok u e' ↔
      { e with state := { e.state with params := f e.state.params } } = e' := modifyState_eq_ok

/-- Adding to the surplus succeeds as long as the surplus stays in range, and changes nothing else.
-/
theorem addSurplus_eq_ok {amount : Amount} {e e' : Engine} {u : Unit} :
    addSurplus amount e = .ok u e' ↔
      ∃ surplus : Amount, surplus.toNat = e.state.surplus.toNat + amount.toNat ∧
        { e with state := { e.state with surplus } } = e' := by
  simp only [addSurplus, bind_eq_ok, getState_eq_ok, Transact.liftM_eq_ok, Amount.add_eq_ok,
    modifyState_eq_ok]
  constructor
  · rintro ⟨_, _, ⟨rfl, rfl⟩, surplus, _, ⟨h, rfl⟩, rfl⟩
    exact ⟨surplus, h, rfl⟩
  · rintro ⟨surplus, h, rfl⟩
    exact ⟨_, _, ⟨rfl, rfl⟩, surplus, _, ⟨h, rfl⟩, rfl⟩

/-- The check that an engine is not paused only reads. -/
@[simp] theorem requireUnpaused_eq_ok {e e' : Engine} {u : Unit} :
    requireUnpaused e = .ok u e' ↔ e.state.paused = false ∧ e = e' := by
  simp only [requireUnpaused, bind_eq_ok, getState_eq_ok, Transact.require_eq_ok,
    Bool.not_eq_true]
  constructor
  · rintro ⟨_, _, ⟨rfl, rfl⟩, h, rfl⟩
    exact ⟨h, rfl⟩
  · rintro ⟨h, rfl⟩
    exact ⟨_, _, ⟨rfl, rfl⟩, h, rfl⟩

@[simp] theorem requireAmount_eq_ok {amount : Amount} {e e' : Engine} {u : Unit} :
    requireAmount amount e = .ok u e' ↔ amount ≠ .zero ∧ e = e' := Transact.require_eq_ok

/-- Looking a vault up succeeds exactly if there is one under that number. -/
@[simp] theorem findVault_eq_ok {id : VaultId} {e e' : Engine} {v : Vault} :
    findVault id e = .ok v e' ↔ e.vault? id = some v ∧ e = e' := by
  simp only [findVault, bind_eq_ok, getState_eq_ok, Transact.liftM_eq_ok, Registry.vault_eq_ok,
    vault?]
  constructor
  · rintro ⟨_, _, ⟨rfl, rfl⟩, h, rfl⟩
    exact ⟨h, rfl⟩
  · rintro ⟨h, rfl⟩
    exact ⟨_, _, ⟨rfl, rfl⟩, h, rfl⟩

/-- Setting a vault always succeeds and changes nothing but the registry. -/
@[simp] theorem putVault_eq_ok {id : VaultId} {v : Vault} {e e' : Engine} {u : Unit} :
    putVault id v e = .ok u e' ↔
      { e with state := { e.state with registry := e.state.registry.setVault id v } } = e' :=
  modifyRegistry_eq_ok

/-- The check of rights passes for those who may act on the vault, and only reads. -/
@[simp] theorem requireMayAct_eq_ok {caller : Address} {id : VaultId} {e e' : Engine} {u : Unit} :
    requireMayAct caller id e = .ok u e' ↔
      e.state.registry.mayAct caller id = .ok true ∧ e = e' := by
  simp only [requireMayAct, bind_eq_ok, getState_eq_ok, Transact.liftM_eq_ok,
    Transact.require_eq_ok]
  constructor
  · rintro ⟨_, _, ⟨rfl, rfl⟩, _, _, ⟨h, rfl⟩, rfl, rfl⟩
    exact ⟨h, rfl⟩
  · rintro ⟨h, rfl⟩
    exact ⟨_, _, ⟨rfl, rfl⟩, _, _, ⟨h, rfl⟩, rfl, rfl⟩

/-- Checking the whitelist changes nothing. -/
theorem requireWhitelisted_eq_ok {caller recipient : Address} {e e' : Engine} {u : Unit}
    (h : requireWhitelisted caller recipient e = .ok u e') : e' = e := by
  simp only [requireWhitelisted, bind_eq_ok, getState_eq_ok] at h
  obtain ⟨_, _, ⟨rfl, rfl⟩, h⟩ := h
  split at h
  · simp only [bind_eq_ok, Transact.require_eq_ok] at h
    obtain ⟨_, _, ⟨_, rfl⟩, _, rfl⟩ := h
    rfl
  · rw [Transact.pure_eq_ok] at h
    exact h.2.symm

/-! ## Checks -/

theorem readOnly_getState : Transact.ReadOnly getState :=
  Transact.readOnly_get.bind fun _ => Transact.readOnly_pure _

theorem readOnly_requireUnpaused : Transact.ReadOnly requireUnpaused :=
  readOnly_getState.bind fun _ => Transact.readOnly_require _ _

theorem readOnly_requireAmount (amount : Amount) : Transact.ReadOnly (requireAmount amount) :=
  Transact.readOnly_require _ _

/-- Whether the caller has the right or not, the engine is only read. -/
theorem readOnly_requireMayAct (caller : Address) (id : VaultId) :
    Transact.ReadOnly (requireMayAct caller id) :=
  readOnly_getState.bind fun _ =>
    (Transact.readOnly_liftM _).bind fun _ => Transact.readOnly_require _ _

theorem readOnly_requireTreasury (caller : Address) : Transact.ReadOnly (requireTreasury caller) :=
  readOnly_getState.bind fun _ => Transact.readOnly_require _ _

/-- The whitelist is only read, also where the recipient is not on it. -/
theorem readOnly_requireWhitelisted (caller recipient : Address) :
    Transact.ReadOnly (requireWhitelisted caller recipient) := by
  unfold requireWhitelisted
  apply readOnly_getState.bind
  intro s
  split
  · exact (Transact.readOnly_require _ _).bind fun _ => Transact.readOnly_require _ _
  · exact Transact.readOnly_pure _

/-- An event can always be noted. -/
theorem unfailing_emit (event : Event) : Transact.Unfailing (emit event) :=
  Transact.unfailing_modify _

theorem unfailing_modifyState (f : EngineState → EngineState) :
    Transact.Unfailing (modifyState f) := Transact.unfailing_modify _

theorem unfailing_modifyRegistry (f : Registry → Registry) :
    Transact.Unfailing (modifyRegistry f) := Transact.unfailing_modify _

theorem unfailing_modifyParams (f : Parameters → Parameters) :
    Transact.Unfailing (modifyParams f) := Transact.unfailing_modify _

/-! ## What calls leave alone -/

/-- All of an engine but its vaults and owners, its debt total, its surplus and its log. -/
def frame (e : Engine) : EngineState × Option BoostSource :=
  ({ e.state with registry := .empty, totalNormalizedDebt := .zero, surplus := .zero },
    e.boostSource)

/-- What an engine is for good. -/
def identity (e : Engine) : Address × String × Address × Address × UInt8 × Amount :=
  (e.state.address, e.state.name, e.state.collateral, e.state.stablecoin,
    e.state.collateralDecimals, e.state.collateralUnit)

section Framed

variable {e e' : Engine}

/-- The identity of an engine is part of its frame. -/
theorem identity_of_frame (h : e'.frame = e.frame) : e'.identity = e.identity :=
  congrArg (fun f => (f.1.address, f.1.name, f.1.collateral, f.1.stablecoin,
    f.1.collateralDecimals, f.1.collateralUnit)) h

/-- The accumulator is part of the frame, so actions leave it as it is. -/
theorem accumulator_of_frame (h : e'.frame = e.frame) :
    e'.state.accumulator = e.state.accumulator := congrArg (fun f => f.1.accumulator) h

/-- The losses are part of the frame: no action writes off debt. -/
theorem badDebt_of_frame (h : e'.frame = e.frame) : e'.state.badDebt = e.state.badDebt :=
  congrArg (fun f => f.1.badDebt) h

/-- The parameters are part of the frame: actions do not set any. -/
theorem params_of_frame (h : e'.frame = e.frame) : e'.state.params = e.state.params :=
  congrArg (fun f => f.1.params) h

theorem address_of_identity (h : e'.identity = e.identity) : e'.state.address = e.state.address :=
  congrArg (·.1) h

theorem collateral_of_identity (h : e'.identity = e.identity) :
    e'.state.collateral = e.state.collateral := congrArg (·.2.2.1) h

theorem stablecoin_of_identity (h : e'.identity = e.identity) :
    e'.state.stablecoin = e.state.stablecoin := congrArg (·.2.2.2.1) h

end Framed

/-- The sum of a number read off each vault. -/
def sum (e : Engine) (f : Vault → Nat) : Nat := e.state.registry.vaults.sum f

/-- The vault `v` was set to `w`. The debt total moved with it, and the rest is as it was, the
surplus and the log apart. -/
structure Revised (e : Engine) (id : VaultId) (v w : Vault) (e' : Engine) : Prop where
  found : e.vault? id = some v
  registry : e'.state.registry = e.state.registry.setVault id w
  total : e'.state.totalNormalizedDebt.toNat + v.normalizedDebt.toNat =
    e.state.totalNormalizedDebt.toNat + w.normalizedDebt.toNat
  frame : e'.frame = e.frame

namespace Revised

variable {e e' : Engine} {id : VaultId} {v w : Vault}

/-- After one vault was revised, it is found with its new balances and every other one as before. -/
theorem vault? (h : Revised e id v w e') (i : VaultId) :
    e'.vault? i = if i = id then some w else e.vault? i := by
  unfold Engine.vault?
  rw [h.registry]
  exact Registry.vault?_setVault _ id i w

/-- A sum over all vaults changes by what one revised vault adds to it in place of what it was. -/
theorem sum (h : Revised e id v w e') (f : Vault → Nat) :
    e'.sum f + f v = e.sum f + f w := by
  have inserted := e.state.registry.vaults.sum_insert f id w
  rw [Table.share_of_get? h.found] at inserted
  unfold Engine.sum
  rw [h.registry]
  exact inserted

/-- A revised vault keeps a number that was given out. -/
theorem numbered (h : Revised e id v w e') (hn : e.state.registry.Numbered) :
    e'.state.registry.Numbered := by
  rw [h.registry]
  exact Registry.numbered_setVault w h.found hn

end Revised

/-- The vault `v` was removed. The debt total went down by what it owed, and the rest is as it was,
the surplus and the log apart. -/
structure Removed (e : Engine) (id : VaultId) (v : Vault) (e' : Engine) : Prop where
  found : e.vault? id = some v
  burnt : ∃ owner, e.state.registry.burn id = .ok (owner, e'.state.registry)
  vaults : e'.state.registry.vaults = e.state.registry.vaults.erase id
  lastId : e'.state.registry.lastId = e.state.registry.lastId
  total : e'.state.totalNormalizedDebt.toNat + v.normalizedDebt.toNat =
    e.state.totalNormalizedDebt.toNat
  frame : e'.frame = e.frame

namespace Removed

variable {e e' : Engine} {id : VaultId} {v : Vault}

/-- After one vault was removed, nothing is found under its number. -/
theorem vault? (h : Removed e id v e') (i : VaultId) :
    e'.vault? i = if i = id then none else e.vault? i := by
  unfold Engine.vault? Registry.vault?
  rw [h.vaults]
  split
  · rename_i eq
    rw [eq, Table.get?_erase_self]
  · rename_i ne
    rw [Table.get?_erase_of_ne _ ne]

/-- A sum over all vaults loses what the removed one was worth. -/
theorem sum (h : Removed e id v e') (f : Vault → Nat) : e'.sum f + f v = e.sum f := by
  have erased := e.state.registry.vaults.sum_erase f id
  rw [Table.share_of_get? h.found] at erased
  unfold Engine.sum
  rw [h.vaults]
  exact erased

/-- The vaults that are left still have numbers that were given out. -/
theorem numbered (h : Removed e id v e') (hn : e.state.registry.Numbered) :
    e'.state.registry.Numbered := by
  intro i w found
  have old := h.vault? i
  unfold Engine.vault? at old
  rw [found] at old
  rw [h.lastId]
  split at old
  · cases old
  · exact hn i w old.symm

end Removed

/-- A vault was created: it is empty, and its number is one more than the last. -/
structure Created (e : Engine) (id : VaultId) (e' : Engine) : Prop where
  minted : ∃ owner, e.state.registry.mint owner = .ok (id, e'.state.registry)
  next : id.toNat = e.state.registry.lastId.toNat + 1
  lastId : e'.state.registry.lastId = id
  vaults : e'.state.registry.vaults = e.state.registry.vaults.insert id .empty
  total : e'.state.totalNormalizedDebt = e.state.totalNormalizedDebt
  surplus : e'.state.surplus = e.state.surplus
  frame : e'.frame = e.frame

namespace Created

variable {e e' : Engine} {id : VaultId}

/-- A new vault is found empty under its number, and every other one as before. -/
theorem vault? (h : Created e id e') (i : VaultId) :
    e'.vault? i = if i = id then some .empty else e.vault? i := by
  unfold Engine.vault? Registry.vault?
  rw [h.vaults]
  split
  · rename_i eq
    rw [eq, Table.get?_insert_self]
  · rename_i ne
    rw [Table.get?_insert_of_ne _ _ ne]

/-- The number of a new vault was free. -/
theorem fresh (h : Created e id e') (hn : e.state.registry.Numbered) : e.vault? id = none := by
  cases found : e.vault? id with
  | none => rfl
  | some v =>
    have := hn id v found
    have := h.next
    omega

/-- A new vault adds nothing to a sum that an empty one counts for nothing in. -/
theorem sum (h : Created e id e') (hn : e.state.registry.Numbered) (f : Vault → Nat)
    (hf : f .empty = 0) : e'.sum f = e.sum f := by
  have inserted := e.state.registry.vaults.sum_insert f id .empty
  have free : e.state.registry.vaults.share f id = 0 :=
    Table.share_of_get?_eq_none (h.fresh hn)
  unfold Engine.sum
  rw [h.vaults]
  omega

/-- A new vault has the last number that was given out. -/
theorem numbered (h : Created e id e') (hn : e.state.registry.Numbered) :
    e'.state.registry.Numbered := by
  intro i w found
  have old := h.vault? i
  unfold Engine.vault? at old
  rw [found] at old
  rw [h.lastId]
  split at old
  · rename_i eq
    exact Nat.le_of_eq (congrArg UInt64.toNat eq)
  · have := hn i w old.symm
    have := h.next
    omega

end Created

/-! ## Accrual -/

/-- An engine whose interest was booked: the accumulator is what it has grown to, its growth on all
debt went to the surplus, and the vaults are as they were. -/
structure Accrued (e : Engine) (now : Timestamp) (accumulator : Amount) (e' : Engine) : Prop where
  current : e.currentAccumulator now = .ok accumulator
  grown : e.state.accumulator ≤ accumulator
  interest : e'.state.surplus.toNat = e.state.surplus.toNat +
    e.state.totalNormalizedDebt.toNat * (accumulator.toNat - e.state.accumulator.toNat) /
      accumulatorOne
  state : e'.state = { e.state with
    accumulator
    accruedAt := if e.state.accruedAt < now then now else e.state.accruedAt
    surplus := e'.state.surplus }
  boostSource : e'.boostSource = e.boostSource
  log : e'.log = if e.state.accumulator < accumulator
    then e.log.emit (.interestAccumulatorUpdated accumulator now) else e.log

/-- Accrual leaves an engine what it is. -/
theorem Accrued.identity {e e' : Engine} {now : Timestamp} {accumulator : Amount}
    (h : Accrued e now accumulator e') : e'.identity = e.identity := by
  unfold Engine.identity
  rw [h.state]

/-- The accumulator that accrual answers is the one that it leaves in the engine. -/
theorem Accrued.accumulator {e e' : Engine} {now : Timestamp} {accumulator : Amount}
    (h : Accrued e now accumulator e') : e'.state.accumulator = accumulator := by
  rw [h.state]

/-- Accrual leaves the registry alone: interest is owed through the accumulator. -/
theorem Accrued.registry {e e' : Engine} {now : Timestamp} {accumulator : Amount}
    (h : Accrued e now accumulator e') : e'.state.registry = e.state.registry := by
  rw [h.state]

/-- Accrual leaves the total of normalized debt alone, as no vault owes a larger share of it. -/
theorem Accrued.total {e e' : Engine} {now : Timestamp} {accumulator : Amount}
    (h : Accrued e now accumulator e') :
    e'.state.totalNormalizedDebt = e.state.totalNormalizedDebt := by
  rw [h.state]

/-- The vaults are the same before and after accrual. -/
theorem Accrued.vault? {e e' : Engine} {now : Timestamp} {accumulator : Amount}
    (h : Accrued e now accumulator e') (id : VaultId) : e'.vault? id = e.vault? id := by
  unfold Engine.vault?
  rw [h.registry]

/-- An accrual that succeeds has booked the interest up to now at the rate it found. -/
theorem accrue_eq_ok {now : Timestamp} {accumulator : Amount} {e e' : Engine}
    (h : accrue now e = .ok accumulator e') : Accrued e now accumulator e' := by
  simp only [accrue, bind_eq_ok, getState_eq_ok, Transact.get_eq_ok, Transact.liftM_eq_ok] at h
  obtain ⟨_, _, ⟨rfl, rfl⟩, _, _, ⟨rfl, rfl⟩, current, _, ⟨hcurrent, rfl⟩, h⟩ := h
  have grown := accumulate_ge hcurrent
  split at h
  · rename_i rises
    simp only [bind_eq_ok, Transact.liftM_eq_ok, addSurplus_eq_ok, modifyState_eq_ok,
      emit_eq_ok] at h
    obtain ⟨interest, _, ⟨hinterest, rfl⟩, _, _, ⟨surplus, hsurplus, rfl⟩, _, _, rfl, _, _, rfl,
      h⟩ := h
    have hbooked := (mulDiv_eq_ok.mp hinterest).2
    split at h
    · rename_i later
      simp only [bind_eq_ok, modifyState_eq_ok, Transact.pure_eq_ok] at h
      obtain ⟨_, _, rfl, rfl, rfl⟩ := h
      exact ⟨hcurrent, grown, by rw [← hbooked]; exact hsurplus, by simp only [if_pos later], rfl,
        by simp only [if_pos rises]⟩
    · rename_i later
      rw [Transact.pure_eq_ok] at h
      obtain ⟨rfl, rfl⟩ := h
      exact ⟨hcurrent, grown, by rw [← hbooked]; exact hsurplus, by simp only [if_neg later], rfl,
        by simp only [if_pos rises]⟩
  · rename_i rises
    have same : current = e.state.accumulator := by
      rw [Amount.lt_iff] at rises
      rw [Amount.le_iff] at grown
      exact Amount.ext (by omega)
    subst same
    split at h
    · rename_i later
      simp only [bind_eq_ok, modifyState_eq_ok, Transact.pure_eq_ok] at h
      obtain ⟨_, _, rfl, rfl, rfl⟩ := h
      exact ⟨hcurrent, grown, by simp, by simp only [if_pos later], rfl,
        by simp only [if_neg rises]⟩
    · rename_i later
      rw [Transact.pure_eq_ok] at h
      obtain ⟨rfl, rfl⟩ := h
      exact ⟨hcurrent, grown, by simp, by simp only [if_neg later], rfl,
        by simp only [if_neg rises]⟩

/-! ## Creation and removal of vaults -/

/-- A vault was created: the registry minted it and nothing else happened. -/
theorem mintVault_eq_ok {ctx : Context} {owner : Address} {id : VaultId} {e e' : Engine}
    (h : mintVault ctx owner e = .ok id e') :
    ∃ registry, e.state.registry.mint owner = .ok (id, registry) ∧
      e' = { e with
        state := { e.state with registry }
        log := e.log.emit (.transfer .zero owner id ctx.now) } := by
  simp only [mintVault, bind_eq_ok, Transact.require_eq_ok, getState_eq_ok, Transact.liftM_eq_ok,
    modifyRegistry_eq_ok, emit_eq_ok, Transact.pure_eq_ok] at h
  obtain ⟨_, _, ⟨_, rfl⟩, _, _, hlisted, h⟩ := h
  cases requireWhitelisted_eq_ok hlisted
  obtain ⟨_, _, ⟨rfl, rfl⟩, ⟨i, registry⟩, _, ⟨minted, rfl⟩, _, _, rfl, _, _, rfl, rfl, rfl⟩ := h
  exact ⟨registry, minted, rfl⟩

/-- Minting makes one empty vault under a new number, and touches no other. -/
theorem created_of_mintVault {ctx : Context} {owner : Address} {id : VaultId} {e e' : Engine}
    (h : mintVault ctx owner e = .ok id e') : Created e id e' := by
  obtain ⟨registry, minted, rfl⟩ := mintVault_eq_ok h
  obtain ⟨next, lastId, vaults⟩ := Registry.mint_eq_ok minted
  exact ⟨⟨owner, minted⟩, next, lastId, vaults, rfl, rfl, rfl⟩

/-- A vault was removed: the registry burnt it and nothing else happened. -/
theorem burnVault_eq_ok {now : Timestamp} {id : VaultId} {e e' : Engine} {u : Unit}
    (h : burnVault now id e = .ok u e') :
    ∃ owner registry, e.state.registry.burn id = .ok (owner, registry) ∧
      e' = { e with
        state := { e.state with registry }
        log := e.log.emit (.transfer owner .zero id now) } := by
  simp only [burnVault, bind_eq_ok, getState_eq_ok, Transact.liftM_eq_ok, modifyRegistry_eq_ok,
    emit_eq_ok] at h
  obtain ⟨_, _, ⟨rfl, rfl⟩, ⟨owner, registry⟩, _, ⟨burnt, rfl⟩, _, _, rfl, rfl⟩ := h
  exact ⟨owner, registry, burnt, rfl⟩

end Engine

end CollateralDebt
