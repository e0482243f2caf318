import CollateralDebt.Proofs.World.Run

/-!
# What takes debt out of a vault

Debt leaves a vault when someone repays or closes it, when a vault of this or another engine takes
the debt on, and when the vault is liquidated. Which vault this is can be read off a call: a batch
names the engine by its address, and may name the newest vault without its number. Nothing else
takes debt out of a vault.

## What is proved

- `Action.taps`, `EngineCall.taps`: the vaults that a call takes debt out of;
- `noLess_applyAction`, `EngineCall.Accepted.noLess`: all other vaults owe no less afterwards.
-/

namespace CollateralDebt

open Transact (bind_eq_ok)

namespace Action

/-- The last number given out after an action, if `last` was the one before. -/
def newest (last : VaultId) : Action → VaultId
  | .createVault _ => last + 1
  | _ => last

/-- The vault that an action takes debt out of, if it is of this kind, with the place of its engine
among those that stand at these addresses. -/
def tap (addresses : List Address) (last : VaultId) : Action → Option (Nat × VaultId)
  | .closeVault id => some (0, if id = 0 then last else id)
  | .repayDebt id _ => some (0, if id = 0 then last else id)
  | .getDebtIn _ givingEngine giving _ => some (addresses.idxOf givingEngine, giving)
  | _ => none

/-- The vaults that actions take debt out of. -/
def taps (addresses : List Address) : VaultId → List Action → List (Nat × VaultId)
  | _, [] => []
  | last, action :: rest =>
    (action.tap addresses last).toList ++ taps addresses (action.newest last) rest

end Action

/-- The vaults that an accepted call takes debt out of or liquidates. Engines stand at these
addresses, the called one first, and `last` is the last number that it has given out. -/
def EngineCall.taps (addresses : List Address) (last : VaultId) :
    EngineCall → EngineReply → List (Nat × VaultId)
  | .getDebtOut id _ _ _, _ => [(0, id)]
  | .liquidate _ _ _, .report report => report.liquidated.map fun id => (0, id)
  | call, _ =>
    match call.asBatch with
    | some (_, actions) => Action.taps addresses last actions
    | none => []

namespace Engine

variable {e e' : Engine} {id i : VaultId} {v w : Vault}

/-- The normalized debt of a vault; none of one that does not exist. -/
def owes (e : Engine) (id : VaultId) : Nat := ((e.vault? id).map (·.normalizedDebt.toNat)).getD 0

/-- What a vault owes is read off the vaults alone. -/
theorem owes_congr (vaults : e'.state.registry.vaults = e.state.registry.vaults) :
    e'.owes id = e.owes id := by
  unfold owes Engine.vault? Registry.vault?
  rw [vaults]

/-- Only the revised vault owes something else. -/
theorem Revised.owes (h : Revised e id v w e') :
    e'.owes i = if i = id then w.normalizedDebt.toNat else e.owes i := by
  unfold Engine.owes
  rw [h.vault?]
  split <;> rfl

/-- A vault other than the one that was set owes what it did. -/
theorem Revised.owes_of_ne (h : Revised e id v w e') (ne : i ≠ id) : e'.owes i = e.owes i := by
  rw [h.owes, if_neg ne]

/-- If the vault that was set owes no less, none does. -/
theorem Revised.owes_le (h : Revised e id v w e')
    (more : v.normalizedDebt.toNat ≤ w.normalizedDebt.toNat) : e.owes i ≤ e'.owes i := by
  rw [h.owes]
  split
  · rename_i here
    unfold Engine.owes
    rw [here, h.found]
    exact more
  · exact Nat.le_refl _

/-- No number is given out when a vault is revised. -/
theorem Revised.lastId (h : Revised e id v w e') :
    e'.state.registry.lastId = e.state.registry.lastId := by
  rw [h.registry, Registry.lastId_setVault]

/-- Removing a vault changes the debt of no other one. -/
theorem Removed.owes_of_ne (h : Removed e id v e') (ne : i ≠ id) : e'.owes i = e.owes i := by
  unfold owes
  rw [h.vault?, if_neg ne]

/-- A new vault owes nothing, as nothing did under its number before. -/
theorem Created.owes (h : Created e id e') (numbered : e.state.registry.Numbered) :
    e'.owes i = e.owes i := by
  unfold Engine.owes
  rw [h.vault?]
  split
  · rename_i here
    rw [here, h.fresh numbered]
    rfl
  · rfl

/-- Accrual changes no normalized debt. -/
theorem Accrued.owes {now : Timestamp} {accumulator : Amount} (h : Accrued e now accumulator e') :
    e'.owes id = e.owes id := owes_congr (congrArg Registry.vaults h.registry)

/-- No call that sets something changes normalized debt. -/
theorem Upkeep.owes {now : Timestamp} (h : Upkeep e now e') : e'.owes id = e.owes id := by
  cases h with
  | quiet same => exact owes_congr same.vaults
  | accrued _ _ booked same => exact (owes_congr same.vaults).trans booked.owes

/-- Paying debt out of a vault changes the debt of no other one. -/
theorem owes_paidOut {now : Timestamp} {amount taken : Amount} {borrowFee repayFee : UInt64}
    (paid : payDebtOut now id amount borrowFee repayFee e = .ok taken e') (ne : i ≠ id) :
    e'.owes i = e.owes i := by
  obtain ⟨_, _, _, _, _, _, booked, revised, _⟩ := payDebtOut_eq_ok paid
  exact (revised.owes_of_ne ne).trans booked.owes

/-- A vault that is not among those liquidated owes what it did. -/
theorem owes_liquidatedAll {ctx : Context} {ids : List VaultId} {amounts : List Amount}
    {report : LiquidationReport} (exact : e.Exact)
    (all : liquidateAll ctx ids amounts e = .ok report e') (missed : i ∉ report.liquidated) :
    e'.owes i = e.owes i := by
  obtain ⟨_, _, m, m', _, _, _, booked, _, folded, _, _, _, _, _, rfl⟩ := liquidateAll_eq_ok all
  have kept : m'.Exact ∧ (i ∉ report.liquidated → m'.owes i = m.owes i) := by
    refine Transact.foldlM_induction
      (P := fun _ r x => Exact x ∧ (i ∉ LiquidationReport.liquidated r → x.owes i = m.owes i))
      (fun _ entry r x r' x' kept next => ?_) ⟨exact.accrued booked, fun _ => rfl⟩ folded
    refine ⟨kept.1.liquidatedNext next, fun missed => ?_⟩
    obtain ⟨id, amount⟩ := entry
    rcases liquidateNext_eq_ok kept.1 next with ⟨_, done, _, _, _, rest⟩ | ⟨_, _, rfl, rfl⟩
    · have others : r'.liquidated = r.liquidated ++ [id] :=
        congrArg LiquidationReport.liquidated rest
      rw [others, List.mem_append, List.mem_singleton, not_or] at missed
      obtain ⟨_, _, _, revised, _⟩ := liquidateVault_eq_ok done
      exact (revised.owes_of_ne missed.2).trans (kept.2 missed.1)
    · exact kept.2 missed
  exact (kept.2 missed).trans booked.owes

end Engine

namespace Arena

variable {ctx : Context} {accumulator : Amount} {s s' s₁ s₂ s₃ : Arena} {t t' : Tally}
  {taps taps' : List (Nat × VaultId)} {e : Engine}

/-- What a vault of the engine at a place owes; nothing where there is none. -/
def owed (s : Arena) (place : Nat) (id : VaultId) : Nat :=
  (s.engines[place]?.map (·.owes id)).getD 0

/-- No vault owes less afterwards, those of the list apart. -/
def NoLess (taps : List (Nat × VaultId)) (s s' : Arena) : Prop :=
  ∀ place id, (place, id) ∉ taps → s.owed place id ≤ s'.owed place id

/-- Debts that do not fall in two steps do not fall in both together. -/
theorem NoLess.trans (h₁ : NoLess taps s₁ s₂) (h₂ : NoLess taps s₂ s₃) : NoLess taps s₁ s₃ :=
  fun place id missed => Nat.le_trans (h₁ place id missed) (h₂ place id missed)

/-- More vaults can be set apart. -/
theorem NoLess.mono (h : NoLess taps s s') (more : taps ⊆ taps') : NoLess taps' s s' :=
  fun place id missed => h place id fun mem => missed (more mem)

/-- No debt falls where the engines are the same. -/
theorem noLess_of_engines (same : s'.engines = s.engines) : NoLess taps s s' := by
  intro place id _
  unfold owed
  rw [same]

/-- A step of the called engine is at place zero, and leaves the other engines alone. -/
theorem noLess_engine (h : ∀ id, (0, id) ∉ taps → s.engine.owes id ≤ e.owes id) :
    NoLess taps s { s with engine := e } := by
  intro place id missed
  cases place with
  | zero => exact h id missed
  | succ place => exact Nat.le_refl _

/-- One of the other engines was replaced by one whose vaults owe no less. -/
theorem noLess_remote {k : Nat} {r : Remote} {g : Engine} (here : s.remotes[k]? = some r)
    (h : ∀ id, (k + 1, id) ∉ taps → r.engine.owes id ≤ g.owes id) :
    NoLess taps s { s with remotes := s.remotes.set k { r with engine := g } } := by
  intro place id missed
  cases place with
  | zero => exact Nat.le_refl _
  | succ place =>
    show (((s.remotes.map (·.engine))[place]?).map (·.owes id)).getD 0 ≤
      ((((s.remotes.set k { r with engine := g }).map (·.engine))[place]?).map (·.owes id)).getD 0
    rw [List.getElem?_map, List.getElem?_map, List.getElem?_set]
    split
    · rename_i same
      subst same
      rw [here, if_pos (List.getElem?_eq_some_iff.mp here).1]
      exact h id missed
    · exact Nat.le_refl _

/-- The addresses of all engines. -/
def addresses (s : Arena) : List Address := s.engines.map (·.state.address)

/-- The called engine is the first of the arena. -/
theorem idxOf_own (s : Arena) : s.addresses.idxOf s.engine.state.address = 0 := List.idxOf_cons_self

/-- Any other engine is found at its place among the others, one further on. -/
theorem idxOf_other {address : Address} (other : address ≠ s.engine.state.address) :
    s.addresses.idxOf address =
      s.remotes.findIdx (fun r => r.engine.state.address = address) + 1 := by
  show List.idxOf address (s.engine.state.address :: (s.remotes.map (·.engine)).map _) = _
  rw [List.idxOf_cons_ne _ other.symm, List.map_map, List.idxOf, List.findIdx_map]
  rfl

/-- What is done on another engine is done on the first one with the address. -/
theorem onRemote_first {α : Type} {address : Address} {m : Treasury → Transact Engine α} {a : α}
    (h : onRemote address m s = .ok a s') :
    let k := s.remotes.findIdx fun r => r.engine.state.address = address
    ∃ r g, s.remotes[k]? = some r ∧ m r.treasury r.engine = .ok a g ∧
      s' = { s with remotes := s.remotes.set k { r with engine := g } } := by
  unfold onRemote at h
  dsimp only at h
  split at h
  · cases h
  · rename_i r found
    split at h
    · rename_i b g done
      cases h
      exact ⟨r, g, found, done, rfl⟩
    · cases h

/-! ## Actions -/

/-- Fetching debt from another engine lowers it in the giving vault alone. -/
theorem noLess_fetchDebt {receiving giving : VaultId} {givingEngine : Address}
    {amount taken : Amount} (other : givingEngine ≠ s.engine.state.address)
    (h : fetchDebt ctx receiving givingEngine giving amount accumulator s = .ok taken s') :
    NoLess [(s.addresses.idxOf givingEngine, giving)] s s' := by
  simp only [fetchDebt, bind_eq_ok, Transact.require_eq_ok, Transact.get_eq_ok, onEngine_eq_ok,
    Transact.pure_eq_ok] at h
  obtain ⟨_, _, ⟨_, rfl⟩, _, _, ⟨rfl, rfl⟩, _, m, remote, _, _, ⟨e, increased, rfl⟩, -, rfl⟩ := h
  obtain ⟨r, g, here, paid, rfl⟩ := onRemote_first remote
  obtain ⟨v, w, change, revised, _, _, debt, _⟩ := Engine.increaseDebt_eq_ok increased
  rw [idxOf_other other]
  refine (noLess_remote here fun id missed => ?_).trans
    (noLess_engine fun id _ => revised.owes_le (by omega))
  rw [List.mem_singleton, Prod.mk.injEq, not_and] at missed
  exact Nat.le_of_eq (Engine.owes_paidOut (Engine.getDebtOut_eq_ok paid) (missed rfl)).symm

/-- So does the action that fetches it. -/
theorem noLess_getDebtIn_other {receiving giving : VaultId} {givingEngine : Address}
    {amount : Amount} (other : givingEngine ≠ s.engine.state.address)
    (h : applyAction ctx accumulator t (.getDebtIn receiving givingEngine giving amount) s =
      .ok t' s') : NoLess [(s.addresses.idxOf givingEngine, giving)] s s' := by
  simp only [applyAction, getDebtIn, bind_eq_ok, Transact.get_eq_ok, onEngine_eq_ok,
    Engine.requireAmount_eq_ok, Engine.requireMayAct_eq_ok] at h
  obtain ⟨_, _, ⟨rfl, rfl⟩, _, _, ⟨_, _, ⟨_, ⟨_, rfl⟩, rfl⟩, _, _, ⟨_, ⟨_, rfl⟩, rfl⟩, _, _,
    ⟨rfl, rfl⟩, h⟩, done⟩ := h
  obtain ⟨rfl, rfl⟩ := Transact.pure_eq_ok.mp done
  rw [if_neg other] at h
  obtain ⟨_, m, fetched, h⟩ := bind_eq_ok.mp h
  obtain ⟨_, noted, rfl⟩ := onEngine_eq_ok.mp h
  obtain rfl := Engine.emit_eq_ok.mp noted
  exact (noLess_fetchDebt other fetched).trans (noLess_engine fun _ _ => Nat.le_refl _)

/-- An action takes debt out of the vault that it taps, if there is one, and out of no other. -/
theorem noLess_applyAction {action : Action} (exact : s.Exact)
    (h : applyAction ctx accumulator t action s = .ok t' s') :
    NoLess (action.tap s.addresses s.engine.state.registry.lastId).toList s s' := by
  cases applyAction_cases h with
  | createVault id e made =>
    exact noLess_engine fun _ _ => Nat.le_of_eq (made.owes exact.engine.numbered).symm
  | closeVault v e owed repaid t' closed =>
    refine noLess_engine fun i missed => Nat.le_of_eq (closed.owes_of_ne fun here => missed ?_).symm
    rw [here]
    exact List.mem_singleton_self _
  | addCollateral v w e t' revised collateral debt =>
    exact noLess_engine fun _ _ => revised.owes_le (Nat.le_of_eq (congrArg Amount.toNat debt.symm))
  | removeCollateral v w e t' revised collateral debt =>
    exact noLess_engine fun _ _ => revised.owes_le (Nat.le_of_eq (congrArg Amount.toNat debt.symm))
  | repayDebt v w change repaid charged e t' revised =>
    refine noLess_engine fun i missed =>
      Nat.le_of_eq (revised.owes_of_ne fun here => missed ?_).symm
    rw [here]
    exact List.mem_singleton_self _
  | borrow v w change fee paid e t' revised collateral normalized debt =>
    exact noLess_engine fun _ _ => revised.owes_le (by omega)
  | @moveDebt receiving giving givingEngine amount v w v' w' moved m e t' own given collateral debt
      received collateral' debt' =>
    subst own
    refine noLess_engine fun i missed => ?_
    have ne : i ≠ giving := fun here => missed (by
      rw [here]
      show (0, giving) ∈ [(s.addresses.idxOf s.engine.state.address, giving)]
      rw [idxOf_own]
      exact List.mem_singleton_self _)
    rw [← given.owes_of_ne ne]
    exact received.owes_le (by omega)
  | fetchDebt i r now borrowFee repayFee g taken change v w e t' other =>
    exact noLess_getDebtIn_other other h
  | permit l same => exact noLess_of_engines rfl

/-- An action gives out a number exactly if it creates a vault. -/
theorem lastId_applied {action : Action} (h : Applied accumulator s t action t' s') :
    s'.engine.state.registry.lastId = action.newest s.engine.state.registry.lastId := by
  cases h with
  | createVault id e made =>
    show e.state.registry.lastId = s.engine.state.registry.lastId + 1
    rw [made.lastId]
    apply UInt64.toNat_inj.mp
    rw [made.next, UInt64.toNat_add]
    have := id.toNat_lt
    have := made.next
    exact (Nat.mod_eq_of_lt (by omega)).symm
  | closeVault v e owed repaid t' closed => exact closed.lastId
  | addCollateral v w e t' revised => exact revised.lastId
  | removeCollateral v w e t' revised => exact revised.lastId
  | repayDebt v w change repaid charged e t' revised => exact revised.lastId
  | borrow v w change fee paid e t' revised => exact revised.lastId
  | moveDebt v w v' w' moved m e t' own given collateral debt received =>
    exact received.lastId.trans given.lastId
  | fetchDebt i r now borrowFee repayFee g taken change v w e t' other place paid revised =>
    exact revised.lastId
  | permit l same => rfl

/-- Engines of the same identities have the same addresses. -/
theorem addresses_of_identities
    (same : s'.engines.map Engine.identity = s.engines.map Engine.identity) :
    s'.addresses = s.addresses := by
  have projected := congrArg (List.map (·.1)) same
  rw [List.map_map, List.map_map] at projected
  exact projected

/-! ## Calls -/

/-- Actions take debt out of the vaults that they tap, one after the other, and out of no others. -/
theorem noLess_actions {actions : List Action} (exact : s.Exact)
    (h : actions.foldlM (applyAction ctx accumulator) t s = .ok t' s') :
    NoLess (Action.taps s.addresses s.engine.state.registry.lastId actions) s s' := by
  induction actions generalizing s t with
  | nil =>
    obtain ⟨-, rfl⟩ := Transact.pure_eq_ok.mp h
    exact fun _ _ _ => Nat.le_refl _
  | cons action rest ih =>
    rw [List.foldlM_cons] at h
    obtain ⟨t₁, s₁, first, h⟩ := bind_eq_ok.mp h
    have applied := applyAction_cases first
    have later := ih (applied.exact exact) h
    rw [addresses_of_identities applied.identities, lastId_applied applied] at later
    exact ((noLess_applyAction exact first).mono (List.subset_append_left _ _)).trans
      (later.mono (List.subset_append_right _ _))

/-- A batch lowers debt in no vault but those that its actions take debt out of. -/
theorem noLess_processBatch {p : Parties} {actions : List Action} {payment : Payment}
    (exact : s.Exact) (h : processBatch ctx p actions s = .ok payment s') :
    NoLess (Action.taps s.addresses s.engine.state.registry.lastId actions) s s' := by
  obtain ⟨tally, s₁, gathered, rfl, settled⟩ := processBatch_eq_ok h
  obtain ⟨accumulator, m, booked, folded, _⟩ := gather_eq_ok gathered
  have started : Arena.Exact { s with engine := m } :=
    ⟨exact.engine.accrued booked, exact.remotes⟩
  have acted := noLess_actions started folded
  rw [addresses_of_identities (identities_engine booked.identity)] at acted
  dsimp only at acted
  rw [booked.registry] at acted
  exact ((noLess_engine fun _ _ => Nat.le_of_eq booked.owes.symm).trans acted).trans
    (noLess_of_engines ((keeps_settle ctx p tally.payment s₁).1 _ _ settled).engines)

end Arena

/-- A batch taps what its actions tap. -/
theorem EngineCall.taps_of_asBatch {addresses : List Address} {last : VaultId} {call : EngineCall}
    {p : Parties} {actions : List Action} {reply : EngineReply}
    (is : call.asBatch = some (p, actions)) :
    call.taps addresses last reply = Action.taps addresses last actions := by
  cases call with
  | batch | encodedBatch =>
    unfold taps
    dsimp only
    rw [is]
  | _ => cases is

/-- An accepted call takes debt out of the vaults that it taps, and out of no other vault of any
engine. -/
theorem EngineCall.Accepted.noLess {ctx : Context} {s s' : Arena} {call : EngineCall}
    {reply : EngineReply} (h : Accepted ctx s call reply s') (exact : s.Exact) :
    Arena.NoLess (call.taps s.addresses s.engine.state.registry.lastId reply) s s' := by
  cases h with
  | @batch call p actions payment _ is done =>
    rw [taps_of_asBatch is]
    exact Arena.noLess_processBatch exact done
  | @liquidate p ids amounts report e _ done paid =>
    refine Arena.NoLess.trans (Arena.noLess_engine fun id missed => ?_)
      (Arena.noLess_of_engines ((Arena.keeps_handleRepay _ _ _ _ _).1 _ _ paid).engines)
    refine Nat.le_of_eq (Engine.owes_liquidatedAll exact.engine done fun mem => missed ?_).symm
    exact List.mem_map_of_mem mem
  | getDebtOut paid =>
    refine Arena.noLess_engine fun id missed => Nat.le_of_eq (Engine.owes_paidOut paid ?_).symm
    rintro rfl
    exact missed (List.mem_singleton_self _)
  | accrueToTreasury done =>
    obtain ⟨_, m, log, l, booked, _, _, _, rfl⟩ := Arena.processAccrual_eq_ok done
    exact Arena.noLess_engine (e := { m with
      state := { m.state with surplus := .zero, badDebt := .zero }, log }) fun _ _ =>
        Nat.le_of_eq booked.owes.symm
  | upkeep is changed =>
    exact Arena.noLess_engine fun _ _ => Nat.le_of_eq changed.owes.symm

end CollateralDebt
