import CollateralDebt.Proofs.Ownership

/-!
# The log as a journal

Whoever reads the log of an engine from its founding on knows the engine. An `Index` is what such a
reader keeps: vaults with their owners and balances, approvals, lists, the debt total, the
accumulator and everything that governs the market. Events carry changes rather than balances, so
that the index is right only if every change of an engine is told, and told in the right amount.

A reader refuses events that do not fit what was told before: a vault that changes hands must be the
giver's, a number that comes up must be the next one, and no amount may go below nothing.

## What is proved

- `Index.apply`, `Index.replay`: reading one event, and a whole log;
- `Step.journal`: what a step changes, it tells;
- `replay_eq_index`: in every reachable world, reading the log of an engine gives what the engine
  is.
-/

namespace CollateralDebt

/-- What a reader of the log keeps of an engine. -/
structure Index where
  lastId : VaultId
  vaults : Table VaultId Vault
  owners : Table VaultId Address
  approvals : Table VaultId Address
  operators : KeySet (Address × Address)
  whitelist : KeySet Address
  totalNormalizedDebt : Amount
  accumulator : Amount
  params : Parameters
  boostCurve : BoostCurve
  paused : Bool
  treasury : Address

namespace Index

/-- The index of an engine that was founded with these settings under a treasury. -/
def initial (config : EngineConfig) (treasury : Address) : Index where
  lastId := 0
  vaults := .empty
  owners := .empty
  approvals := .empty
  operators := .empty
  whitelist := .empty
  totalNormalizedDebt := .zero
  accumulator := ⟨accumulatorOne, accumulatorOne_lt_pow⟩
  params := config.params
  boostCurve := ⟨[.zero], [config.params.baseBoost]⟩
  paused := true
  treasury

/-- A vault goes from one account to another; it comes from the zero address when it is new, and
goes to it when it is removed. -/
def transfer (x : Index) (source recipient : Address) (id : VaultId) : Option Index :=
  if source = .zero then
    if id.toNat = x.lastId.toNat + 1 then
      some { x with
        lastId := id
        vaults := x.vaults.insert id .empty
        owners := x.owners.insert id recipient }
    else none
  else if x.owners.get? id = some source then
    let approvals := x.approvals.erase id
    if recipient = .zero then
      some { x with vaults := x.vaults.erase id, owners := x.owners.erase id, approvals }
    else some { x with owners := x.owners.insert id recipient, approvals }
  else none

/-- An amount with a change read into it. -/
def shifted (a : Amount) (increase : Bool) (change : Amount) : Option Amount :=
  (a.shift increase change).toOption

/-- Someone is approved for a vault by its owner, or nobody if it is the zero address. -/
def approve (x : Index) (owner account : Address) (id : VaultId) : Option Index :=
  if x.owners.get? id = some owner then
    some { x with approvals :=
      if account = .zero then x.approvals.erase id else x.approvals.insert id account }
  else none

/-- An account is listed, or no longer; with the zero address, whitelisting is active, or no
longer. -/
def enlist (x : Index) (account : Address) (listed : Bool) : Index :=
  if account = .zero then
    { x with params := { x.params with whitelistingActivated := listed } }
  else
    { x with whitelist :=
      if listed then KeySet.insert x.whitelist account else x.whitelist.erase account }

/-- The collateral of a vault goes up or down. -/
def changeCollateral (x : Index) (id : VaultId) (amount : Amount) (increase : Bool) :
    Option Index := do
  let v ← x.vaults.get? id
  let collateral ← shifted v.collateral increase amount
  some { x with vaults := x.vaults.insert id { v with collateral } }

/-- The normalized debt of a vault goes up or down, and with it the total. -/
def changeDebt (x : Index) (id : VaultId) (change : Amount) (increase : Bool) : Option Index := do
  let v ← x.vaults.get? id
  let normalizedDebt ← shifted v.normalizedDebt increase change
  let totalNormalizedDebt ← shifted x.totalNormalizedDebt increase change
  some { x with vaults := x.vaults.insert id { v with normalizedDebt }, totalNormalizedDebt }

/-- Read one event. -/
def apply (x : Index) : Event → Option Index
  | .transfer source recipient id _ => x.transfer source recipient id
  | .approval owner account id _ => x.approve owner account id
  | .approvalForAll owner operator approved _ =>
    some { x with operators :=
      if approved then KeySet.insert x.operators (owner, operator)
      else x.operators.erase (owner, operator) }
  | .whitelistToggled account listed _ => some (x.enlist account listed)
  | .collateralAmountUpdated id amount increase _ => x.changeCollateral id amount increase
  | .internalDebtUpdated id change increase _ => x.changeDebt id change increase
  | .interestAccumulatorUpdated accumulator _ => some { x with accumulator }
  | .parameterUpdated parameter value _ => some { x with params := x.params.set value parameter }
  | .debtCeilingUpdated debtCeiling _ =>
    some { x with params := { x.params with debtCeiling } }
  | .dustUpdated dust dustLiquidation dustCollateral _ =>
    some { x with params := { x.params with dust, dustLiquidation, dustCollateral } }
  | .boostUpdated _ thresholds multipliers _ =>
    let boostCurve : BoostCurve := ⟨thresholds, multipliers⟩
    some { x with params := { x.params with baseBoost := boostCurve.baseBoost }, boostCurve }
  | .pauseToggled paused _ => some { x with paused }
  | .treasuryUpdated treasury _ => some { x with treasury }
  | _ => some x

/-- Read a whole log, from the founding on. -/
def replay (config : EngineConfig) (treasury : Address) (log : EventLog) : Option Index :=
  log.foldlM apply (initial config treasury)

end Index

/-- What a reader of the log should know of an engine. -/
def EngineState.index (s : EngineState) : Index where
  lastId := s.registry.lastId
  vaults := s.registry.vaults
  owners := s.registry.owners
  approvals := s.registry.approvals
  operators := s.registry.operators
  whitelist := s.registry.whitelist
  totalNormalizedDebt := s.totalNormalizedDebt
  accumulator := s.accumulator
  params := s.params
  boostCurve := s.boostCurve
  paused := s.paused
  treasury := s.treasury

/-- The index of a new engine is the one that its founding is read into. -/
theorem Engine.New.index {config : EngineConfig} {treasury : Treasury} {now : Timestamp}
    {e : Engine} (h : e.New config treasury now) :
    e.state.index = .initial config treasury.address := by
  have curve := (BoostCurve.ofPoints_eq_ok h.boostCurve).1
  unfold EngineState.index Index.initial
  rw [h.registry, h.total, h.accumulator, h.params, curve, h.paused, h.treasury]
  rfl

/-! ## One step -/

section Told

variable {s : EngineState} {id : VaultId} {owner : Address}

/-- A shift that succeeded is read in from the event that tells it. -/
theorem shifted_of_shift {a b change : Amount} {increase : Bool}
    (h : a.shift increase change = .ok b) : Index.shifted a increase change = some b :=
  Outcome.toOption_eq_some.mpr h

/-- The event of a new vault is read into the index of the registry with that vault. -/
theorem transfer_created {registry : Registry}
    (minted : s.registry.mint owner = .ok (id, registry)) :
    s.index.transfer .zero owner id = some { s with registry }.index := by
  obtain ⟨next, -, -⟩ := Registry.mint_eq_ok minted
  unfold Registry.mint at minted
  split at minted
  · cases minted
    unfold Index.transfer
    rw [if_pos rfl]
    exact if_pos next
  · cases minted

/-- The event of a removed vault is read into the index of the registry without it. -/
theorem transfer_removed {registry : Registry} (named : owner ≠ .zero)
    (burnt : s.registry.burn id = .ok (owner, registry)) :
    s.index.transfer owner .zero id = some { s with registry }.index := by
  simp only [Registry.burn, Outcome.bind_eq_ok, Outcome.pure_eq_ok, Prod.mk.injEq,
    Registry.ownerOf_eq_ok] at burnt
  obtain ⟨_, owns, rfl, rfl⟩ := burnt
  unfold Index.transfer
  rw [if_neg named, if_pos (show s.index.owners.get? id = _ from owns)]
  simp only [EngineState.index, Registry.lastId_removeOwned, Registry.vaults_removeOwned,
    Registry.owners_removeOwned, Registry.approvals_removeOwned, Registry.operators_removeOwned,
    Registry.whitelist_removeOwned, if_true]

/-- The event of a transfer is read into the index of the registry after it. -/
theorem transfer_moved {source recipient : Address} (given : source ≠ .zero)
    (owns : s.registry.owners.get? id = some source) (named : recipient ≠ .zero) :
    s.index.transfer source recipient id =
      some { s with registry := s.registry.move source recipient id }.index := by
  unfold Index.transfer
  rw [if_neg given, if_pos (show s.index.owners.get? id = _ from owns)]
  simp only [EngineState.index, Registry.move, Registry.addOwned, Registry.lastId_removeOwned,
    Registry.vaults_removeOwned, Registry.owners_removeOwned, Registry.approvals_removeOwned,
    Registry.operators_removeOwned, Registry.whitelist_removeOwned, if_neg named]

/-- The event of a listing tells what the account is from then on. -/
theorem enlist_toggled {account : Address} (named : account ≠ .zero) :
    s.index.enlist account ((s.registry.toggleWhitelisted account).isWhitelisted account) =
      { s with registry := s.registry.toggleWhitelisted account }.index := by
  have flipped : (s.registry.toggleWhitelisted account).isWhitelisted account =
      !s.registry.isWhitelisted account := by
    unfold Registry.toggleWhitelisted
    cases listed : s.registry.isWhitelisted account with
    | true => simp [Registry.isWhitelisted, Table.contains, Table.get?_erase_self]
    | false => simp [Registry.isWhitelisted, Table.contains, KeySet.insert, Table.get?_insert_self]
  rw [flipped]
  unfold Index.enlist
  rw [if_neg named]
  unfold EngineState.index Registry.toggleWhitelisted
  cases s.registry.isWhitelisted account <;> rfl

/-- A move of collateral and the event about it change the index in the same way. -/
theorem changeCollateral_moved {v : Vault} {increase : Bool} {amount collateral : Amount}
    (found : s.registry.vault? id = some v)
    (moved : v.collateral.shift increase amount = .ok collateral) :
    s.index.changeCollateral id amount increase =
      some { s with registry := s.registry.setVault id { v with collateral } }.index := by
  unfold Index.changeCollateral
  rw [show s.index.vaults.get? id = some v from found, Option.bind_eq_bind, Option.bind_some,
    shifted_of_shift moved]
  rfl

/-- A move of debt, booked in the total, and the event about it change the index in the same way. -/
theorem changeDebt_moved {v : Vault} {increase : Bool} {change normalizedDebt total : Amount}
    (found : s.registry.vault? id = some v)
    (moved : v.normalizedDebt.shift increase change = .ok normalizedDebt)
    (booked : s.totalNormalizedDebt.shift increase change = .ok total) :
    s.index.changeDebt id change increase =
      some { s with
        registry := s.registry.setVault id { v with normalizedDebt }
        totalNormalizedDebt := total }.index := by
  unfold Index.changeDebt
  rw [show s.index.vaults.get? id = some v from found, Option.bind_eq_bind, Option.bind_some,
    shifted_of_shift moved, Option.bind_eq_bind, Option.bind_some,
    show Index.shifted s.index.totalNormalizedDebt increase change = some total from
      shifted_of_shift booked]
  rfl

end Told

namespace Engine

variable {tidy : Prop} {now : Timestamp} {e e' : Engine}

/-- What was added to a log tells how an engine has changed. -/
def Told (e e' : Engine) : Prop :=
  ∃ events, e'.log = e.log ++ events ∧ events.foldlM Index.apply e.state.index = some e'.state.index

/-- An entry that the index is changed by tells what has happened. -/
theorem told_book {s : EngineState} {event : Event}
    (read : e.state.index.apply event = some s.index) : Told e (e.book s event) := by
  refine ⟨[event], rfl, ?_⟩
  rw [List.foldlM_cons, read]
  rfl

/-- Nothing is to be told of a step that leaves the index alone. -/
theorem told_silent (log : e'.log = e.log) (same : e'.state.index = e.state.index) : Told e e' := by
  refine ⟨[], ?_, ?_⟩
  · rw [log, List.append_nil]
  · rw [same]
    rfl

/-- Interest that was booked is told, unless there was none. -/
theorem Accrued.told {accumulator : Amount} (h : Accrued e now accumulator e') : Told e e' := by
  have index : e'.state.index = { e.state.index with accumulator } := by
    unfold EngineState.index
    rw [h.state]
  have log := h.log
  split at log
  · refine ⟨[.interestAccumulatorUpdated accumulator now], log, ?_⟩
    rw [index]
    rfl
  · rename_i same
    refine told_silent log (index.trans ?_)
    have steady : accumulator = e.state.accumulator := by
      have grown := h.grown
      rw [Amount.le_iff] at grown
      rw [Amount.lt_iff] at same
      exact Amount.ext (by omega)
    rw [steady]
    rfl

/-- What a step changes, it tells. -/
theorem Step.told (step : Step tidy now e e') (h : e.state.registry.WellFormed) : Told e e' := by
  cases step with
  | created _ minted => exact told_book (transfer_created minted)
  | @removed owner id registry burnt =>
    obtain ⟨_, owns, removed⟩ := Outcome.bind_eq_ok.mp burnt
    obtain ⟨rfl, -⟩ := Prod.mk.inj (Outcome.pure_eq_ok.mp removed)
    exact told_book (transfer_removed (h.named id _ (Registry.ownerOf_eq_ok.mp owns)) burnt)
  | transferred owned named =>
    have owns := Registry.ownerOf_eq_ok.mp owned
    exact told_book (transfer_moved (h.named _ _ owns) owns named)
  | approved owned => exact told_book (if_pos (Registry.ownerOf_eq_ok.mp owned))
  | listed named => exact told_book (congrArg some (enlist_toggled named))
  | collateral _ found moved => exact told_book (changeCollateral_moved found moved)
  | debt _ found moved booked => exact told_book (changeDebt_moved found moved booked)
  | accrued booked => exact booked.told
  | balanced => exact told_silent rfl rfl
  | boost drawn =>
    obtain ⟨rfl, -⟩ := BoostCurve.ofPoints_eq_ok drawn
    exact told_book rfl
  | noted event note =>
    refine told_book ?_
    cases event
    all_goals first | rfl | cases note
  | _ => exact told_book rfl

/-- If the log was the index before, and the step has told what it did, the log is the index again.
-/
theorem Told.replay {config : EngineConfig} {treasury : Address} (h : Told e e')
    (read : Index.replay config treasury e.log = some e.state.index) :
    Index.replay config treasury e'.log = some e'.state.index := by
  obtain ⟨events, log, told⟩ := h
  unfold Index.replay at read ⊢
  rw [log, List.foldlM_append, read]
  exact told

/-- The log of a new engine is its index. -/
theorem New.replay {config : EngineConfig} {treasury : Treasury} (h : e.New config treasury now) :
    Index.replay config treasury.address e.log = some e.state.index := by
  rw [h.log, h.index]
  rfl

/-- Whatever happens to an engine, its log remains its index. -/
theorem Descends.replay {config : EngineConfig} {treasury : Address} (h : e.Descends e')
    (orderly : e.Orderly) (read : Index.replay config treasury e.log = some e.state.index) :
    Index.replay config treasury e'.log = some e'.state.index := by
  induction h with
  | refl => exact read
  | tail earlier step ih =>
    obtain ⟨now, step⟩ := step
    exact (step.told (Descends.continues earlier orderly).2.wellFormed).replay ih

end Engine

namespace World

/-- Every engine of every history was founded by one of its calls, behind all engines that were
founded before. Whoever knows the settings and the treasury of the founding, and so the engine as it
was founded, and reads the engine's whole log comes to what the engine is: its vaults with their
owners, collateral and normalized debt, the last number given out, approvals and operators, the
whitelist, the debt total, the accumulator, the parameters, the boost curve, whether it is paused,
and its treasury. -/
theorem replay_eq_index {calls : List Call} {place : Nat} {e : Engine}
    (there : engine? (history calls).seats place = some e) :
    ∃ before after config treasuryPlace feedPlace now treasury l o,
      calls = before ++ .deploy config treasuryPlace feedPlace now :: after ∧
      (history before).seats.length = place ∧
      (history before).treasuries[treasuryPlace]? = some treasury ∧
      Engine.create config treasury now (history before).ledger = .ok o l ∧
      o.log = [] ∧ o.state.index = .initial config treasury.address ∧
      Index.replay config treasury.address e.log = some e.state.index := by
  obtain ⟨before, after, config, treasuryPlace, feedPlace, now, treasury, l, o, whole, last, behind,
    created, descends⟩ := exists_founding there
  have new := new_of_create created
  exact ⟨before, after, config, treasuryPlace, feedPlace, now, treasury, l, o, whole, last, behind,
    created, new.log, new.index, descends.replay new.orderly new.replay⟩

set_option maxRecDepth 10000 in
/-- The engine of the downturn, whose vault was opened and liquidated, is read off its log. -/
theorem replay_downturn : ∃ e, engine? (history downturn).seats 0 = some e ∧
    e.log.map (·.kind) = [.pauseToggled, .transfer, .collateralAmountUpdated, .internalDebtUpdated,
      .internalDebtUpdated, .collateralAmountUpdated, .vaultLiquidated, .accruedToTreasury] ∧
    (e.vault? 1).map (·.normalizedDebt) = some .zero ∧
    ∃ config treasury, Index.replay config treasury e.log = some e.state.index := by
  have facts : (match engine? (history downturn).seats 0 with
      | some e => decide (e.log.map (·.kind) = [.pauseToggled, .transfer, .collateralAmountUpdated,
          .internalDebtUpdated, .internalDebtUpdated, .collateralAmountUpdated, .vaultLiquidated,
          .accruedToTreasury] ∧
        (e.vault? 1).map (·.normalizedDebt) = some .zero)
      | none => false) = true := by decide +kernel
  split at facts
  · rename_i e there
    obtain ⟨kinds, exhausted⟩ := of_decide_eq_true facts
    obtain ⟨_, _, config, _, _, _, treasury, _, _, _, _, _, _, _, _, read⟩ := replay_eq_index there
    exact ⟨e, there, kinds, exhausted, config, treasury.address, read⟩
  · cases facts

end World

end CollateralDebt
