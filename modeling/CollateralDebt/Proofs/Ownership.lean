import CollateralDebt.Proofs.Registry.WellFormed
import CollateralDebt.Proofs.World.Trace

/-!
# Who owns which vault

The registry of every engine of every reachable world is well formed, whatever vaults were created,
closed, given away and approved, and whatever calls and entries of batches were undone on the way.
Creations leave an event each, so that the log says which numbers were given out: one, two and so
on up to the last, each of them once.

## What is proved

- `Step.wellFormed`, `Step.continues`, `Step.issued`: what one step of an engine keeps;
- `registry_wellFormed`: what this means for every engine of every reachable world and for every
  run from there.
-/

namespace CollateralDebt

/-- The number of the vault that an event tells the creation of. -/
def Event.created? : Event → Option VaultId
  | .transfer source _ vault _ => if source = .zero then some vault else none
  | _ => none

namespace Engine

/-- The numbers of all vaults that were ever created, in the order of their creation. -/
def issued (e : Engine) : List VaultId := e.log.filterMap Event.created?

variable {tidy : Prop} {now : Timestamp} {e e' : Engine}

/-- No step of an engine brings the tables of its registry out of agreement. -/
theorem Step.wellFormed (step : Step tidy now e e') (h : e.state.registry.WellFormed) :
    e'.state.registry.WellFormed := by
  cases step with
  | created named minted => exact h.mint named minted
  | removed burnt => exact h.burn burnt
  | transferred owned named => exact h.move (Registry.ownerOf_eq_ok.mp owned) named
  | approved owned other => exact h.setApproved (Registry.ownerOf_eq_ok.mp owned) other
  | appointed other named => exact h.setOperator other named _
  | listed => exact h.toggleWhitelisted _
  | collateral _ found => exact h.setVault found _
  | debt _ found => exact h.setVault found _
  | accrued booked =>
    rw [booked.registry]
    exact h
  | _ => exact h

/-- No step takes a number back, or gives one out again. -/
theorem Step.continues (step : Step tidy now e e') (h : e.state.registry.WellFormed) :
    e.state.registry.Continues e'.state.registry := by
  cases step with
  | created _ minted => exact h.continues_mint minted
  | removed burnt => exact h.continues_burn burnt
  | transferred owned => exact h.continues_move (Registry.ownerOf_eq_ok.mp owned) _
  | accrued booked =>
    rw [booked.registry]
    exact .refl _
  | _ => exact .of_owners rfl rfl

/-- The numbers up to the last one were given out in their order, each of them once. -/
def Counted (e : Engine) : Prop :=
  e.issued.map UInt64.toNat = List.range' 1 e.state.registry.lastId.toNat

/-- An event that tells of no creation leaves the numbers as they are. -/
theorem Counted.book {s : EngineState} {event : Event} (h : e.Counted)
    (other : event.created? = none) (lastId : s.registry.lastId = e.state.registry.lastId) :
    (e.book s event).Counted := by
  have same : (e.book s event).issued = e.issued := by
    unfold issued Engine.book EventLog.emit
    rw [List.filterMap_append, List.filterMap_cons_none other, List.filterMap_nil, List.append_nil]
  unfold Counted
  rw [same]
  show _ = List.range' 1 s.registry.lastId.toNat
  rw [lastId]
  exact h

/-- The numbers of created vaults are told in their order, one by one. -/
theorem Step.counted (step : Step tidy now e e') (h : e.state.registry.WellFormed)
    (counted : e.Counted) : e'.Counted := by
  cases step with
  | @created owner id registry named minted =>
    obtain ⟨next, last, -⟩ := Registry.mint_eq_ok minted
    have grown : (e.book { e.state with registry } (.transfer .zero owner id now)).issued =
        e.issued ++ [id] := by
      unfold issued Engine.book EventLog.emit
      rw [List.filterMap_append]
      rfl
    unfold Counted
    rw [grown, List.map_append, counted]
    show List.range' 1 _ ++ [id.toNat] = List.range' 1 registry.lastId.toNat
    rw [last, next, List.range'_1_concat, Nat.add_comm 1]
  | @removed owner id registry burnt =>
    obtain ⟨_, owns, removed⟩ := Outcome.bind_eq_ok.mp burnt
    obtain ⟨rfl, -⟩ := Prod.mk.inj (Outcome.pure_eq_ok.mp removed)
    have named := h.named id _ (Registry.ownerOf_eq_ok.mp owns)
    exact counted.book (if_neg named) (Registry.burn_eq_ok burnt).1
  | transferred owned =>
    have named := h.named _ _ (Registry.ownerOf_eq_ok.mp owned)
    exact counted.book (if_neg named) (Registry.lastId_move _ _ _ _)
  | accrued booked =>
    unfold Counted issued
    rw [booked.registry, booked.log]
    split
    · exact counted.book (s := e.state) rfl rfl
    · exact counted
  | noted event note =>
    refine counted.book ?_ rfl
    cases event with
    | transfer => cases note
    | _ => rfl
  | balanced => exact counted
  | _ => exact counted.book rfl rfl

/-- What an engine keeps of its vaults' owners over all steps. -/
structure Orderly (e : Engine) : Prop where
  wellFormed : e.state.registry.WellFormed
  counted : e.Counted

/-- A new engine has no vaults that could be out of order. -/
theorem New.orderly {config : EngineConfig} {treasury : Treasury} (h : e.New config treasury now) :
    e.Orderly where
  wellFormed := by
    rw [h.registry]
    exact Registry.wellFormed_empty
  counted := by
    unfold Counted issued
    rw [h.log, h.registry]
    rfl

/-- Along any descent numbers continue, and the registry stays in order. -/
theorem Descends.continues (h : e.Descends e') (orderly : e.Orderly) :
    e.state.registry.Continues e'.state.registry ∧ e'.Orderly := by
  induction h with
  | refl => exact ⟨.refl _, orderly⟩
  | tail _ step ih =>
    obtain ⟨now, step⟩ := step
    obtain ⟨continues, wellFormed, counted⟩ := ih
    exact ⟨continues.trans (step.continues wellFormed), step.wellFormed wellFormed,
      step.counted wellFormed counted⟩

end Engine

namespace World

variable {w : World} {place : Nat} {e : Engine}

/-- So every engine of a reachable world is in order. -/
theorem Reachable.orderly (hw : w.Reachable) (there : engine? w.seats place = some e) : e.Orderly :=
  hw.engine_induction (fun _ _ _ _ new => new.orderly)
    (fun _ _ _ step orderly =>
      ⟨step.wellFormed orderly.wellFormed, step.counted orderly.wellFormed orderly.counted⟩) there

/-- In every reachable world, the registry of every engine is well formed: its tables agree on which
vaults there are, whose they are and who may act on them. The vaults of an owner are, in ascending
order, the numbers that the owner is recorded for, and the owner's balance is how many they are.
The numbers that were given out are those from one to the last, each once, and no run from there
gives out a number again. -/
theorem registry_wellFormed (hw : w.Reachable) (there : engine? w.seats place = some e) :
    e.state.registry.WellFormed ∧
    e.state.registry.vaults.keys = e.state.registry.owners.keys ∧
    (∀ owner,
      e.state.registry.vaultsOf owner =
        (e.state.registry.owners.keys.filter fun id => e.state.registry.ownerOf id = .ok owner) ∧
      (e.state.registry.vaultsOf owner).Pairwise (· < ·) ∧
      e.state.registry.balanceOf owner =
        (e.state.registry.owners.keys.filter fun id =>
          e.state.registry.ownerOf id = .ok owner).length) ∧
    e.issued.map UInt64.toNat = List.range' 1 e.state.registry.lastId.toNat ∧
    ∀ calls, ∃ e', engine? (w.run calls).seats place = some e' ∧
      e.state.registry.Continues e'.state.registry := by
  have orderly := hw.orderly there
  have vaults (owner : Address) := orderly.wellFormed.vaultsOf_eq_filter owner
  simp only [← Registry.ownerOf_eq_ok] at vaults
  refine ⟨orderly.wellFormed, orderly.wellFormed.keys_eq, fun owner => ⟨vaults owner, ?_, ?_⟩,
    orderly.counted, fun calls => ?_⟩
  · rw [vaults]
    exact (e.state.registry.owners.sorted_keys.imp Std.compare_eq_lt.mp).filter _
  · rw [Registry.balanceOf_eq_length, vaults]
  · obtain ⟨e', stands, descends⟩ := descends_run hw there
    exact ⟨e', stands, (descends.continues orderly).1⟩

/-- The small market when its borrower has opened two more vaults, has given the first one away with
its approval, and has closed the second one again. -/
def shared : List Call := smallMarket ++ [
  .engine 0 (account 5) 0 [] (.batch borrower [.createVault (account 5), .createVault (account 5)]),
  .engine 0 (account 5) 0 [] (.approve (account 9) 1),
  .engine 0 (account 5) 0 [] (.approve (account 9) 3),
  .engine 0 (account 5) 0 [] (.setApprovalForAll (account 6) true),
  .engine 0 (account 6) 0 [] (.transferVault (account 5) (account 6) 1),
  .engine 0 (account 5) 0 [] (.batch borrower [.closeVault 2])]

set_option maxRecDepth 10000 in
/-- Of the three vaults that were opened two are left, with an owner each. -/
theorem registry_shared : ∃ e, engine? (history shared).seats 0 = some e ∧
    e.issued = [1, 2, 3] ∧ e.state.registry.owners.keys = [1, 3] ∧
    e.state.registry.approvals.keys = [3] ∧ e.state.registry.vaultsOf (account 6) = [1] ∧
    e.state.registry.balanceOf (account 5) = 1 ∧ e.state.registry.WellFormed ∧
    e.state.registry.vaults.keys = e.state.registry.owners.keys ∧
    ∀ calls, ∃ e', engine? ((history shared).run calls).seats 0 = some e' ∧
      e.state.registry.Continues e'.state.registry := by
  have facts : (match engine? (history shared).seats 0 with
      | some e => decide (e.issued = [1, 2, 3] ∧ e.state.registry.owners.keys = [1, 3] ∧
          e.state.registry.approvals.keys = [3] ∧ e.state.registry.vaultsOf (account 6) = [1] ∧
          e.state.registry.balanceOf (account 5) = 1)
      | none => false) = true := by decide +kernel
  split at facts
  · rename_i e there
    obtain ⟨issued, owners, approvals, vaults, balance⟩ := of_decide_eq_true facts
    obtain ⟨wellFormed, keys, -, -, continues⟩ := registry_wellFormed ⟨shared, rfl⟩ there
    exact ⟨e, there, issued, owners, approvals, vaults, balance, wellFormed, keys, continues⟩
  · cases facts

end World

end CollateralDebt
