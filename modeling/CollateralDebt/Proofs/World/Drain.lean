import CollateralDebt.Proofs.Engine.Drain
import CollateralDebt.Proofs.World.Trace

/-!
# What takes debt out of a vault at its seat

A call on an engine is told which places it may reach, and names the other engines by their
addresses. So the vaults that it takes debt out of are found by looking the addresses up among those
at its places. All other vaults owe at least as much after the call as before it, and so they do
after a run that spares them.

## What is proved

- `drained`: the vaults that a call takes debt out of;
- `Change.owes_le`, `owes_run`: all others owe no less after a call, and after a run.
-/

namespace CollateralDebt

namespace World

variable {w w' : World} {place : Nat} {id : VaultId} {o n : Engine}

/-- The addresses of the engines at some places. -/
def addressesAt (w : World) (l : List Nat) : List Address :=
  l.filterMap fun i => (engine? w.seats i).map (·.state.address)

/-- The vaults that a call takes debt out of or liquidates, with the places of their engines. A call
that is refused does neither. -/
def drained (w : World) : Call → List (Nat × VaultId)
  | .engine called caller now remotes call =>
    match callEngine called caller now remotes call w, engine? w.seats called with
    | .ok reply _, some e =>
      let reach := places called remotes
      (call.taps (w.addressesAt reach) e.state.registry.lastId reply).filterMap fun (k, id) =>
        reach[k]?.map (·, id)
    | _, _ => []
  | _ => []

/-- The addresses of an arena are those at its places. -/
theorem Stage.addresses {called : Nat} {remotes : List Nat} {s : Arena}
    (h : w.Stage called remotes s) : w.addressesAt (places called remotes) = s.addresses := by
  have standing := h.engines
  unfold addressesAt Arena.addresses
  generalize places called remotes = l at standing
  generalize s.engines = es at standing
  induction standing with
  | nil => rfl
  | cons first _ ih =>
    rw [List.filterMap_cons, first, ih]
    rfl

/-- A vault of an engine in the arena that the call does not tap is not drained. -/
theorem missed_of_spared {called : Nat} {caller : Address} {now : Timestamp} {remotes : List Nat}
    {call : EngineCall} {reply : EngineReply} {s : Arena} {k : Nat}
    (stage : w.Stage called remotes s)
    (answer : callEngine called caller now remotes call w = .ok reply w')
    (here : (places called remotes)[k]? = some place)
    (spared : (place, id) ∉ w.drained (.engine called caller now remotes call)) :
    (k, id) ∉ call.taps s.addresses s.engine.state.registry.lastId reply := by
  intro tapped
  apply spared
  unfold drained
  dsimp only
  rw [answer, stage.engine]
  dsimp only
  rw [stage.addresses]
  refine List.mem_filterMap.mpr ⟨(k, id), tapped, ?_⟩
  dsimp only
  rw [here]
  rfl

/-- A vault that a call does not drain owes at least as much afterwards. -/
theorem Change.owes_le {call : Call} (h : Change w call w')
    (hw : ∀ seat ∈ w.seats, seat.engine.Exact) (standing : engine? w.seats place = some o)
    (stands : engine? w'.seats place = some n) (spared : (place, id) ∉ w.drained call) :
    o.owes id ≤ n.owes id := by
  cases h with
  | still same =>
    rw [same.seats, standing] at stands
    cases stands
    exact Nat.le_refl _
  | ledger =>
    cases standing.symm.trans stands
    exact Nat.le_refl _
  | founded _ seats =>
    rw [seats, engine?_append standing] at stands
    cases stands
    exact Nat.le_refl _
  | @connected _ i p e _ found steady engines =>
    rw [engine?_eq_getElem?, engines, ← engine?_eq_getElem?] at stands
    by_cases here : i = place
    · subst here
      cases standing.symm.trans found
      cases (engine?_putEngine_self found e).symm.trans stands
      exact Nat.le_of_eq (Engine.owes_congr (congrArg Registry.vaults steady.registry)).symm
    · rw [engine?_putEngine_of_ne e here, standing] at stands
      cases stands
      exact Nat.le_refl _
  | @called called _ _ remotes call _ s s' reply stage accepted answer =>
    have exact := stage.exact hw
    by_cases within : place ∈ places called remotes
    · obtain ⟨k, here⟩ := List.mem_iff_getElem?.mp within
      have missed := missed_of_spared stage answer here spared
      have before : s.engines[k]? = some o := (stage.getElem? here).trans standing
      have after : s'.engines[k]? = some n :=
        (engine?_putEngines (nodup_places called remotes) stage.engines
          (accepted.length_engines exact) here).symm.trans stands
      have more := accepted.noLess exact k id missed
      unfold Arena.owed at more
      rw [before, after] at more
      exact more
    · cases standing.symm.trans ((engine?_putEngines_of_notMem within).symm.trans stands)
      exact Nat.le_refl _

/-- A vault that no call of a run drains owes at least as much in the end. -/
theorem owes_run {calls : List Call} (hw : w.Reachable) (standing : engine? w.seats place = some o)
    (stands : engine? (w.run calls).seats place = some n)
    (spared : Throughout (fun w call => (place, id) ∉ w.drained call) w calls) :
    o.owes id ≤ n.owes id := by
  induction calls generalizing w o with
  | nil =>
    cases standing.symm.trans stands
    exact Nat.le_refl _
  | cons call rest ih =>
    obtain ⟨m, between, -⟩ := descends_next hw call standing
    have first := (change_next w call).owes_le hw.exact standing between spared.1
    exact Nat.le_trans first (ih (hw.next call) between stands spared.2)

end World

end CollateralDebt
