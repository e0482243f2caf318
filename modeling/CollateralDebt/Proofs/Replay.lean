import Mathlib.Data.List.NodupEquivFin
import CollateralDebt.Proofs.Engine.Transcript
import CollateralDebt.Proofs.World.Trace

/-!
# Permits cannot be replayed

Whatever is called, by whom and how often, all that happens to the ledger are calls that anybody
could make on it: those that are made directly, those that register the minters of new engines, and
the scripts of the calls on engines that are accepted. A call on an engine that is refused leaves
the ledger as it was, the permits of its actions included. So a run leaves the ledger as the
transcript of its calls does, and what holds of the permits of a transcript holds of those of a run.

## What is stated and proved

- `Call.Scripted`, `World.entries`, `World.transcript`: what a run does to the ledger;
- `ledger_next`, `ledger_run`: a run leaves the ledger as its transcript does;
- `permitted_next`, `permitted_run`: no permit that a run accepts is missing from the transcript;
- `permits_not_replayed`: each permit that is accepted spends a nonce, and a second acceptance of it
  gives a collision.
-/

namespace CollateralDebt

open Transact (bind_eq_ok)

/-- The swapper of a call, if there is one, works with calls on the ledger: it is given nothing else
to work with. -/
def Call.Scripted (scripts : Swapper → SwapRequest → Script) (call : Call) : Prop :=
  ∀ swap ∈ call.swapper, swap.Follows scripts

namespace World

section

variable (scripts : Swapper → SwapRequest → Script)

/-! ## What a run does to the ledger -/

/-- What the calls of a run give, one after the other. -/
def collect {α : Type} (f : World → Call → List α) : World → List Call → List α
  | _, [] => []
  | w, call :: rest => f w call ++ collect f (w.next call) rest

/-- The calls on the ledger that come of a call: of one on an engine, only if it is accepted. -/
def entries (w : World) : Call → List (Timestamp × LedgerCall)
  | .ledger now call => [(now, call)]
  | .addMinter place minter now =>
    match w.treasuries[place]? with
    | some t => [(now, .registerMinter t.stablecoin t.address minter)]
    | none => []
  | .deploy config treasuryPlace feedPlace now =>
    match deploy config treasuryPlace feedPlace now w, w.treasuries[treasuryPlace]? with
    | .ok _ _, some t => [(now, .registerMinter t.stablecoin t.address
        (Engine.addressOf t.address config.collateral config.name))]
    | _, _ => []
  | .engine place caller now remotes call =>
    match callEngine place caller now remotes call w, engine? w.seats place with
    | .ok reply _, some e => call.script scripts e.state caller now reply w.ledger
    | _, _ => []
  | _ => []

/-- The calls on the ledger that come of a run. -/
def transcript (w : World) (calls : List Call) : List (Timestamp × LedgerCall) :=
  w.collect (entries scripts) calls

/-- The permits that a run accepts, each with the ledger as it was. -/
def acceptances (w : World) (calls : List Call) : List Acceptance :=
  w.ledger.acceptances (w.transcript scripts calls)

/-- The permits that are accepted with a call: by itself, or with a call on an engine that is
accepted. -/
def permitted (w : World) : Call → List Permit
  | .ledger now call => (w.ledger.accepted now call).toList.map Acceptance.signed
  | .engine place caller now remotes call =>
    if w.accepts place caller now remotes call then call.presented else []
  | _ => []

end

variable {scripts : Swapper → SwapRequest → Script} {w w' : World}

/-! ## Calls on the ledger -/

/-- Creating an engine registers a minter, and does nothing else to the ledger. -/
theorem registered_of_create {config : EngineConfig} {treasury : Treasury} {now : Timestamp}
    {l l' : Ledger} {e : Engine} (h : Engine.create config treasury now l = .ok e l') :
    Ledger.registerMinter treasury.stablecoin treasury.address
      (Engine.addressOf treasury.address config.collateral config.name) now l = .ok () l' := by
  simp only [Engine.create, bind_eq_ok, Transact.require_eq_ok, Transact.liftM_eq_ok,
    Transact.pure_eq_ok] at h
  obtain ⟨_, _, ⟨_, rfl⟩, _, _, ⟨_, rfl⟩, _, _, ⟨_, rfl⟩, _, _, ⟨_, rfl⟩, _, _, registered, _, _,
    ⟨_, rfl⟩, _, rfl⟩ := h
  exact registered

/-- A new minter reaches the ledger as the one call that it comes to. -/
theorem ledger_addMinter (w : World) (place : Nat) (minter : Address) (now : Timestamp) :
    ((addMinter place minter now).after w).ledger =
      w.ledger.replay (w.entries scripts (.addMinter place minter now)) := by
  have got : (get : Transact World World) w = .ok w w := Transact.get_eq_ok.mpr ⟨rfl, rfl⟩
  cases found : w.treasuries[place]? with
  | none =>
    have absent : (liftM (atPlace w.treasuries place) : Transact World Treasury) w =
        .error .absent w := by
      unfold atPlace
      rw [found]
      rfl
    have refused : addMinter place minter now w = .error .absent w :=
      (Transact.bind_of_ok got).trans (Transact.bind_of_error absent)
    simp only [entries, found]
    unfold Transact.after
    rw [refused]
    rfl
  | some t =>
    have there : (liftM (atPlace w.treasuries place) : Transact World Treasury) w = .ok t w :=
      Transact.liftM_eq_ok.mpr ⟨atPlace_eq_ok.mpr found, rfl⟩
    have named : (addMinter place minter now).after w =
        { w with ledger := (t.addMinter minter now).after w.ledger } :=
      calc (addMinter place minter now).after w
          = (onLedger (t.addMinter minter now)).after w :=
            (Transact.after_bind_of_read got).trans (Transact.after_bind_of_read there)
        _ = { w with ledger := (t.addMinter minter now).after w.ledger } :=
            Transact.after_zoom (t.addMinter minter now) w rfl
    simp only [entries, found]
    rw [named]
    rfl

/-- So does the asset of a new engine. -/
theorem ledger_next_deploy (w : World) (config : EngineConfig) (treasuryPlace feedPlace : Nat)
    (now : Timestamp) :
    (w.next (.deploy config treasuryPlace feedPlace now)).ledger =
      w.ledger.replay (w.entries scripts (.deploy config treasuryPlace feedPlace now)) := by
  cases ended : deploy config treasuryPlace feedPlace now w with
  | ok i w' =>
    have led : w.next (.deploy config treasuryPlace feedPlace now) = w' :=
      (Transact.after_discard _ () w).trans (Transact.after_of_ok ended)
    obtain ⟨t, e, behind, created, _⟩ := deploy_eq_ok ended
    simp only [entries, ended, behind]
    rw [led]
    exact (Transact.after_of_ok (registered_of_create created)).symm
  | error f w' =>
    simp only [entries, ended]
    rcases next_deploy_cases w config treasuryPlace feedPlace now with ⟨_, deployed⟩ | same
    · cases ended.symm.trans deployed
    · exact congrArg World.ledger same

/-- A call on an engine does to the ledger what its script does, and nothing if it is refused. -/
theorem ledger_next_engine (hw : ∀ seat ∈ w.seats, seat.engine.Exact) {place : Nat}
    {caller : Address} {now : Timestamp} {remotes : List Nat} {call : EngineCall}
    (scripted : ∀ swap ∈ call.swapper, swap.Follows scripts) :
    (w.next (.engine place caller now remotes call)).ledger =
      w.ledger.replay (w.entries scripts (.engine place caller now remotes call)) := by
  cases answer : callEngine place caller now remotes call w with
  | ok reply w' =>
    rw [next_engine answer]
    obtain ⟨seat, ctx, s, s', _, circumstances, stage, ran, rfl⟩ := callEngine_eq_ok answer
    obtain ⟨_, _, rfl, rfl, _⟩ := context_eq_ok circumstances
    simp only [entries, answer, stage.engine]
    rw [← stage.ledger]
    exact (EngineCall.run_cases ran).ledger (stage.exact hw).engine scripted
  | error f w' =>
    simp only [entries, answer]
    exact (beside_next_engine answer).ledger

/-- New connections leave the ledger alone. -/
theorem ledger_connect {α : Type} (check : World → Outcome α) (i : Nat) (caller : Address)
    (now : Timestamp) (m : α → Context → Transact Engine Unit) (connection : Seat → Seat)
    (traceless : ∀ a ctx, Transact.Traceless (m a ctx)) (w : World) :
    ((connect check i caller now m connection).after w).ledger = w.ledger := by
  rcases connect_cases traceless w with ⟨_, _, _, _, _, _, _, same⟩ | same <;> rw [same]

/-- What becomes of the ledger at one call. -/
theorem ledger_next (hw : ∀ seat ∈ w.seats, seat.engine.Exact) {call : Call}
    (scripted : call.Scripted scripts) :
    (w.next call).ledger = w.ledger.replay (w.entries scripts call) := by
  cases call with
  | ledger now call => exact congrArg World.ledger (next_ledger w now call)
  | openTreasury | treasury | openFeed | feed => exact (beside_next w rfl).ledger
  | addMinter place minter now => exact ledger_addMinter w place minter now
  | deploy config treasuryPlace feedPlace now => exact ledger_next_deploy w config _ _ now
  | engine place caller now remotes call => exact ledger_next_engine hw scripted
  | setOracle place caller now feedPlace =>
    exact ledger_connect (fun w => atPlace w.feeds feedPlace) place caller now
      (fun _ => Engine.setOracle) (fun seat => { seat with feed := feedPlace })
      (fun _ => Engine.traceless_setOracle) w
  | setTreasury place caller now treasuryPlace =>
    exact ledger_connect (fun w => atPlace w.treasuries treasuryPlace) place caller now
      (fun successor ctx => Engine.setTreasury ctx successor)
      (fun seat => { seat with treasury := treasuryPlace })
      (fun successor ctx => Engine.traceless_setTreasury ctx successor) w

/-- A run leaves the ledger as its transcript does. -/
theorem ledger_run (hw : w.Reachable) {calls : List Call}
    (scripted : ∀ call ∈ calls, call.Scripted scripts) :
    (w.run calls).ledger = w.ledger.replay (w.transcript scripts calls) := by
  induction calls generalizing w with
  | nil => rfl
  | cons call rest ih =>
    obtain ⟨first, rest'⟩ := List.forall_mem_cons.mp scripted
    have later := ih (hw.next call) rest'
    rw [ledger_next hw.exact first, ← Ledger.replay_append] at later
    exact later

/-! ## Permits -/

/-- Every permit that is accepted with a call is one of the acceptances. -/
theorem permitted_next (w : World) (call : Call) :
    (w.permitted call).Sublist
      ((w.ledger.acceptances (w.entries scripts call)).map Acceptance.signed) := by
  cases call with
  | ledger now call =>
    unfold permitted entries
    show List.Sublist _ (((w.ledger.accepted now call).toList ++ []).map Acceptance.signed)
    rw [List.append_nil]
  | engine place caller now remotes call =>
    unfold permitted
    dsimp only
    split
    · rename_i accepted
      obtain ⟨reply, w', answer⟩ := accepts_eq_true.mp accepted
      obtain ⟨seat, ctx, s, s', _, circumstances, stage, ran, rfl⟩ := callEngine_eq_ok answer
      obtain ⟨_, _, rfl, rfl, _⟩ := context_eq_ok circumstances
      simp only [entries, answer, stage.engine]
      rw [← stage.ledger]
      exact (EngineCall.run_cases ran).presented
    · exact List.nil_sublist _
  | _ => exact List.nil_sublist _

/-- The permits that are accepted in a run are among its acceptances, in their order. -/
theorem permitted_run (hw : w.Reachable) {calls : List Call}
    (scripted : ∀ call ∈ calls, call.Scripted scripts) :
    (w.collect permitted calls).Sublist ((w.acceptances scripts calls).map Acceptance.signed) := by
  induction calls generalizing w with
  | nil => exact List.Sublist.refl _
  | cons call rest ih =>
    obtain ⟨first, rest'⟩ := List.forall_mem_cons.mp scripted
    have split : w.acceptances scripts (call :: rest) =
        w.ledger.acceptances (w.entries scripts call) ++
          (w.next call).acceptances scripts rest := by
      unfold acceptances
      rw [ledger_next hw.exact first, ← Ledger.acceptances_append]
      rfl
    rw [split, List.map_append]
    exact (permitted_next w call).append (ih (hw.next call) rest')

/-- No run takes a nonce back. -/
theorem nonce_le_run (hw : w.Reachable) {calls : List Call}
    (scripted : ∀ call ∈ calls, call.Scripted scripts) (asset owner : Address) :
    (w.ledger.nonce asset owner).toNat ≤ ((w.run calls).ledger.nonce asset owner).toNat := by
  rw [ledger_run hw scripted]
  exact Ledger.nonce_le_replay _ _ _ _

/-- What a run makes of permits: each one that it accepts spends a nonce of its owner, and a second
acceptance of the same permit gives a collision. -/
structure PermitsSpent (scripts : Swapper → SwapRequest → Script) (w : World)
    (calls : List Call) : Prop where
  /-- The ledger is where the transcript of the run leads. -/
  replayed : (w.run calls).ledger = w.ledger.replay (w.transcript scripts calls)
  /-- The acceptances are those of the transcript, and every permit that was handed in directly or
  in a batch is among them if it was accepted for good. -/
  complete : (w.collect permitted calls).Sublist
    ((w.acceptances scripts calls).map Acceptance.signed)
  /-- Whatever was accepted was signed for its terms, with the owner's key of that moment and under
  the owner's nonce, which goes up by one. -/
  sound : ∀ a ∈ w.acceptances scripts calls, a.Sound
  /-- From one acceptance to a later one, the nonce of the same owner and asset has gone up. -/
  rising : (w.acceptances scripts calls).Pairwise fun a b =>
    a.signed.asset = b.signed.asset → a.signed.owner = b.signed.owner →
      a.nonce.toNat < b.nonce.toNat
  /-- No nonce is lower at the end than at any point of the run. -/
  kept : ∀ earlier later, calls = earlier ++ later → ∀ asset owner,
    ((w.run earlier).ledger.nonce asset owner).toNat ≤
      ((w.run calls).ledger.nonce asset owner).toNat
  /-- A call on an engine that was refused left the whole ledger as it was. -/
  restored : ∀ earlier later place caller now remotes call f w',
    calls = earlier ++ .engine place caller now remotes call :: later →
    callEngine place caller now remotes call (w.run earlier) = .error f w' →
      w'.ledger = (w.run earlier).ledger
  /-- If the same permit was accepted twice, two inputs with one digest are known. -/
  collision : ∀ (i j : Nat) (a b : Acceptance), i < j →
    (w.acceptances scripts calls)[i]? = some a → (w.acceptances scripts calls)[j]? = some b →
    a.signed = b.signed → (a.collision b).1 ≠ (a.collision b).2 ∧
      sha256 (a.collision b).1 = sha256 (a.collision b).2
  /-- In particular they are if the same permit was handed in and accepted twice. -/
  resubmitted : ∀ (i j : Nat) (signed : Permit), i < j →
    (w.collect permitted calls)[i]? = some signed →
    (w.collect permitted calls)[j]? = some signed →
    ∃ a ∈ w.acceptances scripts calls, ∃ b ∈ w.acceptances scripts calls,
      a.signed = signed ∧ b.signed = signed ∧ (a.collision b).1 ≠ (a.collision b).2 ∧
        sha256 (a.collision b).1 = sha256 (a.collision b).2

/-- **Permits cannot be replayed.** Whatever is called from a reachable world, with owners changing
their keys, batches rolled back, and swappers that make any calls on the ledger, each permit that is
accepted spends a nonce, and the same permit is not accepted again unless two inputs with the same
digest come out of it. -/
theorem permits_not_replayed (reachable : w.Reachable) {calls : List Call}
    (scripted : ∀ call ∈ calls, call.Scripted scripts) : w.PermitsSpent scripts calls where
  replayed := ledger_run reachable scripted
  complete := permitted_run reachable scripted
  sound _ := Ledger.sound_of_mem
  rising := Ledger.pairwise_acceptances _ _
  kept := by
    rintro earlier later rfl asset owner
    rw [run_append]
    exact nonce_le_run (reachable.run earlier)
      (fun call mem => scripted call (List.mem_append_right _ mem)) asset owner
  restored := by
    intro earlier later place caller now remotes call f w' _ refused
    rw [callEngine_eq_error refused]
  collision _ _ _ _ less first again same := Ledger.collision_of_replayed less first again same
  resubmitted := by
    intro i j signed less first again
    -- the permits of the run stand in the same order among those of the transcript
    obtain ⟨place, kept⟩ := List.sublist_iff_exists_orderEmbedding_getElem?_eq.mp
      (permitted_run reachable scripted)
    rw [kept, List.getElem?_map] at first again
    obtain ⟨a, earlier, rfl⟩ := Option.map_eq_some_iff.mp first
    obtain ⟨b, later, same⟩ := Option.map_eq_some_iff.mp again
    exact ⟨a, List.mem_of_getElem? earlier, b, List.mem_of_getElem? later, rfl, same,
      Ledger.collision_of_replayed (place.lt_iff_lt.mpr less) earlier later same.symm⟩

/-- A permit over one token, signed with the owner's first key under the first nonce. -/
def pass : Permit where
  asset := account 7
  owner := account 5
  spender := account 6
  value := tenths 10
  deadline := 100
  signature := Permit.sign (account 8)
    (Permit.digest (account 7) (account 5) (account 6) (tenths 10) 0 100)

/-- A swapper that lets the account 6 have what the engine just paid out. -/
def sharing : Swapper := fun request =>
  Ledger.approve request.inToken (account 5) (account 6) request.inTokenObtained request.timestamp

/-- A batch with the permit fails, and is called again without the mistake; then the owner changes
the key, and the permit is handed in again. -/
def attempts : List Call := [
  .ledger 0 (.registerSigningKey (account 5) (account 8)),
  .engine 0 (account 5) 0 [] (.batch borrower [.permit pass, .closeVault 9]),
  .engine 0 (account 5) 0 [] (.batch { borrower with swapper := some sharing }
    [.permit pass, .addCollateral 1 (tenths 20), .borrow 1 (tenths 5)]),
  .ledger 0 (.registerSigningKey (account 5) (account 9)),
  .ledger 0 (.permit pass)]

set_option maxRecDepth 10000 in
/-- The permit is accepted once, in the batch that succeeds. -/
theorem permits_not_replayed_rekeyed :
    (history smallMarket).PermitsSpent
      (fun _ request => .single request.timestamp
        (.approve request.inToken (account 5) (account 6) request.inTokenObtained)) attempts ∧
    (history smallMarket).collect permitted attempts = [pass] := by
  refine ⟨permits_not_replayed ⟨smallMarket, rfl⟩ ?_, by decide +kernel⟩
  intro call mem swap asked request l l' shared
  have only : swap = sharing := by
    unfold attempts at mem
    simp only [List.mem_cons, List.not_mem_nil, or_false] at mem
    rcases mem with rfl | rfl | rfl | rfl | rfl <;> cases asked
    rfl
  subst only
  exact (Transact.after_of_ok shared).symm

end World

end CollateralDebt
