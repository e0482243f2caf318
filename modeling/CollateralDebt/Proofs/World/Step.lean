import Mathlib.Data.List.Induction
import CollateralDebt.World.Call
import CollateralDebt.Proofs.Engine.Call
import CollateralDebt.Proofs.World.Seats

/-!
# One call in the world

Whatever is called, and whether it is accepted or refused, one of five things happens: engines and
funds stay as they are; the ledger handles a call; a new engine is founded; an engine is connected
to another party; or an accepted call on an engine does its work in an arena. A statement about all
reachable worlds is proved by going through these five.

## What is proved

- `callEngine_eq_ok`: an accepted call on an engine, in its arena;
- `beside_next`, `next_ledger`, `next_deploy_cases`, `connect_cases`: what is left by calls of the
  other kinds;
- `change_next`: what one call does is one of the cases of `Change`;
- `Change.forall_engines`: what every engine keeps;
- `Reachable.induction`: what every call preserves holds in every reachable world;
- `smallMarket`, `downturn`: histories that the statements about reachable worlds are tried on.
-/

namespace CollateralDebt

open Transact (bind_eq_ok)

/-! ## New engines -/

/-- An engine that was just founded: it has no vaults, and all of its books are at their start. -/
structure Engine.Founded (e : Engine) : Prop where
  vaults : e.state.registry.vaults = .empty
  total : e.state.totalNormalizedDebt = .zero
  surplus : e.state.surplus = .zero
  badDebt : e.state.badDebt = .zero
  accumulator : e.state.accumulator.toNat = accumulatorOne
  fit : e.Fit

/-- A new engine has no debt, and no vault that could owe any. -/
theorem Engine.Founded.exact {e : Engine} (h : e.Founded) : e.Exact where
  total := by
    unfold Engine.sum
    rw [h.vaults, h.total]
    rfl
  numbered := by
    intro id v found
    unfold Registry.vault? at found
    rw [h.vaults] at found
    cases found

/-- Founding an engine moves no funds, whether it succeeds or fails. -/
theorem Engine.keeps_create (config : EngineConfig) (treasury : Treasury) (now : Timestamp) :
    Transact.Keeps Ledger.SameFunds (Engine.create config treasury now) := by
  unfold Engine.create
  apply (Transact.keeps_require _ _).bind
  intro _
  apply (Transact.keeps_require _ _).bind
  intro _
  apply (Transact.keeps_liftM _).bind
  intro _
  apply (Transact.keeps_liftM _).bind
  intro boostCurve
  apply (Ledger.keeps_registerMinter _ _ _ _).bind
  intro _
  apply (Transact.keeps_liftM _).bind
  intro unit
  exact Transact.keeps_pure _

/-- A refused founding leaves the ledger alone: naming the minter is the only step that writes, and
nothing fails after it. -/
theorem Engine.traceless_create (config : EngineConfig) (treasury : Treasury) (now : Timestamp) :
    Transact.Traceless (Engine.create config treasury now) := by
  intro l
  unfold Engine.create
  apply (Transact.readOnly_require _ _).bind_tracelessAt
  intro _ _
  apply (Transact.readOnly_require _ _).bind_tracelessAt
  intro _ supported
  obtain ⟨unit, hunit, -⟩ := Amount.pow10_of_le (Transact.require_eq_ok.mp supported).1
  apply (Transact.readOnly_liftM _).bind_tracelessAt
  intro _ _
  apply (Transact.readOnly_liftM _).bind_tracelessAt
  intro boostCurve _
  apply (Ledger.traceless_registerMinter _ _ _ _ l).bind_unfailing
  intro _
  rw [hunit]
  exact (Transact.unfailing_pure unit).bind fun _ => Transact.unfailing_pure _

/-- An engine is founded as its configuration says, and makes its asset known on the ledger. -/
theorem Engine.create_eq_ok {config : EngineConfig} {treasury : Treasury} {now : Timestamp}
    {l l' : Ledger} {e : Engine} (h : Engine.create config treasury now l = .ok e l') :
    e.Founded := by
  unfold Engine.create at h
  obtain ⟨_, _, _, h⟩ := bind_eq_ok.mp h
  obtain ⟨_, _, supported, h⟩ := bind_eq_ok.mp h
  obtain ⟨_, _, validated, h⟩ := bind_eq_ok.mp h
  obtain ⟨curve, _, drawn, h⟩ := bind_eq_ok.mp h
  obtain ⟨_, _, _, h⟩ := bind_eq_ok.mp h
  obtain ⟨unit, _, sized, h⟩ := bind_eq_ok.mp h
  obtain ⟨rfl, rfl⟩ := Transact.pure_eq_ok.mp h
  have flat := (Transact.liftM_eq_ok.mp drawn).1
  exact ⟨rfl, rfl, rfl, rfl, rfl, Parameters.validate_eq_ok.mp (Transact.liftM_eq_ok.mp validated).1,
    BoostCurve.accepted_of_ofPoints flat, (BoostCurve.baseBoost_of_flat flat).symm,
    (Transact.require_eq_ok.mp supported).1, (Transact.liftM_eq_ok.mp sized).1, Nat.le_refl _⟩

/-- The swapper of a call that has one. -/
def Call.swapper : Call → Option Swapper
  | .engine _ _ _ _ call => call.swapper
  | _ => none

namespace World

/-- The world after a call was tried. -/
def next (w : World) (call : Call) : World := call.run.after w

/-- The last call of a history is tried on the world of the calls before it. -/
theorem history_append (calls : List Call) (call : Call) :
    history (calls ++ [call]) = (history calls).next call := by
  unfold history
  rw [List.foldl_append]
  rfl

/-- What every call preserves holds in every reachable world. -/
theorem Reachable.induction {P : World → Prop} (start : P .empty)
    (step : ∀ w call, w.Reachable → P w → P (w.next call)) {w : World} (h : w.Reachable) : P w := by
  obtain ⟨calls, rfl⟩ := h
  -- on the calls from the last one back
  induction calls using List.reverseRecOn with
  | nil => exact start
  | append_singleton calls call ih =>
    rw [history_append]
    exact step _ call ⟨calls, rfl⟩ ih

/-! ## Calls on engines -/

/-- The world after an arena was put back. -/
def restage (w : World) (place : Nat) (remotes : List Nat) (s : Arena) : World :=
  { w with
    ledger := s.ledger
    seats := putEngines w.seats ((places place remotes).zip s.engines)
    requests := s.requests }

/-- An engine that was not changed is put back to where it was. -/
theorem putEngine_same {seats : List Seat} {i : Nat} {e : Engine}
    (found : engine? seats i = some e) : putEngine seats i e = seats := by
  obtain ⟨seat, here, rfl⟩ := Option.map_eq_some_iff.mp found
  apply List.ext_getElem?
  intro k
  by_cases eq : i = k
  · subst eq
    unfold putEngine
    rw [List.getElem?_modify_eq, here]
    rfl
  · exact List.getElem?_modify_ne _ _ eq

/-- Putting back the engines that stand there changes nothing. -/
theorem putEngines_same {seats : List Seat} {l : List Nat} {es : List Engine} (nodup : l.Nodup)
    (standing : List.Forall₂ (fun i e => engine? seats i = some e) l es) :
    putEngines seats (l.zip es) = seats := by
  induction l generalizing es with
  | nil => rfl
  | cons i l ih =>
    cases standing with
    | @cons _ e _ es first standing =>
      show putEngines (putEngine seats i e) (l.zip es) = seats
      rw [putEngine_same first]
      exact ih (List.nodup_cons.mp nodup).2 standing

/-- The engine that was called is back at its place. -/
theorem engine?_restage {w : World} {place : Nat} {remotes : List Nat} {s : Arena}
    (stage : w.Stage place remotes s) (s' : Arena) :
    engine? (w.restage place remotes s').seats place = some s'.engine := by
  have outside := (List.nodup_cons.mp (nodup_places place remotes)).1
  calc engine? (w.restage place remotes s').seats place
      = engine? (putEngine w.seats place s'.engine) place := engine?_putEngines_of_notMem outside
    _ = some s'.engine := engine?_putEngine_self stage.engine s'.engine

/-- An arena that comes back with nothing but requests leaves nothing but requests. -/
theorem restage_same {w : World} {place : Nat} {remotes : List Nat} {s : Arena}
    (stage : w.Stage place remotes s) (requests : List SwapRequest) :
    w.restage place remotes { s with requests } = { w with requests } := by
  unfold restage
  rw [stage.ledger]
  congr 1
  exact putEngines_same (nodup_places place remotes) stage.engines

/-- Putting back an arena is what a call on an engine ends with. -/
theorem restage_eq (w : World) (place : Nat) (remotes : List Nat) (s : Arena) :
    w.restage place remotes s = { w with
      ledger := s.ledger
      seats := ((otherPlaces place remotes).zip s.remotes).foldl
        (fun seats (j, r) => putEngine seats j r.engine) (putEngine w.seats place s.engine)
      requests := s.requests } := by
  unfold restage putEngines places Arena.engines
  rw [List.zip_cons_cons, List.foldl_cons, List.zip_map_right, List.foldl_map]
  rfl

/-- Looking up a place fails if nothing is there, and in no other way. -/
theorem atPlace_eq_error {α : Type} {l : List α} {i : Nat} {f : Failure}
    (h : atPlace l i = .error f) : f = .absent := by
  unfold atPlace at h
  cases found : l[i]? <;> rw [found] at h <;> cases h
  rfl

/-- So does a sequence of such lookups. -/
theorem bind_eq_absent {α β : Type} {x : Outcome α} {g : α → Outcome β} {f : Failure}
    (hx : ∀ f, x = .error f → f = .absent) (hg : ∀ a f, g a = .error f → f = .absent)
    (h : (x >>= g) = .error f) : f = .absent := by
  cases x with
  | ok a => exact hg a f h
  | error e =>
    cases h
    exact hx _ rfl

/-- The context of a call is only missing where something that it refers to is. -/
theorem context_eq_error {w : World} {seat : Seat} {caller : Address} {now : Timestamp}
    {f : Failure} (h : w.context seat caller now = .error f) : f = .absent := by
  refine bind_eq_absent (fun _ => atPlace_eq_error) (fun _ _ h => ?_) h
  refine bind_eq_absent (fun _ => atPlace_eq_error) (fun _ _ h => ?_) h
  cases h

/-- An engine is called by an account at a time, with the price that its feed gives then. -/
theorem context_eq_ok {w : World} {seat : Seat} {caller : Address} {now : Timestamp} {ctx : Context}
    (h : w.context seat caller now = .ok ctx) :
    ∃ feed, w.feeds[seat.feed]? = some feed ∧ ctx.caller = caller ∧ ctx.now = now ∧
      ctx.price = feed.read now := by
  simp only [context, Outcome.bind_eq_ok, atPlace_eq_ok, Outcome.pure_eq_ok] at h
  obtain ⟨treasury, _, feed, connected, rfl⟩ := h
  exact ⟨feed, connected, rfl, rfl, rfl⟩

theorem remote_eq_error {w : World} {i : Nat} {f : Failure} (h : w.remote i = .error f) :
    f = .absent := by
  refine bind_eq_absent (fun _ => atPlace_eq_error) (fun _ _ h => ?_) h
  refine bind_eq_absent (fun _ => atPlace_eq_error) (fun _ _ h => ?_) h
  cases h

theorem mapM_remote_eq_error {w : World} {l : List Nat} {f : Failure}
    (h : l.mapM w.remote = .error f) : f = .absent := by
  induction l generalizing f with
  | nil => cases h
  | cons i l ih =>
    rw [List.mapM_cons] at h
    refine bind_eq_absent (fun _ => remote_eq_error) (fun _ _ h => ?_) h
    refine bind_eq_absent (fun _ => ih) (fun _ _ h => ?_) h
    cases h

/-- Calls on an engine address parties that do not exist, or all of them are made in the same
arena. -/
theorem callEngine_cases (place : Nat) (caller : Address) (now : Timestamp) (remotes : List Nat)
    (w : World) :
    (∀ call, callEngine place caller now remotes call w = .error .absent w) ∨
    ∃ seat ctx s, w.seats[place]? = some seat ∧ w.context seat caller now = .ok ctx ∧
      w.Stage place remotes s ∧ ∀ call, callEngine place caller now remotes call w =
        match call.run ctx s with
        | .ok reply s' => .ok reply (w.restage place remotes s')
        | .error f s' => .error f (w.restage place remotes s') := by
  have got : (get : Transact World World) w = .ok w w := Transact.get_eq_ok.mpr ⟨rfl, rfl⟩
  have lifted {α : Type} {x : Outcome α} {a : α} (h : x = .ok a) :
      (liftM x : Transact World α) w = .ok a w := Transact.liftM_eq_ok.mpr ⟨h, rfl⟩
  have refused {α : Type} {x : Outcome α} {f : Failure} (h : x = .error f) :
      (liftM x : Transact World α) w = .error f w := Transact.liftM_eq_error.mpr ⟨h, rfl⟩
  cases hseat : atPlace w.seats place with
  | error f =>
    cases atPlace_eq_error hseat
    exact .inl fun _ =>
      (Transact.bind_of_ok got).trans (Transact.bind_of_error (refused hseat))
  | ok seat =>
    cases hctx : w.context seat caller now with
    | error f =>
      cases context_eq_error hctx
      exact .inl fun _ => (Transact.bind_of_ok got).trans
        ((Transact.bind_of_ok (lifted hseat)).trans (Transact.bind_of_error (refused hctx)))
    | ok ctx =>
      cases hothers : (otherPlaces place remotes).mapM w.remote with
      | error f =>
        cases mapM_remote_eq_error hothers
        exact .inl fun _ => (Transact.bind_of_ok got).trans
          ((Transact.bind_of_ok (lifted hseat)).trans ((Transact.bind_of_ok (lifted hctx)).trans
            (Transact.bind_of_error (refused hothers))))
      | ok others =>
        have found := atPlace_eq_ok.mp hseat
        refine .inr ⟨seat, ctx, _, found, hctx, stage_of_remotes found hothers, fun call => ?_⟩
        refine (Transact.bind_of_ok got).trans ((Transact.bind_of_ok (lifted hseat)).trans
          ((Transact.bind_of_ok (lifted hctx)).trans
            ((Transact.bind_of_ok (lifted hothers)).trans ?_)))
        simp only [restage_eq]
        unfold Transact.zoom
        cases call.run ctx ⟨seat.engine, w.ledger, others, w.requests⟩ <;> rfl

/-- An accepted call on an engine, in its arena. -/
theorem callEngine_eq_ok {place : Nat} {caller : Address} {now : Timestamp} {remotes : List Nat}
    {call : EngineCall} {reply : EngineReply} {w w' : World}
    (h : callEngine place caller now remotes call w = .ok reply w') :
    ∃ seat ctx s s', w.seats[place]? = some seat ∧ w.context seat caller now = .ok ctx ∧
      w.Stage place remotes s ∧ call.run ctx s = .ok reply s' ∧
      w' = w.restage place remotes s' := by
  rcases callEngine_cases place caller now remotes w with absent | ⟨seat, ctx, s, found, hctx,
    stage, same⟩
  · cases h.symm.trans (absent call)
  · rw [same] at h
    split at h
    · rename_i r s' ran
      cases h
      exact ⟨seat, ctx, s, s', found, hctx, stage, ran, rfl⟩
    · cases h

/-- A refused call on an engine left nothing but what its swapper was asked for. -/
theorem callEngine_eq_error {place : Nat} {caller : Address} {now : Timestamp}
    {remotes : List Nat} {call : EngineCall} {f : Failure} {w w' : World}
    (h : callEngine place caller now remotes call w = .error f w') :
    w' = { w with requests := w'.requests } := by
  rcases callEngine_cases place caller now remotes w with absent | ⟨seat, ctx, s, found, hctx,
    stage, same⟩
  · cases h.symm.trans (absent call)
    rfl
  · rw [same] at h
    split at h
    · cases h
    · rename_i f' s' refused
      cases h
      rw [EngineCall.run_eq_error refused, restage_same stage]

/-! ## All calls -/

/-- Two worlds with the same seats and the same funds. -/
structure Still (w w' : World) : Prop where
  seats : w'.seats = w.seats
  funds : Ledger.SameFunds w.ledger w'.ledger

theorem Still.refl (w : World) : Still w w := ⟨rfl, .refl _⟩

/-- What two calls leave still, both together do. -/
theorem Still.trans {w₁ w₂ w₃ : World} (h₁ : Still w₁ w₂) (h₂ : Still w₂ w₃) : Still w₁ w₃ :=
  ⟨h₂.seats.trans h₁.seats, h₁.funds.trans h₂.funds⟩

instance : IsPreorder World Still where
  refl := .refl
  trans _ _ _ := .trans

/-- Two worlds with the same seats and the same ledger. -/
structure Beside (w w' : World) : Prop where
  seats : w'.seats = w.seats
  ledger : w'.ledger = w.ledger

theorem Beside.refl (w : World) : Beside w w := ⟨rfl, rfl⟩

theorem Beside.trans {w₁ w₂ w₃ : World} (h₁ : Beside w₁ w₂) (h₂ : Beside w₂ w₃) : Beside w₁ w₃ :=
  ⟨h₂.seats.trans h₁.seats, h₂.ledger.trans h₁.ledger⟩

instance : IsPreorder World Beside where
  refl := .refl
  trans _ _ _ := .trans

/-- What leaves the ledger as a whole leaves its funds. -/
theorem Beside.still {w w' : World} (h : Beside w w') : Still w w' :=
  ⟨h.seats, h.ledger ▸ .refl _⟩

/-- What one call does, accepted or refused. -/
inductive Change (w : World) : Call → World → Prop
  | still {call : Call} {w' : World} (same : Still w w') : Change w call w'
  | ledger {now : Timestamp} {call : LedgerCall} :
      Change w (.ledger now call) { w with ledger := (call.run now).after w.ledger }
  | founded {config : EngineConfig} {treasuryPlace feedPlace : Nat} {now : Timestamp} {seat : Seat}
      {w' : World} (fresh : seat.engine.Founded) (seats : w'.seats = w.seats ++ [seat])
      (funds : Ledger.SameFunds w.ledger w'.ledger) :
      Change w (.deploy config treasuryPlace feedPlace now) w'
  | connected {call : Call} {place : Nat} {o e : Engine} {w' : World}
      (found : engine? w.seats place = some o) (steady : Engine.Steady o e)
      (engines : w'.seats.map (·.engine) = (putEngine w.seats place e).map (·.engine))
      (ledger : w'.ledger = w.ledger) : Change w call w'
  | called {place : Nat} {caller : Address} {now : Timestamp} {remotes : List Nat}
      {call : EngineCall} {ctx : Context} {s s' : Arena} {reply : EngineReply}
      (stage : w.Stage place remotes s) (accepted : EngineCall.Accepted ctx s call reply s')
      (answer : callEngine place caller now remotes call w =
        .ok reply (w.restage place remotes s')) :
      Change w (.engine place caller now remotes call) (w.restage place remotes s')

/-- What holds of every engine when it is founded, and is kept by new connections and by accepted
calls on engines, holds of every engine after a call if it did so before. -/
theorem Change.forall_engines {P : Engine → Prop} {w w' : World} {call : Call}
    (h : Change w call w') (founded : ∀ e, e.Founded → P e)
    (connected : ∀ o e, Engine.Steady o e → P o → P e)
    (called : ∀ {ctx : Context} {s s' : Arena} {call : EngineCall} {reply : EngineReply},
      EngineCall.Accepted ctx s call reply s' → (∀ e ∈ s.engines, P e) → ∀ e ∈ s'.engines, P e)
    (hw : ∀ seat ∈ w.seats, P seat.engine) : ∀ seat ∈ w'.seats, P seat.engine := by
  cases h with
  | still same =>
    rw [same.seats]
    exact hw
  | ledger => exact hw
  | founded fresh seats =>
    rw [seats]
    intro seat mem
    rcases List.mem_append.mp mem with mem | mem
    · exact hw seat mem
    · cases List.mem_singleton.mp mem
      exact founded _ fresh
  | @connected _ place o e _ found steady engines =>
    obtain ⟨seat, here, rfl⟩ := Option.map_eq_some_iff.mp found
    have kept := connected _ e steady (hw seat (List.mem_of_getElem? here))
    have after := List.forall_mem_map.mpr (forall_putEngine (i := place) hw kept)
    rw [← engines] at after
    exact List.forall_mem_map.mp after
  | called stage accepted =>
    exact forall_putEngines hw (called accepted (stage.forall_engines hw))

/-- A step on the ledger that moves no funds leaves the world still. -/
theorem keeps_onLedger {α : Type} {m : Transact Ledger α}
    (h : Transact.Keeps Ledger.SameFunds m) : Transact.Keeps Still (onLedger m) := by
  intro w
  constructor
  · intro a w' ok
    obtain ⟨l, done, rfl⟩ := Transact.zoom_eq_ok.mp ok
    exact ⟨rfl, (h w.ledger).1 a l done⟩
  · intro f w' failed
    obtain ⟨l, refused, rfl⟩ := Transact.zoom_eq_error.mp failed
    exact ⟨rfl, (h w.ledger).2 f l refused⟩

/-- Opening a treasury happens beside engines and ledger. -/
theorem keeps_openTreasury (address stablecoin governor : Address) :
    Transact.Keeps Beside (openTreasury address stablecoin governor) := by
  unfold openTreasury
  apply (Transact.keeps_liftM _).bind
  intro treasury
  apply Transact.keeps_get.bind
  intro w
  refine Transact.Keeps.bind ?_ fun _ => Transact.keeps_pure _
  exact Transact.keeps_modify fun _ => ⟨rfl, rfl⟩

/-- So does opening a price feed. -/
theorem keeps_openFeed (feed : PriceFeed) : Transact.Keeps Beside (openFeed feed) := by
  unfold openFeed
  apply Transact.keeps_get.bind
  intro w
  refine Transact.Keeps.bind ?_ fun _ => Transact.keeps_pure _
  exact Transact.keeps_modify fun _ => ⟨rfl, rfl⟩

/-- So does what is done to a treasury. -/
theorem keeps_onTreasury (i : Nat) (f : Treasury → Outcome Treasury) :
    Transact.Keeps Beside (onTreasury i f) := by
  apply Transact.keeps_update
  intro w w' ok
  simp only [Outcome.bind_eq_ok, Outcome.pure_eq_ok] at ok
  obtain ⟨_, _, _, _, rfl⟩ := ok
  exact ⟨rfl, rfl⟩

/-- So does what is done to a price feed. -/
theorem keeps_onFeed (i : Nat) (f : PriceFeed → Outcome PriceFeed) :
    Transact.Keeps Beside (onFeed i f) := by
  apply Transact.keeps_update
  intro w w' ok
  simp only [Outcome.bind_eq_ok, Outcome.pure_eq_ok] at ok
  obtain ⟨_, _, _, _, rfl⟩ := ok
  exact ⟨rfl, rfl⟩

end World

/-- Calls that set up or change a treasury or a price feed, and nothing else. -/
def Call.isBeside : Call → Bool
  | .openTreasury .. | .treasury .. | .openFeed .. | .feed .. => true
  | _ => false

namespace World

/-- Calls to treasuries and price feeds leave all seats and the ledger as they are. -/
theorem beside_next (w : World) {call : Call} (h : call.isBeside = true) :
    Beside w (w.next call) := by
  cases call with
  | openTreasury address stablecoin governor =>
    exact ((keeps_openTreasury _ _ _).bind fun _ =>
      Transact.keeps_pure _).after w
  | treasury place call => exact (keeps_onTreasury place _).after w
  | openFeed state =>
    exact ((keeps_openFeed _).bind fun _ =>
      Transact.keeps_pure _).after w
  | feed place now call => exact (keeps_onFeed place _).after w
  | _ => cases h

/-- A new minter of a stablecoin is named on the ledger, and moves no funds. -/
theorem keeps_addMinter (i : Nat) (minter : Address) (now : Timestamp) :
    Transact.Keeps Still (addMinter i minter now) := by
  unfold addMinter
  apply Transact.keeps_get.bind
  intro w
  apply (Transact.keeps_liftM _).bind
  intro treasury
  exact keeps_onLedger (Ledger.keeps_registerMinter _ _ _ _)

/-- A call on an engine alone found a seat at its place and put the engine back there. -/
theorem onEngine_eq_ok {α : Type} {i : Nat} {caller : Address} {now : Timestamp}
    {m : Context → Transact Engine α} {a : α} {w w' : World}
    (h : onEngine i caller now m w = .ok a w') :
    ∃ seat ctx e, w.seats[i]? = some seat ∧ w.context seat caller now = .ok ctx ∧
      m ctx seat.engine = .ok a e ∧ w' = { w with seats := putEngine w.seats i e } := by
  unfold onEngine at h
  obtain ⟨_, _, got, h⟩ := bind_eq_ok.mp h
  obtain ⟨rfl, rfl⟩ := Transact.get_eq_ok.mp got
  obtain ⟨seat, _, placed, h⟩ := bind_eq_ok.mp h
  obtain ⟨hseat, rfl⟩ := Transact.liftM_eq_ok.mp placed
  obtain ⟨ctx, _, circumstances, h⟩ := bind_eq_ok.mp h
  obtain ⟨hctx, rfl⟩ := Transact.liftM_eq_ok.mp circumstances
  obtain ⟨e, ok, rfl⟩ := Transact.zoom_eq_ok.mp h
  exact ⟨seat, ctx, e, atPlace_eq_ok.mp hseat, hctx, ok, rfl⟩

/-- A step of one engine that leaves no trace of a refusal leaves none in the world. -/
theorem traceless_onEngine {α : Type} {i : Nat} {caller : Address} {now : Timestamp}
    {m : Context → Transact Engine α} (traceless : ∀ ctx, Transact.Traceless (m ctx)) :
    Transact.Traceless (onEngine i caller now m) := by
  intro w
  unfold onEngine
  apply Transact.readOnly_get.bind_tracelessAt
  intro w' got
  obtain ⟨rfl, -⟩ := Transact.get_eq_ok.mp got
  apply (Transact.readOnly_liftM _).bind_tracelessAt
  intro seat placed
  have found := atPlace_eq_ok.mp (Transact.liftM_eq_ok.mp placed).1
  apply (Transact.readOnly_liftM _).bind_tracelessAt
  intro ctx _ f w'' failed
  obtain ⟨e, refused, rfl⟩ := Transact.zoom_eq_error.mp failed
  have same := traceless ctx _ _ _ refused
  subst same
  rw [putEngine_same (engine?_of_seat found)]

/-- Nothing of a founding that was refused is left. -/
theorem traceless_deploy (config : EngineConfig) (treasuryPlace feedPlace : Nat)
    (now : Timestamp) : Transact.Traceless (deploy config treasuryPlace feedPlace now) := by
  unfold deploy
  apply Transact.readOnly_get.bind_traceless
  intro w
  apply (Transact.readOnly_liftM _).bind_traceless
  intro treasury
  apply (Transact.readOnly_liftM _).bind_traceless
  intro _
  apply Transact.Traceless.bind_unfailing
  · exact Transact.traceless_zoom (fun _ => rfl) (Engine.traceless_create config treasury now)
  · intro engine
    apply Transact.unfailing_get.bind
    intro w'
    exact (Transact.unfailing_modify _).bind fun _ => Transact.unfailing_pure _

/-- A founding that is accepted leaves a seat behind all others, and on the ledger what creating the
engine leaves there. -/
theorem deploy_eq_ok {config : EngineConfig} {treasuryPlace feedPlace i : Nat} {now : Timestamp}
    {w w' : World} (h : deploy config treasuryPlace feedPlace now w = .ok i w') :
    ∃ treasury e, w.treasuries[treasuryPlace]? = some treasury ∧
      Engine.create config treasury now w.ledger = .ok e w'.ledger ∧
      w'.seats = w.seats ++ [⟨e, treasuryPlace, feedPlace⟩] := by
  simp only [deploy, bind_eq_ok, Transact.get_eq_ok, Transact.liftM_eq_ok, atPlace_eq_ok,
    Transact.modify_eq_ok, Transact.pure_eq_ok] at h
  obtain ⟨_, _, ⟨rfl, rfl⟩, treasury, _, ⟨behind, rfl⟩, _, _, ⟨_, rfl⟩, e, _, created, _, _,
    ⟨rfl, rfl⟩, _, _, rfl, _, rfl⟩ := h
  obtain ⟨l, founded, rfl⟩ := Transact.zoom_eq_ok.mp created
  exact ⟨treasury, e, behind, founded, rfl⟩

/-- A founding is accepted, or leaves the world as it was. -/
theorem next_deploy_cases (w : World) (config : EngineConfig) (treasuryPlace feedPlace : Nat)
    (now : Timestamp) :
    (∃ i, deploy config treasuryPlace feedPlace now w =
      .ok i (w.next (.deploy config treasuryPlace feedPlace now))) ∨
    w.next (.deploy config treasuryPlace feedPlace now) = w := by
  have same : w.next (.deploy config treasuryPlace feedPlace now) =
      (deploy config treasuryPlace feedPlace now).after w := Transact.after_discard _ _ w
  rw [same]
  exact (traceless_deploy config treasuryPlace feedPlace now).after_eq w

/-- A deployment that is accepted adds an engine behind those that stand, and one that is refused
adds none. -/
theorem change_deploy (w : World) (config : EngineConfig) (treasuryPlace feedPlace : Nat)
    (now : Timestamp) :
    Change w (.deploy config treasuryPlace feedPlace now)
      (w.next (.deploy config treasuryPlace feedPlace now)) := by
  rcases next_deploy_cases w config treasuryPlace feedPlace now with ⟨_, deployed⟩ | same
  · obtain ⟨treasury, e, _, created, seats⟩ := deploy_eq_ok deployed
    exact .founded (Engine.create_eq_ok created) seats
      ((Engine.keeps_create config treasury now w.ledger).1 _ _ created)
  · rw [same]
    exact .still (.refl w)

/-- Connecting an engine: a check, a step of the engine, and the new connection. -/
def connect {α : Type} (check : World → Outcome α) (i : Nat) (caller : Address) (now : Timestamp)
    (m : α → Context → Transact Engine Unit) (connection : Seat → Seat) : Transact World Unit := do
  let a ← check (← get)
  onEngine i caller now (m a)
  modify fun w => { w with seats := w.seats.modify i connection }

/-- A connection that was refused leaves no trace, if the step of the engine leaves none. -/
theorem traceless_connect {α : Type} {check : World → Outcome α} {i : Nat} {caller : Address}
    {now : Timestamp} {m : α → Context → Transact Engine Unit} {connection : Seat → Seat}
    (traceless : ∀ a ctx, Transact.Traceless (m a ctx)) :
    Transact.Traceless (connect check i caller now m connection) := by
  unfold connect
  apply Transact.readOnly_get.bind_traceless
  intro w
  apply (Transact.readOnly_liftM _).bind_traceless
  intro a
  exact (traceless_onEngine (traceless a)).bind_unfailing fun _ => Transact.unfailing_modify _

/-- A connection that was accepted is a step of the engine and a change of its seat; one that was
refused leaves the world as it was. -/
theorem connect_cases {α : Type} {check : World → Outcome α} {i : Nat} {caller : Address}
    {now : Timestamp} {m : α → Context → Transact Engine Unit} {connection : Seat → Seat}
    (traceless : ∀ a ctx, Transact.Traceless (m a ctx)) (w : World) :
    (∃ a seat ctx e, w.seats[i]? = some seat ∧ w.context seat caller now = .ok ctx ∧
      m a ctx seat.engine = .ok () e ∧
      (connect check i caller now m connection).after w =
        { w with seats := (putEngine w.seats i e).modify i connection }) ∨
    (connect check i caller now m connection).after w = w := by
  rcases (traceless_connect traceless).after_eq w with ⟨_, ok⟩ | same
  · generalize (connect check i caller now m connection).after w = w' at ok ⊢
    obtain ⟨_, _, got, ok⟩ := bind_eq_ok.mp ok
    obtain ⟨rfl, rfl⟩ := Transact.get_eq_ok.mp got
    obtain ⟨a, _, checked, ok⟩ := bind_eq_ok.mp ok
    obtain ⟨_, rfl⟩ := Transact.liftM_eq_ok.mp checked
    obtain ⟨_, _, worked, ok⟩ := bind_eq_ok.mp ok
    obtain ⟨seat, ctx, e, found, circumstances, done, rfl⟩ := onEngine_eq_ok worked
    obtain rfl := Transact.modify_eq_ok.mp ok
    exact .inl ⟨a, seat, ctx, e, found, circumstances, done, rfl⟩
  · exact .inr same

/-- If the step of the engine moves no balance, neither does the connection. -/
theorem change_connect {α : Type} (check : World → Outcome α) (i : Nat) (caller : Address)
    (now : Timestamp) (m : α → Context → Transact Engine Unit) (connection : Seat → Seat)
    (keeps : ∀ seat, (connection seat).engine = seat.engine)
    (steady : ∀ a ctx e e', m a ctx e = .ok () e' → Engine.Steady e e')
    (traceless : ∀ a ctx, Transact.Traceless (m a ctx)) (w : World) (call : Call) :
    Change w call ((connect check i caller now m connection).after w) := by
  rcases connect_cases traceless w with ⟨a, seat, ctx, e, found, _, done, same⟩ | same
  · rw [same]
    exact .connected (engine?_of_seat found) (steady a ctx _ e done) (map_engine_modify keeps _ i)
      rfl
  · rw [same]
    exact .still (.refl w)

/-- A call on an engine ends where its answer says. -/
theorem next_engine {w w' : World} {place : Nat} {caller : Address} {now : Timestamp}
    {remotes : List Nat} {call : EngineCall} {reply : EngineReply}
    (answer : callEngine place caller now remotes call w = .ok reply w') :
    w.next (.engine place caller now remotes call) = w' :=
  (Transact.after_discard _ () w).trans (Transact.after_of_ok answer)

/-- A call on an engine that fails leaves all seats and the ledger as they are. -/
theorem beside_next_engine {w w' : World} {place : Nat} {caller : Address} {now : Timestamp}
    {remotes : List Nat} {call : EngineCall} {f : Failure}
    (answer : callEngine place caller now remotes call w = .error f w') :
    Beside w (w.next (.engine place caller now remotes call)) := by
  have same : w.next (.engine place caller now remotes call) =
      (callEngine place caller now remotes call).after w := Transact.after_discard _ () w
  rw [same]
  unfold Transact.after
  rw [answer]
  cases f with
  | rejected e =>
    show Beside w w'
    rw [callEngine_eq_error answer]
    exact ⟨rfl, rfl⟩
  | fault => exact .refl w
  | absent => exact .refl w

/-- A call on an engine did its work in an arena, or left nothing but requests. -/
theorem change_engine (w : World) (place : Nat) (caller : Address) (now : Timestamp)
    (remotes : List Nat) (call : EngineCall) :
    Change w (.engine place caller now remotes call)
      (w.next (.engine place caller now remotes call)) := by
  cases answer : callEngine place caller now remotes call w with
  | ok reply w' =>
    rw [next_engine answer]
    obtain ⟨seat, ctx, s, s', _, _, stage, ran, rfl⟩ := callEngine_eq_ok answer
    exact .called stage (EngineCall.run_cases ran) answer
  | error f w' => exact .still (beside_next_engine answer).still

/-- A call on the ledger changes nothing but the ledger. -/
theorem next_ledger (w : World) (now : Timestamp) (call : LedgerCall) :
    w.next (.ledger now call) = { w with ledger := (call.run now).after w.ledger } :=
  Transact.after_zoom (call.run now) w rfl

/-- What one call does is one of the cases of `Change`. -/
theorem change_next (w : World) (call : Call) : Change w call (w.next call) := by
  cases call with
  | ledger now call =>
    rw [next_ledger]
    exact .ledger
  | openTreasury | treasury | openFeed | feed => exact .still (beside_next w rfl).still
  | addMinter place minter now =>
    exact .still ((keeps_addMinter place minter now).after w)
  | deploy config treasuryPlace feedPlace now => exact change_deploy w config _ _ now
  | engine place caller now remotes call => exact change_engine w place caller now remotes call
  | setOracle place caller now feedPlace =>
    exact change_connect (fun w => atPlace w.feeds feedPlace) place caller now
      (fun _ => Engine.setOracle) (fun seat => { seat with feed := feedPlace })
      (fun _ => rfl) (fun _ _ _ _ => Engine.setOracle_eq_ok)
      (fun _ => Engine.traceless_setOracle) w _
  | setTreasury place caller now treasuryPlace =>
    exact change_connect (fun w => atPlace w.treasuries treasuryPlace) place caller now
      (fun successor ctx => Engine.setTreasury ctx successor)
      (fun seat => { seat with treasury := treasuryPlace })
      (fun _ => rfl) (fun _ _ _ _ => Engine.setTreasury_eq_ok)
      (fun successor ctx => Engine.traceless_setTreasury ctx successor) w _

/-! ## A small market -/

/-- The account whose address is one byte over and over. -/
def account (n : UInt8) : Address := Bytes32.replicate n

/-- So many tenths of a token. -/
def tenths (n : UInt16) : Amount :=
  ⟨n.toNat * (tokenOne / 10),
    Nat.lt_trans (Nat.mul_lt_mul_of_pos_right n.toNat_lt (by decide)) (by decide)⟩

/-- The repayment that exhausts ten units of collateral at a price of 1.1, a tenth off. -/
def buyout : Amount := ⟨99 * tokenOne / 10 + 1, by decide⟩

/-- The borrower of the small market, who pays and is paid alone. -/
def borrower : Parties := ⟨account 5, account 5, [], none⟩

/-- The borrower opens a vault, and borrows ten stablecoins against ten units of collateral. -/
def opening : EngineCall := .batch borrower
  [.createVault (account 5), .addCollateral 0 ⟨10 * tokenOne, by decide⟩,
    .borrow 0 ⟨10 * tokenOne, by decide⟩]

/-- A small market without interest: the stablecoin 1 is controlled by the treasury 2, which the
account 3 governs; the collateral 7 is priced by the account 4, at two; and the account 5 opens
a vault. -/
def smallMarket : List Call := [
  .ledger 0 (.createAsset (account 1) (account 2) 18),
  .ledger 0 (.createAsset (account 7) (account 8) 18),
  .ledger 0 (.registerMinter (account 7) (account 8) (account 8)),
  .ledger 0 (.mint (account 7) (account 8) (account 5) ⟨100 * tokenOne, by decide⟩),
  .openTreasury (account 2) (account 1) (account 3),
  .openFeed (some (.create (account 4) (account 4) ⟨2 * tokenOne, by decide⟩ 0)),
  .deploy ⟨"market", account 7, 18, { Parameters.default with interestRate := 0 }⟩ 0 0 0,
  .engine 0 (account 3) 0 [] .togglePause,
  .engine 0 (account 5) 0 [] opening]

/-- The small market in a downturn: the price falls to 1.1, the vault is exhausted for all but a
tenth of the stablecoins, and the surplus does not cover the loss. -/
def downturn : List Call := smallMarket ++ [
  .feed 0 0 (.updatePrice (account 4) ⟨11 * tokenOne / 10, by decide⟩),
  .engine 0 (account 5) 0 [] (.liquidate borrower [1] [⟨99 * tokenOne / 10 + 1, by decide⟩]),
  .engine 0 (account 2) 0 [] .accrueToTreasury]

end World

end CollateralDebt
