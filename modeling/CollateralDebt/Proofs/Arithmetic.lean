import CollateralDebt.Proofs.Engine.TameCall

/-!
# Overflow is the only arithmetic failure

In every reachable world the arithmetic of an engine can overflow, and do nothing worse. Nothing
falls below zero, nothing is divided by zero, and nothing that is not checked leaves its range, with
one exception that is named: the half that is added to a product of the interest to round it.

What this rests on holds of every engine at all times: its total is exact, its settings go together,
and its accumulator has not fallen below one. The ledger can be any that was built by its own calls,
whatever the world was reached with; of the calls on it, a permit also needs a nonce to be left.

## What is proved

- `PriceFeed.quoted_read`: a feed that answers gives a price above zero;
- `Engine.tameAt_create` and its like: how calls on other parties can be refused;
- `World.Reachable.overflow_alone`: no call reports a mistake in its arithmetic, for itself or for a
  vault that it skipped, and neither does a call that only reads.
-/

namespace CollateralDebt

open Transact (FailsOnlyAt TameAt failsOnlyAt_liftM_bind failsOnlyAt_modify
  failsOnlyAt_modify_bind failsOnlyAt_pure failsOnlyAt_require_bind)

/-! ## Price feeds -/

namespace PriceFeed

variable {q : Prop}

theorem tame_requireState (f : PriceFeed) : Outcome.Tame q f.requireState :=
  Outcome.tame_ofOption (by simp) _

/-- A feed that answers gives a price above zero. -/
theorem quoted_read (f : PriceFeed) (now : Timestamp) : Engine.Quoted (f.read now) where
  tame := by
    unfold read FeedState.price Observation.usablePrice
    apply f.tame_requireState.bind
    intro state _
    apply (Outcome.tame_require (by simp)).bind
    intro _ _
    apply (Outcome.tame_require (by simp)).bind
    intro _ _
    apply (Outcome.tame_require (by simp)).bind
    intro _ _
    exact Outcome.failsOnly_ok _
  pos price known := by
    simp only [read, FeedState.price, Observation.usablePrice, Outcome.bind_eq_ok,
      Outcome.require_eq_ok, Outcome.pure_eq_ok] at known
    obtain ⟨_, _, _, _, _, nonzero, _, _, rfl⟩ := known
    exact Amount.ne_zero_iff.mp nonzero

/-- A price feed refuses for causes of its own. -/
theorem tame_run (f : PriceFeed) (now : Timestamp) (call : FeedCall) :
    Outcome.Tame q (call.run f now) := by
  cases call with
  | updatePrice caller price =>
    apply f.tame_requireState.bind
    intro state _
    refine Outcome.FailsOnly.bind ?_ fun _ _ => Outcome.failsOnly_ok _
    unfold FeedState.updatePrice
    apply (Outcome.tame_require (by simp)).bind
    intro _ _
    apply (Outcome.tame_require (by simp)).bind
    intro _ _
    apply (Outcome.tame_require (by simp)).bind
    intro _ _
    apply (Outcome.tame_require (by simp)).bind
    exact fun _ _ => Outcome.failsOnly_ok _
  | setOperator caller operator =>
    apply f.tame_requireState.bind
    intro state _
    refine Outcome.FailsOnly.bind ?_ fun _ _ => Outcome.failsOnly_ok _
    unfold FeedState.setOperator
    apply (Outcome.tame_require (by simp)).bind
    intro _ _
    apply (Outcome.tame_require (by simp)).bind
    intro _ _
    apply (Outcome.tame_require (by simp)).bind
    exact fun _ _ => Outcome.failsOnly_ok _
  | setActive caller active =>
    apply f.tame_requireState.bind
    intro state _
    refine Outcome.FailsOnly.bind ?_ fun _ _ => Outcome.failsOnly_ok _
    unfold FeedState.setActive
    exact (Outcome.tame_require (by simp)).bind fun _ _ => Outcome.failsOnly_ok _

end PriceFeed

/-! ## Treasuries -/

namespace Treasury

variable {q : Prop}

theorem tame_create (address stablecoin governor : Address) :
    Outcome.Tame q (create address stablecoin governor) :=
  (Outcome.tame_require (by simp)).bind fun _ _ => Outcome.failsOnly_ok _

theorem tame_requireGovernor (t : Treasury) (caller : Address) :
    Outcome.Tame q (t.requireGovernor caller) := Outcome.tame_require (by simp)

/-- A treasury computes nothing. -/
theorem tame_run (t : Treasury) (call : TreasuryCall) : Outcome.Tame q (call.run t) := by
  cases call with
  | grant caller account role =>
    apply (t.tame_requireGovernor caller).bind
    intro _ _
    exact (Outcome.tame_require (by simp)).bind fun _ _ => Outcome.failsOnly_ok _
  | revoke caller account role =>
    apply (t.tame_requireGovernor caller).bind
    intro _ _
    cases role with
    | governor => exact (Outcome.tame_require (by simp)).bind fun _ _ => Outcome.failsOnly_ok _
    | guardian => exact Outcome.failsOnly_ok _
  | addEngine caller engine =>
    apply (t.tame_requireGovernor caller).bind
    intro _ _
    exact (Outcome.tame_require (by simp)).bind fun _ _ => Outcome.failsOnly_ok _
  | removeEngine caller engine =>
    apply (t.tame_requireGovernor caller).bind
    intro _ _
    exact (Outcome.tame_require (by simp)).bind fun _ _ => Outcome.failsOnly_ok _

end Treasury

/-! ## New engines -/

/-- The check of parameters compares numbers, and refuses for a cause of its own. -/
theorem Parameters.tame_validate {q : Prop} (params : Parameters) :
    Outcome.Tame q params.validate := by
  unfold validate
  apply (Outcome.tame_require (by simp)).bind
  intro _ _
  apply (Outcome.tame_require (by simp)).bind
  intro _ _
  apply (Outcome.tame_require (by simp)).bind
  intro _ _
  apply (Outcome.tame_require (by simp)).bind
  intro _ _
  apply (Outcome.tame_require (by simp)).bind
  intro _ _
  apply (Outcome.tame_require (by simp)).bind
  intro _ _
  apply (Outcome.tame_require (by simp)).bind
  intro _ _
  exact Outcome.tame_require (by simp)

/-- Founding an engine raises ten to the precision of its collateral, with a check. -/
theorem Engine.tameAt_create {q : Prop} {l : Ledger} (config : EngineConfig) (treasury : Treasury)
    (now : Timestamp) : TameAt q l (create config treasury now) := by
  unfold create
  refine failsOnlyAt_require_bind (by simp) ?_
  intro _
  refine failsOnlyAt_require_bind (by simp) ?_
  intro _
  apply failsOnlyAt_liftM_bind (Parameters.tame_validate _)
  intro _ _
  apply failsOnlyAt_liftM_bind (BoostCurve.tame_ofPoints _ _)
  intro curve _
  apply (Ledger.tameAt_registerMinter _ _ _ _).bind
  intro _ _ _
  apply failsOnlyAt_liftM_bind (tame_narrow _)
  intro unit _
  exact failsOnlyAt_pure _

/-! ## What is asked of a call -/

namespace Call

/-- How many permits of an owner for an asset are in a call. -/
def permits (asset owner : Address) : Call → Nat
  | .ledger _ call => if call.isPermit asset owner then 1 else 0
  | .engine _ _ _ _ call => call.permits asset owner
  | _ => 0

end Call

/-- Nothing that is read of an engine, at a time and for a quote of its collateral, reports a mistake
in its arithmetic. Where the interest is asked for, the engine can be overgrown. -/
structure Engine.ReadTamely (e : Engine) (quote : Outcome Amount) (now : Timestamp) : Prop where
  accumulator : (e.currentAccumulator now).Tame (e.Overgrown now)
  totalDebt : (e.totalDebt now).Tame (e.Overgrown now)
  debt : ∀ id, (e.vaultDebt id now).Tame (e.Overgrown now)
  health : ∀ id, (e.vaultHealthFactor quote id now).Tame (e.Overgrown now)
  terms : ∀ id liquidator, (e.checkLiquidation quote id liquidator now).Tame (e.Overgrown now)
  boost : ∀ liquidator, (e.liquidationBoost liquidator).Tame False

/-- A fit engine is read tamely at any time and for any quote that is not zero. -/
theorem Engine.Fit.readTamely {e : Engine} {quote : Outcome Amount} (fit : e.Fit)
    (quoted : Quoted quote) (now : Timestamp) : e.ReadTamely quote now where
  accumulator := tame_currentAccumulator e now
  totalDebt := tame_totalDebt e now
  debt id := tame_vaultDebt e id now
  health _ := tame_vaultHealthFactor fit quoted
  terms _ _ := tame_checkLiquidation fit quoted
  boost := tame_liquidationBoost fit

namespace World

variable {q : Prop} {w : World}

/-- An engine whose interest the call books is overgrown. -/
def Overgrown (w : World) : Call → Prop
  | .engine place _ now remotes call => ∃ s, w.Stage place remotes s ∧ call.Overgrown s now
  | _ => False

/-- The vaults that an accepted call skipped, with the causes. -/
def skipped (w : World) : Call → List (VaultId × Error)
  | .engine place caller now remotes call =>
    match callEngine place caller now remotes call w with
    | .ok (.report report) _ => report.skipped
    | _ => []
  | _ => []

/-! ## Calls on the world -/

/-- A place where nothing stands is no matter of arithmetic. -/
theorem tame_atPlace {α : Type} (l : List α) (i : Nat) : Outcome.Tame q (atPlace l i) := by
  intro f failed
  rw [atPlace_eq_error failed]
  trivial

/-- A step of one engine is as tame in the world as it is on every engine. -/
theorem tameAt_onEngine {i : Nat} {caller : Address} {now : Timestamp}
    {m : Context → Transact Engine Unit} (h : ∀ ctx e, TameAt q e (m ctx)) :
    TameAt q w (onEngine i caller now m) := by
  refine Transact.failsOnlyAt_get_bind ?_
  apply failsOnlyAt_liftM_bind (tame_atPlace _ _)
  intro seat _
  refine failsOnlyAt_liftM_bind ?_ ?_
  · intro f failed
    rw [context_eq_error failed]
    trivial
  · intro ctx _
    exact Transact.failsOnlyAt_zoom (h ctx _)

/-- A deployment is tame: it founds an engine on what stands at two places. -/
theorem tameAt_deploy (config : EngineConfig) (treasuryPlace feedPlace : Nat) (now : Timestamp) :
    TameAt q w (deploy config treasuryPlace feedPlace now) := by
  unfold deploy
  refine Transact.failsOnlyAt_get_bind ?_
  apply failsOnlyAt_liftM_bind (tame_atPlace _ _)
  intro treasury _
  apply failsOnlyAt_liftM_bind (tame_atPlace _ _)
  intro _ _
  refine FailsOnlyAt.bind (Transact.failsOnlyAt_zoom (Engine.tameAt_create _ _ _)) ?_
  intro engine _ _
  refine Transact.failsOnlyAt_get_bind ?_
  refine failsOnlyAt_modify_bind ?_
  exact failsOnlyAt_pure _

/-- The price that an engine is called with comes from a feed. -/
theorem quoted_of_context {seat : Seat} {caller : Address} {now : Timestamp} {ctx : Context}
    (known : w.context seat caller now = .ok ctx) : Engine.Quoted ctx.price := by
  obtain ⟨feed, _, _, _, price⟩ := context_eq_ok known
  rw [price]
  exact feed.quoted_read now

/-- A call on an engine of a world whose engines are exact and fit. -/
theorem tameAt_callEngine {place : Nat} {caller : Address} {now : Timestamp} {remotes : List Nat}
    {call : EngineCall} (exact' : ∀ seat ∈ w.seats, seat.engine.Exact)
    (fit : ∀ seat ∈ w.seats, seat.engine.Fit) (balanced : w.ledger.Balanced)
    (alone : call.swapper = none)
    (room : ∀ asset owner, (w.ledger.nonce asset owner).toNat + call.permits asset owner <
      UInt64.size) :
    TameAt (w.Overgrown (.engine place caller now remotes call)) w
      (callEngine place caller now remotes call) := by
  intro f w' failed
  rcases callEngine_cases place caller now remotes w with absent | ⟨seat, ctx, s, _, known, stage,
    same⟩
  · cases (absent call).symm.trans failed
    trivial
  obtain ⟨_, _, _, rfl, _⟩ := context_eq_ok known
  rw [same] at failed
  cases ran : call.run ctx s with
  | ok reply s' =>
    rw [ran] at failed
    cases failed
  | error g s' =>
    rw [ran] at failed
    cases failed
    rw [← stage.ledger] at balanced room
    have tame := EngineCall.tameAt (stage.exact exact') (stage.fit fit) balanced
      (quoted_of_context known) alone room _ _ ran
    exact tame.mono fun overgrown => ⟨s, stage, overgrown⟩

/-- The causes for which an accepted call skips vaults tell of no mistake in the arithmetic. -/
theorem tame_of_mem_skipped {call : Call} (exact' : ∀ seat ∈ w.seats, seat.engine.Exact)
    (fit : ∀ seat ∈ w.seats, seat.engine.Fit) : ∀ entry ∈ w.skipped call, entry.2.Tame := by
  intro entry mem
  cases call with
  | engine place caller now remotes call =>
    unfold skipped at mem
    dsimp only at mem
    split at mem
    · rename_i report w' answer
      obtain ⟨seat, ctx, s, s', _, known, stage, ran, -⟩ := callEngine_eq_ok answer
      cases EngineCall.run_cases ran with
      | liquidate done =>
        exact Engine.tame_of_skipped (stage.exact exact').engine (stage.fit fit).engine
          (quoted_of_context known) done entry mem
    · cases mem
  | _ => cases mem

/-- How a call can be refused in a world whose engines are exact and fit. -/
theorem tameAt_run {call : Call} (exact' : ∀ seat ∈ w.seats, seat.engine.Exact)
    (fit : ∀ seat ∈ w.seats, seat.engine.Fit) (balanced : w.ledger.Balanced)
    (alone : call.swapper = none)
    (room : ∀ asset owner, (w.ledger.nonce asset owner).toNat + call.permits asset owner <
      UInt64.size) : TameAt (w.Overgrown call) w call.run := by
  cases call with
  | ledger now call =>
    refine Transact.failsOnlyAt_zoom ?_
    apply LedgerCall.tameAt balanced
    rintro signed rfl
    have counted := room signed.asset signed.owner
    simpa [Call.permits, LedgerCall.isPermit] using counted
  | openTreasury address stablecoin governor =>
    refine FailsOnlyAt.bind ?_ fun _ _ _ => failsOnlyAt_pure _
    apply failsOnlyAt_liftM_bind (Treasury.tame_create _ _ _)
    intro treasury _
    refine Transact.failsOnlyAt_get_bind ?_
    exact failsOnlyAt_modify_bind (failsOnlyAt_pure _)
  | treasury place call =>
    refine Transact.failsOnlyAt_update ?_
    apply (tame_atPlace _ _).bind
    intro treasury _
    exact (treasury.tame_run call).bind fun _ _ => Outcome.failsOnly_ok _
  | addMinter place minter now =>
    refine Transact.failsOnlyAt_get_bind ?_
    apply failsOnlyAt_liftM_bind (tame_atPlace _ _)
    intro treasury _
    exact Transact.failsOnlyAt_zoom (Ledger.tameAt_registerMinter _ _ _ _)
  | openFeed state =>
    refine FailsOnlyAt.bind ?_ fun _ _ _ => failsOnlyAt_pure _
    refine Transact.failsOnlyAt_get_bind ?_
    exact failsOnlyAt_modify_bind (failsOnlyAt_pure _)
  | feed place now call =>
    refine Transact.failsOnlyAt_update ?_
    apply (tame_atPlace _ _).bind
    intro feed _
    exact (feed.tame_run now call).bind fun _ _ => Outcome.failsOnly_ok _
  | deploy config treasuryPlace feedPlace now =>
    exact (tameAt_deploy _ _ _ _).bind fun _ _ _ => failsOnlyAt_pure _
  | engine place caller now remotes call =>
    exact (tameAt_callEngine exact' fit balanced alone room).bind fun _ _ _ => failsOnlyAt_pure _
  | setOracle place caller now feedPlace =>
    refine Transact.failsOnlyAt_get_bind ?_
    apply failsOnlyAt_liftM_bind (tame_atPlace _ _)
    intro _ _
    refine FailsOnlyAt.bind (tameAt_onEngine fun _ _ => Engine.tameAt_setOracle) fun _ _ _ => ?_
    exact failsOnlyAt_modify _
  | setTreasury place caller now treasuryPlace =>
    refine Transact.failsOnlyAt_get_bind ?_
    apply failsOnlyAt_liftM_bind (tame_atPlace _ _)
    intro successor _
    refine FailsOnlyAt.bind (tameAt_onEngine fun _ _ => Engine.tameAt_setTreasury _) fun _ _ _ => ?_
    exact failsOnlyAt_modify _

/-! ## Reachable worlds -/

/-- The world on another ledger. -/
def withLedger (w : World) (ledger : Ledger) : World := { w with ledger }

/-- No mistake in the arithmetic comes of a call, nor of reading an engine. -/
structure OverflowAlone (w : World) (call : Call) : Prop where
  /-- A call that is refused reports none. It faults only if it books the interest of an engine that
  is overgrown, which takes a product that has no room for its rounding half. -/
  refused : ∀ f w', call.run w = .error f w' → f.Tame (w.Overgrown call)
  /-- No vault is skipped for one. -/
  skipped : ∀ entry ∈ w.skipped call, entry.2.Tame
  /-- Reading an engine reports none, at any time and with any feed. -/
  read : ∀ seat ∈ w.seats, ∀ feed ∈ w.feeds, ∀ now, seat.engine.ReadTamely (feed.read now) now
  /-- Products of two amounts, which the formulas take exactly, are in range. -/
  products : ∀ a b : Amount, Wide.mul a.toNat b.toNat = .ok (a.toNat * b.toNat) ∧
    Wide.add (a.toNat * b.toNat) 1 = .ok (a.toNat * b.toNat + 1)

/-- In every reachable world, on every ledger that is built by its own calls, overflow is the only
arithmetic failure of a call without a swapper, as long as no owner has more permits than there are
nonces. -/
theorem Reachable.overflow_alone (reachable : w.Reachable) (built : List (Timestamp × LedgerCall))
    (call : Call) (alone : call.swapper = none)
    (room : ∀ asset owner, (built.countP fun entry => entry.2.isPermit asset owner) +
      call.permits asset owner < UInt64.size) :
    (w.withLedger (.history built)).OverflowAlone call := by
  have left : ∀ asset owner, ((Ledger.history built).nonce asset owner).toNat +
      call.permits asset owner < UInt64.size := by
    intro asset owner
    have counted := Ledger.nonce_history_le built asset owner
    have few := room asset owner
    omega
  exact {
    refused := tameAt_run (w := w.withLedger _) reachable.exact reachable.fit
      (Ledger.balanced_history built) alone left
    skipped := tame_of_mem_skipped (w := w.withLedger _) reachable.exact reachable.fit
    read := fun seat mem feed _ now => (reachable.fit seat mem).readTamely (feed.quoted_read now) now
    products := Wide.mul_amounts }

/-- The ledger of the small market, built by its own calls. -/
def smallLedger : List (Timestamp × LedgerCall) :=
  let engine := Engine.addressOf (account 2) (account 7) "market"
  [(0, .createAsset (account 1) (account 2) 18), (0, .createAsset (account 7) (account 8) 18),
    (0, .registerMinter (account 7) (account 8) (account 8)),
    (0, .mint (account 7) (account 8) (account 5) (tenths 1000)),
    (0, .registerMinter (account 1) (account 2) engine),
    (0, .mint (account 1) engine (account 5) (tenths 100)),
    (0, .transferFrom (account 7) (account 5) (account 5) engine (tenths 100))]

/-- The small market after a fall of the price to 1.1. -/
def fallenPrice : List Call := smallMarket ++
  [.feed 0 0 (.updatePrice (account 4) (tenths 11))]

/-- Two vaults are to be liquidated, of which there is only one. -/
def oneOfTwo : Call := .engine 0 (account 5) 0 [] (.liquidate borrower [1, 2] [buyout, tenths 10])

set_option maxRecDepth 10000 in
/-- In the small market after a fall of the price, one vault is liquidated, and one that there is not
is skipped, for that reason. -/
theorem overflow_alone_fallenPrice :
    ((history fallenPrice).withLedger (.history smallLedger)).skipped oneOfTwo =
        [(2, .nonexistentVault 2)] ∧
      ((history fallenPrice).withLedger (.history smallLedger)).OverflowAlone oneOfTwo :=
  ⟨by decide +kernel,
    Reachable.overflow_alone ⟨fallenPrice, rfl⟩ smallLedger oneOfTwo rfl fun asset owner =>
      show 0 + 0 < UInt64.size by decide⟩

end World

end CollateralDebt
