import Mathlib.Algebra.Order.BigOperators.Group.List
import Mathlib.Algebra.Order.Group.Nat
import CollateralDebt.Proofs.Engine.Deposits

/-!
# Collateral is held

The collateral of an engine's vaults is on the engine's account. Vaults change action by action and
vault by vault, funds move once, as the net flow of a whole call; in all directions of a settlement
the two agree. What has to be ruled out is that somebody else takes from the account: a call that
names it as the source of funds, a swapper, a call on the ledger.

Funds of one asset on one account may be held for several engines, so the invariant is about all of
them together.

## What is proved

- `Arena.Settled.held`, `EngineCall.Accepted.held`, `World.Change.held`: a settlement, a call on an
  engine, and any call keep what is held;
- `Arena.payOut_ne_insufficientBalance`, `Arena.releases_of_le`: what is on the account can go out;
- `World.custody_history`: after every run, the collateral of all vaults is on the account, and no
  release is refused for want of it.
-/

namespace CollateralDebt

open Transact (bind_eq_ok)

/-! ## What is held -/

/-- What an engine has to hold of an asset on an account: the collateral of its vaults, on its own
account, and nothing else. -/
def Engine.held (asset account : Address) (e : Engine) : Nat :=
  Ledger.portion e.state.collateral e.state.address e.deposits asset account

/-- What an engine has to hold is read off what it is and what its vaults have. -/
theorem Engine.held_congr (asset account : Address) {e e' : Engine}
    (identity : e'.identity = e.identity) (deposits : e'.deposits = e.deposits) :
    e'.held asset account = e.held asset account := by
  unfold held
  rw [address_of_identity identity, collateral_of_identity identity, deposits]

namespace Arena

/-- What the engines of an arena have to hold. -/
def held (asset account : Address) (s : Arena) : Nat :=
  (s.engines.map (Engine.held asset account)).sum

/-- The engines of an arena have to hold what the called one and the others have to. -/
theorem held_eq (asset account : Address) (s : Arena) :
    s.held asset account = s.engine.held asset account +
      (s.remotes.map fun r => r.engine.held asset account).sum := by
  unfold held
  rw [map_engines]
  exact List.sum_cons

/-- Engines that keep their deposits have to hold the same. -/
theorem held_elsewhere (asset account : Address) {l l' : List Remote}
    (same : l'.map (fun r => (r.engine.identity, r.engine.deposits)) =
      l.map fun r => (r.engine.identity, r.engine.deposits)) :
    l'.map (fun r => r.engine.held asset account) = l.map fun r => r.engine.held asset account := by
  have read := congrArg (List.map fun (e : _ × Nat) =>
    Ledger.portion e.1.2.2.1 e.1.1 e.2 asset account) same
  rw [List.map_map, List.map_map] at read
  exact read

/-- A settlement takes from an account that is not its source no more than what the vaults of the
account's engine have given up. -/
theorem Settled.held {e : EngineState} {p : Parties} {minted burnt released pulled : Nat}
    {l l' : Ledger} {account : Address} {before after : Nat} (asset : Address)
    (h : Settled e p minted burnt released pulled l l') (safe : p.source ≠ account)
    (flows : after + released = before + pulled) :
    Ledger.portion e.collateral e.address after asset account + (l.balanceOf asset account).toNat ≤
      Ledger.portion e.collateral e.address before asset account +
        (l'.balanceOf asset account).toNat := by
  have moved := h.balance asset account
  rw [Ledger.portion_of_ne fun here => safe here.2.symm,
    Ledger.portion_of_ne fun here => safe here.2.symm] at moved
  by_cases own : asset = e.collateral ∧ account = e.address
  · obtain ⟨rfl, rfl⟩ := own
    simp only [Ledger.portion_self] at moved ⊢
    omega
  · simp only [Ledger.portion_of_ne own] at moved ⊢
    omega

/-- A batch takes from an account no more than its engine no longer has to hold there. -/
theorem held_processBatch {ctx : Context} {p : Parties} {actions : List Action} {payment : Payment}
    {s s' : Arena} {asset account : Address} (exact : s.Exact) (alone : p.swapper = none)
    (safe : p.source ≠ account) (h : processBatch ctx p actions s = .ok payment s') :
    s'.held asset account + (s.ledger.balanceOf asset account).toNat ≤
      s.held asset account + (s'.ledger.balanceOf asset account).toNat := by
  obtain ⟨tally, s₁, gathered, rfl, settled⟩ := processBatch_eq_ok h
  obtain ⟨l, rfl, moved⟩ := settle_eq_ok alone settled
  have flows := deposits_gather exact gathered
  have netted : s₁.engine.deposits + (tally.payment.collateralToGive.toNat -
      tally.payment.collateralToReceive.toNat) = s.engine.deposits +
        (tally.payment.collateralToReceive.toNat - tally.payment.collateralToGive.toNat) := by
    omega
  have kept := moved.held asset safe netted
  have identity := (List.cons.inj (identities_gather gathered)).1
  have others := held_elsewhere asset account (elsewhere_gather gathered)
  rw [Engine.collateral_of_identity identity, Engine.address_of_identity identity,
    (funds_gather gathered).balance] at kept
  rw [held_eq, held_eq, ← others]
  unfold Engine.held
  dsimp only
  rw [Engine.collateral_of_identity identity, Engine.address_of_identity identity]
  omega

/-- A liquidation takes from an account no more than its engine no longer has to hold there. -/
theorem held_liquidate {ctx : Context} {p : Parties} {ids : List VaultId} {amounts : List Amount}
    {report : LiquidationReport} {e : Engine} {s s' : Arena} {asset account : Address}
    (exact : s.Exact) (alone : p.swapper = none) (safe : p.source ≠ account)
    (done : Engine.liquidateAll ctx ids amounts s.engine = .ok report e)
    (paid : handleRepay ctx p report.collateralToGive report.stablecoinToReceive
      { s with engine := e } = .ok () s') :
    s'.held asset account + (s.ledger.balanceOf asset account).toNat ≤
      s.held asset account + (s'.ledger.balanceOf asset account).toNat := by
  obtain ⟨l, rfl, moved⟩ := handleRepay_eq_ok alone paid
  have flows : e.deposits + report.collateralToGive.toNat = s.engine.deposits + 0 :=
    Engine.deposits_liquidatedAll exact.engine done
  have kept := moved.held asset safe flows
  have identity := Engine.identity_liquidatedAll exact.engine done
  rw [held_eq, held_eq]
  unfold Engine.held
  dsimp only at kept ⊢
  rw [Engine.collateral_of_identity identity, Engine.address_of_identity identity] at kept ⊢
  omega

end Arena

/-- An accepted call without a swapper, and with another source of funds, takes from an account no
more than its engine no longer has to hold there. -/
theorem EngineCall.Accepted.held {ctx : Context} {s s' : Arena} {call : EngineCall}
    {reply : EngineReply} {account : Address} (asset : Address) (h : Accepted ctx s call reply s')
    (exact : s.Exact) (alone : call.swapper.isNone = true) (safe : call.source ≠ some account) :
    s'.held asset account + (s.ledger.balanceOf asset account).toNat ≤
      s.held asset account + (s'.ledger.balanceOf asset account).toNat := by
  -- calls that settle nothing leave what is held, and do not take from the ledger
  have unsettled {e : Engine} {l : Ledger} (identity : e.identity = s.engine.identity)
      (deposits : e.deposits = s.engine.deposits)
      (grown : (s.ledger.balanceOf asset account).toNat ≤ (l.balanceOf asset account).toNat) :
      Arena.held asset account { s with engine := e, ledger := l } +
          (s.ledger.balanceOf asset account).toNat ≤
        s.held asset account + (l.balanceOf asset account).toNat := by
    rw [Arena.held_eq, Arena.held_eq]
    dsimp only
    rw [Engine.held_congr asset account identity deposits]
    omega
  cases h with
  | batch is done =>
    obtain ⟨swapper, source⟩ := parties_of_asBatch is
    rw [swapper] at alone
    rw [source] at safe
    exact Arena.held_processBatch exact (Option.isNone_iff_eq_none.mp alone)
      (fun same => safe (congrArg some same)) done
  | liquidate done paid =>
    exact Arena.held_liquidate exact (Option.isNone_iff_eq_none.mp alone)
      (fun same => safe (congrArg some same)) done paid
  | getDebtOut paid =>
    exact unsettled (Engine.identity_paidOut paid) (Engine.deposits_paidOut paid) (Nat.le_refl _)
  | accrueToTreasury done =>
    obtain ⟨_, m, log, l, booked, _, minted, _, rfl⟩ := Arena.processAccrual_eq_ok done
    apply unsettled
    · exact booked.identity
    · have deposits := Engine.deposits_accrued booked
      exact deposits
    · rw [minted asset account]
      exact Nat.le_add_right _ _
  | upkeep is changed =>
    exact unsettled changed.identity (Engine.deposits_upkeep changed)
      (Nat.le_refl _)

namespace World

/-- Nobody names the account as a source of funds, nobody swaps, and no call on the ledger takes
from what the account has of the asset. -/
def Guarded (asset account : Address) (w : World) : Call → Prop
  | .ledger now call =>
    w.ledger.balanceOf asset account ≤ ((call.run now).after w.ledger).balanceOf asset account
  | .engine _ _ _ _ call => call.swapper.isNone = true ∧ call.source ≠ some account
  | _ => True

instance (asset account : Address) (w : World) :
    (call : Call) → Decidable (Guarded asset account w call)
  | .ledger _ _ => inferInstanceAs (Decidable (Ledger.balanceOf _ _ _ ≤ _))
  | .engine _ _ _ _ _ => inferInstanceAs (Decidable (_ ∧ _))
  | .openTreasury _ _ _ | .treasury _ _ | .addMinter _ _ _ | .openFeed _ | .feed _ _ _
  | .deploy _ _ _ _ | .setOracle _ _ _ _ | .setTreasury _ _ _ _ => inferInstanceAs (Decidable True)

/-- What the engines of a world have to hold of an asset on an account. -/
def held (asset account : Address) (w : World) : Nat :=
  (w.seats.map fun seat => seat.engine.held asset account).sum

/-- One call of a guarded run takes from the account no more than engines no longer have to hold
there. -/
theorem Change.held {asset account : Address} {w w' : World} {call : Call} (h : Change w call w')
    (exact : ∀ seat ∈ w.seats, seat.engine.Exact) (guarded : Guarded asset account w call)
    (hw : w.held asset account ≤ (w.ledger.balanceOf asset account).toNat) :
    w'.held asset account ≤ (w'.ledger.balanceOf asset account).toNat := by
  cases h with
  | still same =>
    unfold World.held at hw ⊢
    rw [same.seats, same.funds.balance]
    exact hw
  | ledger => exact Nat.le_trans hw guarded
  | @founded _ _ _ _ seat _ fresh seats funds =>
    have nothing : seat.engine.held asset account = 0 := by
      unfold Engine.held Engine.deposits Engine.sum
      rw [fresh.vaults, Table.sum_empty, Ledger.portion_zero]
    unfold World.held at hw ⊢
    rw [seats, funds.balance, List.map_append, List.sum_append]
    simpa [nothing] using hw
  | @connected _ place o e _ found steady engines ledger =>
    have kept := congrArg (List.map (Engine.held asset account)) engines
    rw [List.map_map, List.map_map] at kept
    have same := Engine.held_congr asset account steady.identity
      (Engine.deposits_of_vaults steady.vaults)
    have held : w'.held asset account = w.held asset account :=
      congrArg List.sum (kept.trans (map_putEngine found same))
    rw [held, ledger]
    exact hw
  | @called place caller now remotes call ctx s s' reply stage accepted answer =>
    have length := accepted.length_engines (stage.exact exact)
    have sums := sum_putEngines (Engine.held asset account) (nodup_places place remotes) length
      stage.engines
    have step := accepted.held asset (stage.exact exact) guarded.1 guarded.2
    unfold Arena.held at step
    rw [stage.ledger] at step
    unfold World.held at hw ⊢
    unfold restage
    dsimp only
    omega

/-- A guarded run keeps what the engines have to hold on the account. -/
theorem held_run {asset account : Address} {w : World} {calls : List Call}
    (exact : ∀ seat ∈ w.seats, seat.engine.Exact)
    (guarded : Throughout (Guarded asset account) w calls)
    (hw : w.held asset account ≤ (w.ledger.balanceOf asset account).toNat) :
    (w.run calls).held asset account ≤ ((w.run calls).ledger.balanceOf asset account).toNat := by
  induction calls generalizing w with
  | nil => exact hw
  | cons call rest ih =>
    have change := change_next w call
    exact ih (change.exact exact) guarded.2 (change.held exact guarded.1 hw)

end World

/-! ## Releases -/

namespace Arena

/-- If a payment that is settled is refused for want of funds, then all that goes out had gone out,
and it was refused when something was to come in. -/
def Releases (ctx : Context) (p : Parties) (payment : Payment) (s : Arena) : Prop :=
  ∀ (available needed : Amount) (s' : Arena),
    settle ctx p payment s = .error (.rejected (.insufficientBalance available needed)) s' →
    ∃ s₁, payOut s.engine.state ctx p payment s = .ok () s₁ ∧
      payIn s.engine.state ctx p payment s₁ =
        .error (.rejected (.insufficientBalance available needed)) s'

/-- What is on the engine's account can go out. -/
theorem payOut_ne_insufficientBalance {ctx : Context} {p : Parties} {payment : Payment}
    {s s' : Arena} {available needed : Amount}
    (enough : payment.collateralToGive.toNat - payment.collateralToReceive.toNat ≤
      (s.ledger.balanceOf s.engine.state.collateral s.engine.state.address).toNat) :
    payOut s.engine.state ctx p payment s ≠
      .error (.rejected (.insufficientBalance available needed)) s' := by
  intro h
  unfold payOut at h
  rcases Transact.bind_eq_error.mp h with h | ⟨_, _, minting, h⟩
  · obtain ⟨_, refused⟩ := leg_eq_error h
    exact Ledger.mint_ne_insufficientBalance refused
  · -- minting only adds to what is there to be released
    obtain ⟨l, rfl, grown⟩ := leg_eq_ok
      (P := fun _ l l' => ∀ x y, l.balanceOf x y ≤ l'.balanceOf x y)
      (fun _ _ _ => Nat.le_refl _)
      (fun l l' minted x y => by
        rw [Amount.le_iff, (Ledger.mint_eq_ok minted).1 x y]
        exact Nat.le_add_right _ _)
      minting
    obtain ⟨_, refused⟩ := leg_eq_error h
    exact Ledger.transfer_ne_insufficientBalance (Nat.le_trans enough (grown _ _)) refused

/-- Where enough is on the account, what goes out does so before anything can be refused for want of
funds. -/
theorem releases_of_le {ctx : Context} {p : Parties} {payment : Payment} {s : Arena}
    (enough : payment.collateralToGive.toNat - payment.collateralToReceive.toNat ≤
      (s.ledger.balanceOf s.engine.state.collateral s.engine.state.address).toNat) :
    s.Releases ctx p payment := by
  intro available needed s' h
  rcases settle_eq_error h with refused | paid
  · exact absurd refused (payOut_ne_insufficientBalance enough)
  · exact paid

end Arena

namespace World

/-- The collateral of all vaults of the engine at a place is on its account. So whatever batch or
liquidation comes next, when its vaults are done and its payment is settled, the collateral goes out
before anything is refused for want of funds. -/
structure Custody (w : World) (place : Nat) (e : Engine) : Prop where
  covered : (e.state.registry.vaults.values.map (·.collateral.toNat)).sum ≤
    (w.ledger.balanceOf e.state.collateral e.state.address).toNat
  batch : ∀ ctx p remotes s, w.Stage place remotes s → ∀ actions tally s₁,
    Arena.gather ctx actions s = .ok tally s₁ → s₁.Releases ctx p tally.payment
  liquidation : ∀ ctx p remotes s, w.Stage place remotes s → ∀ ids amounts report e₁,
    Engine.liquidateAll ctx ids amounts s.engine = .ok report e₁ →
      Arena.Releases ctx p report.payment { s with engine := e₁ }

/-- After every run in which nobody names the engine's account as a source of funds, nobody swaps,
and no call on the ledger takes the engine's collateral from it, the engine has its collateral. -/
theorem custody_history {calls : List Call} {place : Nat} {e : Engine}
    (found : engine? (history calls).seats place = some e)
    (guarded : Throughout (Guarded e.state.collateral e.state.address) .empty calls) :
    Custody (history calls) place e := by
  have exact := Reachable.exact ⟨calls, rfl⟩
  have held := held_run (w := .empty) (fun _ mem => nomatch mem) guarded (Nat.zero_le _)
  change (history calls).held _ _ ≤ _ at held
  have covered : e.deposits ≤
      ((history calls).ledger.balanceOf e.state.collateral e.state.address).toNat := by
    obtain ⟨seat, here, rfl⟩ := Option.map_eq_some_iff.mp found
    refine Nat.le_trans ?_ held
    have own : seat.engine.held seat.engine.state.collateral seat.engine.state.address =
        seat.engine.deposits := Ledger.portion_self _ _ _
    rw [← own]
    exact List.le_sum_of_mem (List.mem_map_of_mem (List.mem_of_getElem? here))
  refine ⟨covered, fun ctx p remotes s stage actions tally s₁ gathered => ?_,
    fun ctx p remotes s stage ids amounts report e₁ done => ?_⟩
  · cases found.symm.trans stage.engine
    have flows := Arena.deposits_gather (stage.exact exact) gathered
    have identity := (List.cons.inj (Arena.identities_gather gathered)).1
    apply Arena.releases_of_le
    rw [(Arena.funds_gather gathered).balance, Engine.collateral_of_identity identity,
      Engine.address_of_identity identity, stage.ledger]
    omega
  · cases found.symm.trans stage.engine
    have flows := Engine.deposits_liquidatedAll (stage.exact exact).engine done
    have identity := Engine.identity_liquidatedAll (stage.exact exact).engine done
    apply Arena.releases_of_le
    dsimp only [LiquidationReport.payment]
    rw [Engine.collateral_of_identity identity, Engine.address_of_identity identity,
      Amount.toNat_zero, stage.ledger]
    omega

set_option maxRecDepth 10000 in
/-- In the small market the engine holds the ten units of its one vault. -/
theorem custody_smallMarket : ∃ e, engine? (history smallMarket).seats 0 = some e ∧
    ((history smallMarket).ledger.balanceOf e.state.collateral e.state.address).toNat =
      10 * tokenOne ∧
    Custody (history smallMarket) 0 e := by
  have founded : (engine? (history smallMarket).seats 0).isSome = true := by decide +kernel
  have balance : ((history smallMarket).ledger.balanceOf
      ((engine? (history smallMarket).seats 0).get founded).state.collateral
      ((engine? (history smallMarket).seats 0).get founded).state.address).toNat =
      10 * tokenOne := by
    decide +kernel +revert
  have guarded : Throughout
      (Guarded ((engine? (history smallMarket).seats 0).get founded).state.collateral
        ((engine? (history smallMarket).seats 0).get founded).state.address) .empty
      smallMarket := by
    decide +kernel +revert
  exact ⟨_, (Option.some_get founded).symm, balance,
    custody_history (Option.some_get founded).symm guarded⟩

end World

end CollateralDebt
