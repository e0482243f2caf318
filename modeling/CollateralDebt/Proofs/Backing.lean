import CollateralDebt.Proofs.Engine.Worth
import CollateralDebt.Proofs.World.Run

/-!
# Stablecoins are backed

Where engines alone mint and burn a stablecoin, and debt leaves an engine only for another, the
supply is covered by what the engines are worth: the debt of all vaults, with the losses that are
booked and without the surplus that is still to be minted. What is missing is bounded by counting:
one unit of normalized debt for every action that takes debt on, one stablecoin unit for every vault
that a liquidation exhausted, and the losses that a treasury was left with.

The argument is one potential, `Engine.worth`, summed over all engines. Every action of a batch,
with its flows; every liquidation, with what it burns; and every settlement with a treasury change
the supply by no more than the potential, up to what is counted.

## What is proved

- `Arena.Applied.worth`: one action against its flows;
- `EngineCall.Accepted.shortfall`, `World.Change.shortfall`: one call against the supply;
- `World.shortfall_run`: a whole run;
- `World.totalSupply_le_backing`: the supply after a run from the beginning.
-/

namespace CollateralDebt

/-! ## What is counted -/

/-- Whether an action takes debt on that is rounded: borrowing, and taking debt from another engine
than its `own`. -/
def Action.borrows (own : Address) : Action → Bool
  | .borrow _ _ => true
  | .getDebtIn _ givingEngine _ _ => givingEngine ≠ own
  | _ => false

namespace EngineCall

/-- The actions of a call that take debt on. -/
def borrowings (own : Address) (call : EngineCall) : Nat :=
  match call.asBatch with
  | some (_, actions) => actions.countP (·.borrows own)
  | none => 0

/-- Whether a call takes debt out of an engine directly. -/
def takesDebtOut : EngineCall → Bool
  | .getDebtOut _ _ _ _ => true
  | _ => false

end EngineCall

namespace EngineReply

/-- The losses that a treasury was left with. -/
def uncovered : EngineReply → Nat
  | .accrual settled => settled.badDebt.toNat
  | _ => 0

/-- The vaults that a liquidation exhausted: it left them empty, which no other way of liquidating
does. -/
def emptied (after : Engine) : EngineReply → Nat
  | .report liquidation => (after.emptyAmong liquidation.liquidated).card
  | _ => 0

end EngineReply

namespace World

/-- What an accepted call on an engine counts for, given the engine before and after it. -/
def ofAccepted (count : Engine → Engine → EngineCall → EngineReply → Nat) (w : World) : Call → Nat
  | .engine place caller now remotes call =>
    match callEngine place caller now remotes call w with
    | .ok reply w' =>
      match engine? w.seats place, engine? w'.seats place with
      | some before, some after => count before after call reply
      | _, _ => 0
    | .error _ _ => 0
  | _ => 0

/-- The borrowings, and the transfers of debt from another engine, of an accepted batch. -/
def borrowings : World → Call → Nat :=
  ofAccepted fun before _ call _ => call.borrowings before.state.address

/-- The losses that settling with the treasury did not cover. -/
def uncovered : World → Call → Nat := ofAccepted fun _ _ _ reply => reply.uncovered

/-- The vaults that an accepted liquidation exhausted. -/
def emptied : World → Call → Nat := ofAccepted fun _ after _ reply => reply.emptied after

/-- What an accepted call on an engine counts for is read off its arena before and after. -/
theorem ofAccepted_engine (count : Engine → Engine → EngineCall → EngineReply → Nat) {w : World}
    {place : Nat} {caller : Address} {now : Timestamp} {remotes : List Nat} {call : EngineCall}
    {reply : EngineReply} {s s' : Arena} (stage : w.Stage place remotes s)
    (answer : callEngine place caller now remotes call w = .ok reply (w.restage place remotes s')) :
    ofAccepted count w (.engine place caller now remotes call) =
      count s.engine s'.engine call reply := by
  simp only [ofAccepted, answer, stage.engine, engine?_restage stage s']

/-- Only engines mint or burn the asset, nobody swaps, and debt leaves an engine for another one
only. -/
def Confined (asset : Address) (w : World) : Call → Prop
  | .ledger now call =>
    ((call.run now).after w.ledger).totalSupply asset = w.ledger.totalSupply asset
  | .engine _ _ _ _ call => call.swapper.isNone = true ∧ call.takesDebtOut = false
  | _ => True

instance (asset : Address) (w : World) : (call : Call) → Decidable (Confined asset w call)
  | .ledger _ _ => inferInstanceAs (Decidable (Ledger.totalSupply _ _ = _))
  | .engine _ _ _ _ _ => inferInstanceAs (Decidable (_ ∧ _))
  | .openTreasury _ _ _ | .treasury _ _ | .addMinter _ _ _ | .openFeed _ | .feed _ _ _
  | .deploy _ _ _ _ | .setOracle _ _ _ _ | .setTreasury _ _ _ _ => inferInstanceAs (Decidable True)

end World

/-! ## One action -/

/-- The stablecoins that a batch pays out, without those that it takes in. -/
def Tally.net (t : Tally) : ℤ :=
  t.payment.stablecoinToGive.toNat - t.payment.stablecoinToReceive.toNat

/-- What is added to a tally changes its net by what is given without what is received. -/
theorem Tally.Added.net {t t' : Tally} {stablecoinGiven stablecoinReceived collateralGiven
    collateralReceived : Nat} (h : Added t t' stablecoinGiven stablecoinReceived collateralGiven
      collateralReceived) : t'.net = t.net + stablecoinGiven - stablecoinReceived := by
  unfold Tally.net
  rw [h.stablecoinToGive, h.stablecoinToReceive]
  push_cast
  ring

namespace Arena

/-- What all engines of an arena are worth. -/
def worth (s : Arena) : ℤ := (s.engines.map Engine.worth).sum

/-- The worth of an arena is that of the called engine and those of the others. -/
theorem worth_eq (s : Arena) :
    s.worth = s.engine.worth + (s.remotes.map fun r => r.engine.worth).sum := by
  unfold worth
  rw [map_engines]
  exact List.sum_cons

/-- The worth is read off the engines, and not off the ledger. -/
theorem SameEngines.worth {s s' : Arena} (h : SameEngines s s') : s'.worth = s.worth := by
  unfold Arena.worth
  rw [h.engines]

/-- What an action pays out is covered by what the engines have gained in worth, up to one unit of
normalized debt if it takes debt on. -/
theorem Applied.worth {accumulator : Amount} {s s' : Arena} {t t' : Tally} {action : Action}
    (h : Applied accumulator s t action t' s') (at' : s.engine.state.accumulator = accumulator) :
    s.worth + t'.net * accumulatorOne ≤ s'.worth + t.net * accumulatorOne +
      if action.borrows s.engine.state.address then accumulator.toNat else 0 := by
  rw [worth_eq, worth_eq]
  cases h with
  | createVault id e made =>
    have same := made.worth
    simp only [Action.borrows, same, Bool.false_eq_true, if_false]
    linarith
  | closeVault v e owed repaid t' closed covered surplus added =>
    rw [← at'] at covered
    have gain := closed.worth covered surplus
    simp only [Action.borrows, added.net, Bool.false_eq_true, if_false]
    push_cast
    linarith
  | addCollateral v w e t' revised collateral debt surplus added =>
    have same := revised.worth_same debt surplus
    simp only [Action.borrows, added.net, same, Bool.false_eq_true, if_false]
    linarith
  | removeCollateral v w e t' revised collateral debt surplus added =>
    have same := revised.worth_same debt surplus
    simp only [Action.borrows, added.net, same, Bool.false_eq_true, if_false]
    linarith
  | repayDebt v w change repaid charged e t' revised collateral debt covered surplus added =>
    rw [← at'] at covered
    have gain := revised.worth_repaid debt covered surplus
    simp only [Action.borrows, added.net, Bool.false_eq_true, if_false]
    push_cast
    linarith
  | borrow v w change fee paid e t' revised collateral normalized debt surplus parts added =>
    have gain := revised.worth_lent at' normalized debt surplus
    rw [← parts] at gain
    simp only [Action.borrows, added.net, if_true]
    push_cast at gain ⊢
    linarith
  | moveDebt v w v' w' moved m e t' own given collateral debt received collateral' debt' surplus
      added =>
    have same := Engine.worth_moved given debt received debt' surplus
    rw [if_neg (by simp [Action.borrows, own])]
    simp only [added.net, same]
    linarith
  | fetchDebt i r now borrowFee repayFee g taken change v w e t' other place paid revised collateral
      normalized debt surplus added =>
    have unpaid : e.state.surplus.toNat = s.engine.state.surplus.toNat + 0 :=
      congrArg Amount.toNat surplus
    have gain := revised.worth_lent at' normalized debt unpaid
    have loss := Engine.worth_paidOut paid
    have remotes := sum_remotes_set Engine.worth place g
    rw [if_pos (by simp [Action.borrows, other]), added.net]
    push_cast at gain ⊢
    linarith
  | permit l same =>
    simp only [Action.borrows, Bool.false_eq_true, if_false]
    linarith

/-- What the actions of a batch paid out so far is covered by what the engines have gained in worth
since its start, up to one unit of normalized debt for each that took debt on. -/
structure Covered (start : Arena) (done : List Action) (t : Tally) (s : Arena) : Prop where
  frame : s.engine.frame = start.engine.frame
  worth : start.worth + t.net * accumulatorOne ≤ s.worth +
    done.countP (·.borrows start.engine.state.address) * start.engine.state.accumulator.toNat

/-- One more action pays out no more than it adds to the worth, up to the rounding of debt that it
takes on. -/
theorem Covered.next {start s s' : Arena} {done : List Action} {t t' : Tally} {action : Action}
    (h : Covered start done t s)
    (applied : Applied start.engine.state.accumulator s t action t' s') :
    Covered start (done ++ [action]) t' s' := by
  have own := Engine.address_of_identity (Engine.identity_of_frame h.frame)
  have sofar := h.worth
  have next := applied.worth (Engine.accumulator_of_frame h.frame)
  rw [own] at next
  refine ⟨applied.frame.trans h.frame, ?_⟩
  rw [List.countP_append, List.countP_singleton]
  by_cases counted : action.borrows start.engine.state.address
  · rw [if_pos counted] at next ⊢
    push_cast
    linarith
  · rw [if_neg counted] at next ⊢
    push_cast at next ⊢
    linarith

/-- The supply that what an arena's engines are worth does not cover, in units of the
accumulator. -/
def shortfall (asset : Address) (s : Arena) : ℤ :=
  (s.ledger.totalSupply asset).toNat * accumulatorOne - s.worth

/-- A batch mints no more than its engines gain in worth, up to one unit of normalized debt for
every action that takes debt on. -/
theorem shortfall_processBatch {asset : Address} {ctx : Context} {p : Parties}
    {actions : List Action} {payment : Payment} {s s' : Arena}
    (coin : s.engine.state.stablecoin = asset) (alone : p.swapper = none)
    (h : processBatch ctx p actions s = .ok payment s') :
    s'.shortfall asset ≤ s.shortfall asset +
      actions.countP (·.borrows s.engine.state.address) * s'.engine.state.accumulator.toNat := by
  obtain ⟨tally, s₁, gathered, rfl, settled⟩ := processBatch_eq_ok h
  obtain ⟨accumulator, m, booked, folded, _⟩ := gather_eq_ok gathered
  have own : m.state.address = s.engine.state.address := Engine.address_of_identity booked.identity
  obtain rfl := booked.accumulator
  have start : Covered { s with engine := m } [] Tally.zero { s with engine := m } := by
    refine ⟨rfl, ?_⟩
    simp [Tally.net, Tally.zero, Payment.zero]
  have acted := Transact.foldlM_induction (P := Covered { s with engine := m })
    (fun _ _ _ _ _ _ h ok => h.next (applyAction_cases ok)) start folded
  have covered := acted.worth
  have same := (keeps_settle ctx p tally.payment s₁).1 _ _ settled
  obtain ⟨l, rfl, moved⟩ := settle_eq_ok alone settled
  have grown := Engine.worth_accrued booked
  have coin' : s₁.engine.state.stablecoin = asset :=
    (Engine.stablecoin_of_identity
      ((Engine.identity_of_frame acted.frame).trans booked.identity)).trans coin
  have supply : ((l.totalSupply asset).toNat : ℤ) =
      (s.ledger.totalSupply asset).toNat + tally.net := by
    have minted := moved.supply asset
    have kept := (funds_actions folded).supply asset
    dsimp only at kept
    rw [coin', Ledger.issue_self, Ledger.issue_self, kept] at minted
    unfold Tally.net
    omega
  rw [worth_eq, own] at covered
  unfold shortfall
  rw [supply, same.worth, Engine.accumulator_of_frame acted.frame, worth_eq s]
  linarith

/-- A liquidation burns what the liquidated debt was worth, up to one unit for each vault that it
left empty. -/
theorem shortfall_liquidate {asset : Address} {ctx : Context} {p : Parties} {ids : List VaultId}
    {amounts : List Amount} {report : LiquidationReport} {e : Engine} {s s' : Arena}
    (exact : s.Exact) (coin : s.engine.state.stablecoin = asset) (alone : p.swapper = none)
    (done : Engine.liquidateAll ctx ids amounts s.engine = .ok report e)
    (paid : handleRepay ctx p report.collateralToGive report.stablecoinToReceive
      { s with engine := e } = .ok () s') :
    s'.shortfall asset ≤ s.shortfall asset +
      (s'.engine.emptyAmong report.liquidated).card * accumulatorOne := by
  have lost := Engine.worth_liquidatedAll exact.engine done
  obtain ⟨l, rfl, moved⟩ := handleRepay_eq_ok alone paid
  have coin' : e.state.stablecoin = asset :=
    (Engine.stablecoin_of_identity (Engine.identity_liquidatedAll exact.engine done)).trans coin
  have burnt := moved.supply asset
  rw [coin', Ledger.issue_self, Ledger.issue_self] at burnt
  have supply : ((l.totalSupply asset).toNat : ℤ) =
      (s.ledger.totalSupply asset).toNat - report.stablecoinToReceive.toNat := by
    dsimp only at burnt
    omega
  unfold shortfall
  rw [worth_eq, worth_eq s]
  dsimp only
  rw [supply]
  push_cast at lost
  linarith

/-- Settling with the treasury mints the surplus after the losses, and leaves the treasury with the
losses after the surplus. -/
theorem shortfall_processAccrual {asset : Address} {ctx : Context} {accrual : TreasuryAccrual}
    {s s' : Arena} (coin : s.engine.state.stablecoin = asset)
    (done : processAccrual ctx s = .ok accrual s') :
    s'.shortfall asset ≤ s.shortfall asset + accrual.badDebt.toNat * accumulatorOne := by
  obtain ⟨_, m, log, l, booked, rfl, _, supply, rfl⟩ := processAccrual_eq_ok done
  have grown := Engine.worth_accrued booked
  have coin' := (Engine.stablecoin_of_identity booked.identity).trans coin
  have minted := supply asset
  rw [coin', Ledger.issue_self, Amount.toNat_monus] at minted
  -- of surplus and losses one is what is left of the other
  have netted : ((l.totalSupply asset).toNat + m.state.badDebt.toNat : ℤ) =
      (s.ledger.totalSupply asset).toNat + m.state.surplus.toNat +
        (m.state.badDebt.monus m.state.surplus).toNat := by
    rw [Amount.toNat_monus]
    omega
  have scaled := congrArg (· * (accumulatorOne : ℤ)) netted
  have anew : Engine.worth
      { m with state := { m.state with surplus := .zero, badDebt := .zero }, log } =
      m.worth - (m.state.badDebt.toNat - m.state.surplus.toNat) * accumulatorOne := by
    unfold Engine.worth
    simp only [Amount.toNat_zero]
    push_cast
    ring
  unfold shortfall
  rw [worth_eq, worth_eq s, anew]
  dsimp only at scaled ⊢
  linarith

end Arena

/-! ## One call -/

/-- An accepted call without a swapper, other than one that takes debt out directly, changes the
supply by no more than the engines gain in worth, up to what is counted. -/
theorem EngineCall.Accepted.shortfall {asset : Address} {ctx : Context} {s s' : Arena}
    {call : EngineCall} {reply : EngineReply} (h : Accepted ctx s call reply s')
    (exact : s.Exact) (coin : s.engine.state.stablecoin = asset)
    (alone : call.swapper.isNone = true) (inside : call.takesDebtOut = false) :
    s'.shortfall asset ≤ s.shortfall asset +
      call.borrowings s.engine.state.address * s'.engine.state.accumulator.toNat +
      (reply.uncovered + reply.emptied s'.engine) * accumulatorOne := by
  have lent : (0 : ℤ) ≤
      call.borrowings s.engine.state.address * s'.engine.state.accumulator.toNat := by positivity
  have lost : (0 : ℤ) ≤ (reply.uncovered + reply.emptied s'.engine) * accumulatorOne := by
    positivity
  cases h with
  | @batch _ p actions payment _ is done =>
    rw [(parties_of_asBatch is).1, Option.isNone_iff_eq_none] at alone
    have batch := Arena.shortfall_processBatch coin alone done
    have count : call.borrowings s.engine.state.address =
        actions.countP (·.borrows s.engine.state.address) := by
      unfold borrowings
      rw [is]
    rw [count]
    linarith
  | @liquidate p ids amounts report e _ done paid =>
    rw [Option.isNone_iff_eq_none] at alone
    have burnt := Arena.shortfall_liquidate exact coin alone done paid
    simp only [EngineReply.uncovered, EngineReply.emptied, Nat.cast_zero]
    linarith
  | getDebtOut paid => cases inside
  | accrueToTreasury done =>
    have minted := Arena.shortfall_processAccrual coin done
    simp only [EngineReply.uncovered, EngineReply.emptied, Nat.cast_zero]
    linarith
  | upkeep is changed =>
    have grown := Engine.worth_upkeep changed
    unfold Arena.shortfall
    rw [Arena.worth_eq, Arena.worth_eq s]
    dsimp only
    linarith

namespace World

/-- What the engines of a world are worth together. -/
def worth (w : World) : ℤ := (w.seats.map fun seat => seat.engine.worth).sum

/-- The supply that what a world's engines are worth does not cover, in units of the
accumulator. -/
def shortfall (asset : Address) (w : World) : ℤ :=
  (w.ledger.totalSupply asset).toNat * accumulatorOne - w.worth

/-- An arena that was put back changes the shortfall of the world by what it changed its own. -/
theorem shortfall_restage (asset : Address) {w : World} {place : Nat} {remotes : List Nat}
    {s s' : Arena} (stage : w.Stage place remotes s)
    (length : s'.engines.length = s.engines.length) :
    (w.restage place remotes s').shortfall asset - w.shortfall asset =
      s'.shortfall asset - s.shortfall asset := by
  have sums := sum_putEngines Engine.worth (nodup_places place remotes) length stage.engines
  unfold shortfall Arena.shortfall World.worth Arena.worth restage
  rw [stage.ledger]
  dsimp only
  linarith

/-- One call of a confined run changes the shortfall by no more than what is counted. -/
theorem Change.shortfall {asset : Address} {w w' : World} {call : Call} (h : Change w call w')
    (exact : ∀ seat ∈ w.seats, seat.engine.Exact)
    (shared : ∀ seat ∈ w.seats, seat.engine.state.stablecoin = asset)
    (confined : Confined asset w call) {most : Nat}
    (bound : ∀ seat ∈ w'.seats, seat.engine.state.accumulator.toNat ≤ most) :
    w'.shortfall asset ≤ w.shortfall asset + borrowings w call * most +
      (uncovered w call + emptied w call) * accumulatorOne := by
  have counted : (0 : ℤ) ≤ borrowings w call * most +
      (uncovered w call + emptied w call) * accumulatorOne := by positivity
  -- all but accepted calls on engines leave supply and worth as they are
  have quiet : w'.shortfall asset = w.shortfall asset → w'.shortfall asset ≤
      w.shortfall asset + borrowings w call * most +
        (uncovered w call + emptied w call) * accumulatorOne := fun same => by linarith
  cases h with
  | still same =>
    apply quiet
    unfold World.shortfall World.worth
    rw [same.seats, same.funds.supply]
  | ledger =>
    apply quiet
    unfold World.shortfall World.worth
    exact congrArg (fun supply : Amount => (supply.toNat * accumulatorOne - w.worth : ℤ)) confined
  | @founded _ _ _ _ seat _ fresh seats funds =>
    apply quiet
    have nothing : seat.engine.worth = 0 := by
      unfold Engine.worth
      simp [fresh.total, fresh.surplus, fresh.badDebt]
    unfold World.shortfall World.worth
    rw [seats, funds.supply, List.map_append, List.sum_append]
    simp [nothing]
  | @connected _ place o e _ found same engines ledger =>
    apply quiet
    have kept := congrArg (List.map Engine.worth) engines
    rw [List.map_map, List.map_map] at kept
    have worth : w'.worth = w.worth :=
      congrArg List.sum (kept.trans (map_putEngine found same.worth))
    unfold World.shortfall
    rw [ledger, worth]
  | @called place caller now remotes call ctx s s' reply stage accepted answer =>
    obtain ⟨seat, seated, here⟩ := stage.exists_seat (List.mem_cons_self (a := s.engine))
    have coin : s.engine.state.stablecoin = asset := here ▸ shared seat seated
    have length := accepted.length_engines (stage.exact exact)
    have put := shortfall_restage asset stage length
    have step := accepted.shortfall (stage.exact exact) coin confined.1 confined.2
    have lent : borrowings w _ = _ := ofAccepted_engine _ stage answer
    have left : uncovered w _ = _ := ofAccepted_engine _ stage answer
    have lost : emptied w _ = _ := ofAccepted_engine _ stage answer
    obtain ⟨seat', place', here'⟩ := Option.map_eq_some_iff.mp (engine?_restage stage s')
    have below := bound seat' (List.mem_of_getElem? place')
    rw [here'] at below
    have most' := Nat.mul_le_mul_left (call.borrowings s.engine.state.address) below
    rw [lent, left, lost]
    zify at most'
    linarith

/-! ## A run -/

/-- The largest accumulator of a world. -/
def peak (w : World) : Nat :=
  (w.seats.map fun seat => seat.engine.state.accumulator.toNat).foldr max 0

/-- The largest accumulator that a run reaches. -/
def highest : World → List Call → Nat
  | w, [] => w.peak
  | w, call :: rest => max w.peak (highest (w.next call) rest)

/-- No engine of a world has an accumulator above its peak. -/
theorem le_peak {w : World} : ∀ seat ∈ w.seats, seat.engine.state.accumulator.toNat ≤ w.peak := by
  unfold peak
  induction w.seats with
  | nil => exact fun _ mem => nomatch mem
  | cons first seats ih =>
    intro seat mem
    rcases List.mem_cons.mp mem with rfl | mem
    · exact Nat.le_max_left _ _
    · exact (ih seat mem).trans (Nat.le_max_right _ _)

/-- The peak at the start of a run is no higher than the highest of the run. -/
theorem peak_le_highest (w : World) (calls : List Call) : w.peak ≤ highest w calls := by
  cases calls with
  | nil => exact Nat.le_refl _
  | cons call rest => exact Nat.le_max_left _ _

/-- A confined run changes the shortfall by no more than what is counted. -/
theorem shortfall_run {asset : Address} {w : World} {calls : List Call} {most : Nat}
    (exact : ∀ seat ∈ w.seats, seat.engine.Exact)
    (shared : ∀ seat ∈ (w.run calls).seats, seat.engine.state.stablecoin = asset)
    (confined : Throughout (Confined asset) w calls) (bound : highest w calls ≤ most) :
    (w.run calls).shortfall asset ≤ w.shortfall asset + countOver borrowings w calls * most +
      (countOver uncovered w calls + countOver emptied w calls) * accumulatorOne := by
  -- on the calls from the first one on; engines are what they will be at the end
  induction calls generalizing w with
  | nil => simp [countOver, run]
  | cons call rest ih =>
    have change := change_next w call
    have exact' := change.exact exact
    have bound' : highest (w.next call) rest ≤ most := (Nat.le_max_right _ _).trans bound
    have later := ih exact' shared confined.2 bound'
    have first := change.shortfall exact (stablecoin_run (call :: rest) exact shared) confined.1
      fun seat mem => (le_peak seat mem).trans ((peak_le_highest _ rest).trans bound')
    show ((w.next call).run rest).shortfall asset ≤ _
    simp only [countOver]
    push_cast
    linarith

/-- The backings of all engines are their worth, in whole units. -/
theorem sum_backing (w : World) :
    (w.seats.map fun seat => seat.engine.backing).sum * accumulatorOne = w.worth := by
  unfold World.worth
  induction w.seats with
  | nil => simp
  | cons seat seats ih =>
    rw [List.map_cons, List.map_cons, List.sum_cons, List.sum_cons, add_mul, ih,
      seat.engine.backing_mul, Int.cast_add]

/-- After every run from the beginning in which only engines mint or burn the stablecoin that all of
them share, nobody swaps, and debt leaves an engine only for another, the supply is at most what
backs it, with the losses that treasuries were left with, one unit of normalized debt for every
action that took debt on, and one stablecoin unit for every vault that was exhausted. -/
theorem totalSupply_le_backing {asset : Address} {calls : List Call}
    (shared : ∀ seat ∈ (history calls).seats, seat.engine.state.stablecoin = asset)
    (confined : Throughout (Confined asset) .empty calls) :
    (((history calls).ledger.totalSupply asset).toNat : ℚ) ≤
      ((history calls).seats.map fun seat => seat.engine.backing).sum +
        countOver uncovered .empty calls +
        countOver borrowings .empty calls * (highest .empty calls / accumulatorOne) +
        countOver emptied .empty calls := by
  have run := shortfall_run (w := .empty) (fun _ mem => nomatch mem) shared confined (Nat.le_refl _)
  change (history calls).shortfall asset ≤ _ at run
  have start : shortfall asset .empty = 0 := by
    simp [shortfall, worth, empty, Ledger.totalSupply, Ledger.empty]
  have scaled : (((history calls).shortfall asset : ℤ) : ℚ) ≤
      countOver borrowings .empty calls * highest .empty calls +
        (countOver uncovered .empty calls + countOver emptied .empty calls) * accumulatorOne := by
    rw [start, zero_add] at run
    exact_mod_cast run
  have positive : (0 : ℚ) < accumulatorOne := Nat.cast_pos.mpr accumulatorOne_pos
  have units : countOver borrowings .empty calls *
        (highest .empty calls / accumulatorOne : ℚ) * accumulatorOne =
      countOver borrowings .empty calls * highest .empty calls := by
    rw [mul_assoc, div_mul_cancel₀ _ positive.ne']
  unfold shortfall at scaled
  push_cast at scaled
  rw [← sum_backing] at scaled
  apply le_of_mul_le_mul_right _ positive
  rw [add_mul, add_mul, add_mul, units]
  linarith

set_option maxRecDepth 10000 in
/-- In the downturn one action took debt on, one vault was exhausted, and a loss was left. -/
theorem totalSupply_downturn :
    countOver borrowings .empty downturn = 1 ∧ countOver emptied .empty downturn = 1 ∧
      countOver uncovered .empty downturn = tokenOne / 10 ∧
      (((history downturn).ledger.totalSupply (account 1)).toNat : ℚ) ≤
        ((history downturn).seats.map fun seat => seat.engine.backing).sum +
          countOver uncovered .empty downturn +
          countOver borrowings .empty downturn * (highest .empty downturn / accumulatorOne) +
          countOver emptied .empty downturn :=
  ⟨by decide +kernel, by decide +kernel, by decide +kernel,
    totalSupply_le_backing (by decide +kernel) (by decide +kernel)⟩

end World

end CollateralDebt
