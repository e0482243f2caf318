import CollateralDebt.Proofs.Configuration

/-!
# In the midst of a liquidation

A liquidation books the interest of its engine, and then tries the vaults of the call one after the
other. What a vault is judged by is the engine at that moment: it is in no reachable world, but it
comes of one, and nothing that the theory of liquidations relies on gets lost on the way.

## What is proved

- `Midway.fit`: in the midst of a liquidation, an engine is exact and fit, and its accumulator is the
  one that was booked.
-/

namespace CollateralDebt

open Engine

namespace World

/-- The engine at a place in the midst of a liquidation: its interest is booked, and some vaults of
the call have been tried. -/
inductive Midway (w : World) (place : Nat) (ctx : Context) (price accumulator : Amount) :
    Engine → Prop
  | booked {seat : Seat} {m : Engine} (standing : w.seats[place]? = some seat)
      (accrued : accrue ctx.now seat.engine = .ok accumulator m) :
      Midway w place ctx price accumulator m
  | tried {report report' : LiquidationReport} {entry : VaultId × Amount} {e e' : Engine}
      (before : Midway w place ctx price accumulator e) (quote : report.price = price)
      (growth : report.accumulator = accumulator)
      (next : liquidateNext ctx report entry e = .ok report' e') :
      Midway w place ctx price accumulator e'

variable {w : World} {place : Nat} {ctx : Context} {price accumulator amount : Amount}
  {e e' : Engine} {outcome : VaultLiquidation}

/-- The settings of the engine go together, and its accumulator is the one that was booked. -/
theorem Midway.fit (midway : w.Midway place ctx price accumulator e) (reachable : w.Reachable) :
    e.Exact ∧ e.Fit ∧ e.state.accumulator = accumulator := by
  induction midway with
  | booked standing accrued =>
    have mem := List.mem_of_getElem? standing
    have booked := accrue_eq_ok accrued
    exact ⟨(reachable.exact _ mem).accrued booked, (reachable.fit _ mem).accrued booked,
      booked.accumulator⟩
  | tried _ _ _ next ih =>
    obtain ⟨exact, fit, same⟩ := ih
    have frame := frame_liquidatedNext exact next
    exact ⟨exact.liquidatedNext next, fit.of_frame frame, (accumulator_of_frame frame).trans same⟩

/-! ## In the small market -/

/-- The first engine after some calls, in the midst of a liquidation by the account 5. -/
def midst (calls : List Call) (now : Timestamp) : Option (Context × Amount × Engine) := do
  let seat ← (history calls).seats[0]?
  let ctx ← ((history calls).context seat (account 5) now).toOption
  match accrue ctx.now seat.engine with
  | .ok accumulator m => some (ctx, accumulator, m)
  | .error _ _ => none

/-- What is computed as the midst of a liquidation is one. -/
theorem midway_of_midst (price : Amount) {calls : List Call} {now : Timestamp}
    (h : midst calls now = some (ctx, accumulator, e)) :
    (history calls).Midway 0 ctx price accumulator e := by
  simp only [midst, Option.bind_eq_bind, Option.bind_eq_some_iff, Outcome.toOption_eq_some] at h
  obtain ⟨seat, standing, ctx', known, h⟩ := h
  split at h
  · rename_i accrued
    cases h
    exact .booked standing accrued
  · cases h

/-- What is left of the first vault after it was liquidated. -/
def leftAfter (ctx : Context) (accumulator : Amount) (e : Engine) (price amount : Amount) :
    Option (VaultLiquidation × Engine × Vault) :=
  match liquidateVault ctx 1 amount price accumulator e with
  | .ok outcome e' => (e'.vault? 1).map fun left => (outcome, e', left)
  | .error _ _ => none

/-- What is computed as left after a liquidation is left by one that was accepted. -/
theorem leftAfter_eq_some {left : Vault} (h : leftAfter ctx accumulator e price amount =
    some (outcome, e', left)) :
    liquidateVault ctx 1 amount price accumulator e = .ok outcome e' ∧ e'.vault? 1 = some left := by
  unfold leftAfter at h
  split at h
  · rename_i done
    obtain ⟨_, kept, same⟩ := Option.map_eq_some_iff.mp h
    cases same
    exact ⟨done, kept⟩
  · cases h

end World

end CollateralDebt
