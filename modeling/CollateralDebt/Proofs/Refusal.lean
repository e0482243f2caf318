import CollateralDebt.Proofs.World.Step

/-!
# Refused calls

A call on an engine checks as it goes. By the time it is refused it may have booked interest, opened
and closed vaults, spent permits, moved funds, let a swapper loose on the ledger, and taken debt from
another engine. None of this stays: the engines go back to their checkpoints, the ledger is put back
whole, and every log ends where it ended before, event by event.

Calls that keep no checkpoint do not need one, because they write when nothing can fail any more.

## What is proved

- `Call.concernsEngine`: the calls that found, call or connect an engine;
- `World.unchanged_of_refused`: a refused one left the world as it was, but for the requests that
  its swapper got.
-/

namespace CollateralDebt

/-- Whether a call founds, calls or connects an engine. -/
def Call.concernsEngine : Call → Bool
  | .deploy .. | .engine .. | .setOracle .. | .setTreasury .. => true
  | _ => false

namespace World

/-- A refused call on an engine left the world as it was: the ledger with its log, the state, the
log and the connections of every engine, the called one and those within its reach included, the
treasuries and the feeds. Swappers are nobody's state, and keep the requests that they got. -/
theorem unchanged_of_refused {w w' : World} {call : Call} {cause : Error}
    (engine : call.concernsEngine = true) (refused : call.run w = .error (.rejected cause) w') :
    w' = { w with requests := w'.requests } := by
  -- a trace of nothing at all is in particular one of requests alone
  have of_traceless (traceless : Transact.Traceless call.run) :
      w' = { w with requests := w'.requests } := by
    rw [traceless w _ _ refused]
  cases call with
  | deploy config treasuryPlace feedPlace now =>
    exact of_traceless ((traceless_deploy config treasuryPlace feedPlace now).bind_unfailing
      fun _ => Transact.unfailing_pure ())
  | engine place caller now remotes call =>
    rcases Transact.bind_eq_error.mp refused with refused | ⟨_, _, _, refused⟩
    · exact callEngine_eq_error refused
    · cases refused
  | setOracle place caller now feedPlace =>
    exact of_traceless (traceless_connect fun _ => Engine.traceless_setOracle)
  | setTreasury place caller now treasuryPlace =>
    exact of_traceless
      (traceless_connect fun successor ctx => Engine.traceless_setTreasury ctx successor)
  | _ => cases engine

/-- The borrower of the small market opens another vault, deposits in the first one and then borrows
ten more stablecoins than its collateral is good for. -/
def overdraft : Call := .engine 0 (account 5) 0 [] (.batch borrower
  [.createVault (account 5), .addCollateral 1 (tenths 10),
    .borrow 1 (tenths 100)])

set_option maxRecDepth 10000 in
/-- The overdraft is refused when its debt is checked, after everything else was done. -/
theorem unchanged_overdraft : ∃ cause w',
    overdraft.run (history smallMarket) = .error (.rejected cause) w' ∧
    w' = { history smallMarket with requests := w'.requests } := by
  have refused : (match overdraft.run (history smallMarket) with
      | .error (.rejected cause) _ => decide (cause.code = "E022_INSOLVENT_AFTER_ACTION")
      | .error .fault _ => false
      | .error .absent _ => false
      | .ok _ _ => false) = true := by decide +kernel
  split at refused
  · rename_i ended
    exact ⟨_, _, ended, unchanged_of_refused rfl ended⟩
  all_goals cases refused

end World

end CollateralDebt
