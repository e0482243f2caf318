import CollateralDebt.Proofs.Allowances
import CollateralDebt.Proofs.Engine.Deposits
import CollateralDebt.Proofs.Replay

/-!
# What a batch moves

A batch nets its flows, and its settlement moves the net flows once: stablecoins are minted to the
recipient or burnt from the source, collateral is released to the recipient or pulled from the
source. Which accounts these are does not matter, several of them may be one. Nothing else moves on
the ledger: other assets stay as they are, and what is burnt and pulled is drawn on the allowances
that the source granted to the caller. The permits of the batch come before that, so these
allowances are read where the permits alone have led.

A swapper may do anything that a ledger allows, so all this is about calls without one.

## What is proved

- `Arena.drawn_settle`: what a settlement demands of allowances;
- `NetFlows`, `netFlows_of_settled`: the net flows, account by account;
- `World.batch_moves_net_flows`: an accepted batch in every world.
-/

namespace CollateralDebt

namespace Arena

open Transact (bind_eq_ok)
open Ledger (Drawn Undrawn demand)

variable {ctx : Context} {p : Parties} {payment : Payment} {e : EngineState} {s s' : Arena}
  {u : Unit}

/-! ## Demands on allowances -/

/-- What goes out needs no allowance. -/
theorem drawn_payOut (h : payOut e ctx p payment s = .ok u s') : Undrawn s.ledger s'.ledger := by
  obtain ⟨_, _, minting, releasing⟩ := bind_eq_ok.mp h
  obtain ⟨l₁, rfl, minted⟩ := leg_eq_ok (P := fun _ => Undrawn) Drawn.refl
    (fun _ _ => Ledger.drawn_mint) minting
  obtain ⟨l₂, rfl, released⟩ := leg_eq_ok (P := fun _ => Undrawn) Drawn.refl
    (fun _ _ => Ledger.drawn_transfer) releasing
  exact minted.trans released

/-- What is burnt and pulled when a payment is settled demands this much of allowances. -/
def settlementDemand (e : EngineState) (source caller : Address) (payment : Payment)
    (x o s : Address) : Nat :=
  demand e.stablecoin source caller
      (payment.stablecoinToReceive.monus payment.stablecoinToGive).toNat x o s +
    demand e.collateral source caller
      (payment.collateralToReceive.monus payment.collateralToGive).toNat x o s

/-- Without a swapper, what comes in is drawn on the allowances of the caller. -/
theorem drawn_payIn (alone : p.swapper = none) (h : payIn e ctx p payment s = .ok u s') :
    Drawn (settlementDemand e p.source ctx.caller payment) s.ledger s'.ledger := by
  have asked (request : SwapRequest) : askSwapper none request = pure () := rfl
  have nothing (asset : Address) (l : Ledger) : Drawn (demand asset p.source ctx.caller 0) l l :=
    (Drawn.refl l).congr fun _ _ _ => (Ledger.demand_zero ..).symm
  unfold payIn at h
  simp only [alone, asked, pure_bind, ite_self] at h
  obtain ⟨_, _, burning, pulling⟩ := bind_eq_ok.mp h
  obtain ⟨l₁, rfl, burnt⟩ := leg_eq_ok (P := fun n => Drawn (demand e.stablecoin p.source ctx.caller n))
    (nothing _) (fun _ _ => Ledger.drawn_burnFrom) burning
  obtain ⟨l₂, rfl, pulled⟩ := leg_eq_ok (P := fun n => Drawn (demand e.collateral p.source ctx.caller n))
    (nothing _) (fun _ _ => Ledger.drawn_transferFrom) pulling
  exact burnt.trans pulled

/-- Without a swapper, a settlement demands what it burns and pulls, and no more. -/
theorem drawn_settle (alone : p.swapper = none) (h : settle ctx p payment s = .ok u s') :
    Drawn (settlementDemand s.engine.state p.source ctx.caller payment) s.ledger s'.ledger := by
  rw [settle_eq] at h
  obtain ⟨_, _, got, h⟩ := bind_eq_ok.mp h
  obtain ⟨rfl, rfl⟩ := Transact.get_eq_ok.mp got
  obtain ⟨_, s₁, out, back⟩ := bind_eq_ok.mp h
  exact (Drawn.trans (drawn_payOut out) (drawn_payIn alone back)).congr fun _ _ _ => Nat.zero_add _

end Arena

/-! ## Net flows -/

/-- Nothing but the net flows of a payment was moved between two ledgers. The allowances are
compared with those of a ledger in between, which has the permits already. -/
structure NetFlows (e : EngineState) (p : Parties) (caller : Address) (payment : Payment)
    (before permitted after : Ledger) : Prop where
  supply : ((after.totalSupply e.stablecoin).toNat : Int) - (before.totalSupply e.stablecoin).toNat =
    (payment.stablecoinToGive.toNat : Int) - payment.stablecoinToReceive.toNat
  stablecoins : ∀ a, ((after.balanceOf e.stablecoin a).toNat : Int) -
      (before.balanceOf e.stablecoin a).toNat =
    (if a = p.recipient then
      max ((payment.stablecoinToGive.toNat : Int) - payment.stablecoinToReceive.toNat) 0 else 0) -
    (if a = p.source then
      max ((payment.stablecoinToReceive.toNat : Int) - payment.stablecoinToGive.toNat) 0 else 0)
  collateral : ∀ a, ((after.balanceOf e.collateral a).toNat : Int) -
      (before.balanceOf e.collateral a).toNat =
    (if a = p.recipient then
      max ((payment.collateralToGive.toNat : Int) - payment.collateralToReceive.toNat) 0 else 0) -
    (if a = p.source then
      max ((payment.collateralToReceive.toNat : Int) - payment.collateralToGive.toNat) 0 else 0) +
    (if a = e.address then
      (payment.collateralToReceive.toNat : Int) - payment.collateralToGive.toNat else 0)
  otherBalances : ∀ x a, x ≠ e.stablecoin → x ≠ e.collateral →
    after.balanceOf x a = before.balanceOf x a
  otherAssets : ∀ x, x ≠ e.stablecoin → after.state.assets.get? x = before.state.assets.get? x
  terms : ∀ x, after.terms x = before.terms x
  signingKeys : after.state.signingKeys = before.state.signingKeys
  nonces : after.state.nonces = permitted.state.nonces
  otherAllowances : ∀ x o s,
    ¬ ((x = e.stablecoin ∨ x = e.collateral) ∧ o = p.source ∧ s = caller) →
      after.allowance x o s = permitted.allowance x o s
  burnt : Ledger.Draws p.source caller
    (payment.stablecoinToReceive.toNat - payment.stablecoinToGive.toNat)
    (permitted.allowance e.stablecoin p.source caller)
    (after.allowance e.stablecoin p.source caller)
  burnt_le : caller ≠ p.source →
    payment.stablecoinToReceive.toNat - payment.stablecoinToGive.toNat ≤
      (permitted.allowance e.stablecoin p.source caller).toNat
  pulled : Ledger.Draws p.source caller
    (payment.collateralToReceive.toNat - payment.collateralToGive.toNat)
    (permitted.allowance e.collateral p.source caller)
    (after.allowance e.collateral p.source caller)
  pulled_le : caller ≠ p.source →
    payment.collateralToReceive.toNat - payment.collateralToGive.toNat ≤
      (permitted.allowance e.collateral p.source caller).toNat

/-- What was settled, drawn on allowances and granted by permits, put together. The engine that
settles has booked its batch, so it is known by its identity only. -/
theorem netFlows_of_settled {e e' : Engine} {p : Parties} {caller : Address} {payment : Payment}
    {permits : List Permit} {before permitted after : Ledger} (same : e'.identity = e.identity)
    (distinct : e.state.collateral ≠ e.state.stablecoin)
    (granted : Ledger.Granted permits before permitted)
    (funds : Ledger.SameFunds before permitted)
    (settled : Arena.Settled e'.state p
      (payment.stablecoinToGive.toNat - payment.stablecoinToReceive.toNat)
      (payment.stablecoinToReceive.toNat - payment.stablecoinToGive.toNat)
      (payment.collateralToGive.toNat - payment.collateralToReceive.toNat)
      (payment.collateralToReceive.toNat - payment.collateralToGive.toNat) permitted after)
    (drawn :
      Ledger.Drawn (Arena.settlementDemand e'.state p.source caller payment) permitted after) :
    NetFlows e.state p caller payment before permitted after := by
  have supply (x : Address) := settled.supply x
  have balance (x a : Address) := settled.balance x a
  have allowance (x o s : Address) := drawn.allowance x o s
  rw [Engine.stablecoin_of_identity same] at supply
  simp only [Engine.stablecoin_of_identity same, Engine.collateral_of_identity same,
    Engine.address_of_identity same, Arena.settlementDemand] at balance allowance
  simp only [funds.supply, funds.balance, Ledger.issue, Ledger.portion] at supply balance
  have terms (x : Address) := (drawn.terms x).trans (granted.terms x)
  -- the two assets are different, so each of the two demands is about its own allowance
  have burnt : Ledger.Draws p.source caller
      (payment.stablecoinToReceive.monus payment.stablecoinToGive).toNat
      (permitted.allowance e.state.stablecoin p.source caller)
      (after.allowance e.state.stablecoin p.source caller) := by
    have drawn := allowance e.state.stablecoin p.source caller
    rwa [Ledger.demand_self,
      Ledger.demand_of_ne fun here => distinct here.1.symm, Nat.add_zero] at drawn
  have pulled : Ledger.Draws p.source caller
      (payment.collateralToReceive.monus payment.collateralToGive).toNat
      (permitted.allowance e.state.collateral p.source caller)
      (after.allowance e.state.collateral p.source caller) := by
    have drawn := allowance e.state.collateral p.source caller
    rwa [Ledger.demand_self,
      Ledger.demand_of_ne fun here => distinct here.1, Nat.zero_add] at drawn
  have burnt_le (foreign : caller ≠ p.source) := Amount.le_iff.mp (burnt.enough foreign.symm)
  have pulled_le (foreign : caller ≠ p.source) := Amount.le_iff.mp (pulled.enough foreign.symm)
  rw [Amount.toNat_monus] at burnt pulled
  simp only [Amount.toNat_monus] at burnt_le pulled_le
  refine ⟨?_, fun a => ?_, fun a => ?_, fun x a foreign foreign' => ?_, fun x foreign => ?_, terms,
    drawn.signingKeys.trans granted.signingKeys, drawn.nonces, fun x o s other => ?_, burnt,
    burnt_le, pulled, pulled_le⟩
  · have change := supply e.state.stablecoin
    rw [if_pos rfl, if_pos rfl] at change
    omega
  · have change := balance e.state.stablecoin a
    simp only [true_and, Ne.symm distinct, false_and, if_false] at change
    split_ifs at change ⊢ <;> omega
  · have change := balance e.state.collateral a
    simp only [true_and, distinct, false_and, if_false] at change
    split_ifs at change ⊢ <;> omega
  · have change := balance x a
    simp only [foreign, foreign', false_and, if_false, Nat.add_zero] at change
    exact Amount.ext change
  · have change := supply x
    rw [if_neg foreign, if_neg foreign] at change
    exact Ledger.get?_of_terms (terms x) (Amount.ext change)
  · have drawn := allowance x o s
    rw [Ledger.demand_of_ne fun here => other ⟨.inl here.1, here.2⟩,
      Ledger.demand_of_ne fun here => other ⟨.inr here.1, here.2⟩] at drawn
    exact drawn.eq_of_zero

namespace World

/-- An accepted batch without a swapper, read or encoded, in any world where the collateral of the
engine is not its stablecoin. All permits of the batch are accepted, and they set what they name;
apart from this, nothing but the net flows that the batch answers with moves on the ledger. -/
theorem batch_moves_net_flows {w w' : World} {place : Nat} {caller : Address} {now : Timestamp}
    {remotes : List Nat} {call : EngineCall} {p : Parties} {actions : List Action} {seat : Seat}
    {payment : Payment} (found : w.seats[place]? = some seat)
    (distinct : seat.engine.state.collateral ≠ seat.engine.state.stablecoin)
    (is : call.asBatch = some (p, actions)) (alone : p.swapper = none)
    (accepted : callEngine place caller now remotes call w = .ok (.payment payment) w') :
    ∃ permitted : Ledger,
      permitted = w.ledger.replay
        ((permitsAmong actions).map fun signed => (now, .permit signed)) ∧
      (w.ledger.acceptances ((permitsAmong actions).map fun signed => (now, .permit signed))).map
        Acceptance.signed = permitsAmong actions ∧
      Ledger.Granted (permitsAmong actions) w.ledger permitted ∧
      NetFlows seat.engine.state p caller payment w.ledger permitted w'.ledger := by
  obtain ⟨seat', ctx, s, s', found', hctx, stage, ran, rfl⟩ := callEngine_eq_ok accepted
  cases found.symm.trans found'
  obtain ⟨_, _, hcaller, hnow, _⟩ := context_eq_ok hctx
  have own : seat.engine = s.engine :=
    Option.some.inj ((engine?_of_seat found).symm.trans stage.engine)
  cases EngineCall.run_cases ran with
  | batch is' done =>
    cases is.symm.trans is'
    obtain ⟨tally, s₁, gathered, rfl, settled⟩ := Arena.processBatch_eq_ok done
    have permits := Arena.permitted_gather gathered
    have granted : Ledger.Granted (permitsAmong actions) s.ledger s₁.ledger := by
      rw [permits.replayed]
      exact Ledger.granted_replay _ _ _
    have same : s₁.engine.identity = seat.engine.identity :=
      own ▸ (List.cons.inj (Arena.identities_gather gathered)).1
    have funds := Arena.funds_gather gathered
    have drawn := Arena.drawn_settle alone settled
    obtain ⟨l, rfl, moved⟩ := Arena.settle_eq_ok alone settled
    rw [hcaller] at drawn
    have flows := netFlows_of_settled same distinct granted funds moved drawn
    rw [stage.ledger] at flows granted permits
    rw [hnow] at permits
    exact ⟨s₁.ledger, permits.replayed, permits.accepted, granted, flows⟩

/-- The small market, whose borrower has registered a key and lets the account 6 have any amount of
stablecoins. -/
def trusting : List Call := smallMarket ++ [
  .ledger 0 (.registerSigningKey (account 5) (account 8)),
  .ledger 0 (.approve (account 1) (account 5) (account 6) .largest)]

/-- The account 6 hands in a permit over one token of collateral, deposits less than that, and repays
some debt, all out of the borrower's funds. -/
def helping : List Action := [.permit pass, .addCollateral 1 (tenths 4), .repayDebt 1 (tenths 10)]

/-- The borrower pays, and the account 6 would be paid. -/
def helped : Parties := ⟨account 5, account 6, [], none⟩

set_option maxRecDepth 10000 in
/-- Stablecoins are burnt on an allowance without limit, and collateral is pulled on the permit. -/
theorem batch_moves_net_flows_helping : ∃ (seat : Seat) (payment : Payment) (w' : World),
    (history trusting).seats[0]? = some seat ∧
    callEngine 0 (account 6) 0 [] (.batch helped helping) (history trusting) =
      .ok (.payment payment) w' ∧
    payment = ⟨.zero, tenths 10, .zero, tenths 4⟩ ∧
    NetFlows seat.engine.state helped (account 6) payment (history trusting).ledger
      ((history trusting).ledger.replay
        ((permitsAmong helping).map fun signed => (0, .permit signed))) w'.ledger := by
  have standing : ((history trusting).seats[0]?.any fun seat =>
      decide (seat.engine.state.collateral ≠ seat.engine.state.stablecoin)) = true := by
    decide +kernel
  have accepted : EStateM.run' (callEngine 0 (account 6) 0 [] (.batch helped helping))
      (history trusting) = some (.payment ⟨.zero, tenths 10, .zero, tenths 4⟩) := by
    decide +kernel
  simp only [Option.any_eq_true, decide_eq_true_eq] at standing
  obtain ⟨seat, found, distinct⟩ := standing
  obtain ⟨w', done⟩ := Transact.run'_eq_some.mp accepted
  have batch : (EngineCall.batch helped helping).asBatch = some (helped, helping) := rfl
  obtain ⟨_, permitted, _, _, flows⟩ := batch_moves_net_flows found distinct batch rfl done
  rw [permitted] at flows
  exact ⟨seat, _, w', found, done, rfl, flows⟩

end World

end CollateralDebt
