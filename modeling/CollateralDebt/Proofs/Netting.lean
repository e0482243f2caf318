import CollateralDebt.Proofs.Engine.Netting
import CollateralDebt.Proofs.World.Run

/-!
# Batching nets payments, and does nothing else

A caller who has several things to do may send them as one batch or as one batch each. Where both
ways are accepted, they come to the same: every engine ends in the same state with the same log, and
the single batch pays the sum of what the others pay. What may differ is the ledger, on which the
single batch settles once what the others settle one by one.

## What is proved

- `Opens`: what a call on an engine finds, which is determined (`Opens.unique`), and found again
  after an arena with the same treasuries was put back (`Opens.restage`);
- `batches_eq_ok`: batches of one action each, as one computation in the arena of the first;
- `batching_nets`: one batch, and its actions one batch each.
-/

namespace CollateralDebt

open Transact (bind_eq_ok)

namespace Arena

variable {ctx : Context} {p : Parties} {actions : List Action} {payment : Payment} {s s' : Arena}

/-- A batch leaves the treasuries behind the other engines. -/
theorem treasuries_processBatch (h : processBatch ctx p actions s = .ok payment s') :
    s'.remotes.map (·.treasury) = s.remotes.map (·.treasury) := by
  obtain ⟨tally, s₁, gathered, rfl, settled⟩ := processBatch_eq_ok h
  obtain ⟨accumulator, m, accrued, folded, _⟩ := gather_eq_ok gathered
  rw [((keeps_settle ctx p _ _).1 _ _ settled).remotes]
  exact Transact.foldlM_induction
    (P := fun _ _ x => x.remotes.map (·.treasury) = s.remotes.map (·.treasury))
    (fun _ _ _ _ _ _ same ok => (applyAction_cases ok).treasuries.trans same) rfl folded

/-- The number of engines is that of the remote ones, and one more. -/
theorem length_engines (treasuries : s'.remotes.map (·.treasury) = s.remotes.map (·.treasury)) :
    s'.engines.length = s.engines.length := by
  have length := congrArg List.length treasuries
  rw [List.length_map, List.length_map] at length
  unfold engines
  rw [List.length_cons, List.length_cons, List.length_map, List.length_map, length]

end Arena

namespace World

variable {w w' : World} {place : Nat} {caller : Address} {now : Timestamp} {remotes : List Nat}
  {ctx ctx' : Context} {s s' : Arena}

/-! ## What a call finds -/

/-- The places of the treasury and the feed that the engine at a place is connected to. -/
def connection? (seats : List Seat) (i : Nat) : Option (Nat × Nat) :=
  seats[i]?.map fun seat => (seat.treasury, seat.feed)

/-- The treasury behind the engine at a place. -/
def behind (w : World) (i : Nat) : Option Treasury :=
  (connection? w.seats i).bind fun connection => w.treasuries[connection.1]?

/-- What a call on an engine finds: its circumstances, and an arena with the engines of its places
and the treasuries behind them. -/
structure Opens (w : World) (place : Nat) (caller : Address) (now : Timestamp)
    (remotes : List Nat) (ctx : Context) (s : Arena) : Prop where
  stage : w.Stage place remotes s
  circumstances : ∃ seat, w.seats[place]? = some seat ∧ w.context seat caller now = .ok ctx
  treasuries : (otherPlaces place remotes).map w.behind = s.remotes.map fun r => some r.treasury

/-- A remote engine has a treasury behind it. -/
theorem behind_of_remote {i : Nat} {r : Remote} (h : w.remote i = .ok r) :
    w.behind i = some r.treasury := by
  simp only [remote, Outcome.bind_eq_ok, atPlace_eq_ok, Outcome.pure_eq_ok] at h
  obtain ⟨seat, found, treasury, stands, rfl⟩ := h
  unfold behind connection?
  rw [found]
  exact stands

/-- An accepted call did its work on what it found. -/
theorem callEngine_opens {call : EngineCall} {reply : EngineReply}
    (h : callEngine place caller now remotes call w = .ok reply w') :
    ∃ ctx s s', w.Opens place caller now remotes ctx s ∧ call.run ctx s = .ok reply s' ∧
      w' = w.restage place remotes s' := by
  unfold callEngine onArena at h
  obtain ⟨_, _, got, h⟩ := bind_eq_ok.mp h
  obtain ⟨rfl, rfl⟩ := Transact.get_eq_ok.mp got
  obtain ⟨seat, _, placed, h⟩ := bind_eq_ok.mp h
  obtain ⟨hseat, rfl⟩ := Transact.liftM_eq_ok.mp placed
  obtain ⟨ctx, _, circumstances, h⟩ := bind_eq_ok.mp h
  obtain ⟨hctx, rfl⟩ := Transact.liftM_eq_ok.mp circumstances
  obtain ⟨others, _, reached, h⟩ := bind_eq_ok.mp h
  obtain ⟨hothers, rfl⟩ := Transact.liftM_eq_ok.mp reached
  obtain ⟨s', ran, rfl⟩ := Transact.zoom_eq_ok.mp h
  have found := atPlace_eq_ok.mp hseat
  refine ⟨ctx, _, s', ⟨stage_of_remotes found hothers, ⟨seat, found, hctx⟩, ?_⟩, ran,
    (restage_eq _ _ _ _).symm⟩
  have stand := (mapM_eq_ok hothers).imp fun _ _ => behind_of_remote
  rwa [← List.forall₂_eq_eq_eq, List.forall₂_map_left_iff, List.forall₂_map_right_iff]

/-- The same engines, with the same treasuries behind them. -/
theorem remotes_ext {l l' : List Remote} (engines : l'.map (·.engine) = l.map (·.engine))
    (treasuries : l'.map (·.treasury) = l.map (·.treasury)) : l' = l := by
  induction l generalizing l' with
  | nil => exact List.map_eq_nil_iff.mp engines
  | cons r l ih =>
    cases l' with
    | nil => cases engines
    | cons r' l' =>
      obtain ⟨engine, engines⟩ := List.cons.inj engines
      obtain ⟨treasury, treasuries⟩ := List.cons.inj treasuries
      rw [ih engines treasuries]
      cases r
      cases r'
      cases engine
      cases treasury
      rfl

/-- The engines of an arena are those at its places. -/
theorem Stage.map_engine? (h : w.Stage place remotes s) :
    (places place remotes).map (engine? w.seats) = s.engines.map some := by
  rw [← List.forall₂_eq_eq_eq, List.forall₂_map_left_iff, List.forall₂_map_right_iff]
  exact h.engines

/-- A call finds one thing only. -/
theorem Opens.unique (h : w.Opens place caller now remotes ctx s)
    (h' : w.Opens place caller now remotes ctx' s') : ctx' = ctx ∧ s' = s := by
  obtain ⟨seat, found, circumstances⟩ := h.circumstances
  obtain ⟨seat', found', circumstances'⟩ := h'.circumstances
  cases found.symm.trans found'
  cases circumstances.symm.trans circumstances'
  have engines : s'.engines = s.engines :=
    List.map_injective_iff.mpr (Option.some_injective _)
      (h'.stage.map_engine?.symm.trans h.stage.map_engine?)
  have treasuries : s'.remotes.map (·.treasury) = s.remotes.map (·.treasury) := by
    apply List.map_injective_iff.mpr (Option.some_injective _)
    rw [List.map_map, List.map_map]
    exact h'.treasuries.symm.trans h.treasuries
  obtain ⟨engine, others⟩ := List.cons.inj engines
  have remotes := remotes_ext others treasuries
  have ledger := h'.stage.ledger.trans h.stage.ledger.symm
  have requests := h'.stage.requests.trans h.stage.requests.symm
  cases s
  cases s'
  cases engine
  cases remotes
  cases ledger
  cases requests
  exact ⟨rfl, rfl⟩

/-! ## Putting an arena back -/

/-- Putting engines back changes no connection. -/
theorem connection?_putEngines (seats : List Seat) (back : List (Nat × Engine)) (k : Nat) :
    connection? (putEngines seats back) k = connection? seats k := by
  induction back generalizing seats with
  | nil => rfl
  | cons entry back ih =>
    show connection? (putEngines (putEngine seats entry.1 entry.2) back) k = _
    rw [ih]
    unfold connection? putEngine
    rw [List.getElem?_modify]
    split
    · cases seats[k]? <;> rfl
    · cases seats[k]? <;> rfl

/-- No call changes which treasury is behind an engine. -/
theorem behind_restage (w : World) (place : Nat) (remotes : List Nat) (s : Arena) :
    (w.restage place remotes s).behind = w.behind := by
  funext i
  unfold behind
  rw [show connection? (w.restage place remotes s).seats i = connection? w.seats i from
    connection?_putEngines _ _ i]
  rfl

/-- The engines that were put back are at their places. -/
theorem Stage.restage (h : w.Stage place remotes s)
    (length : s'.engines.length = s.engines.length) :
    (w.restage place remotes s').Stage place remotes s' where
  ledger := rfl
  requests := rfl
  engines := by
    have back (n : Nat) {k : Nat} (here : (places place remotes)[n]? = some k) :
        engine? (w.restage place remotes s').seats k = s'.engines[n]? :=
      engine?_putEngines (nodup_places place remotes) h.engines length here
    refine List.forall₂_iff_get.mpr
      ⟨h.engines.length_eq.trans length.symm, fun n before after => ?_⟩
    exact (back n (List.getElem?_eq_getElem before)).trans (List.getElem?_eq_getElem after)

/-- After an arena with the same treasuries was put back, the next call finds it. -/
theorem Opens.restage (h : w.Opens place caller now remotes ctx s)
    (treasuries : s'.remotes.map (·.treasury) = s.remotes.map (·.treasury)) :
    (w.restage place remotes s').Opens place caller now remotes ctx s' where
  stage := h.stage.restage (Arena.length_engines treasuries)
  circumstances := by
    obtain ⟨seat, found, circumstances⟩ := h.circumstances
    have connected : connection? (w.restage place remotes s').seats place =
        some (seat.treasury, seat.feed) := by
      refine (connection?_putEngines _ _ place).trans ?_
      unfold connection?
      rw [found]
      rfl
    obtain ⟨seat', found', same⟩ := Option.map_eq_some_iff.mp connected
    obtain ⟨treasury, feed⟩ := Prod.mk.inj same
    refine ⟨seat', found', ?_⟩
    rw [← circumstances]
    unfold context
    rw [treasury, feed]
    rfl
  treasuries := by
    have stand := congrArg (List.map some) treasuries
    rw [List.map_map, List.map_map] at stand
    rw [behind_restage, h.treasuries]
    exact stand.symm

/-- Of two arenas that were put back one after the other, the second one stays. -/
theorem putEngines_putEngines {l : List Nat} {es ns : List Engine} (seats : List Seat)
    (nodup : l.Nodup) (length : ns.length = es.length) :
    putEngines (putEngines seats (l.zip es)) (l.zip ns) = putEngines seats (l.zip ns) := by
  induction l generalizing seats es ns with
  | nil => rfl
  | cons i l ih =>
    obtain ⟨outside, nodup⟩ := List.nodup_cons.mp nodup
    cases es with
    | nil =>
      cases List.eq_nil_of_length_eq_zero length
      rfl
    | cons e es =>
      cases ns with
      | nil => cases length
      | cons n ns =>
        show putEngines (putEngine (putEngines (putEngine seats i e) (l.zip es)) i n) (l.zip ns) =
          putEngines (putEngine seats i n) (l.zip ns)
        have first : putEngines (putEngine seats i e) (l.zip es) =
            putEngine (putEngines seats (l.zip es)) i e := putEngines_putEngine outside
        have second : putEngines (putEngine seats i n) (l.zip es) =
            putEngine (putEngines seats (l.zip es)) i n := putEngines_putEngine outside
        rw [first, putEngine_putEngine, ← second]
        exact ih _ nodup (Nat.succ.inj length)

/-- Of two stages put back one after the other, the second one counts. -/
theorem restage_restage (w : World) (place : Nat) (remotes : List Nat)
    (length : s'.engines.length = s.engines.length) :
    (w.restage place remotes s).restage place remotes s' = w.restage place remotes s' := by
  unfold restage
  dsimp only
  rw [putEngines_putEngines _ (nodup_places place remotes) length]

/-! ## One batch each -/

variable {p : Parties} {actions : List Action}

/-- An accepted batch did its work on what was found. -/
theorem batch_eq_ok {reply : EngineReply} (opens : w.Opens place caller now remotes ctx s)
    (h : callEngine place caller now remotes (.batch p actions) w = .ok reply w') :
    ∃ payment s', reply = .payment payment ∧ Arena.processBatch ctx p actions s = .ok payment s' ∧
      w' = w.restage place remotes s' := by
  obtain ⟨ctx', s₀, s', opens', ran, rfl⟩ := callEngine_opens h
  obtain ⟨rfl, rfl⟩ := opens.unique opens'
  obtain ⟨payment, _, done, answered⟩ := bind_eq_ok.mp ran
  obtain ⟨rfl, rfl⟩ := Transact.pure_eq_ok.mp answered
  exact ⟨payment, _, rfl, Arena.atomically_eq_ok.mp done, rfl⟩

/-- Batches of one action each, all accepted, did their work one after the other in one arena. -/
theorem batches_eq_ok {replies : List EngineReply}
    (opens : w.Opens place caller now remotes ctx s)
    (h : actions.mapM (fun action => callEngine place caller now remotes (.batch p [action])) w =
      .ok replies w') :
    ∃ (payments : List Payment) (s' : Arena), replies = payments.map .payment ∧
      actions.mapM (fun action => Arena.processBatch ctx p [action]) s = .ok payments s' ∧
      s'.remotes.map (·.treasury) = s.remotes.map (·.treasury) ∧
      w' = w.restage place remotes s' := by
  induction actions generalizing w s replies with
  | nil =>
    obtain ⟨rfl, rfl⟩ := Transact.pure_eq_ok.mp h
    refine ⟨[], s, rfl, rfl, rfl, ?_⟩
    exact ((restage_same opens.stage s.requests).trans (by rw [opens.stage.requests])).symm
  | cons action actions ih =>
    obtain ⟨reply, w₁, replies, first, rest, rfl⟩ := Transact.mapM_cons_eq_ok.mp h
    obtain ⟨payment, s₁, rfl, done, rfl⟩ := batch_eq_ok opens first
    have treasuries := Arena.treasuries_processBatch done
    obtain ⟨payments, s', rfl, all, treasuries', rfl⟩ := ih (opens.restage treasuries) rest
    refine ⟨payment :: payments, s', rfl, Transact.mapM_cons_eq_ok.mpr
      ⟨payment, s₁, payments, done, all, rfl⟩, treasuries'.trans treasuries, ?_⟩
    exact restage_restage w place remotes (Arena.length_engines treasuries')

/-- A list of actions that is accepted as one batch, and one action at a time by calls with the same
caller, time, reach and parties. The one batch pays the sum of what the single ones pay, flow by
flow. And the worlds are the same but for the ledger and the requests that a swapper got: all seats
are, and with them the state and the log of the engine and of every other engine. -/
theorem batching_nets {batched split : World} {reply : EngineReply} {replies : List EngineReply}
    (whole : callEngine place caller now remotes (.batch p actions) w = .ok reply batched)
    (single : actions.mapM
      (fun action => callEngine place caller now remotes (.batch p [action])) w =
        .ok replies split) :
    ∃ (payment : Payment) (payments : List Payment),
      reply = .payment payment ∧ replies = payments.map .payment ∧
      payment.flows = (payments.map Payment.flows).sum ∧
      split = { batched with ledger := split.ledger, requests := split.requests } := by
  obtain ⟨ctx, s, _, opens, _⟩ := callEngine_opens whole
  obtain ⟨payment, s₁, rfl, done, rfl⟩ := batch_eq_ok opens whole
  obtain ⟨payments, s₂, rfl, each, -, rfl⟩ := batches_eq_ok opens single
  obtain ⟨same, flows⟩ := Arena.processBatch_alone done each
  refine ⟨payment, payments, rfl, rfl, flows, ?_⟩
  unfold restage
  rw [same.engines]

/-- The small market with a second one beside it, which bears interest and where the borrower has
another vault; the two may exchange debt. -/
def twoMarkets : List Call := smallMarket ++ [
  .treasury 0 (.addEngine (account 3) (Engine.addressOf (account 2) (account 7) "market")),
  .treasury 0 (.addEngine (account 3) (Engine.addressOf (account 2) (account 7) "other")),
  .deploy ⟨"other", account 7, 18, .default⟩ 0 0 0,
  .engine 1 (account 3) 0 [] .togglePause,
  .engine 1 (account 5) 0 [] opening]

/-- Collateral is added, debt is taken over from the first market, some of it is repaid, and some
more is borrowed. -/
def errand : List Action := [
  .addCollateral 1 (tenths 100),
  .getDebtIn 1 (Engine.addressOf (account 2) (account 7) "market") 1 (tenths 20),
  .repayDebt 1 (tenths 50),
  .borrow 1 (tenths 30)]

/-- Whether the errand is paid for with what it comes to, when there is interest to be booked. -/
def errandPaid : Bool :=
  match callEngine 1 (account 5) 1000 [0] (.batch borrower errand) (history twoMarkets),
    errand.mapM (fun action => callEngine 1 (account 5) 1000 [0] (.batch borrower [action]))
      (history twoMarkets) with
  | .ok (.payment payment) _, .ok _ _ =>
    decide (payment.flows = ((tenths 30).toNat, (tenths 50).toNat, 0, (tenths 100).toNat))
  | _, _ => false

set_option maxRecDepth 10000 in
/-- The errand as one batch and as four, when there is interest to be booked. -/
theorem batching_nets_errand : ∃ (payment : Payment) (payments : List Payment)
    (batched split : World),
    callEngine 1 (account 5) 1000 [0] (.batch borrower errand) (history twoMarkets) =
      .ok (.payment payment) batched ∧
    errand.mapM (fun action => callEngine 1 (account 5) 1000 [0] (.batch borrower [action]))
      (history twoMarkets) = .ok (payments.map .payment) split ∧
    payment.flows = ((tenths 30).toNat, (tenths 50).toNat, 0, (tenths 100).toNat) ∧
    payment.flows = (payments.map Payment.flows).sum ∧
    split = { batched with ledger := split.ledger, requests := split.requests } := by
  have computed : errandPaid = true := by decide +kernel
  unfold errandPaid at computed
  split at computed
  · rename_i whole single
    obtain ⟨payment, payments, paid, rfl, sum, same⟩ := batching_nets whole single
    cases paid
    exact ⟨_, payments, _, _, whole, single, of_decide_eq_true computed, sum, same⟩
  · cases computed

end World

end CollateralDebt
