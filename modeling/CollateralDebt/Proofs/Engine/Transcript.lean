import CollateralDebt.Proofs.Acceptances
import CollateralDebt.Proofs.World.Run

/-!
# What a call does to the ledger

An engine touches the ledger through calls that anybody could make: permits while the actions of a
batch are applied, and then whatever settles the payment. An accepted call on an engine is a script
of such calls, so its ledger can be had by replaying the script. Swappers are given the same
calls to work with, and what they make of them is a script as well, of which nothing is assumed.

## What is stated and proved

- `Script`: calls on a ledger, which may depend on where the ledger is;
- `EngineCall.script`: the calls that an accepted call on an engine made;
- `Arena.Follows`: a computation that does to the ledger what a script does, and how this composes;
- `Arena.Permitted`: the permits of a batch are handed in and accepted one after the other;
- `EngineCall.Accepted.ledger`, `EngineCall.Accepted.presented`: an accepted call follows its script,
  and all permits that come with it are accepted.
-/

namespace CollateralDebt

open Transact (bind_eq_ok)

/-! ## Scripts -/

/-- Calls to be made on a ledger, given where it is. -/
abbrev Script := Ledger → List (Timestamp × LedgerCall)

namespace Script

/-- No calls. -/
def nothing : Script := fun _ => []

/-- One call. -/
def single (now : Timestamp) (call : LedgerCall) : Script := fun _ => [(now, call)]

/-- One script after the other, from where the first one leads. -/
def andThen (f g : Script) : Script := fun l => f l ++ g (l.replay (f l))

/-- A call that moves an amount, left out if there is nothing to move. -/
def leg (amount : Amount) (now : Timestamp) (call : LedgerCall) : Script :=
  if amount ≠ .zero then single now call else nothing

end Script

/-- The permits among actions. -/
def permitsAmong (actions : List Action) : List Permit :=
  actions.filterMap fun
    | .permit signed => some signed
    | _ => none

/-- The permits that come with a call. -/
def EngineCall.presented (call : EngineCall) : List Permit :=
  match call.asBatch with
  | some (_, actions) => permitsAmong actions
  | none => []

section

variable (scripts : Swapper → SwapRequest → Script) (e : EngineState) (caller : Address)
  (now : Timestamp) (p : Parties) (payment : Payment)

/-- Handing in the permits of a batch. -/
def permitScript (actions : List Action) : Script := fun _ =>
  (permitsAmong actions).map fun signed => (now, .permit signed)

/-- What a swapper does when it is asked, if there is one. -/
def askScript (request : SwapRequest) : Script :=
  match p.swapper with
  | some swap => scripts swap request
  | none => .nothing

/-- What goes out when a payment is settled. -/
def payOutScript : Script :=
  let minted := payment.stablecoinToGive.monus payment.stablecoinToReceive
  let released := payment.collateralToGive.monus payment.collateralToReceive
  (Script.leg minted now (.mint e.stablecoin e.address p.recipient minted)).andThen
    (.leg released now (.transfer e.collateral e.address p.recipient released))

/-- What comes in when a payment is settled, with what the swapper does in between. -/
def payInScript : Script :=
  let minted := payment.stablecoinToGive.monus payment.stablecoinToReceive
  let burnt := payment.stablecoinToReceive.monus payment.stablecoinToGive
  let released := payment.collateralToGive.monus payment.collateralToReceive
  let pulled := payment.collateralToReceive.monus payment.collateralToGive
  let ask (inToken outToken : Address) (owed obtained : Amount) :=
    askScript scripts p ⟨caller, inToken, outToken, p.source, owed, obtained, p.data, now⟩
  Script.andThen
    (if burnt ≠ .zero ∧ pulled = .zero then ask e.collateral e.stablecoin burnt released
      else .nothing)
    (.andThen (.leg burnt now (.burnFrom e.stablecoin e.address p.source caller burnt))
      (.andThen
        (if minted ≠ .zero ∧ pulled ≠ .zero then ask e.stablecoin e.collateral pulled minted
          else .nothing)
        (.leg pulled now (.transferFrom e.collateral caller p.source e.address pulled))))

/-- What settles a payment. -/
def settleScript : Script :=
  (payOutScript e now p payment).andThen (payInScript scripts e caller now p payment)

/-- What an accepted call on an engine did to the ledger, told from what it answered. -/
def EngineCall.script (call : EngineCall) : EngineReply → Script
  | .payment payment =>
    match call.asBatch with
    | some (p, actions) =>
      (permitScript now actions).andThen (settleScript scripts e caller now p payment)
    | none => .nothing
  | .report report =>
    match call with
    | .liquidate p _ _ => settleScript scripts e caller now p report.payment
    | _ => .nothing
  | .accrual accrual =>
    .leg accrual.surplus now (.mint e.stablecoin e.address e.treasury accrual.surplus)
  | .debtTaken _ => .nothing
  | .nothing => .nothing

end

/-- A swapper works with calls on the ledger: where it succeeds, the ledger is as its script leaves
it. -/
def Swapper.Follows (scripts : Swapper → SwapRequest → Script) (swap : Swapper) : Prop :=
  ∀ request l l', swap request l = .ok () l' → l' = l.replay (scripts swap request l)

/-! ## Computations that follow a script -/

namespace Arena

variable {α β : Type} {f g : Script} {s s' : Arena}

/-- Where the computation succeeds, the ledger is as the script leaves it. -/
def Follows (f : Script) (m : Transact Arena α) : Prop :=
  ∀ s a s', m s = .ok a s' → s'.ledger = s.ledger.replay (f s.ledger)

/-- What does nothing has no calls in its script. -/
theorem follows_pure (a : α) : Follows .nothing (pure a) := by
  intro s _ s' h
  obtain ⟨-, rfl⟩ := Transact.pure_eq_ok.mp h
  rfl

/-- Scripts are put one after the other like the computations that they tell of. -/
theorem Follows.bind {m : Transact Arena α} {k : α → Transact Arena β} (hm : Follows f m)
    (hk : ∀ a, Follows g (k a)) : Follows (f.andThen g) (m >>= k) := by
  intro s b s' h
  obtain ⟨a, t, first, second⟩ := bind_eq_ok.mp h
  rw [hk a _ _ _ second, hm _ _ _ first, Script.andThen, Ledger.replay_append]

/-- A step that may be left out. -/
theorem follows_when {c : Prop} [Decidable c] {m : Transact Arena Unit}
    {k : Unit → Transact Arena α} (hm : Follows f m) (hk : ∀ u, Follows g (k u)) :
    Follows ((if c then f else .nothing).andThen g) (if c then m >>= k else k ()) := by
  split
  · exact hm.bind hk
  · exact hk ()

/-- A call on the ledger is its own script. -/
theorem follows_onLedger (now : Timestamp) (call : LedgerCall) :
    Follows (.single now call) (onLedger (call.run now)) := by
  intro s _ s' h
  obtain ⟨l, done, rfl⟩ := onLedger_eq_ok.mp h
  exact (Transact.after_of_ok done).symm

/-- A leg of a settlement is one call, or none. -/
theorem follows_leg (amount : Amount) (now : Timestamp) (call : LedgerCall) :
    Follows (.leg amount now call) (leg amount (call.run now)) := by
  unfold Script.leg leg
  split
  · exact follows_onLedger now call
  · exact follows_pure ()

section Settling

variable {scripts : Swapper → SwapRequest → Script} {ctx : Context} {p : Parties}
  {payment : Payment}

/-- A swapper works as its script tells, and without one nothing is asked. -/
theorem follows_askSwapper (scripted : ∀ swap ∈ p.swapper, swap.Follows scripts)
    (request : SwapRequest) :
    Follows (askScript scripts p request) (askSwapper p.swapper request) := by
  intro s _ s' h
  unfold askScript
  unfold askSwapper at h
  cases asked : p.swapper with
  | none =>
    rw [asked] at h
    exact follows_pure () s _ s' h
  | some swap =>
    rw [asked] at h
    obtain ⟨_, _, noted, h⟩ := bind_eq_ok.mp h
    obtain rfl := Transact.modify_eq_ok.mp noted
    obtain ⟨l, done, rfl⟩ := onLedger_eq_ok.mp h
    exact scripted swap asked request _ _ done

/-- What goes out of a settlement is two legs. -/
theorem follows_payOut (e : EngineState) :
    Follows (payOutScript e ctx.now p payment) (payOut e ctx p payment) :=
  (follows_leg _ ctx.now (.mint ..)).bind fun _ => follows_leg _ ctx.now (.transfer ..)

/-- What comes in is two legs, with the swapper in between where it is asked. -/
theorem follows_payIn (scripted : ∀ swap ∈ p.swapper, swap.Follows scripts) (e : EngineState) :
    Follows (payInScript scripts e ctx.caller ctx.now p payment) (payIn e ctx p payment) := by
  unfold payIn payInScript
  refine follows_when (follows_askSwapper scripted _) fun _ => ?_
  refine (follows_leg _ ctx.now (.burnFrom ..)).bind fun _ => ?_
  refine follows_when (follows_askSwapper scripted _) fun _ => ?_
  exact follows_leg _ ctx.now (.transferFrom ..)

/-- Settling follows the script for the engine as it is. -/
theorem ledger_settle (scripted : ∀ swap ∈ p.swapper, swap.Follows scripts) {u : Unit}
    (h : settle ctx p payment s = .ok u s') :
    s'.ledger = s.ledger.replay
      (settleScript scripts s.engine.state ctx.caller ctx.now p payment s.ledger) := by
  rw [settle_eq] at h
  obtain ⟨_, _, got, h⟩ := bind_eq_ok.mp h
  obtain ⟨rfl, rfl⟩ := Transact.get_eq_ok.mp got
  exact ((follows_payOut _).bind fun _ => follows_payIn scripted _) _ _ _ h

end Settling

section Acting

variable {ctx : Context} {accumulator : Amount} {t t' : Tally}

/-- What actions do to the ledger: they hand in their permits, all of which are accepted. -/
structure Permitted (now : Timestamp) (actions : List Action) (l l' : Ledger) : Prop where
  replayed : l' = l.replay (permitScript now actions l)
  accepted :
    (l.acceptances (permitScript now actions l)).map Acceptance.signed = permitsAmong actions

/-- The permits of a list of actions are handed in one after the other. -/
theorem Permitted.append {now : Timestamp} {actions more : List Action} {l₁ l₂ l₃ : Ledger}
    (first : Permitted now actions l₁ l₂) (second : Permitted now more l₂ l₃) :
    Permitted now (actions ++ more) l₁ l₃ := by
  have permits : permitsAmong (actions ++ more) = permitsAmong actions ++ permitsAmong more :=
    List.filterMap_append
  have script : permitScript now (actions ++ more) l₁ =
      permitScript now actions l₁ ++ permitScript now more l₂ := by
    unfold permitScript
    rw [permits, List.map_append]
  constructor
  · rw [script, Ledger.replay_append, ← first.replayed]
    exact second.replayed
  · rw [script, Ledger.acceptances_append, ← first.replayed, List.map_append, first.accepted,
      second.accepted, permits]

/-- An action is a permit that is accepted, or leaves the ledger alone. -/
theorem permitted_applyAction {action : Action}
    (h : applyAction ctx accumulator t action s = .ok t' s') :
    Permitted ctx.now [action] s.ledger s'.ledger := by
  cases action with
  | permit signed =>
    obtain ⟨_, s₁, granted, ended⟩ := bind_eq_ok.mp h
    obtain ⟨rfl, rfl⟩ := Transact.pure_eq_ok.mp ended
    obtain ⟨l, done, rfl⟩ := onLedger_eq_ok.mp granted
    refine ⟨(Transact.after_of_ok done).symm, ?_⟩
    show ((s.ledger.accepted ctx.now (.permit signed)).toList ++ []).map Acceptance.signed =
      [signed]
    unfold Ledger.accepted
    dsimp only
    rw [done]
    rfl
  | _ =>
    cases applyAction_cases h
    all_goals exact ⟨rfl, rfl⟩

/-- The actions of a batch hand in its permits. -/
theorem permitted_gather {actions : List Action} {tally : Tally}
    (h : gather ctx actions s = .ok tally s') :
    Permitted ctx.now actions s.ledger s'.ledger := by
  obtain ⟨accumulator, m, _, folded, _⟩ := gather_eq_ok h
  exact Transact.foldlM_induction
    (P := fun done _ x => Permitted ctx.now done s.ledger x.ledger)
    (fun _ _ _ _ _ _ before next => before.append (permitted_applyAction next)) ⟨rfl, rfl⟩ folded

/-- Settling with the treasury mints what is left of the surplus. -/
theorem ledger_processAccrual {accrual : TreasuryAccrual}
    (h : processAccrual ctx s = .ok accrual s') :
    s'.ledger = s.ledger.replay (Script.leg accrual.surplus ctx.now
      (.mint s.engine.state.stablecoin s.engine.state.address s.engine.state.treasury
        accrual.surplus) s.ledger) := by
  obtain ⟨_, m, _, l, accrued, _, minted, rfl⟩ := processAccrual_minted h
  rw [accrued.state] at minted
  unfold Script.leg
  split at minted
  · rename_i left
    rw [if_pos left]
    exact (Transact.after_of_ok minted).symm
  · rename_i nothing
    rw [if_neg nothing]
    exact minted

end Acting

end Arena

/-- The script of a settlement needs the engine for its assets and its address alone. -/
theorem settleScript_congr {scripts : Swapper → SwapRequest → Script} {e e' : Engine}
    {caller : Address} {now : Timestamp} {p : Parties} {payment : Payment}
    (same : e'.identity = e.identity) :
    settleScript scripts e'.state caller now p payment =
      settleScript scripts e.state caller now p payment := by
  unfold settleScript payOutScript payInScript
  rw [Engine.address_of_identity same, Engine.collateral_of_identity same,
    Engine.stablecoin_of_identity same]

/-- An accepted call does to the ledger what its script does. -/
theorem EngineCall.Accepted.ledger {scripts : Swapper → SwapRequest → Script} {ctx : Context}
    {s s' : Arena} {call : EngineCall} {reply : EngineReply} (h : Accepted ctx s call reply s')
    (exact : s.engine.Exact) (scripted : ∀ swap ∈ call.swapper, swap.Follows scripts) :
    s'.ledger = s.ledger.replay
      (call.script scripts s.engine.state ctx.caller ctx.now reply s.ledger) := by
  cases h with
  | @batch _ p actions payment _ is done =>
    rw [(parties_of_asBatch is).1] at scripted
    obtain ⟨tally, s₁, gathered, rfl, settled⟩ := Arena.processBatch_eq_ok done
    have same : s₁.engine.identity = s.engine.identity :=
      (List.cons.inj (Arena.identities_gather gathered)).1
    unfold script
    dsimp only
    rw [is, Arena.ledger_settle scripted settled, (Arena.permitted_gather gathered).replayed,
      settleScript_congr same]
    exact (Ledger.replay_append _ _ _).symm
  | liquidate done paid =>
    rw [Arena.handleRepay_eq] at paid
    have same := Engine.identity_liquidatedAll exact done
    rw [Arena.ledger_settle scripted paid, settleScript_congr same]
    rfl
  | getDebtOut paid => rfl
  | accrueToTreasury done => exact Arena.ledger_processAccrual done
  | upkeep is changed => rfl

/-- All permits that come with an accepted call are accepted. -/
theorem EngineCall.Accepted.presented {scripts : Swapper → SwapRequest → Script} {ctx : Context}
    {s s' : Arena} {call : EngineCall} {reply : EngineReply} (h : Accepted ctx s call reply s') :
    call.presented.Sublist ((s.ledger.acceptances
      (call.script scripts s.engine.state ctx.caller ctx.now reply s.ledger)).map
        Acceptance.signed) := by
  cases h with
  | @batch _ p actions payment _ is done =>
    obtain ⟨tally, s₁, gathered, _⟩ := Arena.processBatch_eq_ok done
    unfold EngineCall.presented script
    dsimp only
    rw [is]
    show (permitsAmong actions).Sublist
      ((s.ledger.acceptances (permitScript ctx.now actions s.ledger ++ _)).map Acceptance.signed)
    rw [Ledger.acceptances_append, List.map_append, (Arena.permitted_gather gathered).accepted]
    exact List.sublist_append_left _ _
  | upkeep is =>
    unfold EngineCall.presented
    rw [is]
    exact List.nil_sublist _
  | _ => exact List.nil_sublist _

end CollateralDebt
