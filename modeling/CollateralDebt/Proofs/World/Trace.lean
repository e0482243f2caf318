import CollateralDebt.Proofs.Engine.TraceCall
import CollateralDebt.Proofs.Refusal

/-!
# The lives of engines

An engine is founded by one call of a history, stays at its place, and goes on by steps whenever an
accepted call reaches it. So a statement about every engine of every reachable world is proved on
the engine as it is founded and on one step.

## What is proved

- `traced_next`: one call leads every engine along a trace, if it reaches the engine at all;
- `exists_founding`, `Reachable.engine_induction`: every engine descends from the one that was
  founded at its place, and keeps what new engines have and steps keep;
- `descends_run`: what a run leaves of an engine descends from it.
-/

namespace CollateralDebt

open Transact (bind_eq_ok)

/-- The time at which a call reaches the engine at a place: as a call on it, as a call on another
engine that has it within reach, or as a new connection. -/
def Call.reaches (place : Nat) : Call → Option Timestamp
  | .engine called _ now remotes _ =>
    if place ∈ World.places called remotes then some now else none
  | .setOracle connected _ now _ => if place = connected then some now else none
  | .setTreasury connected _ now _ => if place = connected then some now else none
  | _ => none

/-- An engine that another one became, step by step, at whatever times. -/
abbrev Engine.Descends : Engine → Engine → Prop :=
  Relation.ReflTransGen fun e e' => ∃ now, Engine.Step False now e e'

/-- A trace at one time is a part of a descent. -/
theorem Engine.Trace.descends {now : Timestamp} {e e' : Engine} (h : Engine.Trace False now e e') :
    Engine.Descends e e' := Relation.ReflTransGen.mono (fun _ _ step => ⟨now, step⟩) e e' h

/-- A new engine: paused, without vaults or debt, and with nothing in its log. -/
structure Engine.New (config : EngineConfig) (treasury : Treasury) (now : Timestamp) (e : Engine) :
    Prop where
  params : e.state.params = config.params
  boostCurve : BoostCurve.flat config.params.baseBoost = .ok e.state.boostCurve
  treasury : e.state.treasury = treasury.address
  accumulator : e.state.accumulator = ⟨accumulatorOne, by decide⟩
  accruedAt : e.state.accruedAt = now
  total : e.state.totalNormalizedDebt = .zero
  paused : e.state.paused = true
  registry : e.state.registry = .empty
  log : e.log = []

namespace World

variable {tidy : Prop} {w : World} {place : Nat} {o : Engine}

/-- Whether a call on an engine is accepted. -/
def accepts (w : World) (place : Nat) (caller : Address) (now : Timestamp) (remotes : List Nat)
    (call : EngineCall) : Bool :=
  match callEngine place caller now remotes call w with
  | .ok _ _ => true
  | .error _ _ => false

/-- A call is accepted if it answers something. -/
theorem accepts_eq_true {caller : Address} {now : Timestamp} {remotes : List Nat}
    {call : EngineCall} :
    w.accepts place caller now remotes call = true ↔
      ∃ reply w', callEngine place caller now remotes call w = .ok reply w' := by
  unfold accepts
  cases callEngine place caller now remotes call w with
  | ok reply w' => exact ⟨fun _ => ⟨reply, w', rfl⟩, fun _ => rfl⟩
  | error f w' =>
    constructor
    · intro accepted
      cases accepted
    · rintro ⟨_, _, accepted⟩
      cases accepted

/-- A call that is careful where it is made, or refused. -/
def Careful (w : World) : Call → Prop
  | .engine place caller now remotes call =>
    w.accepts place caller now remotes call = true → ∀ e ∈ engine? w.seats place, call.Careful e
  | _ => True

instance (w : World) : DecidablePred w.Careful
  | .engine place caller now remotes call =>
    inferInstanceAs (Decidable (w.accepts place caller now remotes call = true →
      ∀ e ∈ engine? w.seats place, call.Careful e))
  | .ledger .. | .openTreasury .. | .treasury .. | .addMinter .. | .openFeed .. | .feed ..
  | .deploy .. | .setOracle .. | .setTreasury .. => inferInstanceAs (Decidable True)

/-! ## One call -/

/-- What a call leaves of an engine: the engine itself, or where a trace has led it at the time of
the call. -/
def LedBy (tidy : Prop) (call : Call) (place : Nat) (o n : Engine) : Prop :=
  n = o ∨ ∃ now, call.reaches place = some now ∧ Engine.Trace tidy now o n

/-- An accepted call leads the engine at every place that it reaches along a trace, and leaves the
others. -/
theorem traced_callEngine {called : Nat} {caller : Address} {now : Timestamp} {remotes : List Nat}
    {call : EngineCall} {reply : EngineReply} {w' : World}
    (hw : ∀ seat ∈ w.seats, seat.engine.Exact)
    (careful : tidy → w.Careful (.engine called caller now remotes call))
    (answer : callEngine called caller now remotes call w = .ok reply w')
    (standing : engine? w.seats place = some o) :
    ∃ n, engine? w'.seats place = some n ∧
      LedBy tidy (.engine called caller now remotes call) place o n := by
  have accepted : w.accepts called caller now remotes call = true :=
    accepts_eq_true.mpr ⟨reply, w', answer⟩
  obtain ⟨seat, ctx, s, s', _, circumstances, stage, ran, rfl⟩ := callEngine_eq_ok answer
  obtain ⟨_, _, _, rfl, _⟩ := context_eq_ok circumstances
  have traced : Arena.Traced tidy ctx.now s s' :=
    EngineCall.traced (stage.exact hw).engine
      (fun holds => careful holds accepted _ stage.engine) ran
  unfold LedBy Call.reaches
  by_cases within : place ∈ places called remotes
  · obtain ⟨n, stands, trace⟩ := rel_putEngines (fun _ => Relation.ReflTransGen.refl)
      (nodup_places called remotes) stage.engines traced standing
    exact ⟨n, stands, .inr ⟨ctx.now, if_pos within, trace⟩⟩
  · exact ⟨o, (engine?_putEngines_of_notMem within).trans standing, .inl rfl⟩

/-- A new connection is made by one step of its engine, or refused without a trace. -/
theorem traced_connect {α : Type} {connected : Nat} (tidy : Prop) (check : World → Outcome α)
    (caller : Address) (now : Timestamp) (m : α → Context → Transact Engine Unit)
    (connection : Seat → Seat)
    (keeps : ∀ seat, (connection seat).engine = seat.engine)
    (trace : ∀ a ctx e e', m a ctx e = .ok () e' → Engine.Trace tidy ctx.now e e')
    (traceless : ∀ a ctx, Transact.Traceless (m a ctx))
    (standing : engine? w.seats place = some o) :
    ∃ n, engine? ((connect check connected caller now m connection).after w).seats place = some n ∧
      (n = o ∨ place = connected ∧ Engine.Trace tidy now o n) := by
  rcases connect_cases traceless w with ⟨a, seat, ctx, e, found, circumstances, done, same⟩ | same
  · rw [same]
    obtain ⟨_, _, _, rfl, _⟩ := context_eq_ok circumstances
    -- the new connection changes the seat, and not the engine that sits there
    rw [engine?_modify keeps]
    by_cases here : connected = place
    · subst here
      have sitting := engine?_of_seat found
      cases standing.symm.trans sitting
      exact ⟨e, engine?_putEngine_self sitting e, .inr ⟨rfl, trace a ctx _ e done⟩⟩
    · exact ⟨o, (engine?_putEngine_of_ne e here).trans standing, .inl rfl⟩
  · rw [same]
    exact ⟨o, standing, .inl rfl⟩

/-- A founding adds a seat, or is refused and leaves all seats as they are. -/
theorem seats_next_deploy (w : World) (config : EngineConfig) (treasuryPlace feedPlace : Nat)
    (now : Timestamp) :
    (∃ treasury l e, w.treasuries[treasuryPlace]? = some treasury ∧
      Engine.create config treasury now w.ledger = .ok e l ∧
      (w.next (.deploy config treasuryPlace feedPlace now)).seats =
        w.seats ++ [⟨e, treasuryPlace, feedPlace⟩]) ∨
    (w.next (.deploy config treasuryPlace feedPlace now)).seats = w.seats := by
  rcases next_deploy_cases w config treasuryPlace feedPlace now with ⟨_, deployed⟩ | same
  · obtain ⟨treasury, e, behind, created, seats⟩ := deploy_eq_ok deployed
    exact .inl ⟨treasury, _, e, behind, created, seats⟩
  · exact .inr (congrArg World.seats same)

/-- Calls that neither found an engine nor reach one leave all seats as they are. -/
theorem seats_next (w : World) {call : Call} (apart : call.concernsEngine = false) :
    (w.next call).seats = w.seats := by
  cases call with
  | ledger now call => rw [next_ledger]
  | openTreasury | treasury | openFeed | feed => exact (beside_next w rfl).seats
  | addMinter place minter now =>
    exact ((keeps_addMinter place minter now).after w).seats
  | _ => cases apart

/-- One call, accepted or refused, leads every engine that it reaches along a trace, and leaves the
others as they are. -/
theorem traced_next (hw : ∀ seat ∈ w.seats, seat.engine.Exact) {call : Call}
    (careful : tidy → w.Careful call) (standing : engine? w.seats place = some o) :
    ∃ n, engine? (w.next call).seats place = some n ∧ LedBy tidy call place o n := by
  cases call with
  | engine called caller now remotes call =>
    cases answer : callEngine called caller now remotes call w with
    | ok reply w' =>
      rw [next_engine answer]
      exact traced_callEngine hw careful answer standing
    | error f w' =>
      rw [(beside_next_engine answer).seats]
      exact ⟨o, standing, .inl rfl⟩
  | setOracle connected caller now feedPlace =>
    obtain ⟨n, stands, led⟩ := traced_connect tidy (fun w => atPlace w.feeds feedPlace) caller now
      (fun _ => Engine.setOracle) (fun seat => { seat with feed := feedPlace }) (fun _ => rfl)
      (fun _ _ _ _ => Engine.trace_setOracle)
      (fun _ => Engine.traceless_setOracle) standing
    exact ⟨n, stands, led.imp_right fun ⟨here, trace⟩ => ⟨now, if_pos here, trace⟩⟩
  | setTreasury connected caller now treasuryPlace =>
    obtain ⟨n, stands, led⟩ := traced_connect tidy (fun w => atPlace w.treasuries treasuryPlace)
      caller now (fun successor ctx => Engine.setTreasury ctx successor)
      (fun seat => { seat with treasury := treasuryPlace }) (fun _ => rfl)
      (fun _ _ _ _ => Engine.trace_setTreasury)
      (fun successor ctx => Engine.traceless_setTreasury ctx successor) standing
    exact ⟨n, stands, led.imp_right fun ⟨here, trace⟩ => ⟨now, if_pos here, trace⟩⟩
  | deploy config treasuryPlace feedPlace now =>
    refine ⟨o, ?_, .inl rfl⟩
    rcases seats_next_deploy w config treasuryPlace feedPlace now with
      ⟨_, _, e, _, _, seats⟩ | seats
    · rw [seats]
      exact engine?_append standing _
    · rw [seats]
      exact standing
  | _ =>
    rw [seats_next w rfl]
    exact ⟨o, standing, .inl rfl⟩

/-! ## Founding -/

/-- An accepted founding gives a new engine. -/
theorem new_of_create {config : EngineConfig} {treasury : Treasury} {now : Timestamp}
    {l l' : Ledger} {e : Engine} (h : Engine.create config treasury now l = .ok e l') :
    e.New config treasury now := by
  unfold Engine.create at h
  obtain ⟨_, _, _, h⟩ := bind_eq_ok.mp h
  obtain ⟨_, _, _, h⟩ := bind_eq_ok.mp h
  obtain ⟨_, _, _, h⟩ := bind_eq_ok.mp h
  obtain ⟨curve, _, drawn, h⟩ := bind_eq_ok.mp h
  obtain ⟨_, _, _, h⟩ := bind_eq_ok.mp h
  obtain ⟨unit, _, _, h⟩ := bind_eq_ok.mp h
  obtain ⟨rfl, rfl⟩ := Transact.pure_eq_ok.mp h
  exact ⟨rfl, (Transact.liftM_eq_ok.mp drawn).1, rfl, rfl, rfl, rfl, rfl, rfl, rfl⟩

/-- Nothing stands beyond the seats. -/
theorem engine?_eq_none {seats : List Seat} :
    engine? seats place = none ↔ seats.length ≤ place := by
  unfold engine?
  rw [Option.map_eq_none_iff, List.getElem?_eq_none_iff]

theorem length_putEngines (seats : List Seat) (back : List (Nat × Engine)) :
    (putEngines seats back).length = seats.length := by
  induction back generalizing seats with
  | nil => rfl
  | cons first back ih => exact (ih _).trans (List.length_modify _ _ _)

/-- Only a founding adds a seat. -/
theorem Change.length_seats {w' : World} {call : Call} (h : Change w call w') :
    w'.seats.length = w.seats.length ∨
      ∃ config treasuryPlace feedPlace now,
        call = .deploy config treasuryPlace feedPlace now := by
  cases h with
  | still same => exact .inl (congrArg List.length same.seats)
  | ledger => exact .inl rfl
  | founded => exact .inr ⟨_, _, _, _, rfl⟩
  | @connected _ i _ e _ _ _ engines =>
    have same := congrArg List.length engines
    rw [List.length_map, List.length_map] at same
    exact .inl (same.trans (List.length_modify _ _ _))
  | called => exact .inl (length_putEngines _ _)

/-- An engine that was not there before a call was founded by it. -/
theorem founded_next {call : Call} {e : Engine} (free : engine? w.seats place = none)
    (there : engine? (w.next call).seats place = some e) :
    ∃ config treasuryPlace feedPlace now treasury l,
      call = .deploy config treasuryPlace feedPlace now ∧ w.seats.length = place ∧
      w.treasuries[treasuryPlace]? = some treasury ∧
      Engine.create config treasury now w.ledger = .ok e l := by
  have before := engine?_eq_none.mp free
  rcases (change_next w call).length_seats with same | ⟨config, treasuryPlace, feedPlace, now, rfl⟩
  · rw [engine?_eq_none.mpr (same ▸ before)] at there
    cases there
  · rcases seats_next_deploy w config treasuryPlace feedPlace now with
      ⟨treasury, l, o, behind, created, seats⟩ | seats
    · rw [engine?_eq_getElem?, seats, List.map_append,
        List.getElem?_append_right (by simpa using before)] at there
      obtain ⟨last, same⟩ := List.getElem?_eq_some_iff.mp there
      rw [List.length_map] at last
      have here : w.seats.length = place := by
        simp only [List.map_cons, List.map_nil, List.length_singleton] at last
        omega
      simp only [List.map_cons, List.map_nil, List.getElem_singleton] at same
      subst same
      exact ⟨config, treasuryPlace, feedPlace, now, treasury, l, rfl, here, behind, created⟩
    · rw [seats, free] at there
      cases there

/-- What a call leaves of an engine descends from it. -/
theorem LedBy.descends {call : Call} {n : Engine} (h : LedBy False call place o n) :
    o.Descends n := by
  rcases h with rfl | ⟨now, _, trace⟩
  · exact .refl
  · exact trace.descends

/-- A call leads from a reachable world to a reachable one. -/
theorem Reachable.next (hw : w.Reachable) (call : Call) : (w.next call).Reachable := by
  obtain ⟨calls, rfl⟩ := hw
  exact ⟨calls ++ [call], history_append calls call⟩

/-- So does a run. -/
theorem Reachable.run (hw : w.Reachable) (calls : List Call) : (w.run calls).Reachable := by
  induction calls generalizing w with
  | nil => exact hw
  | cons call rest ih => exact ih (hw.next call)

/-- What a call leaves of an engine descends from it. -/
theorem descends_next (hw : w.Reachable) (call : Call) (standing : engine? w.seats place = some o) :
    ∃ n, engine? (w.next call).seats place = some n ∧ o.Descends n := by
  have next : ∃ n, engine? (w.next call).seats place = some n ∧ LedBy False call place o n :=
    traced_next hw.exact nofun standing
  obtain ⟨n, stands, led⟩ := next
  exact ⟨n, stands, led.descends⟩

/-- What a run leaves of an engine descends from it. -/
theorem descends_run {calls : List Call} (hw : w.Reachable)
    (standing : engine? w.seats place = some o) :
    ∃ n, engine? (w.run calls).seats place = some n ∧ o.Descends n := by
  induction calls generalizing w o with
  | nil => exact ⟨o, standing, .refl⟩
  | cons call rest ih =>
    obtain ⟨m, stands, first⟩ := descends_next hw call standing
    obtain ⟨n, there, descends⟩ := ih (hw.next call) stands
    exact ⟨n, there, first.trans descends⟩

/-- Every engine of a history was founded by one of its calls, behind all engines that were there
before, and descends from what it was then. -/
theorem exists_founding {calls : List Call} {e : Engine}
    (there : engine? (history calls).seats place = some e) :
    ∃ before after config treasuryPlace feedPlace now treasury l o,
      calls = before ++ .deploy config treasuryPlace feedPlace now :: after ∧
      (history before).seats.length = place ∧
      (history before).treasuries[treasuryPlace]? = some treasury ∧
      Engine.create config treasury now (history before).ledger = .ok o l ∧ o.Descends e := by
  -- on the calls from the last one back
  induction calls using List.reverseRecOn generalizing e with
  | nil => cases there
  | append_singleton calls call ih =>
    rw [history_append] at there
    cases standing : engine? (history calls).seats place with
    | none =>
      obtain ⟨config, treasuryPlace, feedPlace, now, treasury, l, rfl, last, behind, created⟩ :=
        founded_next standing there
      exact ⟨calls, [], config, treasuryPlace, feedPlace, now, treasury, l, e, rfl, last, behind,
        created, .refl⟩
    | some m =>
      obtain ⟨before, after, config, treasuryPlace, feedPlace, now, treasury, l, o, rfl, last,
        behind, created, descends⟩ := ih standing
      obtain ⟨n, stands, further⟩ := descends_next ⟨_, rfl⟩ call standing
      cases stands.symm.trans there
      exact ⟨before, after ++ [call], config, treasuryPlace, feedPlace, now, treasury, l, o,
        List.append_assoc _ _ _, last, behind, created, descends.trans further⟩

/-- What holds of every new engine and is kept by every step holds of every engine of every
reachable world. -/
theorem Reachable.engine_induction {P : Engine → Prop} {e : Engine} (hw : w.Reachable)
    (founded : ∀ config treasury now e, Engine.New config treasury now e → P e)
    (kept : ∀ now e e', Engine.Step False now e e' → P e → P e')
    (there : engine? w.seats place = some e) : P e := by
  obtain ⟨calls, rfl⟩ := hw
  obtain ⟨_, _, config, _, _, now, treasury, _, o, _, _, _, created, descends⟩ :=
    exists_founding there
  clear there
  induction descends with
  | refl => exact founded config treasury now o (new_of_create created)
  | tail _ step ih =>
    obtain ⟨now, step⟩ := step
    exact kept now _ _ step ih

end World

end CollateralDebt
