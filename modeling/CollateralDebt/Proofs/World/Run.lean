import CollateralDebt.Proofs.DebtTotal

/-!
# Runs

A run is a list of calls made from some world. Statements about runs speak of what was allowed
throughout, of what was counted along the way, and of what an engine is for good: its address, its
assets and their precision never change, and no seat is ever given up.

## What is proved

- `Throughout`, `countOver`: what holds at every call of a run, and what all calls add up to;
- `Engine.Lasting`, `EngineCall.Accepted.lasting`: what batches and liquidations leave alone;
- `EngineCall.Accepted.identities`, `identities_run`: engines stay what they are.
-/

namespace CollateralDebt

/-! ## What lasts -/

namespace Engine

/-- What is read off an engine that neither vaults nor bookings decide: it is the same on engines
with one frame and one whitelist, and does not depend on interest, surplus, losses or the log. -/
structure Lasting {α : Type} (f : Engine → α) : Prop where
  framed : ∀ {e e' : Engine}, e'.frame = e.frame →
    e'.state.registry.whitelist = e.state.registry.whitelist → f e' = f e
  accrued : ∀ {e e' : Engine} {now : Timestamp} {accumulator : Amount},
    Accrued e now accumulator e' → f e' = f e
  netted : ∀ (e : Engine) (surplus badDebt : Amount) (log : EventLog),
    f { e with state := { e.state with surplus, badDebt }, log } = f e

/-- An engine is what it is for good. -/
theorem lasting_identity : Lasting identity where
  framed same _ := identity_of_frame same
  accrued booked := booked.identity
  netted _ _ _ _ := rfl

namespace Lasting

variable {α : Type} {f : Engine → α} {e e' : Engine} {id : VaultId} {v w : Vault}

/-- Balances of vaults decide nothing that lasts. -/
theorem revised (hf : Lasting f) (h : Revised e id v w e') : f e' = f e := by
  refine hf.framed h.frame ?_
  rw [h.registry]
  rfl

/-- Nor does the removal of a vault. -/
theorem removed (hf : Lasting f) (h : Removed e id v e') : f e' = f e := by
  obtain ⟨_, burnt⟩ := h.burnt
  exact hf.framed h.frame (Registry.whitelist_burn burnt)

/-- Nor does a new vault. -/
theorem created (hf : Lasting f) (h : Created e id e') : f e' = f e := by
  obtain ⟨_, minted⟩ := h.minted
  exact hf.framed h.frame (Registry.whitelist_mint minted)

/-- Nor does paying debt out. -/
theorem paidOut {now : Timestamp} {amount taken : Amount} {senderBorrowFee senderRepayFee : UInt64}
    (hf : Lasting f)
    (paid : payDebtOut now id amount senderBorrowFee senderRepayFee e = .ok taken e') :
    f e' = f e := by
  obtain ⟨_, m, _, _, _, _, booked, revised, _⟩ := payDebtOut_eq_ok paid
  exact (hf.revised revised).trans (hf.accrued booked)

/-- Nor does a liquidation. -/
theorem liquidatedNext {ctx : Context} {report report' : LiquidationReport}
    {entry : VaultId × Amount} (hf : Lasting f) (h : e.Exact)
    (next : liquidateNext ctx report entry e = .ok report' e') : f e' = f e := by
  rcases liquidateNext_eq_ok h next with ⟨outcome, done, _⟩ | ⟨_, _, rfl, _⟩
  · obtain ⟨v, w, _, revised, _⟩ := liquidateVault_eq_ok done
    exact hf.revised revised
  · rfl

/-- Nor does a round of them. -/
theorem liquidatedAll {ctx : Context} {ids : List VaultId} {amounts : List Amount}
    {report : LiquidationReport} (hf : Lasting f) (h : e.Exact)
    (all : liquidateAll ctx ids amounts e = .ok report e') : f e' = f e := by
  obtain ⟨_, _, m, m', _, _, _, booked, _, folded, _, _, _, _, _, rfl⟩ := liquidateAll_eq_ok all
  obtain ⟨-, same⟩ : m'.Exact ∧ f m' = f m :=
    Transact.foldlM_induction (P := fun _ _ e => e.Exact ∧ f e = f m)
      (fun _ _ _ _ _ _ h next => ⟨h.1.liquidatedNext next, (hf.liquidatedNext h.1 next).trans h.2⟩)
      ⟨h.accrued booked, rfl⟩ folded
  exact ((hf.netted m' _ _ _).trans same).trans (hf.accrued booked)

end Lasting

/-- An engine that pays debt out stays the one that it is. -/
theorem identity_paidOut {now : Timestamp} {id : VaultId} {amount taken : Amount}
    {senderBorrowFee senderRepayFee : UInt64} {e e' : Engine}
    (paid : payDebtOut now id amount senderBorrowFee senderRepayFee e = .ok taken e') :
    e'.identity = e.identity := lasting_identity.paidOut paid

/-- So does one in which vaults are liquidated. -/
theorem identity_liquidatedAll {ctx : Context} {ids : List VaultId} {amounts : List Amount}
    {report : LiquidationReport} {e e' : Engine} (h : e.Exact)
    (all : liquidateAll ctx ids amounts e = .ok report e') : e'.identity = e.identity :=
  lasting_identity.liquidatedAll h all

end Engine

namespace Arena

/-- Replacing one of the other engines by one of the same kind leaves what is read off them. -/
theorem map_remotes_set {α : Type} {f : Engine → α} {remotes : List Remote} {i : Nat} {r : Remote}
    {g : Engine} (place : remotes[i]? = some r) (same : f g = f r.engine) :
    (remotes.set i { r with engine := g }).map (fun r => f r.engine) =
      remotes.map fun r => f r.engine := by
  apply List.ext_getElem?
  intro k
  rw [List.getElem?_map, List.getElem?_map, List.getElem?_set]
  split
  · rename_i here
    subst here
    obtain ⟨small, rfl⟩ := List.getElem?_eq_some_iff.mp place
    rw [if_pos small, List.getElem?_eq_getElem small]
    exact congrArg some same
  · rfl

/-- Replacing one of the other engines by one that it is in a relation to. -/
theorem forall₂_remotes_set {R : Engine → Engine → Prop} (refl : ∀ e, R e e) {remotes : List Remote}
    {i : Nat} {r : Remote} {g : Engine} (place : remotes[i]? = some r) (rel : R r.engine g) :
    List.Forall₂ R (remotes.map (·.engine))
      ((remotes.set i { r with engine := g }).map (·.engine)) := by
  rw [List.forall₂_map_left_iff, List.forall₂_map_right_iff]
  exact forall₂_set (R := fun r r' : Remote => R r.engine r'.engine) (fun r => refl r.engine) place
    rel

/-- Replacing one of the other engines changes a sum over them by what it changes. -/
theorem sum_remotes_set {M : Type} [AddCommMonoid M] (f : Engine → M) {remotes : List Remote}
    {i : Nat} {r : Remote} (place : remotes[i]? = some r) (g : Engine) :
    ((remotes.set i { r with engine := g }).map fun r => f r.engine).sum + f r.engine =
      (remotes.map fun r => f r.engine).sum + f g := by
  induction remotes generalizing i with
  | nil => cases place
  | cons first remotes ih =>
    cases i with
    | zero =>
      cases place
      show f g + _ + f r.engine = f r.engine + _ + f g
      rw [add_right_comm, add_comm (f g), add_right_comm]
    | succ i =>
      show f first.engine +
        ((remotes.set i { r with engine := g }).map fun r => f r.engine).sum + f r.engine =
        f first.engine + (remotes.map fun r => f r.engine).sum + f g
      rw [add_assoc, ih place, add_assoc]

theorem map_engines {α : Type} (f : Engine → α) (s : Arena) :
    s.engines.map f = f s.engine :: s.remotes.map fun r => f r.engine := by
  unfold engines
  rw [List.map_cons, List.map_map]
  rfl

/-- Arenas with the same engines have the same list of them. -/
theorem SameEngines.engines {s s' : Arena} (h : SameEngines s s') : s'.engines = s.engines := by
  unfold Arena.engines
  rw [h.engine, h.remotes]

section Lasting

variable {α : Type} {f : Engine → α} {s s' : Arena}

/-- Replacing the called engine by one that reads the same leaves what is read off all of them. -/
theorem lasting_engine {e : Engine} (same : f e = f s.engine) :
    ({ s with engine := e } : Arena).engines.map f = s.engines.map f := by
  rw [map_engines, map_engines, same]

/-- What lasts is the same on all engines before and after an action. -/
theorem Applied.lasting {accumulator : Amount} {t t' : Tally} {action : Action}
    (hf : Engine.Lasting f) (h : Applied accumulator s t action t' s') :
    s'.engines.map f = s.engines.map f := by
  cases h with
  | createVault id e made => exact lasting_engine (hf.created made)
  | closeVault v e owed repaid t' closed => exact lasting_engine (hf.removed closed)
  | addCollateral v w e t' revised => exact lasting_engine (hf.revised revised)
  | removeCollateral v w e t' revised => exact lasting_engine (hf.revised revised)
  | repayDebt v w change repaid charged e t' revised => exact lasting_engine (hf.revised revised)
  | borrow v w change fee paid e t' revised => exact lasting_engine (hf.revised revised)
  | moveDebt v w v' w' moved m e t' own given collateral debt received =>
    exact lasting_engine ((hf.revised received).trans (hf.revised given))
  | fetchDebt i r now borrowFee repayFee g taken change v w e t' other place paid revised =>
    rw [map_engines, map_engines]
    show f e :: _ = _
    rw [hf.revised revised, map_remotes_set place (hf.paidOut paid)]
  | permit l same => rfl

/-- So it is before and after the actions of a batch. -/
theorem lasting_gather {ctx : Context} {actions : List Action} {tally : Tally}
    (hf : Engine.Lasting f) (h : gather ctx actions s = .ok tally s') :
    s'.engines.map f = s.engines.map f := by
  obtain ⟨accumulator, m, booked, folded, _⟩ := gather_eq_ok h
  exact Transact.foldlM_induction (P := fun _ _ (x : Arena) => x.engines.map f = s.engines.map f)
    (fun _ _ _ _ _ _ same applied => ((applyAction_cases applied).lasting hf).trans same)
    (lasting_engine (hf.accrued booked)) folded

/-- So it is before and after the whole batch. -/
theorem lasting_processBatch {ctx : Context} {p : Parties} {actions : List Action}
    {payment : Payment} (hf : Engine.Lasting f)
    (h : processBatch ctx p actions s = .ok payment s') :
    s'.engines.map f = s.engines.map f := by
  obtain ⟨tally, s₁, gathered, rfl, settled⟩ := processBatch_eq_ok h
  rw [((keeps_settle ctx p tally.payment s₁).1 _ _ settled).engines]
  exact lasting_gather hf gathered

end Lasting

/-- Replacing the called engine by one of the same identity leaves all identities. -/
theorem identities_engine {s : Arena} {e : Engine} (same : e.identity = s.engine.identity) :
    ({ s with engine := e } : Arena).engines.map Engine.identity =
      s.engines.map Engine.identity := lasting_engine same

theorem Applied.identities {accumulator : Amount} {s s' : Arena} {t t' : Tally} {action : Action}
    (h : Applied accumulator s t action t' s') :
    s'.engines.map Engine.identity = s.engines.map Engine.identity :=
  h.lasting Engine.lasting_identity

theorem identities_gather {ctx : Context} {actions : List Action} {tally : Tally} {s s' : Arena}
    (h : gather ctx actions s = .ok tally s') :
    s'.engines.map Engine.identity = s.engines.map Engine.identity :=
  lasting_gather Engine.lasting_identity h

end Arena

/-- An accepted call leaves what lasts on every engine, unless it concerns the settings or the
owners of the called engine alone. -/
theorem EngineCall.Accepted.lasting {α : Type} {f : Engine → α} {ctx : Context} {s s' : Arena}
    {call : EngineCall} {reply : EngineReply} (h : Accepted ctx s call reply s')
    (hf : Engine.Lasting f) (hs : s.Exact) :
    s'.engines.map f = s.engines.map f ∨
      ∃ e, reply = .nothing ∧ Engine.Upkeep s.engine ctx.now e ∧ s' = { s with engine := e } := by
  cases h with
  | batch _ done => exact .inl (Arena.lasting_processBatch hf done)
  | liquidate done paid =>
    rw [((Arena.keeps_handleRepay _ _ _ _ _).1 _ _ paid).engines]
    exact .inl (Arena.lasting_engine (hf.liquidatedAll hs.engine done))
  | getDebtOut paid => exact .inl (Arena.lasting_engine (hf.paidOut paid))
  | accrueToTreasury done =>
    obtain ⟨_, m, log, l, booked, _, _, _, rfl⟩ := Arena.processAccrual_eq_ok done
    exact .inl (Arena.lasting_engine ((hf.netted m _ _ _).trans (hf.accrued booked)))
  | upkeep _ changed => exact .inr ⟨_, rfl, changed, rfl⟩

/-- An accepted call leaves every engine what it is. -/
theorem EngineCall.Accepted.identities {ctx : Context} {s s' : Arena} {call : EngineCall}
    {reply : EngineReply} (h : Accepted ctx s call reply s') (hs : s.Exact) :
    s'.engines.map Engine.identity = s.engines.map Engine.identity := by
  rcases h.lasting Engine.lasting_identity hs with same | ⟨e, -, changed, rfl⟩
  · exact same
  · exact Arena.identities_engine changed.identity

/-- No call on an engine brings another engine into the arena. -/
theorem EngineCall.Accepted.length_engines {ctx : Context} {s s' : Arena} {call : EngineCall}
    {reply : EngineReply} (h : Accepted ctx s call reply s') (hs : s.Exact) :
    s'.engines.length = s.engines.length := by
  simpa only [List.length_map] using congrArg List.length (h.identities hs)

namespace World

/-- What the engines of a world are, by their places. -/
def identities (w : World) : List (Address × String × Address × Address × UInt8 × Amount) :=
  w.seats.map fun seat => seat.engine.identity

/-- One call leaves every engine what it is, and may found another. -/
theorem Change.identities {w w' : World} {call : Call} (h : Change w call w')
    (hw : ∀ seat ∈ w.seats, seat.engine.Exact) :
    ∃ founded, w'.identities = w.identities ++ founded := by
  unfold World.identities
  cases h with
  | still same =>
    rw [same.seats]
    exact ⟨[], (List.append_nil _).symm⟩
  | ledger => exact ⟨[], (List.append_nil _).symm⟩
  | @founded _ _ _ _ seat _ _ seats =>
    rw [seats, List.map_append]
    exact ⟨_, rfl⟩
  | @connected _ place o e w' found steady engines =>
    refine ⟨[], ?_⟩
    rw [List.append_nil, ← map_putEngine found steady.identity]
    have same := congrArg (List.map Engine.identity) engines
    rw [List.map_map, List.map_map] at same
    exact same
  | called stage accepted =>
    refine ⟨[], ?_⟩
    rw [List.append_nil]
    exact map_putEngines (nodup_places _ _) stage.engines (accepted.identities (stage.exact hw))

/-! ## Runs -/

/-- The world after a run. -/
def run (w : World) (calls : List Call) : World := calls.foldl next w

theorem run_singleton (w : World) (call : Call) : w.run [call] = w.next call := rfl

/-- A run is made in two parts, one after the other. -/
theorem run_append (w : World) (calls more : List Call) :
    w.run (calls ++ more) = (w.run calls).run more := List.foldl_append

/-- What a run was allowed to do, at every call of it. -/
def Throughout (allowed : World → Call → Prop) : World → List Call → Prop
  | _, [] => True
  | w, call :: rest => allowed w call ∧ Throughout allowed (w.next call) rest

/-- What all calls of a run count for. -/
def countOver (count : World → Call → Nat) : World → List Call → Nat
  | _, [] => 0
  | w, call :: rest => count w call + countOver count (w.next call) rest

instance {allowed : World → Call → Prop} [∀ w call, Decidable (allowed w call)] :
    (w : World) → (calls : List Call) → Decidable (Throughout allowed w calls)
  | _, [] => inferInstanceAs (Decidable True)
  | w, call :: rest =>
    have : Decidable (Throughout allowed (w.next call) rest) := instDecidableThroughout _ rest
    inferInstanceAs (Decidable (_ ∧ _))

/-- A run leaves every engine what it is. -/
theorem identities_run {w : World} (calls : List Call)
    (hw : ∀ seat ∈ w.seats, seat.engine.Exact) :
    ∃ founded, (w.run calls).identities = w.identities ++ founded := by
  induction calls generalizing w with
  | nil => exact ⟨[], (List.append_nil _).symm⟩
  | cons call rest ih =>
    obtain ⟨first, hfirst⟩ := (change_next w call).identities hw
    obtain ⟨later, hlater⟩ := ih ((change_next w call).exact hw)
    refine ⟨first ++ later, ?_⟩
    rw [← List.append_assoc, ← hfirst]
    exact hlater

/-- If all engines share a stablecoin in the end, they did so before. -/
theorem stablecoin_run {asset : Address} {w : World} (calls : List Call)
    (hw : ∀ seat ∈ w.seats, seat.engine.Exact)
    (shared : ∀ seat ∈ (w.run calls).seats, seat.engine.state.stablecoin = asset) :
    ∀ seat ∈ w.seats, seat.engine.state.stablecoin = asset := by
  obtain ⟨founded, same⟩ := identities_run calls hw
  intro seat mem
  have kept : seat.engine.identity ∈ (w.run calls).identities := by
    rw [same]
    exact List.mem_append_left _ (List.mem_map_of_mem mem)
  obtain ⟨seat', mem', identity⟩ := List.mem_map.mp kept
  exact (Engine.stablecoin_of_identity identity.symm).trans (shared seat' mem')

end World

end CollateralDebt
