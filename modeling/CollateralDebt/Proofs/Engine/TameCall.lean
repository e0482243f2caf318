import CollateralDebt.Proofs.Configuration
import CollateralDebt.Proofs.Engine.Terms
import CollateralDebt.Proofs.Nonces

/-!
# The arithmetic of a call

A batch goes through three parts: interest is booked, the actions are applied, and the flows are
settled. What the arithmetic of each part relies on is established by the one before: the accrual
leaves an accumulator of at least one, every action leaves the engines exact and fit, and it leaves
the ledger balanced, because it moves no funds. Settling needs a balanced ledger, and each of its
legs leaves one to the next.

The interest of the called engine is booked once, in front. The interest of an engine that debt is
taken from is booked when the first debt is taken from it, and not again in the same batch, since
no time passes. So a batch compounds nothing but what was there at its start.

## What is proved

- `tameAt_settle`: how a settlement without a swapper can be refused;
- `Underway`: what every action of a batch starts from;
- `tameAt_runBatch`: how a batch can be refused;
- `EngineCall.tameAt`: how any call on an engine can be.
-/

namespace CollateralDebt

open Transact (FailsOnlyAt TameAt failsOnlyAt_liftM_bind failsOnlyAt_pure
  failsOnlyAt_require_bind)

namespace Arena

variable {α β : Type} {q : Prop} {s s' : Arena} {ctx : Context} {p : Parties}

/-! ## Steps -/

/-- After a step on the engine the arena is the same but for that engine. -/
theorem tameAt_onEngine_bind {m : Transact Engine α} {f : α → Transact Arena β}
    (hm : TameAt q s.engine m)
    (hf : ∀ a e, m s.engine = .ok a e → TameAt q { s with engine := e } (f a)) :
    TameAt q s (onEngine m >>= f) := by
  refine FailsOnlyAt.bind (Transact.failsOnlyAt_zoom hm) fun a t ok => ?_
  obtain ⟨e, done, rfl⟩ := onEngine_eq_ok.mp ok
  exact hf a e done

/-- A step of another engine is that of one of the engines with its address. -/
theorem tameAt_onRemote {address : Address} {m : Treasury → Transact Engine α}
    (h : ∀ r ∈ s.remotes, r.engine.state.address = address → TameAt q r.engine (m r.treasury)) :
    TameAt q s (onRemote address m) := by
  intro f s' failed
  unfold onRemote at failed
  dsimp only at failed
  split at failed
  · cases failed
    simp [Failure.Tame]
  · rename_i r found
    have same : r.engine.state.address = address := by
      obtain ⟨small, rfl⟩ := List.getElem?_eq_some_iff.mp found
      exact of_decide_eq_true (List.findIdx_getElem (p := fun r : Remote =>
        decide (r.engine.state.address = address)) (w := small))
    split at failed
    · cases failed
    · rename_i g e refused
      cases failed
      exact h r (List.mem_of_getElem? found) same _ _ refused

/-! ## Settling -/

/-- A leg is as tame as the step on the ledger that it makes. -/
theorem tameAt_leg {amount : Amount} {m : Transact Ledger Unit} (h : TameAt q s.ledger m) :
    TameAt q s (leg amount m) := by
  unfold leg
  split
  · exact Transact.failsOnlyAt_zoom h
  · exact failsOnlyAt_pure _

/-- A leg whose step keeps a ledger balanced keeps it balanced. -/
theorem balanced_leg {amount : Amount} {m : Transact Ledger Unit} {u : Unit}
    (balanced : s.ledger.Balanced) (keeps : ∀ l l', l.Balanced → m l = .ok () l' → l'.Balanced)
    (h : leg amount m s = .ok u s') : s'.ledger.Balanced := by
  obtain ⟨l, rfl, kept⟩ := leg_eq_ok (P := fun _ l l' => l.Balanced → l'.Balanced)
    (fun _ same => same) (fun l l' done same => keeps l l' same done) h
  exact kept balanced

/-- What goes out is tame on any ledger: its balances only grow, or are checked. -/
theorem tameAt_payOut {e : EngineState} {payment : Payment} :
    TameAt q s (payOut e ctx p payment) := by
  unfold payOut
  apply (tameAt_leg (Ledger.tameAt_mint _ _ _ _ _)).bind
  intro _ _ _
  exact tameAt_leg (Ledger.tameAt_transfer _ _ _ _ _)

/-- What goes out leaves the ledger balanced for what comes in. -/
theorem balanced_payOut {e : EngineState} {payment : Payment} {u : Unit}
    (balanced : s.ledger.Balanced) (h : payOut e ctx p payment s = .ok u s') :
    s'.ledger.Balanced := by
  obtain ⟨_, s₁, minting, releasing⟩ := Transact.bind_eq_ok.mp h
  have minted := balanced_leg balanced (fun _ _ => Ledger.balanced_mint) minting
  exact balanced_leg minted (fun _ _ => Ledger.balanced_transfer) releasing

/-- Without a swapper, what is burnt is covered by the supply. -/
theorem tameAt_payIn {e : EngineState} {payment : Payment} (balanced : s.ledger.Balanced)
    (alone : p.swapper = none) : TameAt q s (payIn e ctx p payment) := by
  have asked (request : SwapRequest) : askSwapper none request = pure () := rfl
  unfold payIn
  simp only [alone, asked, pure_bind, ite_self]
  apply (tameAt_leg (Ledger.tameAt_burnFrom balanced _ _ _ _ _ _)).bind
  intro _ _ _
  exact tameAt_leg (Ledger.tameAt_transferFrom _ _ _ _ _ _)

/-- Without a swapper, a settlement on a balanced ledger is tame. -/
theorem tameAt_settle {payment : Payment} (balanced : s.ledger.Balanced)
    (alone : p.swapper = none) : TameAt q s (settle ctx p payment) := by
  rw [settle_eq]
  refine Transact.failsOnlyAt_get_bind ?_
  apply tameAt_payOut.bind
  intro _ s₁ paid
  exact tameAt_payIn (balanced_payOut balanced paid) alone

/-- So is the settlement of a liquidation. -/
theorem tameAt_handleRepay {released burnt : Amount} (balanced : s.ledger.Balanced)
    (alone : p.swapper = none) : TameAt q s (handleRepay ctx p released burnt) := by
  rw [handleRepay_eq]
  exact tameAt_settle balanced alone

end Arena

/-! ## Tallies and checks -/

namespace Tally

variable {q : Prop} (t : Tally) (amount : Amount)

theorem tame_giveStablecoin : Outcome.Tame q (t.giveStablecoin amount) :=
  (tame_add _ _).bind fun _ _ => Outcome.failsOnly_ok _

theorem tame_receiveStablecoin : Outcome.Tame q (t.receiveStablecoin amount) :=
  (tame_add _ _).bind fun _ _ => Outcome.failsOnly_ok _

theorem tame_giveCollateral : Outcome.Tame q (t.giveCollateral amount) :=
  (tame_add _ _).bind fun _ _ => Outcome.failsOnly_ok _

theorem tame_receiveCollateral : Outcome.Tame q (t.receiveCollateral amount) :=
  (tame_add _ _).bind fun _ _ => Outcome.failsOnly_ok _

end Tally

namespace Arena

variable {q : Prop} {ctx : Context} {accumulator : Amount}

/-- The checks at the end of a batch are tame for every vault that it touched. -/
theorem tame_checkTouched {e : EngineState} (unit : 0 < e.collateralUnit.toNat)
    (quoted : Engine.Quoted ctx.price) (ids : List VaultId) :
    Outcome.Tame q (checkTouched ctx accumulator e ids) := by
  induction ids with
  | nil => exact Outcome.failsOnly_ok _
  | cons id rest ih =>
    unfold checkTouched
    dsimp only
    split
    · split
      · apply (quoted.tame.mono False.elim).bind
        intro price _
        apply (Engine.tame_healthAt unit).bind
        intro health _
        exact (Outcome.tame_require (by simp)).bind fun _ _ => ih
      · exact ih
    · exact ih

/-- The check of the debt ceiling multiplies wide and divides by a constant. -/
theorem tame_checkDebtCeiling (e : EngineState) :
    Outcome.Tame q (checkDebtCeiling accumulator e) := by
  unfold checkDebtCeiling
  split
  · apply (Engine.tame_debtOf _ _).bind
    intro total _
    exact Outcome.failsOnly_reject.mpr (by simp)
  · exact Outcome.failsOnly_ok _

/-- The checks on what the actions have left. -/
theorem tameAt_checks {s : Arena} {before : Amount} {tally : Tally}
    (unit : 0 < s.engine.state.collateralUnit.toNat) (quoted : Engine.Quoted ctx.price) :
    TameAt q s (do
      let s := (← get).engine.state
      checkTouched ctx accumulator s tally.touched.keys
      if before < s.totalNormalizedDebt then
        checkDebtCeiling accumulator s
      return tally) := by
  refine Transact.failsOnlyAt_get_bind ?_
  apply failsOnlyAt_liftM_bind (tame_checkTouched unit quoted _)
  intro _ _
  have ceiling : TameAt q s (do
      liftM (checkDebtCeiling accumulator s.engine.state)
      pure tally) :=
    failsOnlyAt_liftM_bind (tame_checkDebtCeiling _) fun _ _ => failsOnlyAt_pure _
  split
  · exact ceiling
  · exact failsOnlyAt_pure _

end Arena

/-! ## Actions -/

namespace Action

/-- Whether an action is a permit of an owner for an asset. -/
def isPermit (asset owner : Address) : Action → Bool
  | .permit signed => signed.asset = asset ∧ signed.owner = owner
  | _ => false

/-- The engine that an action takes debt from. -/
def lender : Action → Option Address
  | .getDebtIn _ givingEngine _ _ => some givingEngine
  | _ => none

end Action

namespace Arena

variable {α β : Type} {q : Prop} {s s' start : Arena} {ctx : Context} {p : Parties}
  {accumulator : Amount} {t t' : Tally} {action : Action} {actions done : List Action}

/-- An engine that one of the actions takes debt from is overgrown. -/
def LenderOvergrown (s : Arena) (now : Timestamp) (actions : List Action) : Prop :=
  ∃ r ∈ s.remotes, r.engine.Overgrown now ∧
    ∃ action ∈ actions, action.lender = some r.engine.state.address

/-- An action changes at most one of the other engines, which has booked its interest then. -/
theorem remotes_of_applyAction (h : applyAction ctx accumulator t action s = .ok t' s') :
    s'.remotes = s.remotes ∨
      ∃ i r g, s.remotes[i]? = some r ∧ ¬ g.Overgrown ctx.now ∧
        s'.remotes = s.remotes.set i { r with engine := g } := by
  cases action with
  | getDebtIn receiving givingEngine giving amount =>
    simp only [applyAction, getDebtIn, Transact.bind_eq_ok, Transact.get_eq_ok, onEngine_eq_ok,
      Engine.requireAmount_eq_ok, Engine.requireMayAct_eq_ok] at h
    obtain ⟨_, _, ⟨rfl, rfl⟩, _, _, ⟨_, _, ⟨_, ⟨_, rfl⟩, rfl⟩, _, _, ⟨_, ⟨_, rfl⟩, rfl⟩, _, _,
      ⟨rfl, rfl⟩, h⟩, last⟩ := h
    obtain ⟨rfl, rfl⟩ := Transact.pure_eq_ok.mp last
    split at h
    · simp only [Transact.bind_eq_ok, onEngine_eq_ok, Engine.emit_eq_ok] at h
      obtain ⟨_, _, ⟨_, _, rfl⟩, _, rfl, rfl⟩ := h
      exact .inl rfl
    · simp only [Transact.bind_eq_ok, onEngine_eq_ok, Engine.emit_eq_ok] at h
      obtain ⟨_, _, fetched, _, rfl, rfl⟩ := h
      obtain ⟨i, r, g, _, _, _, _, place, paid, _, _, _, _, _, rfl⟩ := fetchDebt_eq_ok fetched
      obtain ⟨_, m, _, _, _, _, booked, revised, _⟩ := Engine.payDebtOut_eq_ok paid
      refine .inr ⟨i, r, g, place, fun grown => ?_, rfl⟩
      exact booked.not_overgrown (Engine.overgrown_of_frame revised.frame grown)
  | _ =>
    cases applyAction_cases h
    exact .inl rfl

/-- An action takes up a nonce if it is a permit. -/
theorem nonce_of_applyAction (h : applyAction ctx accumulator t action s = .ok t' s')
    (asset owner : Address) :
    (s'.ledger.nonce asset owner).toNat =
      (s.ledger.nonce asset owner).toNat + [action].countP (·.isPermit asset owner) := by
  cases action with
  | permit signed =>
    simp only [applyAction, Transact.bind_eq_ok, onLedger_eq_ok, Transact.pure_eq_ok] at h
    obtain ⟨_, _, ⟨l, granted, rfl⟩, _, rfl⟩ := h
    rw [Ledger.nonce_of_permit granted]
    simp [Action.isPermit]
  | _ => cases applyAction_cases h <;> rfl

/-- What every action of a batch starts from, after some others were applied. -/
structure Underway (ctx : Context) (start : Arena) (done : List Action) (s : Arena) : Prop where
  exact : s.Exact
  fit : s.Fit
  balanced : s.ledger.Balanced
  nonces : ∀ asset owner, (s.ledger.nonce asset owner).toNat =
    (start.ledger.nonce asset owner).toNat + done.countP (·.isPermit asset owner)
  /-- An engine that is overgrown was so from the start. -/
  lenders : ∀ r ∈ s.remotes, r.engine.Overgrown ctx.now → r ∈ start.remotes

namespace Underway

/-- An action keeps what the next one starts from, and is counted among those that were done. -/
theorem next (h : Underway ctx start done s)
    (ok : applyAction ctx accumulator t action s = .ok t' s') :
    Underway ctx start (done ++ [action]) s' where
  exact := (applyAction_cases ok).exact h.exact
  fit := (applyAction_cases ok).fit h.fit
  balanced := h.balanced.congr (applyAction_cases ok).funds
  nonces asset owner := by
    rw [nonce_of_applyAction ok, h.nonces, List.countP_append, Nat.add_assoc]
  lenders := by
    intro r mem grown
    rcases remotes_of_applyAction ok with same | ⟨i, r₀, g, _, booked, same⟩
    · rw [same] at mem
      exact h.lenders r mem grown
    · rw [same] at mem
      rcases List.mem_or_eq_of_mem_set mem with mem | rfl
      · exact h.lenders r mem grown
      · exact absurd grown booked

/-- Debt is taken from another engine of the treasury. That engine can be overgrown. -/
theorem tameAt_fetchDebt {receiving giving : VaultId} {givingEngine : Address} {amount : Amount}
    (h : Underway ctx start done s) (grown : 0 < accumulator.toNat)
    (named : ∃ action ∈ actions, action.lender = some givingEngine) :
    TameAt (start.LenderOvergrown ctx.now actions) s
      (fetchDebt ctx receiving givingEngine giving amount accumulator) := by
  unfold fetchDebt
  refine failsOnlyAt_require_bind (by simp) ?_
  intro _
  refine Transact.failsOnlyAt_get_bind ?_
  refine FailsOnlyAt.bind (tameAt_onRemote fun r mem same => ?_) fun taken s₁ _ => ?_
  · refine (Engine.tameAt_getDebtOut (h.exact.remotes r mem) (h.fit.remotes r mem)).mono
      fun overgrown => ?_
    rw [← same] at named
    exact ⟨r, h.lenders r mem overgrown, overgrown, named⟩
  · apply tameAt_onEngine_bind (Engine.tameAt_increaseDebt grown)
    exact fun _ _ _ => failsOnlyAt_pure _

/-- Taking debt in faults at most where the engine that gives it is overgrown. -/
theorem tameAt_getDebtIn {receiving giving : VaultId} {givingEngine : Address} {amount : Amount}
    (h : Underway ctx start done s) (grown : 0 < accumulator.toNat)
    (named : ∃ action ∈ actions, action.lender = some givingEngine) :
    TameAt (start.LenderOvergrown ctx.now actions) s
      (getDebtIn ctx receiving givingEngine giving amount accumulator) := by
  have noted (taken : Amount) (s₁ : Arena) : TameAt (start.LenderOvergrown ctx.now actions) s₁
      (onEngine (Engine.emit
        (.debtTransferred receiving giving givingEngine amount taken ctx.now))) :=
    Transact.failsOnlyAt_zoom (Transact.failsOnlyAt_modify _)
  unfold getDebtIn
  apply tameAt_onEngine_bind (Transact.failsOnlyAt_require (by simp))
  intro _ e some'
  obtain ⟨-, rfl⟩ := Engine.requireAmount_eq_ok.mp some'
  apply tameAt_onEngine_bind (Engine.tameAt_requireMayAct _ _)
  intro _ e allowed
  obtain ⟨-, rfl⟩ := Engine.requireMayAct_eq_ok.mp allowed
  refine Transact.failsOnlyAt_get_bind ?_
  dsimp only
  split
  · apply tameAt_onEngine_bind (Engine.tameAt_moveDebt h.exact.engine grown)
    exact fun _ _ _ => noted _ _
  · apply (h.tameAt_fetchDebt grown named).bind
    exact fun _ _ _ => noted _ _

/-- How one action of a batch can be refused. -/
theorem tameAt_applyAction {rest : List Action} (h : Underway ctx start done s)
    (split : actions = done ++ action :: rest) (grown : 0 < accumulator.toNat)
    (quoted : Engine.Quoted ctx.price)
    (room : ∀ asset owner, (start.ledger.nonce asset owner).toNat +
      actions.countP (·.isPermit asset owner) < UInt64.size) :
    TameAt (start.LenderOvergrown ctx.now actions) s (applyAction ctx accumulator t action) := by
  cases action with
  | createVault owner =>
    apply tameAt_onEngine_bind (Engine.tameAt_mintVault owner)
    exact fun _ _ _ => failsOnlyAt_pure _
  | closeVault id =>
    refine Transact.failsOnlyAt_get_bind ?_
    apply tameAt_onEngine_bind
      (Engine.tameAt_closeVault h.exact.engine h.fit.engine (quoted.tame.mono False.elim))
    intro paid _ _
    apply failsOnlyAt_liftM_bind (Tally.tame_receiveStablecoin _ _)
    intro _ _
    exact Transact.failsOnlyAt_liftM (Tally.tame_giveCollateral _ _)
  | addCollateral id amount =>
    refine Transact.failsOnlyAt_get_bind ?_
    apply tameAt_onEngine_bind Engine.tameAt_addCollateral
    exact fun _ _ _ => Transact.failsOnlyAt_liftM (Tally.tame_receiveCollateral _ _)
  | removeCollateral id amount =>
    refine Transact.failsOnlyAt_get_bind ?_
    apply tameAt_onEngine_bind Engine.tameAt_removeCollateral
    exact fun _ _ _ => Transact.failsOnlyAt_liftM (Tally.tame_giveCollateral _ _)
  | repayDebt id amount =>
    refine Transact.failsOnlyAt_get_bind ?_
    apply tameAt_onEngine_bind (Engine.tameAt_repayDebt h.exact.engine h.fit.engine.params grown)
    exact fun _ _ _ => Transact.failsOnlyAt_liftM (Tally.tame_receiveStablecoin _ _)
  | borrow id amount =>
    refine Transact.failsOnlyAt_get_bind ?_
    apply tameAt_onEngine_bind (Engine.tameAt_borrow h.fit.engine.params grown)
    exact fun _ _ _ => Transact.failsOnlyAt_liftM (Tally.tame_giveStablecoin _ _)
  | getDebtIn receiving givingEngine giving amount =>
    refine Transact.failsOnlyAt_get_bind ?_
    have asked : Action.getDebtIn receiving givingEngine giving amount ∈ actions := by
      rw [split]
      exact List.mem_append_right _ (List.mem_cons_self ..)
    refine (h.tameAt_getDebtIn grown ⟨_, asked, rfl⟩).bind ?_
    exact fun _ _ _ => failsOnlyAt_pure _
  | permit signed =>
    refine FailsOnlyAt.bind (Transact.failsOnlyAt_zoom
      (Ledger.tameAt_permit signed ctx.now ?_)) fun _ _ _ => failsOnlyAt_pure _
    -- this permit is one of those that there is room for, and comes after those that were done
    have counted := room signed.asset signed.owner
    rw [split, List.countP_append, List.countP_cons, if_pos (by simp [Action.isPermit])] at counted
    rw [h.nonces]
    omega

end Underway

/-! ## Batches -/

/-- An engine whose interest a batch books is overgrown. -/
def BatchOvergrown (s : Arena) (now : Timestamp) (actions : List Action) : Prop :=
  s.engine.Overgrown now ∨ s.LenderOvergrown now actions

/-- The actions of a batch start from what its accrual has left. -/
theorem underway_of_accrued {m : Engine} (exact' : s.Exact) (fit : s.Fit)
    (balanced : s.ledger.Balanced) (booked : Engine.Accrued s.engine ctx.now accumulator m) :
    Underway ctx s [] { s with engine := m } where
  exact := ⟨exact'.engine.accrued booked, exact'.remotes⟩
  fit := ⟨fit.engine.accrued booked, fit.remotes⟩
  balanced := balanced
  nonces _ _ := rfl
  lenders _ mem _ := mem

/-- What the actions of a batch have left. -/
theorem underway_of_actions (start' : Underway ctx start [] s)
    (h : actions.foldlM (applyAction ctx accumulator) t s = .ok t' s') :
    Underway ctx start actions s' :=
  Transact.foldlM_induction (P := fun done _ s => Underway ctx start done s)
    (fun _ _ _ _ _ _ h ok => h.next ok) start' h

variable (room : ∀ asset owner, (s.ledger.nonce asset owner).toNat +
  actions.countP (·.isPermit asset owner) < UInt64.size)

include room

/-- The actions of a batch fault at most where an engine is overgrown whose interest they book. -/
theorem tameAt_gather (exact' : s.Exact) (fit : s.Fit) (balanced : s.ledger.Balanced)
    (quoted : Engine.Quoted ctx.price) :
    TameAt (s.BatchOvergrown ctx.now actions) s (gather ctx actions) := by
  unfold gather
  apply tameAt_onEngine_bind Engine.tameAt_requireUnpaused
  intro _ e running
  obtain ⟨-, rfl⟩ := Engine.requireUnpaused_eq_ok.mp running
  refine failsOnlyAt_require_bind (by simp) ?_
  intro _
  refine failsOnlyAt_require_bind (by simp) ?_
  intro _
  apply tameAt_onEngine_bind ((Engine.tameAt_accrue s.engine ctx.now).mono .inl)
  intro accumulator m accrued
  have booked := Engine.accrue_eq_ok accrued
  have start := underway_of_accrued exact' fit balanced booked
  have grown := fit.engine.accumulator_pos booked
  refine Transact.failsOnlyAt_get_bind ?_
  refine FailsOnlyAt.bind ?_ ?_
  · refine Transact.failsOnlyAt_foldlM (I := fun done _ t => Underway ctx s done t) ?_ ?_ ?_
    · intro done a rest t t' parts h
      exact (h.tameAt_applyAction parts grown quoted room).mono .inr
    · exact fun _ _ _ _ _ _ h ok => h.next ok
    · exact start
  · intro tally t folded
    have unit := (underway_of_actions start folded).fit.engine.unit_bounds.1
    exact tameAt_checks unit quoted

/-- How a batch can be refused. -/
theorem tameAt_runBatch (exact' : s.Exact) (fit : s.Fit) (balanced : s.ledger.Balanced)
    (quoted : Engine.Quoted ctx.price) (alone : p.swapper = none) :
    TameAt (s.BatchOvergrown ctx.now actions) s (runBatch ctx p actions) := by
  refine Transact.failsOnlyAt_atomically ?_
  rw [processBatch_eq]
  apply (tameAt_gather room exact' fit balanced quoted).bind
  intro tally s₁ gathered
  obtain ⟨accumulator, m, booked, folded, _⟩ := gather_eq_ok gathered
  have left := underway_of_actions (underway_of_accrued exact' fit balanced booked) folded
  apply (tameAt_settle left.balanced alone).bind
  exact fun _ _ _ => failsOnlyAt_pure _

omit room

/-! ## Other calls -/

/-- A liquidation is paid for when its vaults were liquidated; no engine is touched any more. -/
theorem tameAt_liquidate {ids : List VaultId} {amounts : List Amount} (exact' : s.Exact)
    (fit : s.Fit) (balanced : s.ledger.Balanced) (quoted : Engine.Quoted ctx.price)
    (alone : p.swapper = none) :
    TameAt (s.engine.Overgrown ctx.now) s (liquidate ctx p ids amounts) := by
  refine Transact.failsOnlyAt_atomically ?_
  apply tameAt_onEngine_bind (Engine.tameAt_liquidateAll exact'.engine fit.engine quoted)
  intro report e _
  refine FailsOnlyAt.bind ?_ fun _ _ _ => failsOnlyAt_pure _
  exact tameAt_handleRepay (s := { s with engine := e }) balanced alone

/-- Settling with the treasury faults at most where accrual does. -/
theorem tameAt_accrueToTreasury :
    TameAt (s.engine.Overgrown ctx.now) s (accrueToTreasury ctx) := by
  have noted (accrual : TreasuryAccrual) (t : Arena) : TameAt (s.engine.Overgrown ctx.now) t (do
      onEngine (Engine.emit (.accruedToTreasury accrual.surplus accrual.badDebt ctx.now))
      return accrual) :=
    tameAt_onEngine_bind (Transact.failsOnlyAt_modify _) fun _ _ _ => failsOnlyAt_pure _
  refine Transact.failsOnlyAt_atomically ?_
  unfold processAccrual
  apply tameAt_onEngine_bind (Engine.tameAt_requireTreasury _)
  intro _ e allowed
  obtain ⟨-, rfl⟩ := Engine.requireTreasury_eq_ok.mp allowed
  apply tameAt_onEngine_bind (Engine.tameAt_accrue s.engine ctx.now)
  intro accumulator m _
  refine Transact.failsOnlyAt_get_bind ?_
  apply tameAt_onEngine_bind (Transact.failsOnlyAt_modify _)
  intro _ anew _
  dsimp only
  split
  · refine FailsOnlyAt.bind (Transact.failsOnlyAt_zoom (Ledger.tameAt_mint _ _ _ _ _)) ?_
    exact fun _ _ _ => noted _ _
  · exact noted _ _

end Arena

/-! ## All calls -/

/-- Decoding a batch computes nothing that could go wrong. -/
theorem tame_decodeFrom {q : Prop} (index : Nat) (entries : List (ActionKind × Bytes)) :
    Outcome.Tame q (decodeFrom index entries) := by
  induction entries generalizing index with
  | nil => exact Outcome.failsOnly_ok _
  | cons entry rest ih =>
    apply (Outcome.tame_ofOption (by simp) _).bind
    intro action _
    exact (ih (index + 1)).bind fun _ _ => Outcome.failsOnly_ok _

namespace EngineCall

variable {ctx : Context} {s : Arena} {call : EngineCall}

/-- How many permits of an owner for an asset are in a call. -/
def permits (asset owner : Address) (call : EngineCall) : Nat :=
  match call.asBatch with
  | some (_, actions) => actions.countP (·.isPermit asset owner)
  | none => 0

/-- An engine whose interest the call books is overgrown. The calls that are left out book none. -/
def Overgrown (s : Arena) (now : Timestamp) : EngineCall → Prop
  | .batch _ actions => s.BatchOvergrown now actions
  | .encodedBatch _ kinds payloads =>
    ∃ actions, decodeActions kinds payloads = .ok actions ∧ s.BatchOvergrown now actions
  | .liquidate .. | .getDebtOut .. | .accrueToTreasury => s.engine.Overgrown now
  | .setParameter code _ => code = Parameter.interestRate.code ∧ s.engine.Overgrown now
  | _ => False

/-- A call that answers nothing is as tame as its step. -/
theorem tameAt_quietly {q : Prop} {m : Transact Engine Unit} (h : TameAt q s.engine m) :
    TameAt q s (quietly m) :=
  Arena.tameAt_onEngine_bind h fun _ _ _ => failsOnlyAt_pure _

/-- A call without a swapper, on engines that are exact and fit and a ledger that is balanced and has
nonces left, is refused for no mistake in its arithmetic. It faults only if it books the interest of
an engine that is overgrown. -/
theorem tameAt (exact' : s.Exact) (fit : s.Fit) (balanced : s.ledger.Balanced)
    (quoted : Engine.Quoted ctx.price) (alone : call.swapper = none)
    (room : ∀ asset owner, (s.ledger.nonce asset owner).toNat + call.permits asset owner <
      UInt64.size) : TameAt (call.Overgrown s ctx.now) s (call.run ctx) := by
  cases call with
  | batch parties actions =>
    apply (Arena.tameAt_runBatch room exact' fit balanced quoted alone).bind
    exact fun _ _ _ => failsOnlyAt_pure _
  | encodedBatch parties kinds payloads =>
    refine FailsOnlyAt.bind ?_ fun _ _ _ => failsOnlyAt_pure _
    unfold Arena.runEncodedBatch
    refine failsOnlyAt_liftM_bind ?_ ?_
    · apply (Outcome.tame_require (by simp)).bind
      exact fun _ _ => tame_decodeFrom _ _
    · intro actions known
      have counted : (.encodedBatch parties kinds payloads : EngineCall).asBatch =
          some (parties, actions) := by
        rw [asBatch, known]
        rfl
      unfold permits at room
      rw [counted] at room
      exact (Arena.tameAt_runBatch room exact' fit balanced quoted alone).mono
        fun overgrown => ⟨actions, known, overgrown⟩
  | liquidate parties ids amounts =>
    apply (Arena.tameAt_liquidate exact' fit balanced quoted alone).bind
    exact fun _ _ _ => failsOnlyAt_pure _
  | getDebtOut id amount borrowFee repayFee =>
    apply Arena.tameAt_onEngine_bind (Engine.tameAt_getDebtOut exact'.engine fit.engine)
    exact fun _ _ _ => failsOnlyAt_pure _
  | accrueToTreasury => exact Arena.tameAt_accrueToTreasury.bind fun _ _ _ => failsOnlyAt_pure _
  | setParameter code value => exact tameAt_quietly Engine.tameAt_setParameterByCode
  | setDebtCeiling debtCeiling => exact tameAt_quietly (Engine.tameAt_setDebtCeiling _)
  | setDusts dust dustLiquidation dustCollateral =>
    exact tameAt_quietly (Engine.tameAt_setDusts _ _ _)
  | setBoost source thresholds multipliers =>
    exact tameAt_quietly (Engine.tameAt_setBoost _ _ _)
  | togglePause => exact tameAt_quietly Engine.tameAt_togglePause
  | toggleWhitelist account => exact tameAt_quietly (Engine.tameAt_toggleWhitelist _)
  | approve account id => exact tameAt_quietly (Engine.tameAt_approve _ _)
  | setApprovalForAll operator approved =>
    exact tameAt_quietly (Engine.tameAt_setApprovalForAll _ _)
  | transferVault source recipient id =>
    exact tameAt_quietly (Engine.tameAt_transferVault _ _ _)

end EngineCall

end CollateralDebt
