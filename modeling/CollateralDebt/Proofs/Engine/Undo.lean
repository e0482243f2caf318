import Mathlib.Data.List.Forall2
import CollateralDebt.Engine.Call
import CollateralDebt.Proofs.Engine.Debt
import CollateralDebt.Proofs.Engine.Settlement

/-!
# Undoing what failed

A call that fails puts every engine back to a checkpoint, which holds the state whole but of the log
only its length. Cutting the log off there gives the log of before exactly if nothing has changed or
removed an earlier event in the meantime. So what has to be shown of every step, wherever it ends,
is that it only appends; and that it leaves the source of boost balances alone, which no checkpoint
holds.

## What is proved

- `Engine.Extends`, `Engine.Appends`: an engine that goes on from another, and the steps that end in
  such an engine whether they succeed or fail;
- `Engine.restore_checkpoint`, `Arena.undo_eq`: what only appended is undone without a trace;
- `Arena.appends_processBatch`, `Arena.appends_processAccrual`, `Arena.appends_liquidate`: all that
  is ever undone only appended;
- `Arena.atomically_eq_error`, `Engine.traceless_getDebtOut`: refusals that leave no trace.
-/

namespace CollateralDebt

open Transact (Keeps keeps_get keeps_liftM keeps_pure keeps_reject keeps_require)

/-! ## Lists in relation -/

section Lists

variable {α : Type} {R : α → α → Prop}

/-- A list with one entry replaced is related to the one of before, entry by entry. -/
theorem forall₂_set (refl : ∀ a, R a a) {l : List α} {i : Nat} {a b : α} (place : l[i]? = some a)
    (rel : R a b) : List.Forall₂ R l (l.set i b) := by
  induction l generalizing i with
  | nil => cases place
  | cons first l ih =>
    cases i with
    | zero =>
      cases place
      exact .cons rel (List.forall₂_same.mpr fun a _ => refl a)
    | succ i => exact .cons (refl first) (ih place)

/-- Relating lists entry by entry is transitive where relating entries is. -/
theorem forall₂_trans (trans : ∀ {a b c}, R a b → R b c → R a c) {l₁ l₂ l₃ : List α}
    (h₁ : List.Forall₂ R l₁ l₂) (h₂ : List.Forall₂ R l₂ l₃) : List.Forall₂ R l₁ l₃ := by
  induction h₁ generalizing l₃ with
  | nil => exact h₂
  | cons first _ ih =>
    cases h₂ with
    | cons second rest => exact .cons (trans first second) (ih rest)

end Lists

/-! ## Steps of an engine -/

namespace Engine

/-- An engine that goes on from another: its log continues the other's, and its source of boost
balances is the same. -/
structure Extends (e e' : Engine) : Prop where
  log : e.log <+: e'.log
  boostSource : e'.boostSource = e.boostSource

theorem Extends.refl (e : Engine) : Extends e e := ⟨List.prefix_rfl, rfl⟩

/-- An engine that goes on from one that went on goes on from the first. -/
theorem Extends.trans {e₁ e₂ e₃ : Engine} (h₁ : Extends e₁ e₂) (h₂ : Extends e₂ e₃) :
    Extends e₁ e₃ := ⟨h₁.log.trans h₂.log, h₂.boostSource.trans h₁.boostSource⟩

instance : IsPreorder Engine Extends where
  refl := .refl
  trans _ _ _ := .trans

/-- Cutting the log off where it stood gives back the log that it continues. -/
theorem restore_checkpoint {e e' : Engine} (h : Extends e e') : e'.restore e.checkpoint = e :=
  Engine.ext rfl h.boostSource (List.prefix_iff_eq_take.mp h.log).symm

/-- Wherever it ends, the log was only appended to. -/
abbrev Appends {α : Type} (m : Transact Engine α) : Prop := Keeps Extends m

/-- Noting an event puts it behind those of before. -/
theorem appends_emit (event : Event) : Appends (emit event) :=
  Transact.keeps_modify fun _ => ⟨List.prefix_append _ _, rfl⟩

/-- The log is no part of the state, so any change of the state leaves it. -/
theorem appends_modifyState (f : EngineState → EngineState) :
    Appends (modifyState f) := Transact.keeps_modify fun _ => ⟨List.prefix_rfl, rfl⟩

/-- Undoing what only appended leaves no trace of a failure. -/
theorem Appends.traceless {α : Type} {m : Transact Engine α} (h : Appends m) :
    Transact.Traceless
      (Transact.atomically (fun before after => after.restore before.checkpoint) m) := by
  intro e f e' failed
  obtain ⟨reached, refused, rfl⟩ := Transact.atomically_eq_error.mp failed
  exact restore_checkpoint ((h e).2 f reached refused)

/-! All that an engine does is made of such steps. -/

theorem appends_getState : Appends getState := readOnly_getState.keeps

theorem appends_modifyRegistry (f : Registry → Registry) :
    Appends (modifyRegistry f) := appends_modifyState _

theorem appends_findVault (id : VaultId) : Appends (findVault id) :=
  appends_getState.bind fun _ => keeps_liftM _

theorem appends_putVault (id : VaultId) (v : Vault) : Appends (putVault id v) :=
  appends_modifyRegistry _

theorem appends_addSurplus (amount : Amount) : Appends (addSurplus amount) :=
  appends_getState.bind fun _ => (keeps_liftM _).bind fun _ => appends_modifyState _

theorem appends_requireUnpaused : Appends requireUnpaused :=
  readOnly_requireUnpaused.keeps

theorem appends_requireAmount (amount : Amount) : Appends (requireAmount amount) :=
  keeps_require _ _

theorem appends_requireMayAct (caller : Address) (id : VaultId) :
    Appends (requireMayAct caller id) := (readOnly_requireMayAct caller id).keeps

theorem appends_requireWhitelisted (caller recipient : Address) :
    Appends (requireWhitelisted caller recipient) :=
  (readOnly_requireWhitelisted caller recipient).keeps

theorem appends_requireTreasury (caller : Address) : Appends (requireTreasury caller) :=
  (readOnly_requireTreasury caller).keeps

/-- Accrual notes what it books, and nothing else. -/
theorem appends_accrue (now : Timestamp) : Appends (accrue now) := by
  unfold accrue
  refine appends_getState.bind fun s => keeps_get.bind fun e => ?_
  refine (keeps_liftM _).bind fun accumulator => ?_
  have timed : Appends (do
      if s.accruedAt < now then
        modifyState fun s => { s with accruedAt := now }
      return accumulator) := by
    split
    · exact (appends_modifyState _).bind fun _ => keeps_pure _
    · exact keeps_pure _
  dsimp only
  split
  · refine (keeps_liftM _).bind fun interest => (appends_addSurplus interest).bind fun _ => ?_
    exact (appends_modifyState _).bind fun _ => (appends_emit _).bind fun _ => timed
  · exact timed

theorem appends_mintVault (ctx : Context) (owner : Address) : Appends (mintVault ctx owner) := by
  unfold mintVault
  refine (keeps_require _ _).bind fun _ => (appends_requireWhitelisted _ _).bind fun _ => ?_
  refine appends_getState.bind fun s => (keeps_liftM _).bind fun minted => ?_
  exact (appends_modifyRegistry _).bind fun _ => (appends_emit _).bind fun _ => keeps_pure _

theorem appends_burnVault (now : Timestamp) (id : VaultId) : Appends (burnVault now id) := by
  unfold burnVault
  refine appends_getState.bind fun s => (keeps_liftM _).bind fun burnt => ?_
  exact (appends_modifyRegistry _).bind fun _ => appends_emit _

section Actions

variable (ctx : Context) (now : Timestamp) (id : VaultId) (amount change accumulator : Amount)

theorem appends_addNormalizedDebt :
    Appends (addNormalizedDebt now id change accumulator) := by
  unfold addNormalizedDebt
  refine appends_getState.bind fun s => (appends_findVault id).bind fun v => ?_
  refine (keeps_liftM _).bind fun debt => (keeps_require _ _).bind fun _ => ?_
  refine (appends_putVault id _).bind fun _ => (keeps_liftM _).bind fun total => ?_
  exact (appends_modifyState _).bind fun _ => appends_emit _

theorem appends_removeNormalizedDebt :
    Appends (removeNormalizedDebt now id change accumulator) := by
  unfold removeNormalizedDebt
  refine appends_getState.bind fun s => (appends_findVault id).bind fun v => ?_
  refine (keeps_liftM _).bind fun debt => (keeps_require _ _).bind fun _ => ?_
  refine (appends_putVault id _).bind fun _ => (keeps_liftM _).bind fun total => ?_
  refine (appends_modifyState _).bind fun _ => ?_
  split
  · exact appends_emit _
  · exact keeps_pure _

theorem appends_increaseDebt : Appends (increaseDebt now id amount accumulator) :=
  (keeps_liftM _).bind fun change => appends_addNormalizedDebt now id change accumulator

theorem appends_decreaseDebt : Appends (decreaseDebt now id amount accumulator) := by
  unfold decreaseDebt
  refine (appends_findVault id).bind fun v => (keeps_liftM _).bind fun change => ?_
  split
  · refine (keeps_liftM _).bind fun repaid => ?_
    exact (appends_removeNormalizedDebt _ _ _ _).bind fun _ => keeps_pure _
  · exact (appends_removeNormalizedDebt _ _ _ _).bind fun _ => keeps_pure _

theorem appends_chargeRepayFee : Appends (chargeRepayFee amount) := by
  unfold chargeRepayFee
  refine appends_getState.bind fun s => (keeps_liftM _).bind fun kept => ?_
  refine (keeps_liftM _).bind fun charged => (keeps_liftM _).bind fun fee => ?_
  exact (appends_addSurplus fee).bind fun _ => keeps_pure _

theorem appends_addCollateral : Appends (addCollateral now id amount) := by
  unfold addCollateral
  refine (appends_requireAmount amount).bind fun _ => (appends_findVault id).bind fun v => ?_
  refine (keeps_liftM _).bind fun collateral => ?_
  exact (appends_putVault id _).bind fun _ => appends_emit _

theorem appends_removeCollateral : Appends (removeCollateral ctx id amount) := by
  unfold removeCollateral
  refine (appends_requireAmount amount).bind fun _ => ?_
  refine (appends_requireMayAct ctx.caller id).bind fun _ => (appends_findVault id).bind fun v => ?_
  split
  · exact (appends_putVault id _).bind fun _ => appends_emit _
  · exact keeps_reject _

theorem appends_borrow : Appends (borrow ctx id amount accumulator) := by
  unfold borrow
  refine (appends_requireAmount amount).bind fun _ => ?_
  refine (appends_requireMayAct ctx.caller id).bind fun _ => ?_
  refine (appends_increaseDebt ctx.now id amount accumulator).bind fun _ => ?_
  refine appends_getState.bind fun s => (keeps_liftM _).bind fun fee => ?_
  exact (appends_addSurplus fee).bind fun _ => keeps_liftM _

theorem appends_repayDebt : Appends (repayDebt now id amount accumulator) :=
  (appends_requireAmount amount).bind fun _ =>
    (appends_decreaseDebt now id amount accumulator).bind fun repaid => appends_chargeRepayFee repaid

/-- Closing appends the repayment and the removal, also where it is refused in between. -/
theorem appends_closeVault : Appends (closeVault ctx id accumulator) := by
  unfold closeVault
  refine (appends_requireMayAct ctx.caller id).bind fun _ => (appends_findVault id).bind fun v => ?_
  have closing (owed : Amount) : Appends (do burnVault ctx.now id; return (owed, v.collateral)) :=
    (appends_burnVault ctx.now id).bind fun _ => keeps_pure _
  dsimp only
  split
  · exact (keeps_pure _).bind closing
  · refine (keeps_liftM _).bind fun price => appends_getState.bind fun s => ?_
    refine (keeps_liftM _).bind fun health => (keeps_require _ _).bind fun _ => ?_
    refine (keeps_liftM _).bind fun debt => (appends_chargeRepayFee debt).bind fun owed => ?_
    refine appends_getState.bind fun s => (keeps_liftM _).bind fun total => ?_
    refine (appends_modifyState _).bind fun _ => (appends_emit _).bind fun _ => ?_
    exact (keeps_pure owed).bind closing

theorem appends_moveDebt (receiving giving : VaultId) :
    Appends (Arena.moveDebt now receiving giving amount accumulator) := by
  unfold Arena.moveDebt
  refine (keeps_liftM _).bind fun requested => (appends_findVault giving).bind fun giver => ?_
  refine (appends_removeNormalizedDebt now giving _ accumulator).bind fun _ => ?_
  refine (appends_addNormalizedDebt now receiving _ accumulator).bind fun _ => ?_
  split
  · exact keeps_liftM _
  · exact keeps_pure _

variable (senderBorrowFee senderRepayFee : UInt64)

/-- Paying out appends what accrual, removal and fees append. -/
theorem appends_payDebtOut :
    Appends (payDebtOut now id amount senderBorrowFee senderRepayFee) := by
  unfold payDebtOut
  refine (appends_accrue now).bind fun accumulator => appends_getState.bind fun s => ?_
  refine (keeps_liftM _).bind fun kept => (keeps_liftM _).bind fun lessFee => ?_
  refine (appends_decreaseDebt now id lessFee accumulator).bind fun repaid => ?_
  have booking (taken : Amount) : Appends (do addSurplus (taken.monus repaid); return taken) :=
    (appends_addSurplus _).bind fun _ => keeps_pure _
  dsimp only
  split
  · exact (keeps_pure amount).bind booking
  · refine (keeps_liftM _).bind fun scaled => ?_
    exact (keeps_pure (min scaled amount)).bind booking

/-- Debt that cannot be paid out leaves no trace on the engine that was to pay it. -/
theorem traceless_getDebtOut (treasury : Treasury) (caller : Address) :
    Transact.Traceless
      (getDebtOut treasury caller now id amount senderBorrowFee senderRepayFee) := by
  unfold getDebtOut
  apply (Transact.readOnly_require _ _).bind_traceless
  intro _
  apply readOnly_requireUnpaused.bind_traceless
  intro _
  apply (readOnly_requireAmount amount).bind_traceless
  intro _
  exact (appends_payDebtOut now id amount senderBorrowFee senderRepayFee).traceless

/-- What was undone goes on from where it started, so nesting the one in the other does no harm. -/
theorem appends_getDebtOut (treasury : Treasury) (caller : Address) :
    Appends (getDebtOut treasury caller now id amount senderBorrowFee senderRepayFee) := by
  intro e
  constructor
  · intro taken e' ok
    exact (appends_payDebtOut now id amount senderBorrowFee senderRepayFee e).1 _ _
      (getDebtOut_eq_ok ok)
  · intro f e' failed
    have same := traceless_getDebtOut now id amount senderBorrowFee senderRepayFee treasury caller
      e f e' failed
    exact same ▸ .refl e

end Actions

section Liquidation

variable (ctx : Context) (now : Timestamp) (id : VaultId) (v : Vault)

theorem appends_exhaustVault (amount debtRepaid currentDebt : Amount) :
    Appends (exhaustVault now id v amount debtRepaid currentDebt) := by
  unfold exhaustVault
  refine appends_getState.bind fun s => (keeps_liftM _).bind fun total => ?_
  refine (appends_modifyState _).bind fun _ => (appends_findVault id).bind fun _ => ?_
  refine (appends_putVault id _).bind fun _ => ?_
  dsimp only
  split
  · exact (appends_emit _).bind fun _ => (appends_emit _).bind fun _ => keeps_pure _
  · exact (appends_emit _).bind fun _ => keeps_pure _

theorem appends_reduceVault (amount debtRepaid released accumulator : Amount) :
    Appends (reduceVault now id v amount debtRepaid released accumulator) := by
  unfold reduceVault
  refine (keeps_liftM _).bind fun normalized => (appends_findVault id).bind fun _ => ?_
  refine (keeps_liftM _).bind fun collateral => (keeps_liftM _).bind fun debt => ?_
  refine (appends_putVault id _).bind fun _ => appends_getState.bind fun s => ?_
  refine (keeps_liftM _).bind fun total => (appends_modifyState _).bind fun _ => ?_
  exact (appends_emit _).bind fun _ => (appends_emit _).bind fun _ => keeps_pure _

theorem appends_requireWithin (terms : Opportunity) (amount : Amount) :
    Appends (requireWithin terms id amount) :=
  (keeps_require _ _).bind fun _ => keeps_require _ _

/-- A liquidation of one vault appends, whether its terms accept the amount or not. -/
theorem appends_liquidateVault (amount price accumulator : Amount) :
    Appends (liquidateVault ctx id amount price accumulator) := by
  unfold liquidateVault
  refine (appends_requireAmount amount).bind fun _ => (appends_findVault id).bind fun v => ?_
  refine keeps_get.bind fun e => (keeps_liftM _).bind fun terms => ?_
  refine (appends_requireWithin id terms amount).bind fun _ => (keeps_liftM _).bind fun _ => ?_
  refine (keeps_liftM _).bind fun numerator => (keeps_liftM _).bind fun _ => ?_
  refine (keeps_liftM _).bind fun bought => (keeps_liftM _).bind fun debtRepaid => ?_
  dsimp only
  split
  · refine (appends_exhaustVault ctx.now id v _ _ _).bind fun outcome => ?_
    exact (appends_emit _).bind fun _ => keeps_pure _
  · refine (keeps_liftM _).bind fun released => ?_
    refine (appends_reduceVault ctx.now id v _ _ _ _).bind fun outcome => ?_
    exact (appends_emit _).bind fun _ => keeps_pure _

/-- An entry of a round is attempted, and its refusal is noted in the report alone. -/
theorem appends_liquidateNext (report : LiquidationReport)
    (entry : VaultId × Amount) : Appends (liquidateNext ctx report entry) := by
  unfold liquidateNext
  refine (appends_liquidateVault ctx entry.1 entry.2 _ _).attempt.bind fun result => ?_
  split
  · refine (keeps_liftM _).bind fun _ => (keeps_liftM _).bind fun _ => ?_
    exact (keeps_liftM _).bind fun _ => keeps_pure _
  · exact keeps_pure _

theorem appends_liquidateAll (ids : List VaultId) (amounts : List Amount) :
    Appends (liquidateAll ctx ids amounts) := by
  unfold liquidateAll
  refine appends_requireUnpaused.bind fun _ => (keeps_require _ _).bind fun _ => ?_
  refine (keeps_require _ _).bind fun _ => (appends_accrue ctx.now).bind fun accumulator => ?_
  refine (keeps_liftM _).bind fun price => ?_
  refine (Keeps.foldlM (appends_liquidateNext ctx) _ _).bind fun report => ?_
  refine (keeps_require _ _).bind fun _ => appends_getState.bind fun s => ?_
  refine (keeps_liftM _).bind fun share => (keeps_liftM _).bind fun surplus => ?_
  refine (appends_addSurplus surplus).bind fun _ => ?_
  dsimp only
  split
  · refine appends_getState.bind fun s => (keeps_liftM _).bind fun badDebt => ?_
    exact (appends_modifyState _).bind fun _ => keeps_pure _
  · exact keeps_pure _

end Liquidation

end Engine

/-! ## Steps of an arena -/

namespace Arena

/-- An arena that goes on from another, engine by engine. -/
structure Extends (s s' : Arena) : Prop where
  engine : Engine.Extends s.engine s'.engine
  remotes : List.Forall₂ (fun r r' => r'.treasury = r.treasury ∧ Engine.Extends r.engine r'.engine)
    s.remotes s'.remotes

namespace Extends

/-- If only the called engine went on, the arena did. -/
theorem of_remotes_eq {s s' : Arena} (engine : Engine.Extends s.engine s'.engine)
    (remotes : s'.remotes = s.remotes) : Extends s s' := by
  refine ⟨engine, ?_⟩
  rw [remotes]
  exact List.forall₂_same.mpr fun r _ => ⟨rfl, .refl r.engine⟩

theorem refl (s : Arena) : Extends s s := of_remotes_eq (.refl s.engine) rfl

/-- Arenas go on from each other engine by engine. -/
theorem trans {s₁ s₂ s₃ : Arena} (h₁ : Extends s₁ s₂) (h₂ : Extends s₂ s₃) : Extends s₁ s₃ where
  engine := h₁.engine.trans h₂.engine
  remotes := by
    refine forall₂_trans ?_ h₁.remotes h₂.remotes
    intro r₁ r₂ r₃ first second
    exact ⟨second.1.trans first.1, first.2.trans second.2⟩

instance : IsPreorder Arena Extends where
  refl := .refl
  trans _ _ _ := .trans

/-- One of the other engines went on. -/
theorem set_remote {s : Arena} {i : Nat} {r : Remote} (place : s.remotes[i]? = some r)
    {e : Engine} (h : Engine.Extends r.engine e) :
    Extends s { s with remotes := s.remotes.set i { r with engine := e } } where
  engine := .refl s.engine
  remotes := forall₂_set (fun r => ⟨rfl, .refl r.engine⟩) place ⟨rfl, h⟩

end Extends

/-- What only appended is undone without a trace, but for the requests. -/
theorem undo_eq {s s' : Arena} (h : Extends s s') :
    undo s s' = { s with requests := s'.requests } := by
  have back (l l' : List Remote) (extends' : List.Forall₂
      (fun r r' => r'.treasury = r.treasury ∧ Engine.Extends r.engine r'.engine) l l') :
      List.zipWith (fun r old => { r with engine := r.engine.restore old.engine.checkpoint }) l' l =
        l := by
    induction extends' with
    | nil => rfl
    | @cons r r' _ _ first _ ih =>
      obtain ⟨treasury, engine⟩ := first
      rw [List.zipWith_cons_cons, ih, Engine.restore_checkpoint engine, treasury]
  unfold undo
  rw [Engine.restore_checkpoint h.engine, back _ _ h.remotes]

/-- Wherever it ends, the logs of the engines were only appended to. -/
abbrev Appends {α : Type} (m : Transact Arena α) : Prop := Keeps Extends m

section Rules

variable {α : Type}

/-- What appends to the log of the called engine appends in the arena. -/
theorem appends_onEngine {m : Transact Engine α} (h : Engine.Appends m) :
    Appends (onEngine m) := by
  intro s
  constructor
  · intro a s' ok
    obtain ⟨e, done, rfl⟩ := onEngine_eq_ok.mp ok
    exact .of_remotes_eq ((h s.engine).1 a e done) rfl
  · intro f s' failed
    obtain ⟨e, refused, rfl⟩ := Transact.zoom_eq_error.mp failed
    exact .of_remotes_eq ((h s.engine).2 f e refused) rfl

/-- What keeps the engines as they are leaves their logs, too. -/
theorem appends_of_sameEngines {m : Transact Arena α} (h : Keeps SameEngines m) : Appends m := by
  refine h.mono fun same => .of_remotes_eq ?_ same.remotes
  rw [same.engine]
  exact .refl _

theorem appends_onLedger (m : Transact Ledger α) : Appends (onLedger m) :=
  appends_of_sameEngines (keeps_onLedger m)

/-- What appends to the log of another engine appends in the arena. -/
theorem appends_onRemote (address : Address) {m : Treasury → Transact Engine α}
    (h : ∀ treasury, Engine.Appends (m treasury)) : Appends (onRemote address m) := by
  intro s
  unfold onRemote
  dsimp only
  split
  · exact ⟨fun _ _ => nofun, fun _ _ failed => by cases failed; exact .refl s⟩
  · rename_i r place
    split
    · rename_i a e ok
      refine ⟨fun _ _ done => ?_, fun _ _ => nofun⟩
      cases done
      exact .set_remote place ((h r.treasury r.engine).1 a e ok)
    · rename_i f e failed
      refine ⟨fun _ _ => nofun, fun _ _ refused => ?_⟩
      cases refused
      exact .set_remote place ((h r.treasury r.engine).2 f e failed)

end Rules

variable (ctx : Context) (p : Parties)

theorem appends_settle (payment : Payment) : Appends (settle ctx p payment) :=
  appends_of_sameEngines (keeps_settle ctx p payment)

theorem appends_handleRepay (released burnt : Amount) :
    Appends (handleRepay ctx p released burnt) :=
  appends_of_sameEngines (keeps_handleRepay ctx p released burnt)

/-- Fetching debt appends on both engines. -/
theorem appends_fetchDebt (receiving : VaultId) (givingEngine : Address)
    (giving : VaultId) (amount accumulator : Amount) :
    Appends (fetchDebt ctx receiving givingEngine giving amount accumulator) := by
  unfold fetchDebt
  refine (keeps_require _ _).bind fun _ => ?_
  refine keeps_get.bind fun s => ?_
  have giver (treasury : Treasury) := Engine.appends_getDebtOut ctx.now giving amount
    s.engine.state.params.borrowFee s.engine.state.params.repayFee treasury s.engine.state.address
  refine (appends_onRemote givingEngine giver).bind fun taken => ?_
  refine (appends_onEngine (Engine.appends_increaseDebt _ _ _ _)).bind fun _ => ?_
  exact keeps_pure taken

/-- Taking debt in appends, wherever the debt comes from. -/
theorem appends_getDebtIn (receiving : VaultId) (givingEngine : Address)
    (giving : VaultId) (amount accumulator : Amount) :
    Appends (getDebtIn ctx receiving givingEngine giving amount accumulator) := by
  unfold getDebtIn
  refine (appends_onEngine (Engine.appends_requireAmount amount)).bind fun _ => ?_
  refine (appends_onEngine (Engine.appends_requireMayAct ctx.caller receiving)).bind fun _ => ?_
  refine keeps_get.bind fun s => ?_
  dsimp only
  split
  · refine (appends_onEngine (Engine.appends_moveDebt _ _ _ _ _)).bind fun taken => ?_
    exact appends_onEngine (Engine.appends_emit _)
  · refine (appends_fetchDebt _ _ _ _ _ _).bind fun taken => ?_
    exact appends_onEngine (Engine.appends_emit _)

/-- Whatever the action, and however it ends, the logs were only appended to. -/
theorem appends_applyAction (accumulator : Amount) (t : Tally) (action : Action) :
    Appends (applyAction ctx accumulator t action) := by
  cases action with
  | createVault owner =>
    exact (appends_onEngine (Engine.appends_mintVault ctx owner)).bind fun _ => keeps_pure t
  | closeVault id =>
    refine keeps_get.bind fun s => ?_
    refine (appends_onEngine (Engine.appends_closeVault _ _ _)).bind fun closed => ?_
    exact (keeps_liftM _).bind fun _ => keeps_liftM _
  | addCollateral id amount =>
    refine keeps_get.bind fun s => ?_
    exact (appends_onEngine (Engine.appends_addCollateral _ _ _)).bind fun _ => keeps_liftM _
  | removeCollateral id amount =>
    refine keeps_get.bind fun s => ?_
    exact (appends_onEngine (Engine.appends_removeCollateral _ _ _)).bind fun _ => keeps_liftM _
  | repayDebt id amount =>
    refine keeps_get.bind fun s => ?_
    exact (appends_onEngine (Engine.appends_repayDebt _ _ _ _)).bind fun _ => keeps_liftM _
  | borrow id amount =>
    refine keeps_get.bind fun s => ?_
    exact (appends_onEngine (Engine.appends_borrow _ _ _ _)).bind fun _ => keeps_liftM _
  | getDebtIn receiving givingEngine giving amount =>
    refine keeps_get.bind fun s => ?_
    exact (appends_getDebtIn _ _ _ _ _ _).bind fun _ => keeps_pure _
  | permit signed => exact (appends_onLedger _).bind fun _ => keeps_pure t

/-- So do the actions of a batch one after the other. -/
theorem appends_actions (accumulator : Amount) (actions : List Action) :
    Appends (actions.foldlM (applyAction ctx accumulator) Tally.zero) :=
  Keeps.foldlM (appends_applyAction ctx accumulator) actions Tally.zero

/-- So does a batch with its checks and its settlement. -/
theorem appends_processBatch (actions : List Action) : Appends (processBatch ctx p actions) := by
  unfold processBatch
  refine (appends_onEngine Engine.appends_requireUnpaused).bind fun _ => ?_
  refine (keeps_require _ _).bind fun _ => ?_
  refine (keeps_require _ _).bind fun _ => ?_
  refine (appends_onEngine (Engine.appends_accrue ctx.now)).bind fun accumulator => ?_
  refine keeps_get.bind fun s => ?_
  refine (appends_actions ctx accumulator actions).bind fun tally => ?_
  refine keeps_get.bind fun s' => ?_
  refine (keeps_liftM _).bind fun _ => ?_
  have settling : Appends (do settle ctx p tally.payment; return tally.payment) :=
    (appends_settle ctx p tally.payment).bind fun _ => keeps_pure _
  dsimp only
  split
  · exact (keeps_liftM _).bind fun _ => settling
  · exact settling

theorem appends_processAccrual : Appends (processAccrual ctx) := by
  unfold processAccrual
  refine (appends_onEngine (Engine.appends_requireTreasury ctx.caller)).bind fun _ => ?_
  refine (appends_onEngine (Engine.appends_accrue ctx.now)).bind fun _ => ?_
  refine keeps_get.bind fun s => ?_
  refine (appends_onEngine (Engine.appends_modifyState _)).bind fun _ => ?_
  have noting (accrual : TreasuryAccrual) : Appends (do
      onEngine (Engine.emit (.accruedToTreasury accrual.surplus accrual.badDebt ctx.now))
      return accrual) :=
    (appends_onEngine (Engine.appends_emit _)).bind fun _ => keeps_pure _
  dsimp only
  split
  · exact (appends_onLedger _).bind fun _ => noting _
  · exact noting _

/-- The steps of a liquidation. -/
theorem appends_liquidate (ids : List VaultId) (amounts : List Amount) :
    Appends (do
      let report ← onEngine (Engine.liquidateAll ctx ids amounts)
      handleRepay ctx p report.collateralToGive report.stablecoinToReceive
      return report) := by
  refine (appends_onEngine (Engine.appends_liquidateAll ctx ids amounts)).bind fun report => ?_
  exact (appends_handleRepay ctx p _ _).bind fun _ => keeps_pure report

/-- What only appended, was all or nothing and failed left nothing but requests to the swapper. -/
theorem atomically_eq_error {α : Type} {m : Transact Arena α} (appends : Appends m) {f : Failure}
    {s s' : Arena} (h : atomically m s = .error f s') :
    s' = { s with requests := s'.requests } := by
  obtain ⟨reached, failed, rfl⟩ := Transact.atomically_eq_error.mp h
  rw [undo_eq ((appends s).2 f reached failed)]

end Arena

end CollateralDebt
