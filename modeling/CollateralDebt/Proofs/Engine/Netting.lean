import Mathlib.Algebra.Group.Prod
import CollateralDebt.Proofs.Compounding
import CollateralDebt.Proofs.Engine.Batch

/-!
# What a batch nets

What an action does to the engines, and which flows it adds, it decides by the engines alone: no
action looks at the tally, and only permits look at the ledger, which touch no engine. Interest that
was booked once is not booked again at the same time. So the actions of a batch do the same to the
engines when each of them is a batch of its own, and what those pay adds up to what the batch pays.

Solvency and the debt ceiling do not come into this. They may well hold after all actions and not
after some of them, and then the batches of one are refused; but where they are accepted, nothing is
different.

## What is proved

- `Engine.Booked`: interest that is booked up to a time, which no later step of a batch changes and
  accrual leaves alone;
- `Arena.applyAction_alone`: one action in two arenas with the same engines, on any tally and on
  none;
- `Arena.processBatch_alone`: a batch, and its actions one batch each.
-/

namespace CollateralDebt

open Transact (bind_eq_ok)

/-! ## Interest that is booked -/

namespace Engine

variable {e e' : Engine} {now : Timestamp} {accumulator : Amount}

/-- Interest is booked up to a time, at this accumulator. -/
structure Booked (e : Engine) (now : Timestamp) (accumulator : Amount) : Prop where
  accumulator : e.state.accumulator = accumulator
  accruedAt : now ≤ e.state.accruedAt

/-- Right after accrual the interest is booked. -/
theorem Accrued.booked (h : Accrued e now accumulator e') : Booked e' now accumulator where
  accumulator := h.accumulator
  accruedAt := by
    rw [h.state]
    dsimp only
    split
    · exact UInt64.le_refl now
    · rename_i later
      exact UInt64.not_lt.mp later

/-- Actions leave interest booked. -/
theorem Booked.of_frame (h : Booked e now accumulator) (same : e'.frame = e.frame) :
    Booked e' now accumulator where
  accumulator := (accumulator_of_frame same).trans h.accumulator
  accruedAt := by
    have accruedAt : e'.state.accruedAt = e.state.accruedAt :=
      congrArg (fun f => f.1.accruedAt) same
    rw [accruedAt]
    exact h.accruedAt

/-- How an engine is left by accrual is determined. -/
theorem Accrued.unique {accumulator' : Amount} {e'' : Engine} (h : Accrued e now accumulator e')
    (h' : Accrued e now accumulator' e'') : accumulator' = accumulator ∧ e'' = e' := by
  obtain rfl : accumulator' = accumulator := Except.ok.inj (h'.current.symm.trans h.current)
  have surplus : e''.state.surplus = e'.state.surplus :=
    Amount.ext (h'.interest.trans h.interest.symm)
  refine ⟨rfl, Engine.ext ?_ (h'.boostSource.trans h.boostSource.symm) (h'.log.trans h.log.symm)⟩
  rw [h.state, h'.state, surplus]

/-- Interest that is booked is not booked again. -/
theorem Booked.accrue (h : Booked e now accumulator) : accrue now e = .ok accumulator e := by
  have current : e.currentAccumulator now = .ok accumulator := by
    unfold currentAccumulator
    rw [Nat.sub_eq_zero_of_le (UInt64.le_iff_toNat_le.mp h.accruedAt), h.accumulator]
    exact accumulate_zero _ _
  have level : ¬ e.state.accumulator < accumulator := by
    rw [h.accumulator]
    exact Nat.lt_irrefl _
  simp only [Engine.accrue, bind_eq_ok, getState_eq_ok, Transact.get_eq_ok, Transact.liftM_eq_ok]
  refine ⟨_, _, ⟨rfl, rfl⟩, _, _, ⟨rfl, rfl⟩, _, _, ⟨current, rfl⟩, ?_⟩
  rw [if_neg level, if_neg (UInt64.not_lt.mpr h.accruedAt)]
  rfl

end Engine

/-! ## Flows -/

/-- The flows of a payment as numbers, which are added each for itself. -/
def Payment.flows (p : Payment) : Nat × Nat × Nat × Nat :=
  (p.stablecoinToGive.toNat, p.stablecoinToReceive.toNat, p.collateralToGive.toNat,
    p.collateralToReceive.toNat)

/-- What is added to a tally is added to the flows of its payment. -/
theorem Tally.Added.flows {t t' : Tally} {a b c d : Nat} (h : Added t t' a b c d) :
    t'.payment.flows = t.payment.flows + (a, b, c, d) := by
  unfold Payment.flows
  rw [h.stablecoinToGive, h.stablecoinToReceive, h.collateralToGive, h.collateralToReceive]
  rfl

/-- A note about a vault is no flow. -/
theorem Tally.Added.of_touch {t t' : Tally} {id : VaultId} {a b c d : Nat}
    (h : Added (t.touch id) t' a b c d) : Added t t' a b c d := ⟨h.1, h.2, h.3, h.4⟩

/-! ## One action in two arenas -/

namespace Arena

variable {ctx : Context} {accumulator : Amount} {s s' x x' : Arena} {t t' u : Tally}
  {l : Ledger} {requests : List SwapRequest}

/-- The arena with another ledger, and other requests. -/
def elsewhere (l : Ledger) (requests : List SwapRequest) (s : Arena) : Arena :=
  { s with ledger := l, requests }

/-- Arenas with the same engines differ by their ledgers and requests alone. -/
theorem SameEngines.eq_elsewhere (h : SameEngines s x) : x = s.elsewhere x.ledger x.requests := by
  unfold elsewhere
  rw [← h.engine, ← h.remotes]

theorem sameEngines_elsewhere (l : Ledger) (requests : List SwapRequest) (s : Arena) :
    SameEngines s (s.elsewhere l requests) := ⟨rfl, rfl⟩

section Blind

variable {α : Type}

/-- A step of an engine does not see the ledger. -/
theorem blind_onEngine (m : Transact Engine α) :
    Transact.Blind (elsewhere l requests) (onEngine m) := by
  intro s a s' h
  obtain ⟨e, done, rfl⟩ := onEngine_eq_ok.mp h
  exact onEngine_eq_ok.mpr ⟨e, done, rfl⟩

/-- Nor does a step of another engine. -/
theorem blind_onRemote (address : Address) (m : Treasury → Transact Engine α) :
    Transact.Blind (elsewhere l requests) (onRemote address m) := by
  intro s a s' h
  unfold onRemote at h ⊢
  dsimp only [elsewhere] at h ⊢
  split at h
  · cases h
  · split at h
    · cases h
      rfl
    · cases h

/-- So fetching debt from another engine is the same over any ledger. -/
theorem blind_fetchDebt (receiving : VaultId) (givingEngine : Address) (giving : VaultId)
    (amount : Amount) : Transact.Blind (elsewhere l requests)
      (fetchDebt ctx receiving givingEngine giving amount accumulator) := by
  unfold fetchDebt
  apply Transact.Blind.bind (Transact.blind_require _ _)
  intro _
  apply Transact.blind_get_bind
  · intro s
    rfl
  · intro s
    apply (blind_onRemote _ _).bind
    intro taken
    exact (blind_onEngine _).bind fun _ => Transact.blind_pure taken

/-- So is taking debt in, from whichever engine. -/
theorem blind_getDebtIn (receiving : VaultId) (givingEngine : Address) (giving : VaultId)
    (amount : Amount) : Transact.Blind (elsewhere l requests)
      (getDebtIn ctx receiving givingEngine giving amount accumulator) := by
  unfold getDebtIn
  apply (blind_onEngine _).bind
  intro _
  apply (blind_onEngine _).bind
  intro _
  apply Transact.blind_get_bind
  · intro s
    rfl
  · intro s
    dsimp only
    split
    · exact (blind_onEngine _).bind fun _ => blind_onEngine _
    · exact (blind_fetchDebt _ _ _ _).bind fun _ => blind_onEngine _

end Blind

/-- A computation that adds the same flows to whatever tally, and does nothing else. -/
def Adds (book : Tally → Transact Arena Tally) : Prop :=
  ∃ flows, ∀ t t' s s', book t s = .ok t' s' →
    s' = s ∧ t'.payment.flows = t.payment.flows + flows

/-- Noting a vault adds no flows. -/
theorem adds_pure {note : Tally → Tally} (same : ∀ t, (note t).payment = t.payment) :
    Adds fun t => pure (note t) := by
  refine ⟨0, fun t t' s s' h => ?_⟩
  obtain ⟨rfl, rfl⟩ := Transact.pure_eq_ok.mp h
  exact ⟨rfl, congrArg Payment.flows (same t)⟩

/-- Booking on a tally adds the same to any tally. -/
theorem adds_liftM {book : Tally → Outcome Tally} {a b c d : Nat}
    (added : ∀ {t t'}, book t = .ok t' → Tally.Added t t' a b c d) :
    Adds fun t => liftM (book t) := by
  refine ⟨(a, b, c, d), fun t t' s s' h => ?_⟩
  obtain ⟨booked, rfl⟩ := Transact.liftM_eq_ok.mp h
  exact ⟨rfl, (added booked).flows⟩

/-- Flows of two steps add up. -/
theorem Adds.bind {f g : Tally → Transact Arena Tally} (hf : Adds f) (hg : Adds g) :
    Adds fun t => f t >>= g := by
  obtain ⟨first, hf⟩ := hf
  obtain ⟨second, hg⟩ := hg
  refine ⟨first + second, fun t t' s s' h => ?_⟩
  obtain ⟨t₁, s₁, ran, rest⟩ := bind_eq_ok.mp h
  obtain ⟨rfl, added⟩ := hf _ _ _ _ ran
  obtain ⟨rfl, more⟩ := hg _ _ _ _ rest
  exact ⟨rfl, by rw [more, added, add_assoc]⟩

/-- A step that is blind to the ledger, and what it gives is booked: run on the same engines with
any tally and with none, it leaves the same engines, and adds to the one what the other comes to. -/
theorem alone_of_adds {α : Type} {m : Transact Arena α} {f : α → Tally → Transact Arena Tally}
    (blind : Transact.Blind (elsewhere l requests) m) (adds : ∀ a, Adds (f a))
    (h : (m >>= fun a => f a t) s = .ok t' s')
    (alone : (m >>= fun a => f a .zero) (s.elsewhere l requests) = .ok u x') :
    SameEngines s' x' ∧ t'.payment.flows = t.payment.flows + u.payment.flows := by
  obtain ⟨a, s₁, ran, booked⟩ := bind_eq_ok.mp h
  rw [Transact.bind_of_ok (blind _ _ _ ran)] at alone
  obtain ⟨flows, adds⟩ := adds a
  obtain ⟨rfl, added⟩ := adds _ _ _ _ booked
  obtain ⟨rfl, added'⟩ := adds _ _ _ _ alone
  refine ⟨sameEngines_elsewhere _ _ _, ?_⟩
  rw [added, added']
  exact congrArg _ (zero_add flows).symm

/-- An action in two arenas with the same engines, on any tally and on none: it leaves the same
engines, and adds the same flows. -/
theorem applyAction_alone {action : Action} (same : SameEngines s x)
    (h : applyAction ctx accumulator t action s = .ok t' s')
    (alone : applyAction ctx accumulator .zero action x = .ok u x') :
    SameEngines s' x' ∧ t'.payment.flows = t.payment.flows + u.payment.flows := by
  rw [same.eq_elsewhere] at alone
  generalize x.ledger = l, x.requests = requests at alone
  -- the number that stands for a vault is read off the engine, which is the same
  cases action with
  | createVault owner =>
    exact alone_of_adds (m := onEngine (Engine.mintVault ctx owner)) (f := fun _ t => pure t)
      (blind_onEngine _) (fun _ => adds_pure fun _ => rfl) h alone
  | closeVault id =>
    exact alone_of_adds
      (m := onEngine (Engine.closeVault ctx (s.engine.state.resolve id) accumulator))
      (f := fun r t => do (← t.receiveStablecoin r.1).giveCollateral r.2) (blind_onEngine _)
      (fun _ => (adds_liftM fun ok => (Tally.receiveStablecoin_eq_ok ok).1).bind
        (adds_liftM fun ok => (Tally.giveCollateral_eq_ok ok).1)) h alone
  | addCollateral id amount =>
    exact alone_of_adds
      (m := onEngine (Engine.addCollateral ctx.now (s.engine.state.resolve id) amount))
      (f := fun _ t => liftM (t.receiveCollateral amount)) (blind_onEngine _)
      (fun _ => adds_liftM fun ok => (Tally.receiveCollateral_eq_ok ok).1) h alone
  | removeCollateral id amount =>
    exact alone_of_adds
      (m := onEngine (Engine.removeCollateral ctx (s.engine.state.resolve id) amount))
      (f := fun _ t => liftM ((t.touch (s.engine.state.resolve id)).giveCollateral amount))
      (blind_onEngine _)
      (fun _ => adds_liftM fun ok => (Tally.giveCollateral_eq_ok ok).1.of_touch) h alone
  | repayDebt id amount =>
    exact alone_of_adds
      (m := onEngine (Engine.repayDebt ctx.now (s.engine.state.resolve id) amount accumulator))
      (f := fun charged t => liftM (t.receiveStablecoin charged)) (blind_onEngine _)
      (fun _ => adds_liftM fun ok => (Tally.receiveStablecoin_eq_ok ok).1) h alone
  | borrow id amount =>
    exact alone_of_adds
      (m := onEngine (Engine.borrow ctx (s.engine.state.resolve id) amount accumulator))
      (f := fun paid t => liftM ((t.touch (s.engine.state.resolve id)).giveStablecoin paid))
      (blind_onEngine _)
      (fun _ => adds_liftM fun ok => (Tally.giveStablecoin_eq_ok ok).1.of_touch) h alone
  | getDebtIn receiving givingEngine giving amount =>
    exact alone_of_adds (m := getDebtIn ctx (s.engine.state.resolve receiving) givingEngine
        giving amount accumulator)
      (f := fun _ t => pure (t.touch (s.engine.state.resolve receiving)))
      (blind_getDebtIn _ _ _ _) (fun _ => adds_pure fun _ => rfl) h alone
  | permit signed =>
    -- the ledgers may differ, and the permit may leave different ones; the engines are as they were
    obtain ⟨_, _, granted, ended⟩ := bind_eq_ok.mp h
    obtain ⟨l₁, _, rfl⟩ := onLedger_eq_ok.mp granted
    obtain ⟨rfl, rfl⟩ := Transact.pure_eq_ok.mp ended
    obtain ⟨_, _, granted, ended⟩ := bind_eq_ok.mp alone
    obtain ⟨l₂, _, rfl⟩ := onLedger_eq_ok.mp granted
    obtain ⟨rfl, rfl⟩ := Transact.pure_eq_ok.mp ended
    exact ⟨⟨rfl, rfl⟩, (add_zero _).symm⟩

/-! ## All actions -/

variable {p : Parties} {action : Action} {actions : List Action} {payment : Payment}
  {payments : List Payment}

/-- A batch of one action books the interest, applies the action, and then touches no engine. -/
theorem processBatch_singleton_eq_ok (h : processBatch ctx p [action] x = .ok payment x') :
    ∃ accumulator m u x₁, Engine.Accrued x.engine ctx.now accumulator m ∧
      applyAction ctx accumulator .zero action { x with engine := m } = .ok u x₁ ∧
      payment = u.payment ∧ SameEngines x₁ x' := by
  obtain ⟨u, x₁, gathered, rfl, settled⟩ := processBatch_eq_ok h
  obtain ⟨accumulator, m, accrued, folded, _⟩ := gather_eq_ok gathered
  rw [List.foldlM_cons] at folded
  obtain ⟨_, _, applied, rest⟩ := bind_eq_ok.mp folded
  obtain ⟨rfl, rfl⟩ := Transact.pure_eq_ok.mp rest
  exact ⟨accumulator, m, _, _, accrued, applied, rfl, (keeps_settle ctx p _ _).1 _ _ settled⟩

/-- One step of a batch, from where its interest was booked, and the same action as a batch of its
own, from where it may still have to be. -/
theorem step_alone (accrued : Engine.Accrued x.engine ctx.now accumulator s.engine)
    (remotes : x.remotes = s.remotes) (h : applyAction ctx accumulator t action s = .ok t' s')
    (alone : processBatch ctx p [action] x = .ok payment x') :
    SameEngines s' x' ∧ Engine.Booked s'.engine ctx.now accumulator ∧
      t'.payment.flows = t.payment.flows + payment.flows := by
  obtain ⟨accumulator', m, u, x₁, accrued', applied, rfl, kept⟩ :=
    processBatch_singleton_eq_ok alone
  obtain ⟨rfl, rfl⟩ := accrued.unique accrued'
  have engines : SameEngines s { x with engine := s.engine } := ⟨rfl, remotes⟩
  obtain ⟨same, flows⟩ := applyAction_alone engines h applied
  exact ⟨same.trans kept, accrued.booked.of_frame (applyAction_cases h).frame, flows⟩

/-- The steps of a batch, from where its interest is booked, and its actions one batch each. -/
theorem foldlM_alone (same : SameEngines s x)
    (booked : Engine.Booked s.engine ctx.now accumulator)
    (h : actions.foldlM (applyAction ctx accumulator) t s = .ok t' s')
    (alone : actions.mapM (fun action => processBatch ctx p [action]) x = .ok payments x') :
    SameEngines s' x' ∧
      t'.payment.flows = t.payment.flows + (payments.map Payment.flows).sum := by
  induction actions generalizing t s x payments with
  | nil =>
    obtain ⟨rfl, rfl⟩ := Transact.pure_eq_ok.mp h
    obtain ⟨rfl, rfl⟩ := Transact.pure_eq_ok.mp alone
    exact ⟨same, (add_zero _).symm⟩
  | cons action actions ih =>
    rw [List.foldlM_cons] at h
    obtain ⟨t₁, s₁, applied, h⟩ := bind_eq_ok.mp h
    obtain ⟨payment, x₁, payments, done, rest, rfl⟩ := Transact.mapM_cons_eq_ok.mp alone
    have accrued : Engine.Accrued x.engine ctx.now accumulator s.engine :=
      same.engine.symm ▸ Engine.accrue_eq_ok booked.accrue
    obtain ⟨same₁, booked₁, first⟩ := step_alone accrued same.remotes applied done
    obtain ⟨same', more⟩ := ih same₁ booked₁ h rest
    refine ⟨same', ?_⟩
    rw [more, first, List.map_cons, List.sum_cons, add_assoc]

/-- A batch, and its actions one batch each: the engines end the same, logs included, and what the
batches of one pay adds up to what the batch pays. -/
theorem processBatch_alone (h : processBatch ctx p actions s = .ok payment s')
    (alone : actions.mapM (fun action => processBatch ctx p [action]) s = .ok payments x') :
    SameEngines s' x' ∧ payment.flows = (payments.map Payment.flows).sum := by
  obtain ⟨tally, s₁, gathered, rfl, settled⟩ := processBatch_eq_ok h
  have kept := (keeps_settle ctx p _ _).1 _ _ settled
  cases actions with
  | nil =>
    obtain ⟨_, _, _, gathered⟩ := bind_eq_ok.mp gathered
    obtain ⟨_, _, some', _⟩ := bind_eq_ok.mp gathered
    exact absurd rfl (Transact.require_eq_ok.mp some').1
  | cons action actions =>
    obtain ⟨accumulator, m, accrued, folded, _⟩ := gather_eq_ok gathered
    rw [List.foldlM_cons] at folded
    obtain ⟨t₁, s₂, applied, folded⟩ := bind_eq_ok.mp folded
    obtain ⟨payment, x₁, payments, done, rest, rfl⟩ := Transact.mapM_cons_eq_ok.mp alone
    have remotes : s.remotes = ({ s with engine := m } : Arena).remotes := rfl
    obtain ⟨same₁, booked₁, first⟩ := step_alone accrued remotes applied done
    obtain ⟨same', more⟩ := foldlM_alone same₁ booked₁ folded rest
    refine ⟨kept.symm.trans same', ?_⟩
    rw [more, first, List.map_cons, List.sum_cons, add_assoc]
    exact zero_add _

end Arena

end CollateralDebt
