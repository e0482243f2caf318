import CollateralDebt.Engine.Settlement
import CollateralDebt.Proofs.Ledger

/-!
# What a settlement moves

A step on an arena acts on the engine, on the ledger or on one of the other engines, and leaves the
rest alone. Settling acts on the ledger only; a swapper may do anything to the ledger, but nothing
to an engine.

Without a swapper the funds that a settlement moves are the net flows of the payment, one way or the
other. In each of the four directions this is the same pair of equations, because a flow that nets
to nothing counts for nothing.

## What is proved

- one law for each way to lift a step to an arena;
- `settle_eq`, `settle_eq_error`, `handleRepay_eq`: a settlement is what goes out, then what comes
  in;
- `keeps_handleRepay`, `keeps_settle`: no settlement touches an engine;
- `payOut_eq_ok`, `payIn_eq_ok`, `settle_eq_ok`: the funds that are moved without a swapper.
-/

namespace CollateralDebt.Arena

open Transact (bind_eq_ok)

variable {α : Type} {s s' : Arena}

/-! ## Steps -/

/-- A step on the engine changes nothing else of the arena. -/
theorem onEngine_eq_ok {m : Transact Engine α} {a : α} :
    onEngine m s = .ok a s' ↔ ∃ e, m s.engine = .ok a e ∧ { s with engine := e } = s' :=
  Transact.zoom_eq_ok

/-- A step on the ledger changes nothing else of the arena. -/
theorem onLedger_eq_ok {m : Transact Ledger α} {a : α} :
    onLedger m s = .ok a s' ↔ ∃ l, m s.ledger = .ok a l ∧ { s with ledger := l } = s' :=
  Transact.zoom_eq_ok

/-- A step of another engine: the engine was found at some place, and it alone has changed. -/
theorem onRemote_eq_ok {address : Address} {m : Treasury → Transact Engine α} {a : α}
    (h : onRemote address m s = .ok a s') :
    ∃ i r e, s.remotes[i]? = some r ∧ r.engine.state.address = address ∧
      m r.treasury r.engine = .ok a e ∧
      s' = { s with remotes := s.remotes.set i { r with engine := e } } := by
  unfold onRemote at h
  dsimp only at h
  split at h
  · cases h
  · rename_i r found
    split at h
    · rename_i b e ok
      cases h
      refine ⟨_, r, e, found, ?_, ok, rfl⟩
      obtain ⟨small, rfl⟩ := List.getElem?_eq_some_iff.mp found
      exact of_decide_eq_true (List.findIdx_getElem (p := fun r : Remote =>
        decide (r.engine.state.address = address)) (w := small))
    · cases h

/-- All or nothing: what succeeds is what would have succeeded anyway. -/
theorem atomically_eq_ok {m : Transact Arena α} {a : α} :
    atomically m s = .ok a s' ↔ m s = .ok a s' := Transact.atomically_eq_ok

/-! ## Legs -/

/-- A step on the ledger that moves an amount, left out if there is nothing to move. -/
def leg (amount : Amount) (m : Transact Ledger Unit) : Transact Arena Unit :=
  if amount ≠ .zero then onLedger m else pure ()

theorem leg_zero (m : Transact Ledger Unit) : leg .zero m = pure () := rfl

theorem leg_of_ne {amount : Amount} (h : amount ≠ .zero) (m : Transact Ledger Unit) :
    leg amount m = onLedger m := if_pos h

/-- A step on the ledger that relates the ledgers by the amount, if no amount relates a ledger to
itself. -/
theorem leg_eq_ok {P : Nat → Ledger → Ledger → Prop} {amount : Amount} {m : Transact Ledger Unit}
    {u : Unit} (nothing : ∀ l, P 0 l l) (moved : ∀ l l', m l = .ok () l' → P amount.toNat l l')
    (h : leg amount m s = .ok u s') :
    ∃ l, s' = { s with ledger := l } ∧ P amount.toNat s.ledger l := by
  by_cases none' : amount = .zero
  · rw [none'] at h ⊢
    obtain ⟨-, rfl⟩ := Transact.pure_eq_ok.mp h
    exact ⟨s.ledger, rfl, nothing s.ledger⟩
  · rw [leg_of_ne none'] at h
    obtain ⟨l, ok, rfl⟩ := onLedger_eq_ok.mp h
    exact ⟨l, rfl, moved s.ledger l ok⟩

/-- A leg that fails is one that moves something, and fails as the ledger does. -/
theorem leg_eq_error {amount : Amount} {m : Transact Ledger Unit} {f : Failure}
    (h : leg amount m s = .error f s') : ∃ l, m s.ledger = .error f l := by
  unfold leg at h
  split at h
  · obtain ⟨l, refused, _⟩ := Transact.zoom_eq_error.mp h
    exact ⟨l, refused⟩
  · cases h

/-- What goes out when a payment is settled: stablecoins are minted, collateral is released. -/
def payOut (e : EngineState) (ctx : Context) (p : Parties) (payment : Payment) :
    Transact Arena Unit := do
  let minted := payment.stablecoinToGive.monus payment.stablecoinToReceive
  let released := payment.collateralToGive.monus payment.collateralToReceive
  leg minted (Ledger.mint e.stablecoin e.address p.recipient minted ctx.now)
  leg released (Ledger.transfer e.collateral e.address p.recipient released ctx.now)

/-- What comes in when a payment is settled: stablecoins are burnt, collateral is pulled. The
swapper is asked if the one comes in where the other may have gone out. -/
def payIn (e : EngineState) (ctx : Context) (p : Parties) (payment : Payment) :
    Transact Arena Unit := do
  let minted := payment.stablecoinToGive.monus payment.stablecoinToReceive
  let burnt := payment.stablecoinToReceive.monus payment.stablecoinToGive
  let released := payment.collateralToGive.monus payment.collateralToReceive
  let pulled := payment.collateralToReceive.monus payment.collateralToGive
  let ask (inToken outToken : Address) (owed obtained : Amount) :=
    askSwapper p.swapper ⟨ctx.caller, inToken, outToken, p.source, owed, obtained, p.data, ctx.now⟩
  if burnt ≠ .zero ∧ pulled = .zero then
    ask e.collateral e.stablecoin burnt released
  leg burnt (Ledger.burnFrom e.stablecoin e.address p.source ctx.caller burnt ctx.now)
  if minted ≠ .zero ∧ pulled ≠ .zero then
    ask e.stablecoin e.collateral pulled minted
  leg pulled (Ledger.transferFrom e.collateral ctx.caller p.source e.address pulled ctx.now)

/-- In all four directions, what goes out goes first. -/
theorem settle_eq (ctx : Context) (p : Parties) (payment : Payment) :
    settle ctx p payment = (do
      let e := (← get).engine.state
      payOut e ctx p payment
      payIn e ctx p payment) := by
  funext s
  have read {α : Type} (f : Arena → Transact Arena α) : (get >>= f) s = f s s := rfl
  have same {a b : Amount} (h : b ≤ a) : a.sub b h = a.monus b := rfl
  have not_ne_zero : (Amount.zero ≠ .zero) = False := eq_false (not_not_intro rfl)
  unfold settle payOut payIn
  rw [read, read]
  dsimp only
  by_cases hs : payment.stablecoinToGive ≤ payment.stablecoinToReceive
  · have minted := Amount.monus_eq_zero_iff.mpr hs
    by_cases hc : payment.collateralToReceive ≤ payment.collateralToGive
    · have pulled := Amount.monus_eq_zero_iff.mpr hc
      unfold handleRepay
      simp only [dif_pos hs, dif_pos hc, same, minted, pulled, not_ne_zero, and_true, and_false,
        if_false, leg_zero, pure_bind, bind_pure_unit]
      rw [read]
      by_cases released : payment.collateralToGive.monus payment.collateralToReceive = .zero
      · by_cases burnt : payment.stablecoinToReceive.monus payment.stablecoinToGive = .zero
        · simp only [released, burnt, not_ne_zero, if_false, leg_zero, pure_bind]
        · simp only [released, not_ne_zero, if_false, if_pos burnt, leg_zero, leg_of_ne burnt,
            pure_bind]
      · by_cases burnt : payment.stablecoinToReceive.monus payment.stablecoinToGive = .zero
        · simp only [if_pos released, burnt, not_ne_zero, if_false, leg_zero, leg_of_ne released]
        · simp only [if_pos released, if_pos burnt, leg_of_ne released, leg_of_ne burnt]
    · have released := Amount.monus_eq_zero_iff.mpr (Nat.le_of_not_le hc)
      have pulled := mt Amount.monus_eq_zero_iff.mp hc
      simp only [dif_pos hs, dif_neg hc, same, minted, released, pulled, not_ne_zero, and_false,
        false_and, if_false, leg_zero, leg_of_ne pulled, pure_bind]
      by_cases burnt : payment.stablecoinToReceive.monus payment.stablecoinToGive = .zero
      · simp only [burnt, not_ne_zero, if_false, leg_zero, pure_bind]
      · simp only [if_pos burnt, leg_of_ne burnt]
  · have burnt := Amount.monus_eq_zero_iff.mpr (Nat.le_of_not_le hs)
    have minted := mt Amount.monus_eq_zero_iff.mp hs
    by_cases hc : payment.collateralToReceive ≤ payment.collateralToGive
    · have pulled := Amount.monus_eq_zero_iff.mpr hc
      simp only [dif_neg hs, dif_pos hc, same, burnt, pulled, not_ne_zero, false_and, and_false,
        if_false, leg_zero, leg_of_ne minted, pure_bind, bind_pure_unit]
      rfl
    · have released := Amount.monus_eq_zero_iff.mpr (Nat.le_of_not_le hc)
      have pulled := mt Amount.monus_eq_zero_iff.mp hc
      simp only [dif_neg hs, dif_neg hc, burnt, released, not_ne_zero, false_and, if_false,
        if_pos (And.intro minted pulled), leg_zero, leg_of_ne minted, leg_of_ne pulled, pure_bind,
        bind_pure_unit]

/-- A settlement is refused where something goes out, or when that is done. -/
theorem settle_eq_error {ctx : Context} {p : Parties} {payment : Payment} {f : Failure}
    (h : settle ctx p payment s = .error f s') :
    payOut s.engine.state ctx p payment s = .error f s' ∨
      ∃ s₁, payOut s.engine.state ctx p payment s = .ok () s₁ ∧
        payIn s.engine.state ctx p payment s₁ = .error f s' := by
  rw [settle_eq] at h
  rcases Transact.bind_eq_error.mp h with h | ⟨_, _, got, h⟩
  · cases h
  obtain ⟨rfl, rfl⟩ := Transact.get_eq_ok.mp got
  rcases Transact.bind_eq_error.mp h with h | ⟨_, s₁, out, h⟩
  · exact .inl h
  · exact .inr ⟨s₁, out, h⟩

/-- Repaying is settling a payment of collateral to give and stablecoins to receive. -/
theorem handleRepay_eq (ctx : Context) (p : Parties) (released burnt : Amount) :
    handleRepay ctx p released burnt = settle ctx p ⟨.zero, burnt, released, .zero⟩ := by
  have least (a : Amount) : Amount.zero ≤ a := Nat.zero_le _
  have same (a : Amount) : a.sub .zero (least a) = a := rfl
  funext s
  have read {α : Type} (f : Arena → Transact Arena α) : (get >>= f) s = f s s := rfl
  unfold settle
  rw [read]
  simp only [dif_pos (least _), same]

/-! ## Engines -/

/-- Two arenas with the same engines. -/
structure SameEngines (s s' : Arena) : Prop where
  engine : s'.engine = s.engine
  remotes : s'.remotes = s.remotes

theorem SameEngines.refl (s : Arena) : SameEngines s s := ⟨rfl, rfl⟩

theorem SameEngines.symm (h : SameEngines s s') : SameEngines s' s :=
  ⟨h.engine.symm, h.remotes.symm⟩

theorem SameEngines.trans {s₁ s₂ s₃ : Arena} (h₁ : SameEngines s₁ s₂) (h₂ : SameEngines s₂ s₃) :
    SameEngines s₁ s₃ := ⟨h₂.engine.trans h₁.engine, h₂.remotes.trans h₁.remotes⟩

instance : IsPreorder Arena SameEngines where
  refl := .refl
  trans _ _ _ := .trans

/-- The ledger is no part of any engine. -/
theorem keeps_onLedger (m : Transact Ledger α) : Transact.Keeps SameEngines (onLedger m) := by
  intro s
  constructor
  · intro a s' h
    obtain ⟨_, _, rfl⟩ := onLedger_eq_ok.mp h
    exact ⟨rfl, rfl⟩
  · intro f s' h
    obtain ⟨_, _, rfl⟩ := Transact.zoom_eq_error.mp h
    exact ⟨rfl, rfl⟩

/-- A swapper can move funds, but has no access to the engines. -/
theorem keeps_askSwapper (swapper : Option Swapper) (request : SwapRequest) :
    Transact.Keeps SameEngines (askSwapper swapper request) := by
  unfold askSwapper
  cases swapper with
  | none => exact Transact.keeps_pure _
  | some swap =>
    refine Transact.Keeps.bind ?_ fun _ => ?_
    · exact Transact.keeps_modify fun _ => ⟨rfl, rfl⟩
    · exact keeps_onLedger _

/-- So no leg of a settlement changes an engine. -/
theorem keeps_leg (amount : Amount) (m : Transact Ledger Unit) :
    Transact.Keeps SameEngines (leg amount m) := by
  unfold leg
  split
  · exact keeps_onLedger m
  · exact Transact.keeps_pure _

/-- Settling a payment changes no engine. -/
theorem keeps_settle (ctx : Context) (p : Parties) (payment : Payment) :
    Transact.Keeps SameEngines (settle ctx p payment) := by
  rw [settle_eq]
  apply Transact.keeps_get.bind
  intro s
  dsimp only
  refine Transact.Keeps.bind ?_ fun _ => ?_
  · exact (keeps_leg _ _).bind fun _ => keeps_leg _ _
  · -- what is pulled, after which the two cases of what is burnt come together
    have pulling (minted pulled : Amount) (request : SwapRequest) (pull : Transact Ledger Unit) :
        Transact.Keeps SameEngines (do
          if minted ≠ .zero ∧ pulled ≠ .zero then
            askSwapper p.swapper request
          leg pulled pull) := by
      split
      · exact (keeps_askSwapper _ _).bind fun _ => keeps_leg _ _
      · exact keeps_leg _ _
    unfold payIn
    dsimp only
    split
    · apply (keeps_askSwapper _ _).bind
      exact fun _ => (keeps_leg _ _).bind fun _ => pulling _ _ _ _
    · exact (keeps_leg _ _).bind fun _ => pulling _ _ _ _

/-- Nor does settling what a liquidation owes. -/
theorem keeps_handleRepay (ctx : Context) (p : Parties) (released burnt : Amount) :
    Transact.Keeps SameEngines (handleRepay ctx p released burnt) := by
  rw [handleRepay_eq]
  exact keeps_settle _ _ _

/-! ## Funds -/

section Funds

open Ledger (portion issue)

/-- The flows of a payment were settled on the ledger: stablecoins were minted to the recipient or
burnt from the source, collateral was released to the recipient or pulled from the source. -/
structure Settled (e : EngineState) (p : Parties) (minted burnt released pulled : Nat)
    (l l' : Ledger) : Prop where
  balance : ∀ x y, (l'.balanceOf x y).toNat + portion e.stablecoin p.source burnt x y +
      portion e.collateral e.address released x y + portion e.collateral p.source pulled x y =
    (l.balanceOf x y).toNat + portion e.stablecoin p.recipient minted x y +
      portion e.collateral p.recipient released x y + portion e.collateral e.address pulled x y
  supply : ∀ x, (l'.totalSupply x).toNat + issue e.stablecoin burnt x =
    (l.totalSupply x).toNat + issue e.stablecoin minted x

namespace Settled

variable {e : EngineState} {p : Parties} {l l' l'' : Ledger}

theorem refl (e : EngineState) (p : Parties) (l : Ledger) : Settled e p 0 0 0 0 l l :=
  ⟨fun _ _ => by simp only [Ledger.portion_zero], fun _ => rfl⟩

/-- Settling one part after the other. -/
theorem trans {m b r q m' b' r' q' : Nat} (h : Settled e p m b r q l l')
    (h' : Settled e p m' b' r' q' l' l'') :
    Settled e p (m + m') (b + b') (r + r') (q + q') l l'' where
  balance x y := by
    have first := h.balance x y
    have second := h'.balance x y
    simp only [Ledger.portion_add]
    omega
  supply x := by
    have first := h.supply x
    have second := h'.supply x
    simp only [Ledger.issue_add]
    omega

variable {amount : Amount} {now : Timestamp} {u : Unit}

/-- A minting is the settlement of stablecoins that go out. -/
theorem of_mint (h : Ledger.mint e.stablecoin e.address p.recipient amount now l = .ok u l') :
    Settled e p amount.toNat 0 0 0 l l' := by
  obtain ⟨balance, supply⟩ := Ledger.mint_eq_ok h
  refine ⟨fun x y => ?_, fun x => ?_⟩
  · have := balance x y
    simp only [Ledger.portion_zero]
    omega
  · rw [Ledger.issue_zero]
    exact supply x

/-- A burning is the settlement of stablecoins that come in, whoever burns them for the source. -/
theorem of_burn {sender : Address}
    (h : Ledger.burnFrom e.stablecoin e.address p.source sender amount now l = .ok u l') :
    Settled e p 0 amount.toNat 0 0 l l' := by
  obtain ⟨balance, supply⟩ := Ledger.burnFrom_eq_ok h
  refine ⟨fun x y => ?_, fun x => ?_⟩
  · have := balance x y
    simp only [Ledger.portion_zero]
    omega
  · rw [Ledger.issue_zero]
    exact supply x

/-- A transfer out of custody is the settlement of collateral that goes out. -/
theorem of_release
    (h : Ledger.transfer e.collateral e.address p.recipient amount now l = .ok u l') :
    Settled e p 0 0 amount.toNat 0 l l' := by
  obtain ⟨balance, supply⟩ := Ledger.transfer_eq_ok h
  refine ⟨fun x y => ?_, fun x => ?_⟩
  · have := balance x y
    simp only [Ledger.portion_zero]
    omega
  · rw [Ledger.issue_zero, supply x]

/-- A transfer into custody is the settlement of collateral that comes in. -/
theorem of_pull {spender : Address}
    (h : Ledger.transferFrom e.collateral spender p.source e.address amount now l = .ok u l') :
    Settled e p 0 0 0 amount.toNat l l' := by
  obtain ⟨balance, supply⟩ := Ledger.transferFrom_eq_ok h
  refine ⟨fun x y => ?_, fun x => ?_⟩
  · have := balance x y
    simp only [Ledger.portion_zero]
    omega
  · rw [Ledger.issue_zero, supply x]

end Settled

variable {ctx : Context} {p : Parties} {u : Unit}

/-- What goes out is minted and released. -/
theorem payOut_eq_ok {e : EngineState} {payment : Payment}
    (h : payOut e ctx p payment s = .ok u s') :
    ∃ l, s' = { s with ledger := l } ∧
      Settled e p (payment.stablecoinToGive.toNat - payment.stablecoinToReceive.toNat) 0
        (payment.collateralToGive.toNat - payment.collateralToReceive.toNat) 0 s.ledger l := by
  obtain ⟨_, _, minting, releasing⟩ := bind_eq_ok.mp h
  obtain ⟨l₁, rfl, minted⟩ := leg_eq_ok (P := fun n => Settled e p n 0 0 0)
    (Settled.refl e p) (fun _ _ => Settled.of_mint) minting
  obtain ⟨l₂, rfl, released⟩ := leg_eq_ok (P := fun n => Settled e p 0 0 n 0)
    (Settled.refl e p) (fun _ _ => Settled.of_release) releasing
  refine ⟨l₂, rfl, ?_⟩
  have both := minted.trans released
  simpa only [Nat.zero_add, Nat.add_zero, Amount.toNat_monus] using both

/-- Without a swapper, what comes in is burnt and pulled. -/
theorem payIn_eq_ok {e : EngineState} {payment : Payment} (alone : p.swapper = none)
    (h : payIn e ctx p payment s = .ok u s') :
    ∃ l, s' = { s with ledger := l } ∧
      Settled e p 0 (payment.stablecoinToReceive.toNat - payment.stablecoinToGive.toNat) 0
        (payment.collateralToReceive.toNat - payment.collateralToGive.toNat) s.ledger l := by
  have asked (request : SwapRequest) : askSwapper none request = pure () := rfl
  unfold payIn at h
  simp only [alone, asked, pure_bind, ite_self] at h
  obtain ⟨_, _, burning, pulling⟩ := bind_eq_ok.mp h
  obtain ⟨l₁, rfl, burnt⟩ := leg_eq_ok (P := fun n => Settled e p 0 n 0 0)
    (Settled.refl e p) (fun _ _ => Settled.of_burn) burning
  obtain ⟨l₂, rfl, pulled⟩ := leg_eq_ok (P := fun n => Settled e p 0 0 0 n)
    (Settled.refl e p) (fun _ _ => Settled.of_pull) pulling
  refine ⟨l₂, rfl, ?_⟩
  have both := burnt.trans pulled
  simpa only [Nat.zero_add, Nat.add_zero, Amount.toNat_monus] using both

/-- Without a swapper, settling moves the net flows of the payment. -/
theorem settle_eq_ok {payment : Payment} (alone : p.swapper = none)
    (h : settle ctx p payment s = .ok u s') :
    ∃ l, s' = { s with ledger := l } ∧
      Settled s.engine.state p
        (payment.stablecoinToGive.toNat - payment.stablecoinToReceive.toNat)
        (payment.stablecoinToReceive.toNat - payment.stablecoinToGive.toNat)
        (payment.collateralToGive.toNat - payment.collateralToReceive.toNat)
        (payment.collateralToReceive.toNat - payment.collateralToGive.toNat) s.ledger l := by
  rw [settle_eq] at h
  obtain ⟨_, _, got, h⟩ := bind_eq_ok.mp h
  obtain ⟨rfl, rfl⟩ := Transact.get_eq_ok.mp got
  obtain ⟨_, _, out, back⟩ := bind_eq_ok.mp h
  obtain ⟨l₁, rfl, paid⟩ := payOut_eq_ok out
  obtain ⟨l₂, rfl, received⟩ := payIn_eq_ok alone back
  refine ⟨l₂, rfl, ?_⟩
  have both := paid.trans received
  simpa only [Nat.zero_add, Nat.add_zero] using both

/-- Without a swapper, repaying releases the collateral and burns the stablecoins. -/
theorem handleRepay_eq_ok {released burnt : Amount} (alone : p.swapper = none)
    (h : handleRepay ctx p released burnt s = .ok u s') :
    ∃ l, s' = { s with ledger := l } ∧
      Settled s.engine.state p 0 burnt.toNat released.toNat 0 s.ledger l := by
  rw [handleRepay_eq] at h
  have settled := settle_eq_ok alone h
  simpa only [Amount.toNat_zero, Nat.zero_sub, Nat.sub_zero] using settled

end Funds

end CollateralDebt.Arena
