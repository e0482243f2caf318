import CollateralDebt.Proofs.World.Run

/-!
# The settings go together

An engine is founded fit, and it stays so: actions, liquidations and transfers of debt leave its
settings alone, accrual raises the accumulator, and each setter checks the new value against all
parameters that it constrains. So in every reachable world every engine is fit, whichever setters
were called, in whichever order, by whom and with which values.

## What is proved

- `Arena.Applied.fit`, `EngineCall.Accepted.fit`: one action and one call keep engines fit;
- `World.Reachable.fit`: every engine of a reachable world is fit.
-/

namespace CollateralDebt

namespace Engine.Fit

/-- Paying debt out sets nothing. -/
theorem paidOut {now : Timestamp} {id : VaultId} {amount taken : Amount}
    {senderBorrowFee senderRepayFee : UInt64} {e e' : Engine} (h : e.Fit)
    (paid : payDebtOut now id amount senderBorrowFee senderRepayFee e = .ok taken e') : e'.Fit := by
  obtain ⟨_, m, _, _, _, _, booked, revised, _⟩ := payDebtOut_eq_ok paid
  exact (h.accrued booked).of_frame revised.frame

/-- Nor does a round of liquidations. -/
theorem liquidatedAll {ctx : Context} {ids : List VaultId} {amounts : List Amount}
    {report : LiquidationReport} {e e' : Engine} (h : e.Fit) (exact' : e.Exact)
    (all : liquidateAll ctx ids amounts e = .ok report e') : e'.Fit := by
  obtain ⟨_, _, m, m', _, _, _, booked, _, folded, _, _, _, _, _, rfl⟩ := liquidateAll_eq_ok all
  have kept := Transact.foldlM_induction (P := fun _ _ e => e.Exact ∧ e.frame = m.frame)
    (fun _ _ _ _ _ _ sofar next => ⟨sofar.1.liquidatedNext next,
      (frame_liquidatedNext sofar.1 next).trans sofar.2⟩)
    ⟨exact'.accrued booked, rfl⟩ folded
  exact ((h.accrued booked).of_frame kept.2).congr rfl (Nat.le_refl _)

end Engine.Fit

namespace Arena

/-- Every engine of the arena is fit. -/
structure Fit (s : Arena) : Prop where
  engine : s.engine.Fit
  remotes : ∀ r ∈ s.remotes, r.engine.Fit

/-- An arena is fit if all of its engines are. -/
theorem fit_iff {s : Arena} : s.Fit ↔ ∀ e ∈ s.engines, e.Fit := by
  rw [forall_engines]
  exact ⟨fun h => ⟨h.engine, h.remotes⟩, fun h => ⟨h.1, h.2⟩⟩

/-- Arenas with the same engines are fit together. -/
theorem Fit.congr {s s' : Arena} (h : s.Fit) (same : SameEngines s s') : s'.Fit where
  engine := by
    rw [same.engine]
    exact h.engine
  remotes := by
    rw [same.remotes]
    exact h.remotes

/-- An action keeps every engine fit. -/
theorem Applied.fit {accumulator : Amount} {s s' : Arena} {t t' : Tally} {action : Action}
    (h : Applied accumulator s t action t' s') (hs : s.Fit) : s'.Fit where
  engine := hs.engine.of_frame h.frame
  remotes := by
    cases h with
    | fetchDebt i r now borrowFee repayFee g taken change v w e t' other place paid =>
      intro r' mem
      rcases List.mem_or_eq_of_mem_set mem with mem | rfl
      · exact hs.remotes r' mem
      · exact (hs.remotes r (List.mem_of_getElem? place)).paidOut paid
    | _ => exact hs.remotes

/-- A batch leaves all engines of its arena fit. -/
theorem Fit.processBatch {ctx : Context} {p : Parties} {actions : List Action}
    {payment : Payment} {s s' : Arena} (hs : s.Fit)
    (h : processBatch ctx p actions s = .ok payment s') : s'.Fit := by
  obtain ⟨tally, s₁, gathered, rfl, settled⟩ := processBatch_eq_ok h
  obtain ⟨accumulator, m, booked, folded, _⟩ := gather_eq_ok gathered
  have start : Fit { s with engine := m } := ⟨hs.engine.accrued booked, hs.remotes⟩
  have fit : s₁.Fit := Transact.foldlM_induction (P := fun _ _ s => Fit s)
    (fun _ _ _ _ _ _ hs applied => (applyAction_cases applied).fit hs) start folded
  exact fit.congr ((keeps_settle ctx p tally.payment s₁).1 _ _ settled)

end Arena

/-- An accepted call keeps every engine fit. -/
theorem EngineCall.Accepted.fit {ctx : Context} {s s' : Arena} {call : EngineCall}
    {reply : EngineReply} (h : Accepted ctx s call reply s') (exact' : s.Exact) (hs : s.Fit) :
    s'.Fit := by
  cases h with
  | batch _ done => exact hs.processBatch done
  | @liquidate p ids amounts report e _ done paid =>
    have liquidated : Arena.Fit { s with engine := e } :=
      ⟨hs.engine.liquidatedAll exact'.engine done, hs.remotes⟩
    exact liquidated.congr ((Arena.keeps_handleRepay _ _ _ _ _).1 _ _ paid)
  | getDebtOut paid => exact ⟨hs.engine.paidOut paid, hs.remotes⟩
  | accrueToTreasury done =>
    obtain ⟨_, m, log, l, booked, _, _, _, rfl⟩ := Arena.processAccrual_eq_ok done
    exact ⟨(hs.engine.accrued booked).congr rfl (Nat.le_refl _), hs.remotes⟩
  | upkeep _ changed => exact ⟨hs.engine.upkeep changed, hs.remotes⟩

namespace World

/-- An arena is fit if the world is that it was taken from. -/
theorem Stage.fit {w : World} {place : Nat} {remotes : List Nat} {s : Arena}
    (stage : w.Stage place remotes s) (h : ∀ seat ∈ w.seats, seat.engine.Fit) : s.Fit :=
  Arena.fit_iff.mpr (stage.forall_engines h)

/-- One call, accepted or refused, keeps every engine fit. -/
theorem Change.fit {w w' : World} {call : Call} (h : Change w call w')
    (hw : ∀ seat ∈ w.seats, seat.engine.Exact ∧ seat.engine.Fit) :
    ∀ seat ∈ w'.seats, seat.engine.Exact ∧ seat.engine.Fit := by
  refine h.forall_engines (P := fun e => e.Exact ∧ e.Fit) (fun _ fresh => ⟨fresh.exact, fresh.fit⟩)
    (fun _ _ steady both => ?_) (fun accepted both => ?_) hw
  · exact ⟨both.1.quiet steady.toQuiet, steady.fit both.2⟩
  · have exact' := Arena.exact_iff.mpr fun e mem => (both e mem).1
    have fit := Arena.fit_iff.mpr fun e mem => (both e mem).2
    exact fun e mem => ⟨Arena.exact_iff.mp (accepted.exact exact') e mem,
      Arena.fit_iff.mp (accepted.fit exact' fit) e mem⟩

/-- Every engine of a reachable world is fit. -/
theorem Reachable.fit {w : World} (h : w.Reachable) : ∀ seat ∈ w.seats, seat.engine.Fit := by
  refine h.induction (P := fun w => ∀ seat ∈ w.seats, seat.engine.Fit) ?_ ?_
  · intro seat mem
    cases mem
  · intro w call reachable hw seat mem
    have both := fun seat mem => And.intro (reachable.exact seat mem) (hw seat mem)
    exact ((change_next w call).fit both seat mem).2

end World

end CollateralDebt
