import Mathlib.Algebra.BigOperators.Group.List.Basic
import Mathlib.Algebra.Group.Prod
import Mathlib.Data.List.Nodup
import CollateralDebt.Proofs.Engine.Liquidation

/-!
# The vaults of one liquidation

The vaults of a call are liquidated one after the other, each on the engine that the ones before it
left. If no vault is named twice this makes no difference: every verdict is the one that the engine
gives at the start. So the round of a call is its verdicts at the start, done one by one, and from
there on the order of the vaults matters to nothing but the order in which they are reported and
logged.

## What is proved

- `foldlM_liquidateNext_iff`: a round is its verdicts at the start;
- `Round.perm`: a round in another order;
- `Round.of_dropped`: a round without the vaults that were refused.
-/

namespace CollateralDebt

/-! ## Reports -/

/-- What was repaid, released and lost. -/
def VaultLiquidation.totals (outcome : VaultLiquidation) : Nat × Nat × Nat :=
  (outcome.repaid.toNat, outcome.collateralReleased.toNat, outcome.badDebt.toNat)

/-- What was repaid, released and lost so far. -/
def LiquidationReport.totals (report : LiquidationReport) : Nat × Nat × Nat :=
  (report.stablecoinToReceive.toNat, report.collateralToGive.toNat, report.badDebt.toNat)

/-- A report to which totals and entries were added. -/
structure LiquidationReport.Adds (report : LiquidationReport) (totals : Nat × Nat × Nat)
    (liquidated : List VaultId) (skipped : List (VaultId × Error)) (report' : LiquidationReport) :
    Prop where
  price : report'.price = report.price
  accumulator : report'.accumulator = report.accumulator
  totals : report'.totals = report.totals + totals
  liquidated : report'.liquidated = report.liquidated ++ liquidated
  skipped : report'.skipped = report.skipped ++ skipped

namespace LiquidationReport

variable {report report' report'' : LiquidationReport} {t t' : Nat × Nat × Nat}
  {ids ids' : List VaultId} {refused refused' : List (VaultId × Error)}

/-- Reports are the same if their prices, their totals and their entries are. -/
theorem ext_totals (price : report'.price = report.price)
    (accumulator : report'.accumulator = report.accumulator)
    (totals : report'.totals = report.totals)
    (liquidated : report'.liquidated = report.liquidated)
    (skipped : report'.skipped = report.skipped) : report' = report := by
  have repaid := congrArg (·.1) totals
  have released := congrArg (·.2.1) totals
  have lost := congrArg (·.2.2) totals
  exact LiquidationReport.ext price accumulator (Amount.ext repaid) (Amount.ext released)
    (Amount.ext lost) liquidated skipped

/-- Nothing was added. -/
theorem adds_nothing : report.Adds 0 [] [] report' ↔ report = report' := by
  constructor
  · intro h
    refine (ext_totals h.price h.accumulator ?_ ?_ ?_).symm
    · rw [h.totals, add_zero]
    · rw [h.liquidated, List.append_nil]
    · rw [h.skipped, List.append_nil]
  · rintro rfl
    exact ⟨rfl, rfl, (add_zero _).symm, (List.append_nil _).symm, (List.append_nil _).symm⟩

/-- What was added in two parts was added at once, and the other way round: the totals in between
are amounts because those at the end are. -/
theorem adds_append : report.Adds (t + t') (ids ++ ids') (refused ++ refused') report'' ↔
    ∃ report', report.Adds t ids refused report' ∧ report'.Adds t' ids' refused' report'' := by
  constructor
  · intro h
    obtain ⟨repaid, released, lost⟩ := t
    obtain ⟨repaid', released', lost'⟩ := t'
    have repaids := congrArg (·.1) h.totals
    have releases := congrArg (·.2.1) h.totals
    have losses := congrArg (·.2.2) h.totals
    have fits {a b c : Nat} {most : Amount} (sum : most.toNat = a + (b + c)) :
        a + b < Nat.pow 2 128 := by
      have := most.isLt
      omega
    refine ⟨{ report with
      stablecoinToReceive := ⟨_, fits repaids⟩
      collateralToGive := ⟨_, fits releases⟩
      badDebt := ⟨_, fits losses⟩
      liquidated := report.liquidated ++ ids
      skipped := report.skipped ++ refused }, ⟨rfl, rfl, rfl, rfl, rfl⟩, h.price, h.accumulator,
      ?_, ?_, ?_⟩
    · rw [h.totals, ← add_assoc]
      rfl
    · rw [h.liquidated, List.append_assoc]
    · rw [h.skipped, List.append_assoc]
  · rintro ⟨report', h, h'⟩
    refine ⟨h'.price.trans h.price, h'.accumulator.trans h.accumulator, ?_, ?_, ?_⟩
    · rw [h'.totals, h.totals, add_assoc]
    · rw [h'.liquidated, h.liquidated, List.append_assoc]
    · rw [h'.skipped, h.skipped, List.append_assoc]

end LiquidationReport

namespace Engine

open Transact (bind_eq_ok)

/-! ## Verdicts of a round -/

section Verdicts

variable (e : Engine) (ctx : Context) (price accumulator : Amount)

/-- The vaults that are to be liquidated, with their verdicts. -/
def verdicts (entries : List (VaultId × Amount)) : List (VaultId × Verdict) :=
  entries.filterMap fun (id, amount) =>
    match e.verdict ctx id amount price accumulator with
    | .ok r => some (id, r)
    | .error _ => none

/-- The vaults that are to be skipped, and why. -/
def refusals (entries : List (VaultId × Amount)) : List (VaultId × Error) :=
  entries.filterMap fun (id, amount) =>
    match e.verdict ctx id amount price accumulator with
    | .error (.rejected cause) => some (id, cause)
    | _ => none

/-- Every vault is to be liquidated or to be skipped. -/
def Decided (entries : List (VaultId × Amount)) : Prop :=
  ∀ id amount, (id, amount) ∈ entries →
    ∀ f, e.verdict ctx id amount price accumulator = .error f → ∃ cause, f = .rejected cause

/-- The engine after verdicts were done one by one. -/
def enactAll (verdicts : List (VaultId × Verdict)) : Engine :=
  verdicts.foldl (fun e (id, r) => e.enact id r) e

end Verdicts

/-- A round: every vault was decided, the verdicts were done, and all was reported. -/
structure Round (ctx : Context) (entries : List (VaultId × Amount)) (report : LiquidationReport)
    (e : Engine) (report' : LiquidationReport) (e' : Engine) : Prop where
  decided : e.Decided ctx report.price report.accumulator entries
  reported : report.Adds
    ((e.verdicts ctx report.price report.accumulator entries).map (·.2.outcome.totals)).sum
    ((e.verdicts ctx report.price report.accumulator entries).map (·.1))
    (e.refusals ctx report.price report.accumulator entries) report'
  engine : e' = e.enactAll (e.verdicts ctx report.price report.accumulator entries)

variable {ctx : Context} {report report' : LiquidationReport} {id : VaultId} {amount : Amount}
  {e e' : Engine}

/-- Carrying a verdict out keeps the total of debt exact. -/
theorem Exact.enact {price accumulator : Amount} {r : Verdict} (h : e.Exact)
    (judged : e.verdict ctx id amount price accumulator = .ok r) : (e.enact id r).Exact := by
  have done : liquidateVault ctx id amount price accumulator e = .ok r.outcome (e.enact id r) := by
    rw [liquidateVault_eq h, judged]
    rfl
  obtain ⟨_, _, _, revised, _⟩ := liquidateVault_eq_ok done
  exact h.revised revised

/-- The next vault of a round is liquidated. -/
theorem liquidateNext_of_verdict {r : Verdict} (exact : e.Exact)
    (judged : e.verdict ctx id amount report.price report.accumulator = .ok r) :
    liquidateNext ctx report (id, amount) e = .ok report' e' ↔
      report.Adds r.outcome.totals [id] [] report' ∧ e' = e.enact id r := by
  have done : Transact.attempt (liquidateVault ctx id amount report.price report.accumulator) e =
      .ok (.ok r.outcome) (e.enact id r) := by
    unfold Transact.attempt
    rw [liquidateVault_eq exact, judged]
    rfl
  unfold liquidateNext
  dsimp only
  rw [Transact.bind_of_ok done]
  simp only [bind_eq_ok, Transact.liftM_eq_ok, Amount.add_eq_ok, Transact.pure_eq_ok]
  constructor
  · rintro ⟨repaid, _, ⟨hrepaid, rfl⟩, released, _, ⟨hreleased, rfl⟩, lost, _, ⟨hlost, rfl⟩, rfl,
      rfl⟩
    refine ⟨⟨rfl, rfl, ?_, rfl, (List.append_nil _).symm⟩, rfl⟩
    exact Prod.ext hrepaid (Prod.ext hreleased hlost)
  · rintro ⟨adds, rfl⟩
    refine ⟨_, _, ⟨congrArg (·.1) adds.totals, rfl⟩, _, _, ⟨congrArg (·.2.1) adds.totals, rfl⟩, _, _,
      ⟨congrArg (·.2.2) adds.totals, rfl⟩, ?_, rfl⟩
    have skipped := adds.skipped
    rw [List.append_nil] at skipped
    exact LiquidationReport.ext adds.price.symm adds.accumulator.symm rfl rfl rfl
      adds.liquidated.symm skipped.symm

/-- The next vault of a round is skipped. -/
theorem liquidateNext_of_refusal {cause : Error} (exact : e.Exact)
    (judged : e.verdict ctx id amount report.price report.accumulator =
      .error (.rejected cause)) :
    liquidateNext ctx report (id, amount) e = .ok report' e' ↔
      report.Adds 0 [] [(id, cause)] report' ∧ e' = e := by
  have done : Transact.attempt (liquidateVault ctx id amount report.price report.accumulator) e =
      .ok (.error cause) e := by
    unfold Transact.attempt
    rw [liquidateVault_eq exact, judged]
    rfl
  unfold liquidateNext
  dsimp only
  rw [Transact.bind_of_ok done]
  simp only [Transact.pure_eq_ok]
  constructor
  · rintro ⟨rfl, rfl⟩
    exact ⟨⟨rfl, rfl, (add_zero _).symm, (List.append_nil _).symm, rfl⟩, rfl⟩
  · rintro ⟨adds, rfl⟩
    have liquidated := adds.liquidated
    rw [List.append_nil] at liquidated
    have totals := adds.totals
    rw [add_zero] at totals
    have same : report' = { report with skipped := report.skipped ++ [(id, cause)] } :=
      LiquidationReport.ext_totals adds.price adds.accumulator totals liquidated adds.skipped
    exact ⟨same.symm, rfl⟩

/-- The next vault of a round is decided. -/
theorem rejected_of_liquidateNext {f : Failure} (exact : e.Exact)
    (next : liquidateNext ctx report (id, amount) e = .ok report' e')
    (judged : e.verdict ctx id amount report.price report.accumulator = .error f) :
    ∃ cause, f = .rejected cause := by
  have failed : liquidateVault ctx id amount report.price report.accumulator e = .error f e := by
    rw [liquidateVault_eq exact, judged]
    rfl
  obtain ⟨_, _, tried, _⟩ := bind_eq_ok.mp next
  rcases Transact.attempt_eq_ok.mp tried with ⟨_, _, done⟩ | ⟨cause, _, refused⟩
  · cases failed.symm.trans done
  · cases failed.symm.trans refused
    exact ⟨cause, rfl⟩

/-! ## Rounds -/

section Rest

variable {price accumulator : Amount} {rest : List (VaultId × Amount)} {r : Verdict}

/-- Doing one verdict leaves those on the vaults that are still to come. -/
theorem verdict_enact_rest (fresh : id ∉ rest.map (·.1)) {entry : VaultId × Amount}
    (mem : entry ∈ rest) :
    (e.enact id r).verdict ctx entry.1 entry.2 price accumulator =
      e.verdict ctx entry.1 entry.2 price accumulator := by
  apply verdict_enact_of_ne
  rintro rfl
  exact fresh (List.mem_map_of_mem mem)

/-- A verdict that is carried out on one vault changes no verdict on the vaults that follow. -/
theorem verdicts_enact (fresh : id ∉ rest.map (·.1)) :
    (e.enact id r).verdicts ctx price accumulator rest = e.verdicts ctx price accumulator rest := by
  apply List.filterMap_congr
  intro entry mem
  dsimp only
  rw [verdict_enact_rest fresh mem]

/-- Nor does it change why any of them is refused. -/
theorem refusals_enact (fresh : id ∉ rest.map (·.1)) :
    (e.enact id r).refusals ctx price accumulator rest = e.refusals ctx price accumulator rest := by
  apply List.filterMap_congr
  intro entry mem
  dsimp only
  rw [verdict_enact_rest fresh mem]

/-- Nor whether all of them are decided. -/
theorem decided_enact (fresh : id ∉ rest.map (·.1)) :
    (e.enact id r).Decided ctx price accumulator rest ↔ e.Decided ctx price accumulator rest := by
  unfold Decided
  refine forall_congr' fun i => forall_congr' fun amount => forall_congr' fun mem => ?_
  rw [verdict_enact_rest fresh mem]

/-- All entries are decided if the first is and the rest are. -/
theorem decided_cons {entry : VaultId × Amount} :
    e.Decided ctx price accumulator (entry :: rest) ↔
      (∀ f, e.verdict ctx entry.1 entry.2 price accumulator = .error f →
        ∃ cause, f = .rejected cause) ∧ e.Decided ctx price accumulator rest := by
  unfold Decided
  constructor
  · intro h
    exact ⟨h entry.1 entry.2 List.mem_cons_self,
      fun i amount mem => h i amount (List.mem_cons_of_mem _ mem)⟩
  · rintro ⟨first, later⟩ i amount mem
    rcases List.mem_cons.mp mem with rfl | mem
    · exact first
    · exact later i amount mem

end Rest

variable {rest : List (VaultId × Amount)}

/-- A round that begins with a vault that is liquidated. -/
theorem round_cons_of_verdict {r : Verdict} (fresh : id ∉ rest.map (·.1))
    (judged : e.verdict ctx id amount report.price report.accumulator = .ok r) :
    Round ctx ((id, amount) :: rest) report e report' e' ↔
      ∃ report₁, report.Adds r.outcome.totals [id] [] report₁ ∧
        Round ctx rest report₁ (e.enact id r) report' e' := by
  have verdicts : e.verdicts ctx report.price report.accumulator ((id, amount) :: rest) =
      (id, r) :: e.verdicts ctx report.price report.accumulator rest :=
    List.filterMap_cons_some (by simp only [judged])
  have refusals : e.refusals ctx report.price report.accumulator ((id, amount) :: rest) =
      e.refusals ctx report.price report.accumulator rest :=
    List.filterMap_cons_none (by simp only [judged])
  constructor
  · rintro ⟨decided, reported, engine⟩
    rw [verdicts, refusals] at reported
    rw [verdicts] at engine
    have parts : report.Adds
        (r.outcome.totals + ((e.verdicts ctx report.price report.accumulator rest).map
          (·.2.outcome.totals)).sum)
        ([id] ++ (e.verdicts ctx report.price report.accumulator rest).map (·.1))
        ([] ++ e.refusals ctx report.price report.accumulator rest) report' := reported
    obtain ⟨report₁, first, later⟩ := LiquidationReport.adds_append.mp parts
    refine ⟨report₁, first, ?_, ?_, ?_⟩
    · rw [first.price, first.accumulator, decided_enact fresh]
      exact (decided_cons.mp decided).2
    · rw [first.price, first.accumulator, verdicts_enact fresh, refusals_enact fresh]
      exact later
    · rw [first.price, first.accumulator, verdicts_enact fresh]
      exact engine
  · rintro ⟨report₁, first, decided, reported, engine⟩
    rw [first.price, first.accumulator] at decided reported engine
    rw [verdicts_enact fresh] at reported engine
    rw [refusals_enact fresh] at reported
    refine ⟨decided_cons.mpr ⟨fun f refused => ?_, (decided_enact fresh).mp decided⟩, ?_, ?_⟩
    · cases judged.symm.trans refused
    · rw [verdicts, refusals]
      exact LiquidationReport.adds_append.mpr ⟨report₁, first, reported⟩
    · rw [verdicts]
      exact engine

/-- A round that begins with a vault that is skipped. -/
theorem round_cons_of_refusal {cause : Error}
    (judged : e.verdict ctx id amount report.price report.accumulator =
      .error (.rejected cause)) :
    Round ctx ((id, amount) :: rest) report e report' e' ↔
      ∃ report₁, report.Adds 0 [] [(id, cause)] report₁ ∧
        Round ctx rest report₁ e report' e' := by
  have verdicts : e.verdicts ctx report.price report.accumulator ((id, amount) :: rest) =
      e.verdicts ctx report.price report.accumulator rest :=
    List.filterMap_cons_none (by simp only [judged])
  have refusals : e.refusals ctx report.price report.accumulator ((id, amount) :: rest) =
      (id, cause) :: e.refusals ctx report.price report.accumulator rest :=
    List.filterMap_cons_some (by simp only [judged])
  constructor
  · rintro ⟨decided, reported, engine⟩
    rw [verdicts, refusals, ← zero_add (List.sum _)] at reported
    rw [verdicts] at engine
    have parts : report.Adds
        (0 + ((e.verdicts ctx report.price report.accumulator rest).map
          (·.2.outcome.totals)).sum)
        ([] ++ (e.verdicts ctx report.price report.accumulator rest).map (·.1))
        ([(id, cause)] ++ e.refusals ctx report.price report.accumulator rest) report' := reported
    obtain ⟨report₁, first, later⟩ := LiquidationReport.adds_append.mp parts
    refine ⟨report₁, first, ?_, ?_, ?_⟩
    · rw [first.price, first.accumulator]
      exact (decided_cons.mp decided).2
    · rw [first.price, first.accumulator]
      exact later
    · rw [first.price, first.accumulator]
      exact engine
  · rintro ⟨report₁, first, decided, reported, engine⟩
    rw [first.price, first.accumulator] at decided reported engine
    refine ⟨decided_cons.mpr ⟨fun f refused => ⟨cause, ?_⟩, decided⟩, ?_, ?_⟩
    · cases judged.symm.trans refused
      rfl
    · rw [verdicts, refusals, ← zero_add (List.sum _)]
      exact LiquidationReport.adds_append.mpr ⟨report₁, first, reported⟩
    · rw [verdicts]
      exact engine

/-- Vaults that are named once each are liquidated as the engine judges them at the start. -/
theorem foldlM_liquidateNext_iff {entries : List (VaultId × Amount)} (exact : e.Exact)
    (distinct : (entries.map (·.1)).Nodup) :
    entries.foldlM (liquidateNext ctx) report e = .ok report' e' ↔
      Round ctx entries report e report' e' := by
  induction entries generalizing report e with
  | nil =>
    rw [List.foldlM_nil, Transact.pure_eq_ok]
    constructor
    · rintro ⟨rfl, rfl⟩
      exact ⟨fun _ _ mem => (nomatch mem), LiquidationReport.adds_nothing.mpr rfl, rfl⟩
    · rintro ⟨_, reported, rfl⟩
      exact ⟨LiquidationReport.adds_nothing.mp reported, rfl⟩
  | cons entry rest ih =>
    obtain ⟨id, amount⟩ := entry
    obtain ⟨fresh, distinct⟩ := List.nodup_cons.mp distinct
    rw [List.foldlM_cons, bind_eq_ok]
    cases judged : e.verdict ctx id amount report.price report.accumulator with
    | ok r =>
      rw [round_cons_of_verdict fresh judged]
      constructor
      · rintro ⟨report₁, _, first, later⟩
        obtain ⟨adds, rfl⟩ := (liquidateNext_of_verdict exact judged).mp first
        exact ⟨report₁, adds, (ih (exact.enact judged) distinct).mp later⟩
      · rintro ⟨report₁, adds, later⟩
        exact ⟨report₁, _, (liquidateNext_of_verdict exact judged).mpr ⟨adds, rfl⟩,
          (ih (exact.enact judged) distinct).mpr later⟩
    | error f =>
      by_cases refused : ∃ cause, f = .rejected cause
      · obtain ⟨cause, rfl⟩ := refused
        rw [round_cons_of_refusal judged]
        constructor
        · rintro ⟨report₁, _, first, later⟩
          obtain ⟨adds, rfl⟩ := (liquidateNext_of_refusal exact judged).mp first
          exact ⟨report₁, adds, (ih exact distinct).mp later⟩
        · rintro ⟨report₁, adds, later⟩
          exact ⟨report₁, _, (liquidateNext_of_refusal exact judged).mpr ⟨adds, rfl⟩,
            (ih exact distinct).mpr later⟩
      · constructor
        · rintro ⟨_, _, first, _⟩
          exact absurd (rejected_of_liquidateNext exact first judged) refused
        · intro round
          exact absurd ((decided_cons.mp round.decided).1 f judged) refused

/-! ## What a round does -/

section Members

variable {price accumulator : Amount} {entries : List (VaultId × Amount)}

/-- The verdicts of a round are those on its entries, taken one by one. -/
theorem mem_verdicts {r : Verdict} : (id, r) ∈ e.verdicts ctx price accumulator entries ↔
    ∃ amount, (id, amount) ∈ entries ∧ e.verdict ctx id amount price accumulator = .ok r := by
  unfold verdicts
  rw [List.mem_filterMap]
  constructor
  · rintro ⟨⟨i, amount⟩, mem, found⟩
    cases judged : e.verdict ctx i amount price accumulator with
    | ok q =>
      simp only [judged, Option.some.injEq, Prod.mk.injEq] at found
      obtain ⟨rfl, rfl⟩ := found
      exact ⟨amount, mem, judged⟩
    | error f => simp only [judged, reduceCtorEq] at found
  · rintro ⟨amount, mem, judged⟩
    exact ⟨(id, amount), mem, by simp only [judged]⟩

/-- So are the refusals. -/
theorem mem_refusals {cause : Error} :
    (id, cause) ∈ e.refusals ctx price accumulator entries ↔ ∃ amount, (id, amount) ∈ entries ∧
      e.verdict ctx id amount price accumulator = .error (.rejected cause) := by
  unfold refusals
  rw [List.mem_filterMap]
  constructor
  · rintro ⟨⟨i, amount⟩, mem, found⟩
    dsimp only at found
    split at found
    · rename_i judged
      simp only [Option.some.injEq, Prod.mk.injEq] at found
      obtain ⟨rfl, rfl⟩ := found
      exact ⟨amount, mem, judged⟩
    · cases found
  · rintro ⟨amount, mem, judged⟩
    exact ⟨(id, amount), mem, by simp only [judged]⟩

/-- Whatever was decided is liquidated or skipped. -/
theorem perm_of_decided (h : e.Decided ctx price accumulator entries) :
    ((e.verdicts ctx price accumulator entries).map (·.1) ++
      (e.refusals ctx price accumulator entries).map (·.1)).Perm (entries.map (·.1)) := by
  induction entries with
  | nil => exact .nil
  | cons entry rest ih =>
    obtain ⟨id, amount⟩ := entry
    obtain ⟨first, later⟩ := decided_cons.mp h
    unfold verdicts refusals
    cases judged : e.verdict ctx id amount price accumulator with
    | ok r =>
      rw [List.filterMap_cons_some (by simp only [judged]; rfl),
        List.filterMap_cons_none (by simp only [judged])]
      exact (ih later).cons id
    | error f =>
      obtain ⟨cause, rfl⟩ := first f judged
      rw [List.filterMap_cons_none (by simp only [judged]),
        List.filterMap_cons_some (by simp only [judged]; rfl)]
      exact List.perm_middle.trans ((ih later).cons id)

/-- Among vaults that are named once each, none is liquidated twice. -/
theorem nodup_verdicts (distinct : (entries.map (·.1)).Nodup) :
    ((e.verdicts ctx price accumulator entries).map (·.1)).Nodup := by
  induction entries with
  | nil => exact List.nodup_nil
  | cons entry rest ih =>
    obtain ⟨id, amount⟩ := entry
    obtain ⟨fresh, distinct⟩ := List.nodup_cons.mp distinct
    unfold verdicts
    cases judged : e.verdict ctx id amount price accumulator with
    | ok r =>
      rw [List.filterMap_cons_some (by simp only [judged]; rfl)]
      refine List.nodup_cons.mpr ⟨fun mem => fresh ?_, ih distinct⟩
      obtain ⟨_, among, rfl⟩ := List.mem_map.mp mem
      obtain ⟨_, entry, _⟩ := mem_verdicts.mp among
      exact List.mem_map.mpr ⟨_, entry, rfl⟩
    | error f =>
      rw [List.filterMap_cons_none (by simp only [judged])]
      exact ih distinct

end Members

/-- Doing verdicts one by one changes the state, and adds all of their events to the log. -/
theorem enactAll_eq (e : Engine) (vs : List (VaultId × Verdict)) : e.enactAll vs = { e with
    state := vs.foldl (fun s (id, r) => s.enact id r) e.state
    log := e.log ++ vs.flatMap (·.2.events) } := by
  induction vs generalizing e with
  | nil =>
    rw [List.flatMap_nil, List.append_nil]
    rfl
  | cons v vs ih =>
    show (e.enact v.1 v.2).enactAll vs = _
    rw [ih]
    unfold enact
    rw [List.flatMap_cons, ← List.append_assoc]
    rfl

/-- The vaults without a verdict are as they were. -/
theorem vault?_enactAll_of_notMem {vs : List (VaultId × Verdict)} {i : VaultId}
    (h : i ∉ vs.map (·.1)) : (e.enactAll vs).vault? i = e.vault? i := by
  induction vs generalizing e with
  | nil => rfl
  | cons v vs ih =>
    rw [List.map_cons, List.mem_cons, not_or] at h
    show ((e.enact v.1 v.2).enactAll vs).vault? i = _
    rw [ih h.2, vault?_enact, if_neg h.1]

/-- Every vault is left as its verdict says. -/
theorem vault?_enactAll_of_mem {vs : List (VaultId × Verdict)} {i : VaultId} {r : Verdict}
    (distinct : (vs.map (·.1)).Nodup) (mem : (i, r) ∈ vs) :
    (e.enactAll vs).vault? i = some r.vault := by
  induction vs generalizing e with
  | nil => cases mem
  | cons v vs ih =>
    obtain ⟨fresh, distinct⟩ := List.nodup_cons.mp distinct
    show ((e.enact v.1 v.2).enactAll vs).vault? i = _
    rcases List.mem_cons.mp mem with rfl | mem
    · rw [vault?_enactAll_of_notMem fresh, vault?_enact, if_pos rfl]
    · exact ih distinct mem

/-- The state that verdicts on different vaults lead to does not depend on their order. -/
theorem foldl_enact_perm {vs vs' : List (VaultId × Verdict)} (distinct : (vs.map (·.1)).Nodup)
    (perm : vs.Perm vs') (s : EngineState) :
    vs'.foldl (fun s (id, r) => s.enact id r) s = vs.foldl (fun s (id, r) => s.enact id r) s := by
  refine (perm.foldl_eq' (fun x hx y hy s => ?_) s).symm
  by_cases same : x = y
  · rw [same]
  · apply EngineState.enact_comm
    intro eq
    exact same (List.inj_on_of_nodup_map distinct hx hy eq)

/-! ## The order of a round -/

namespace Round

variable {entries entries' : List (VaultId × Amount)}

/-- A round in another order comes to the same state and the same totals. Only the order in which
the vaults were reported and logged is another one. -/
theorem perm (round : Round ctx entries report e report' e')
    (distinct : (entries.map (·.1)).Nodup) (perm : entries'.Perm entries) :
    ∃ liquidated skipped log, liquidated.Perm report'.liquidated ∧
      skipped.Perm report'.skipped ∧ log.Perm e'.log ∧
      Round ctx entries' report e { report' with liquidated, skipped } { e' with log } := by
  have verdicts : (e.verdicts ctx report.price report.accumulator entries').Perm
    (e.verdicts ctx report.price report.accumulator entries) := perm.filterMap _
  have refusals : (e.refusals ctx report.price report.accumulator entries').Perm
    (e.refusals ctx report.price report.accumulator entries) := perm.filterMap _
  obtain ⟨decided, reported, rfl⟩ := round
  refine ⟨report.liquidated ++
      (e.verdicts ctx report.price report.accumulator entries').map (·.1),
    report.skipped ++ e.refusals ctx report.price report.accumulator entries',
    (e.enactAll (e.verdicts ctx report.price report.accumulator entries')).log,
    ?_, ?_, ?_, fun i amount mem => decided i amount (perm.mem_iff.mp mem),
    ⟨reported.price, reported.accumulator, ?_, rfl, rfl⟩, ?_⟩
  · rw [reported.liquidated]
    exact (verdicts.map _).append_left _
  · rw [reported.skipped]
    exact refusals.append_left _
  · rw [enactAll_eq, enactAll_eq]
    exact (verdicts.flatMap_right _).append_left _
  · rw [(verdicts.map fun v => v.2.outcome.totals).sum_eq]
    exact reported.totals
  · rw [enactAll_eq, enactAll_eq, foldl_enact_perm (nodup_verdicts distinct) verdicts.symm]

/-- A round without the vaults that were skipped comes to the same in every respect. -/
theorem of_dropped (round : Round ctx entries report e report' e')
    (distinct : (entries.map (·.1)).Nodup) (first : report.liquidated = []) :
    Round ctx (entries.filter fun entry => entry.1 ∈ report'.liquidated) report e
      { report' with skipped := report.skipped } e' := by
  obtain ⟨decided, reported, rfl⟩ := round
  -- among the vaults of the round, those that are reported are those with a verdict
  have kept : ∀ entry ∈ entries, entry.1 ∈ report'.liquidated ↔
      ∃ r, e.verdict ctx entry.1 entry.2 report.price report.accumulator = .ok r := by
    rintro ⟨i, amount⟩ mem
    rw [reported.liquidated, first, List.nil_append]
    constructor
    · intro liquidated
      obtain ⟨⟨_, r⟩, among, rfl⟩ := List.mem_map.mp liquidated
      obtain ⟨amount', mem', judged⟩ := mem_verdicts.mp among
      cases List.inj_on_of_nodup_map distinct mem mem' rfl
      exact ⟨r, judged⟩
    · rintro ⟨r, judged⟩
      exact List.mem_map_of_mem (mem_verdicts.mpr ⟨amount, mem, judged⟩)
  generalize judged : entries.filter (fun entry => entry.1 ∈ report'.liquidated) = rest
  have ok : ∀ entry ∈ rest, ∃ r,
      e.verdict ctx entry.1 entry.2 report.price report.accumulator = .ok r := by
    rw [← judged]
    intro entry mem
    obtain ⟨mem, liquidated⟩ := List.mem_filter.mp mem
    exact (kept entry mem).mp (of_decide_eq_true liquidated)
  have verdicts : e.verdicts ctx report.price report.accumulator rest =
      e.verdicts ctx report.price report.accumulator entries := by
    unfold Engine.verdicts
    rw [← judged, List.filterMap_filter]
    apply List.filterMap_congr
    intro entry mem
    by_cases liquidated : entry.1 ∈ report'.liquidated
    · rw [if_pos (decide_eq_true liquidated)]
    · rw [if_neg (by simpa only [decide_eq_true_eq] using liquidated)]
      cases found : e.verdict ctx entry.1 entry.2 report.price report.accumulator with
      | ok r => exact absurd ((kept entry mem).mpr ⟨r, found⟩) liquidated
      | error f => simp only [found]
  have refusals : e.refusals ctx report.price report.accumulator rest = [] := by
    apply List.filterMap_eq_nil_iff.mpr
    intro entry mem
    obtain ⟨r, found⟩ := ok entry mem
    simp only [found]
  refine ⟨fun i amount mem f refused => ?_, ?_, ?_⟩
  · obtain ⟨r, found⟩ := ok _ mem
    cases found.symm.trans refused
  · rw [verdicts, refusals]
    exact ⟨reported.price, reported.accumulator, reported.totals, reported.liquidated,
      (List.append_nil _).symm⟩
  · rw [verdicts]

end Round

end Engine

end CollateralDebt
