import CollateralDebt.FixedPoint
import CollateralDebt.Wire

/-!
# The boost curve

A liquidator's boost multiplies the discount at which collateral is handed out. It is a function of
a balance, given by points: linear between neighbouring points, constant before the first and after
the last. A curve that is built has rising thresholds, multipliers that never fall, and a first
multiplier above zero.

## What is stated here

- `BoostCurve.ofPoints`: the checked constructor;
- `BoostCurve.boostAt`: the multiplier for a balance.
-/

namespace CollateralDebt

/-- Where a liquidator's boost balance is looked up. -/
abbrev BoostSource := Address → Amount

/-- A piecewise-linear curve, as its thresholds and its multipliers. -/
@[ext]
structure BoostCurve where
  thresholds : List Amount
  multipliers : List UInt64
deriving DecidableEq

namespace BoostCurve

instance : Inhabited BoostCurve := ⟨⟨[], []⟩⟩

/-- The most points that a curve may have. -/
def maxPoints : Nat := 16

/-- Check each point against the one before it, for the threshold first. -/
def checkPoints : List (Amount × UInt64) → Outcome Unit
  | (x₀, y₀) :: (x₁, y₁) :: rest => do
    Outcome.require (x₀ < x₁) (.invalidSetOfParameters .boostThresholdsNotIncreasing)
    Outcome.require (y₀ ≤ y₁) (.invalidSetOfParameters .boostMultipliersDecreasing)
    checkPoints ((x₁, y₁) :: rest)
  | _ => .ok ()

/-- The curve through the given points, if they make one. -/
def ofPoints (thresholds : List Amount) (multipliers : List UInt64) : Outcome BoostCurve := do
  Outcome.require (thresholds.length = multipliers.length)
    (.invalidSetOfParameters .boostLengthsDiffer)
  Outcome.require (thresholds ≠ [] ∧ thresholds.length ≤ maxPoints)
    (.invalidSetOfParameters .boostPointCount)
  Outcome.require (multipliers.head? ≠ some 0) (.invalidSetOfParameters .baseBoostZero)
  checkPoints (thresholds.zip multipliers)
  return ⟨thresholds, multipliers⟩

/-- The curve that gives everybody the same multiplier. -/
def flat (multiplier : UInt64) : Outcome BoostCurve := ofPoints [.zero] [multiplier]

/-- The multiplier of the first point. -/
def baseBoost (c : BoostCurve) : UInt64 := c.multipliers.headD 0

/-- Halve the `size` places from `base` on, keeping the half in which the thresholds stop being at
most `balance`, down to one place. -/
def bisect (thresholds : List Amount) (balance : Amount) (base size : Nat) : Nat :=
  if size ≤ 1 then base
  else
    let middle := base + size / 2
    let next := if thresholds.getD middle .zero ≤ balance then middle else base
    bisect thresholds balance next (size - size / 2)
termination_by size

/-- The place of the segment that a balance between the first and the last threshold falls in: the
last point whose threshold it reaches. -/
def segment (c : BoostCurve) (balance : Amount) : Nat :=
  bisect c.thresholds balance 0 c.thresholds.length

/-- The value at `x` of the line from `(x₀, y₀)` to `(x₁, y₁)`, rounded down. It is `y₀` up to `x₀`
and `y₁` from `x₁` on, and never above the largest word. -/
def interpolate (x₀ x₁ : Amount) (y₀ y₁ : UInt64) (x : Amount) : UInt64 :=
  if x ≤ x₀ ∨ x₁ ≤ x₀ then y₀
  else if x₁ ≤ x then y₁
  else
    let rise := (y₁.toNat - y₀.toNat) * (x.toNat - x₀.toNat) / (x₁.toNat - x₀.toNat)
    UInt64.ofNat (min (y₀.toNat + rise % UInt64.size) (UInt64.size - 1))

/-- The multiplier for a balance. A curve without thresholds gives none, and one with fewer
multipliers than thresholds faults where a multiplier is missing. -/
def boostAt (c : BoostCurve) (balance : Amount) : Outcome UInt64 :=
  match c.thresholds.head?, c.thresholds.getLast? with
  | some first, some last =>
    if balance ≤ first then .ok c.baseBoost
    else if last ≤ balance then .ok (c.multipliers.getLast?.getD 0)
    else
      let i := c.segment balance
      match c.thresholds[i]?, c.thresholds[i + 1]?, c.multipliers[i]?, c.multipliers[i + 1]? with
      | some x₀, some x₁, some y₀, some y₁ => .ok (interpolate x₀ x₁ y₀ y₁ balance)
      | _, _, _, _ => .error .fault
  | _, _ => .ok 0

instance : Wire BoostCurve :=
  .via (fun c => (c.thresholds, c.multipliers)) fun (thresholds, multipliers) =>
    ⟨thresholds, multipliers⟩

end BoostCurve

end CollateralDebt
