import CollateralDebt.FixedPoint

/-!
# Compound interest

A rate per second compounds by repeated squaring, each product rounded half up. The accumulator is
one growing factor for all debt of an engine: a vault's actual debt is its normalized debt times the
accumulator.

## What is stated here

- `compoundFactor`: `(1 + rate) ^ elapsed`, in `10 ^ 27`ths;
- `accumulate`: an accumulator after some time, rounded down;
- `debtOf`, `debtOfUp`, `normalize`: from normalized to actual debt and back.
-/

namespace CollateralDebt

/-- `a * b` as a factor, rounded half up. The product is checked; the rounding half is added to it
without a check. -/
def mulFactor (a b : Nat) : Outcome Nat := do
  let product ← Wide.checkedMul a b
  let rounded ← Wide.add product (accumulatorOne / 2)
  return rounded / accumulatorOne

/-- `result * base ^ (2 * remaining)`: one step squares the base and multiplies it into the result
when the lowest binary digit of `remaining` is set. -/
def compoundLoop (base result remaining : Nat) : Outcome Nat :=
  if remaining = 0 then .ok result
  else do
    let squared ← mulFactor base base
    let next ← if remaining % 2 = 1 then mulFactor result squared else pure result
    compoundLoop squared next (remaining / 2)
termination_by remaining

/-- The growth of one unit of debt in `elapsed` seconds at `rate` per second. -/
def compoundFactor (rate elapsed : Nat) : Outcome Nat :=
  if rate = 0 ∨ elapsed = 0 then .ok accumulatorOne
  else
    let base := accumulatorOne + rate
    compoundLoop base (if elapsed % 2 = 1 then base else accumulatorOne) (elapsed / 2)

/-- The accumulator after `elapsed` seconds at `rate` per second, rounded down. -/
def accumulate (accumulator : Amount) (rate elapsed : Nat) : Outcome Amount := do
  let factor ← compoundFactor rate elapsed
  narrow ((← Wide.checkedMul accumulator.toNat factor) / accumulatorOne)

/-- The actual debt of a normalized one, rounded down. -/
def debtOf (normalized accumulator : Amount) : Outcome Amount :=
  mulDiv normalized.toNat accumulator.toNat accumulatorOne

/-- The actual debt of a normalized one, rounded up. -/
def debtOfUp (normalized accumulator : Amount) : Outcome Amount :=
  mulDivUp normalized.toNat accumulator.toNat accumulatorOne

/-- The normalized debt of an actual one, rounded down. -/
def normalize (debt accumulator : Amount) : Outcome Amount :=
  mulDiv debt.toNat accumulatorOne accumulator.toNat

/-- A debt other than zero that is worth less than `dust`. The comparison is of exact products, so
that rounding hides no dust. -/
def isDusty (normalized accumulator dust : Amount) : Bool :=
  0 < normalized.toNat && normalized.toNat * accumulator.toNat < dust.toNat * accumulatorOne

end CollateralDebt
