import CollateralDebt.Outcome

/-!
# Fixed-point arithmetic

Ratios are counted in billionths (`ratioOne`), the interest accumulator in `10 ^ 27`ths
(`accumulatorOne`), stablecoins and prices in `10 ^ 18`ths. A product of two amounts is taken
exactly, in `Nat`, and only the final quotient is brought back to an amount.

Intermediate values have a range of their own, `2 ^ 256`. An operation that may leave it is either
*checked*, and then rejects, or *unchecked*, and then faults; which of the two it is belongs to the
meaning of each formula and is visible in its text.

## What is stated here

- `narrow`: from an exact number back to an amount, rejecting above the bound;
- `mulDiv`, `mulDivUp`: a product divided, rounded down or up;
- `Wide`: products, sums and differences of intermediate values, checked and unchecked.
-/

namespace CollateralDebt

/-- One, as a ratio. -/
def ratioOne : Nat := Nat.pow 10 9

/-- One, as an interest accumulator or a rate per second. -/
def accumulatorOne : Nat := Nat.pow 10 27

/-- One stablecoin, or a price of one. -/
def tokenOne : Nat := Nat.pow 10 18

/-- The largest supported precision of a collateral asset. -/
def maxCollateralDecimals : UInt8 := 27

/-- The number as an amount; rejected above the bound. -/
def narrow (n : Nat) : Outcome Amount :=
  if h : n < Nat.pow 2 128 then .ok ⟨n, h⟩ else reject .overflow

/-- `a * b / d`, rounded down. -/
def mulDiv (a b d : Nat) : Outcome Amount :=
  if d = 0 then reject .divisionByZero else narrow (a * b / d)

/-- `a * b / d`, rounded up. -/
def mulDivUp (a b d : Nat) : Outcome Amount :=
  if d = 0 then reject .divisionByZero
  else narrow (a * b / d + if a * b % d = 0 then 0 else 1)

namespace Amount

/-- The sum; rejected above the bound. -/
def add (a b : Amount) : Outcome Amount := narrow (a.toNat + b.toNat)

/-- The difference; rejected below zero. -/
def minus (a b : Amount) : Outcome Amount :=
  if h : b ≤ a then .ok (a.sub b h) else reject .underflow

/-- The difference of amounts of which nobody checked that the second is the smaller one. -/
def uncheckedMinus (a b : Amount) : Outcome Amount :=
  if h : b ≤ a then .ok (a.sub b h) else .error .fault

/-- `10 ^ exponent`; rejected above the bound. -/
def pow10 (exponent : UInt8) : Outcome Amount := narrow (Nat.pow 10 exponent.toNat)

/-- `10 ^ exponent`, or the largest amount if that is smaller. -/
def pow10Capped (exponent : Nat) : Amount := (ofNat? (Nat.pow 10 exponent)).getD largest

/-- The whole units in an amount of an asset with this precision, and what is left over. -/
def splitUnits (a : Amount) (decimals : UInt8) : Amount × Amount :=
  let one := (pow10Capped decimals.toNat).toNat
  (⟨a.toNat / one, Nat.lt_of_le_of_lt (Nat.div_le_self _ _) a.isLt⟩,
   ⟨a.toNat % one, Nat.lt_of_le_of_lt (Nat.mod_le _ _) a.isLt⟩)

end Amount

/-! ## Intermediate values -/

namespace Wide

/-- The bound of intermediate values. -/
def bound : Nat := Nat.pow 2 256

/-- A product; rejected outside the range. -/
def checkedMul (a b : Nat) : Outcome Nat :=
  if a * b < bound then .ok (a * b) else reject .overflow

/-- A quotient rounded down; rejected for the divisor zero. -/
def checkedDiv (a b : Nat) : Outcome Nat :=
  if b = 0 then reject .divisionByZero else .ok (a / b)

/-- A difference; rejected below zero. -/
def checkedSub (a b : Nat) : Outcome Nat :=
  if b ≤ a then .ok (a - b) else reject .underflow

/-- A product that nobody checks. -/
def mul (a b : Nat) : Outcome Nat :=
  if a * b < bound then .ok (a * b) else .error .fault

/-- A sum that nobody checks. -/
def add (a b : Nat) : Outcome Nat :=
  if a + b < bound then .ok (a + b) else .error .fault

/-- A difference that nobody checks. -/
def sub (a b : Nat) : Outcome Nat :=
  if b ≤ a then .ok (a - b) else .error .fault

end Wide

end CollateralDebt
