import CollateralDebt.Proofs.Failures

/-!
# Tame failures

Arithmetic can go wrong in four ways: a checked operation overflows, it falls below zero, it divides
by zero, or an unchecked operation leaves its range. Overflow is an answer that a caller can get. The
other three are not: a computation is *tame* if none of them comes out of it, except for a fault
that is excused by a proposition that is named along.

Tameness is one predicate on failures, so that sequences, checks and folds have the laws of
`Outcome.FailsOnly` and `Transact.FailsOnlyAt`. What is left to say is which operations are tame,
and where.

## What is proved

- `tame_mulDiv` and its like: when an operation is tame;
- `Outcome.Tame.mono`, `Transact.TameAt.mono`: an excuse can be replaced by a weaker one.
-/

namespace CollateralDebt

/-- A cause that is neither of the two that tell of a mistake in the arithmetic. -/
@[simp] def Error.Tame (e : Error) : Prop := e ≠ .underflow ∧ e ≠ .divisionByZero

/-- A failure that tells of no mistake in the arithmetic, except for a fault that is excused. -/
@[simp] def Failure.Tame (excuse : Prop) : Failure → Prop
  | .rejected e => e.Tame
  | .fault => excuse
  | .absent => True

/-- A fault that is excused for one reason is excused for a weaker one. -/
theorem Failure.Tame.mono {p q : Prop} (h : p → q) {f : Failure} (tame : f.Tame p) : f.Tame q := by
  cases f with
  | rejected e => exact tame
  | fault => exact h tame
  | absent => trivial

variable {σ α : Type} {p q : Prop} {s : σ}

namespace Outcome

/-- Every failure of the computation is tame. -/
abbrev Tame (excuse : Prop) (x : Outcome α) : Prop := x.FailsOnly (Failure.Tame excuse)

/-- A check is tame if its cause is, whatever it checks. -/
theorem tame_require {c : Prop} [Decidable c] {e : Error} (h : e.Tame) : Tame p (require c e) :=
  failsOnly_require.mpr fun _ => h

/-- What is absent is tame if the cause given for it is. -/
theorem tame_ofOption {e : Error} (h : e.Tame) (o : Option α) : Tame p (ofOption e o) :=
  failsOnly_ofOption.mpr fun _ => h

theorem Tame.mono (h : p → q) {x : Outcome α} (hx : Tame p x) : Tame q x :=
  FailsOnly.mono (fun _ => Failure.Tame.mono h) hx

end Outcome

namespace Transact

/-- Every failure of the computation from this state is tame. -/
abbrev TameAt (excuse : Prop) (s : σ) (m : Transact σ α) : Prop :=
  FailsOnlyAt (Failure.Tame excuse) s m

theorem TameAt.mono {m : Transact σ α} (h : p → q) (hm : TameAt p s m) : TameAt q s m :=
  FailsOnlyAt.mono (fun _ => Failure.Tame.mono h) hm

end Transact

/-! ## Operations -/

section Operations

open Outcome (Tame)

variable {a b d : Nat} {x y : Amount}

theorem tame_narrow (n : Nat) : Tame p (narrow n) := by simp

/-- A quotient is tame if its divisor is not zero; that it may be too large is an answer. -/
theorem tame_mulDiv (h : d ≠ 0) : Tame p (mulDiv a b d) := by simp [h]

theorem tame_mulDivUp (h : d ≠ 0) : Tame p (mulDivUp a b d) := by simp [h]

theorem tame_add (x y : Amount) : Tame p (x.add y) := by simp

/-- A difference is tame where it is not below zero. -/
theorem tame_minus (h : y ≤ x) : Tame p (x.minus y) := by simp [h]

theorem tame_uncheckedMinus (h : y ≤ x) : Tame p (x.uncheckedMinus y) := by simp [h]

namespace Wide

theorem tame_checkedMul (a b : Nat) : Tame p (checkedMul a b) := by simp

theorem tame_checkedDiv (h : b ≠ 0) : Tame p (checkedDiv a b) := by simp [h]

theorem tame_checkedSub (h : b ≤ a) : Tame p (checkedSub a b) :=
  failsOnly_checkedSub.mpr fun below => absurd h (Nat.not_le.mpr below)

/-- A product that nobody checks is tame where it is in range. -/
theorem tame_mul (h : a * b < bound) : Tame p (mul a b) :=
  failsOnly_mul.mpr fun large => absurd h (Nat.not_lt.mpr large)

/-- An addition faults if its sum is out of range. -/
theorem tame_add_excused (excuse : bound ≤ a + b → p) : Tame p (add a b) :=
  failsOnly_add.mpr excuse

theorem tame_add (h : a + b < bound) : Tame p (add a b) :=
  tame_add_excused fun large => absurd h (Nat.not_lt.mpr large)

theorem tame_sub (h : b ≤ a) : Tame p (sub a b) :=
  failsOnly_sub.mpr fun below => absurd h (Nat.not_le.mpr below)

end Wide

end Operations

end CollateralDebt
