import CollateralDebt.Proofs.DebtGrowth
import CollateralDebt.Proofs.Engine.Exchange

/-!
# How exact compound interest is

The growth over some seconds is an exact power that was rounded on the way. A product of two factors
is rounded half up, and no factor is below one, so a rounding is a relative error of at most half a
unit. Repeated squaring doubles the errors of its base with each square, and the exponent doubles
with them: an `n`th power costs `n - 1` roundings, whatever the binary digits of `n` are. A first
factor is multiplied into the result without an error, because a product with one is exact.

The accumulator is rounded down at each refresh, which costs up to one more unit. So a schedule of
refreshes decides nothing but how many of these units are lost.

## What is proved

- `Within`: a value with some number of relative errors, and how errors add up;
- `mulFactor_within`: one product, one error;
- `IsPower`, `compoundLoop_isPower`, `compoundFactor_isPower`: a power, one error less than its
  exponent;
- `accumulate_within`, `refreshed_within`: one refresh, and a schedule of refreshes;
- `accuracy_of_compounding`: both bounds, and how far two schedules of the same length can differ.
-/

namespace CollateralDebt

/-- Half a unit in the last place of a factor: the largest error of one rounded product. -/
def halfUnit : ℚ := 1 / (2 * accumulatorOne)

/-- The exact growth of one second. -/
def growth (rate : Nat) : ℚ := 1 + rate / accumulatorOne

/-- A factor as the number it stands for. -/
def factorValue (factor : Nat) : ℚ := factor / accumulatorOne

/-- The accumulator after a schedule of refreshes, each of them so many seconds after the last. -/
def refreshed (rate : Nat) (accumulator : Amount) (times : List Nat) : Outcome Amount :=
  times.foldlM (fun acc elapsed => accumulate acc rate elapsed) accumulator

/-- A rounding can have an error. -/
theorem halfUnit_pos : 0 < halfUnit :=
  div_pos one_pos (mul_pos two_pos cast_accumulatorOne_pos)

/-- A whole unit is far below one. -/
theorem two_halfUnit_lt_one : 2 * halfUnit < 1 := by
  have large : (1 : ℚ) < accumulatorOne := Nat.one_lt_cast.mpr (by decide)
  calc 2 * halfUnit = 1 / accumulatorOne := by unfold halfUnit; field_simp
    _ < 1 := (div_lt_one cast_accumulatorOne_pos).mpr large

/-- Interest is never negative. -/
theorem one_le_growth (rate : Nat) : 1 ≤ growth rate :=
  le_add_of_nonneg_right (div_nonneg (Nat.cast_nonneg rate) cast_accumulatorOne_pos.le)

/-- Nothing that grows comes to zero. -/
theorem growth_pow_pos (rate n : Nat) : 0 < growth rate ^ n :=
  pow_pos (lt_of_lt_of_le one_pos (one_le_growth rate)) n

/-- The unit of factors stands for one. -/
theorem factorValue_accumulatorOne : factorValue accumulatorOne = 1 :=
  div_self cast_accumulatorOne_pos.ne'

/-- A factor of at least the unit stands for at least one. -/
theorem one_le_factorValue {a : Nat} (h : accumulatorOne ≤ a) : 1 ≤ factorValue a :=
  (one_le_div cast_accumulatorOne_pos).mpr (Nat.cast_le.mpr h)

/-! ## Values with errors -/

/-- A value that is an exact one up to some number of relative errors. -/
structure Within (exact : ℚ) (errors : Nat) (value : ℚ) : Prop where
  lower : exact * (1 - halfUnit) ^ errors ≤ value
  upper : value ≤ exact * (1 + halfUnit) ^ errors

namespace Within

variable {x y a b c : ℚ} {p q : Nat}

/-- What was never rounded is exact. -/
theorem refl (x : ℚ) : Within x 0 x := ⟨by simp, by simp⟩

/-- Without any error the value is exact. -/
theorem eq_of_none (h : Within x 0 a) : a = x :=
  le_antisymm (by simpa using h.upper) (by simpa using h.lower)

/-- The least that is left of one after some errors. -/
theorem least_nonneg (p : Nat) : (0 : ℚ) ≤ (1 - halfUnit) ^ p :=
  pow_nonneg (by linarith [two_halfUnit_lt_one, halfUnit_pos]) p

/-- A bound for fewer errors is one for more. -/
theorem weaken (hx : 0 ≤ x) (fewer : p ≤ q) (ha : Within x p a) : Within x q a := by
  have positive := halfUnit_pos
  have small := two_halfUnit_lt_one
  constructor
  · calc x * (1 - halfUnit) ^ q ≤ x * (1 - halfUnit) ^ p := mul_le_mul_of_nonneg_left
          (pow_le_pow_of_le_one (by linarith) (by linarith) fewer) hx
      _ ≤ a := ha.lower
  · calc a ≤ x * (1 + halfUnit) ^ p := ha.upper
      _ ≤ x * (1 + halfUnit) ^ q := mul_le_mul_of_nonneg_left
          (pow_le_pow_right₀ (by linarith) fewer) hx

/-- A product has the errors of both sides. -/
theorem mul (hx : 0 ≤ x) (hy : 0 ≤ y) (ha : Within x p a) (hb : Within y q b) :
    Within (x * y) (p + q) (a * b) := by
  have least := least_nonneg
  constructor
  · calc x * y * (1 - halfUnit) ^ (p + q)
        = (x * (1 - halfUnit) ^ p) * (y * (1 - halfUnit) ^ q) := by ring
      _ ≤ a * b := mul_le_mul ha.lower hb.lower (mul_nonneg hy (least q))
          ((mul_nonneg hx (least p)).trans ha.lower)
  · calc a * b ≤ (x * (1 + halfUnit) ^ p) * (y * (1 + halfUnit) ^ q) :=
          mul_le_mul ha.upper hb.upper ((mul_nonneg hy (least q)).trans hb.lower)
            (((mul_nonneg hx (least p)).trans ha.lower).trans ha.upper)
      _ = x * y * (1 + halfUnit) ^ (p + q) := by ring

/-- An approximation of an approximation has the errors of both. -/
theorem trans (hx : Within x p a) (ha : Within a q b) : Within x (p + q) b := by
  constructor
  · calc x * (1 - halfUnit) ^ (p + q)
        = x * (1 - halfUnit) ^ p * (1 - halfUnit) ^ q := by ring
      _ ≤ a * (1 - halfUnit) ^ q := mul_le_mul_of_nonneg_right hx.lower (least_nonneg q)
      _ ≤ b := ha.lower
  · have most : 0 ≤ (1 + halfUnit) ^ q := pow_nonneg (by linarith [halfUnit_pos]) q
    calc b ≤ a * (1 + halfUnit) ^ q := ha.upper
      _ ≤ x * (1 + halfUnit) ^ p * (1 + halfUnit) ^ q := mul_le_mul_of_nonneg_right hx.upper most
      _ = x * (1 + halfUnit) ^ (p + q) := by ring

end Within

/-! ## Products and powers -/

section Powers

variable {rate a b base result remaining c elapsed : Nat}

/-- Half up: twice the product and twice the result, in smaller units, are at most one unit apart. -/
theorem mulFactor_bounds (h : mulFactor a b = .ok c) :
    2 * (c * accumulatorOne) ≤ 2 * (a * b) + accumulatorOne ∧
      2 * (a * b) ≤ 2 * (c * accumulatorOne) + accumulatorOne := by
  obtain ⟨-, quotient⟩ := mulFactor_eq_ok.mp h
  have parts := Nat.div_add_mod (a * b + accumulatorOne / 2) accumulatorOne
  have rest := Nat.mod_lt (a * b + accumulatorOne / 2) accumulatorOne_pos
  have even : accumulatorOne = 2 * (accumulatorOne / 2) := by decide
  rw [quotient, Nat.mul_comm accumulatorOne c] at parts
  omega

/-- A rounded product of two factors, neither of which shrinks anything, has one error. -/
theorem mulFactor_within (ha : accumulatorOne ≤ a) (hb : accumulatorOne ≤ b)
    (h : mulFactor a b = .ok c) : Within (factorValue a * factorValue b) 1 (factorValue c) := by
  have one_pos' := cast_accumulatorOne_pos
  obtain ⟨most, least⟩ := mulFactor_bounds h
  have most' : (2 : ℚ) * (c * accumulatorOne) ≤ 2 * (a * b) + accumulatorOne := by
    exact_mod_cast most
  have least' : (2 : ℚ) * (a * b) ≤ 2 * (c * accumulatorOne) + accumulatorOne := by
    exact_mod_cast least
  -- half a unit of the result, as a part of a product that is at least one
  have part : halfUnit ≤ factorValue a * factorValue b * halfUnit :=
    le_mul_of_one_le_left halfUnit_pos.le
      (one_le_mul_of_one_le_of_one_le (one_le_factorValue ha) (one_le_factorValue hb))
  have upper : factorValue c ≤ factorValue a * factorValue b + halfUnit := by
    unfold factorValue halfUnit
    field_simp
    linarith
  have lower : factorValue a * factorValue b ≤ factorValue c + halfUnit := by
    unfold factorValue halfUnit
    field_simp
    linarith
  exact ⟨by linarith, by linarith⟩

/-- A product with the factor one is exact. -/
theorem mulFactor_one_left (h : mulFactor accumulatorOne b = .ok c) : c = b := by
  obtain ⟨-, rfl⟩ := mulFactor_eq_ok.mp h
  rw [Nat.add_comm, Nat.add_mul_div_left _ _ accumulatorOne_pos]
  exact (Nat.zero_add b).symm ▸ rfl

/-- A factor that stands for a power of the growth, with one error less than its exponent. -/
def IsPower (rate exponent factor : Nat) : Prop :=
  accumulatorOne ≤ factor ∧ Within (growth rate ^ exponent) (exponent - 1) (factorValue factor)

/-- The unit is the power zero, exactly. -/
theorem isPower_zero (rate : Nat) : IsPower rate 0 accumulatorOne :=
  ⟨Nat.le_refl _, by rw [pow_zero, factorValue_accumulatorOne]; exact .refl 1⟩

/-- The growth of one second is the first power, exactly. -/
theorem isPower_one (rate : Nat) : IsPower rate 1 (accumulatorOne + rate) := by
  refine ⟨Nat.le_add_right _ _, ?_⟩
  have value : factorValue (accumulatorOne + rate) = growth rate ^ 1 := by
    rw [factorValue, Nat.cast_add, add_div, div_self cast_accumulatorOne_pos.ne', pow_one, growth]
  rw [value]
  exact .refl _

/-- The product of two powers is a power. The second is not the power of nothing; if the first is,
then it is one, and the product is exact. -/
theorem IsPower.mul {m n : Nat} (ha : IsPower rate m a) (hb : IsPower rate n b) (some' : 1 ≤ n)
    (h : mulFactor a b = .ok c) : IsPower rate (m + n) c := by
  refine ⟨mulFactor_ge ha.1 hb.1 h, ?_⟩
  rcases Nat.eq_zero_or_pos m with rfl | more
  · have one : factorValue a = 1 := by simpa using ha.2.eq_of_none
    have whole : a = accumulatorOne := by
      rw [factorValue, div_eq_one_iff_eq cast_accumulatorOne_pos.ne'] at one
      exact Nat.cast_injective one
    subst whole
    obtain rfl := mulFactor_one_left h
    rw [Nat.zero_add]
    exact hb.2
  · have product := ha.2.mul (growth_pow_pos rate m).le (growth_pow_pos rate n).le hb.2
    have rounded := product.trans (mulFactor_within ha.1 hb.1 h)
    rw [← pow_add] at rounded
    rwa [(by omega : m - 1 + (n - 1) + 1 = m + n - 1)] at rounded

/-- What is multiplied in for a digit. -/
theorem IsPower.next {m n next : Nat} (hr : IsPower rate m result) (hs : IsPower rate n a)
    (some' : 1 ≤ n)
    (h : (if remaining % 2 = 1 then mulFactor result a else pure result) = .ok next) :
    IsPower rate (m + n * (remaining % 2)) next := by
  split at h
  · rename_i set
    rw [set, Nat.mul_one]
    exact hr.mul hs some' h
  · rename_i clear
    obtain rfl := Outcome.pure_eq_ok.mp h
    rwa [(by omega : remaining % 2 = 0), Nat.mul_zero, Nat.add_zero]

/-- The loop multiplies in the square of its base as often as it was asked to. -/
theorem compoundLoop_isPower {m n : Nat} (hb : IsPower rate n base) (some' : 1 ≤ n)
    (hr : IsPower rate m result) (h : compoundLoop base result remaining = .ok c) :
    IsPower rate (m + 2 * n * remaining) c := by
  -- on the binary digits that remain: the base is the power of the digit before, so its square is
  -- that of this one
  induction remaining using Nat.strongRecOn generalizing base result m n with
  | _ remaining ih =>
    rcases Decidable.em (remaining = 0) with rfl | more
    · rw [compoundLoop_zero] at h
      cases h
      exact hr
    · obtain ⟨squared, hsquared, next, multiplied, rest⟩ := (compoundLoop_eq_ok more).mp h
      have hs : IsPower rate (n + n) squared := hb.mul hb some' hsquared
      have hn := hr.next hs (by omega) multiplied
      have done := ih (remaining / 2) (by omega) hs (by omega) hn rest
      have digits : m + (n + n) * (remaining % 2) + 2 * (n + n) * (remaining / 2) =
          m + 2 * n * remaining :=
        calc m + (n + n) * (remaining % 2) + 2 * (n + n) * (remaining / 2)
            = m + 2 * n * (2 * (remaining / 2) + remaining % 2) := by ring
          _ = m + 2 * n * remaining := by rw [Nat.div_add_mod]
      rwa [digits] at done

/-- Without a rate, or in no time, nothing grows. -/
theorem compoundFactor_idle (idle : rate = 0 ∨ elapsed = 0) :
    compoundFactor rate elapsed = .ok accumulatorOne := by
  unfold compoundFactor
  rw [if_pos idle]

/-- Growth over some time is a power of the growth of one second. -/
theorem compoundFactor_isPower (h : compoundFactor rate elapsed = .ok c) :
    IsPower rate elapsed c := by
  by_cases idle : rate = 0 ∨ elapsed = 0
  · rw [compoundFactor_idle idle] at h
    cases h
    rcases idle with rfl | rfl
    · refine ⟨Nat.le_refl _, ?_⟩
      have flat : growth 0 ^ elapsed = 1 := by simp [growth]
      rw [flat, factorValue_accumulatorOne]
      exact (Within.refl 1).weaken zero_le_one (Nat.zero_le _)
    · exact isPower_zero rate
  · unfold compoundFactor at h
    rw [if_neg idle] at h
    have first : IsPower rate (elapsed % 2)
        (if elapsed % 2 = 1 then accumulatorOne + rate else accumulatorOne) := by
      split
      · rename_i odd
        exact odd.symm ▸ isPower_one rate
      · rename_i even
        exact (by omega : elapsed % 2 = 0).symm ▸ isPower_zero rate
    have done := compoundLoop_isPower (isPower_one rate) (Nat.le_refl 1) first h
    rwa [Nat.mul_one, Nat.add_comm, Nat.div_add_mod] at done

end Powers

/-! ## Schedules of refreshes -/

section Schedules

variable {rate elapsed : Nat} {start final : Amount} {times others : List Nat}

/-- What a refresh that is rounded down loses of an accumulator of at least one is at most one
unit. -/
theorem rounded_down_within {a factor : Nat} (ha : accumulatorOne ≤ a)
    (hf : accumulatorOne ≤ factor) :
    a * factorValue factor * (1 - 2 * halfUnit) ≤ (a * factor / accumulatorOne : Nat) ∧
      ((a * factor / accumulatorOne : Nat) : ℚ) ≤ a * factorValue factor := by
  have positive := cast_accumulatorOne_pos
  have most : ((a * factor / accumulatorOne : Nat) : ℚ) * accumulatorOne ≤ a * factor := by
    exact_mod_cast Nat.div_mul_le_self (a * factor) accumulatorOne
  have least : (a : ℚ) * factor ≤
      ((a * factor / accumulatorOne : Nat) : ℚ) * accumulatorOne + accumulatorOne := by
    exact_mod_cast (Nat.lt_div_mul_add accumulatorOne_pos (a := a * factor)).le
  have grown : (a : ℚ) * factorValue factor * accumulatorOne = a * factor := by
    unfold factorValue
    field_simp
  have unit : 2 * halfUnit * accumulatorOne = 1 := by
    unfold halfUnit
    field_simp
  constructor
  · -- one unit is no more than this part of a product that is at least one
    have whole : (accumulatorOne : ℚ) ≤ a * factorValue factor :=
      calc (accumulatorOne : ℚ) ≤ a := Nat.cast_le.mpr ha
        _ ≤ a * factorValue factor :=
          le_mul_of_one_le_right (Nat.cast_nonneg a) (one_le_factorValue hf)
    have lost : 1 ≤ a * factorValue factor * (2 * halfUnit) :=
      calc (1 : ℚ) = accumulatorOne * (2 * halfUnit) := by rw [mul_comm, unit]
        _ ≤ a * factorValue factor * (2 * halfUnit) :=
          mul_le_mul_of_nonneg_right whole (by linarith [halfUnit_pos])
    have short : (a : ℚ) * factorValue factor ≤
        ((a * factor / accumulatorOne : Nat) : ℚ) + 1 := by
      refine le_of_mul_le_mul_right ?_ positive
      rw [grown, add_mul, one_mul]
      exact least
    linarith
  · refine le_of_mul_le_mul_right ?_ positive
    rw [grown]
    exact most

/-- One refresh: the growth of its time with no more errors than seconds, less at most a unit. -/
theorem accumulate_within (positive : accumulatorOne ≤ start.toNat)
    (h : accumulate start rate elapsed = .ok final) :
    start.toNat * growth rate ^ elapsed * (1 - halfUnit) ^ elapsed * (1 - 2 * halfUnit) ≤
        final.toNat ∧
      (final.toNat : ℚ) ≤ start.toNat * growth rate ^ elapsed * (1 + halfUnit) ^ elapsed := by
  simp only [accumulate, Outcome.bind_eq_ok, Wide.checkedMul_eq_ok, narrow_eq_ok] at h
  obtain ⟨factor, grown, _, ⟨-, rfl⟩, whole⟩ := h
  obtain ⟨at_least, power⟩ := compoundFactor_isPower grown
  have bounds := power.weaken (growth_pow_pos rate elapsed).le (Nat.sub_le elapsed 1)
  obtain ⟨least, most⟩ := rounded_down_within positive at_least
  have start_nonneg : (0 : ℚ) ≤ start.toNat := Nat.cast_nonneg _
  rw [whole]
  constructor
  · calc start.toNat * growth rate ^ elapsed * (1 - halfUnit) ^ elapsed * (1 - 2 * halfUnit)
        = start.toNat * (growth rate ^ elapsed * (1 - halfUnit) ^ elapsed) *
            (1 - 2 * halfUnit) := by ring
      _ ≤ start.toNat * factorValue factor * (1 - 2 * halfUnit) :=
        mul_le_mul_of_nonneg_right (mul_le_mul_of_nonneg_left bounds.lower start_nonneg)
          (by linarith [two_halfUnit_lt_one])
      _ ≤ _ := least
  · calc ((start.toNat * factor / accumulatorOne : Nat) : ℚ)
        ≤ start.toNat * factorValue factor := most
      _ ≤ start.toNat * (growth rate ^ elapsed * (1 + halfUnit) ^ elapsed) :=
        mul_le_mul_of_nonneg_left bounds.upper start_nonneg
      _ = start.toNat * growth rate ^ elapsed * (1 + halfUnit) ^ elapsed := by ring

/-- A schedule begins with its first refresh. -/
theorem refreshed_cons :
    refreshed rate start (elapsed :: times) = .ok final ↔
      ∃ next, accumulate start rate elapsed = .ok next ∧ refreshed rate next times = .ok final :=
  Outcome.bind_eq_ok

/-- A schedule of refreshes: the growth of the whole time with no more errors than seconds, less at
most a unit for each refresh. -/
theorem refreshed_within (positive : accumulatorOne ≤ start.toNat)
    (h : refreshed rate start times = .ok final) :
    start.toNat * growth rate ^ times.sum * (1 - halfUnit) ^ times.sum *
        (1 - 2 * halfUnit) ^ times.length ≤ final.toNat ∧
      (final.toNat : ℚ) ≤ start.toNat * growth rate ^ times.sum * (1 + halfUnit) ^ times.sum := by
  -- on the schedule: what one refresh is off by is multiplied into what the later ones are off by
  induction times generalizing start with
  | nil =>
    cases h
    simp
  | cons elapsed times ih =>
    obtain ⟨next, first, rest⟩ := refreshed_cons.mp h
    have later : accumulatorOne ≤ next.toNat := Nat.le_trans positive (accumulate_ge first)
    obtain ⟨least, most⟩ := accumulate_within positive first
    obtain ⟨least', most'⟩ := ih later rest
    have positive' := halfUnit_pos
    have small := two_halfUnit_lt_one
    rw [List.sum_cons, List.length_cons]
    have grown := growth_pow_pos rate times.sum
    constructor
    · have factor : 0 ≤ growth rate ^ times.sum * (1 - halfUnit) ^ times.sum *
          (1 - 2 * halfUnit) ^ times.length :=
        mul_nonneg (mul_nonneg grown.le (Within.least_nonneg _))
          (pow_nonneg (by linarith) _)
      calc start.toNat * growth rate ^ (elapsed + times.sum) *
              (1 - halfUnit) ^ (elapsed + times.sum) * (1 - 2 * halfUnit) ^ (times.length + 1)
          = start.toNat * growth rate ^ elapsed * (1 - halfUnit) ^ elapsed * (1 - 2 * halfUnit) *
              (growth rate ^ times.sum * (1 - halfUnit) ^ times.sum *
                (1 - 2 * halfUnit) ^ times.length) := by ring
        _ ≤ next.toNat * (growth rate ^ times.sum * (1 - halfUnit) ^ times.sum *
                (1 - 2 * halfUnit) ^ times.length) := mul_le_mul_of_nonneg_right least factor
        _ = next.toNat * growth rate ^ times.sum * (1 - halfUnit) ^ times.sum *
                (1 - 2 * halfUnit) ^ times.length := by ring
        _ ≤ final.toNat := least'
    · have factor : 0 ≤ growth rate ^ times.sum * (1 + halfUnit) ^ times.sum :=
        mul_nonneg grown.le (pow_nonneg (by linarith) _)
      calc (final.toNat : ℚ)
          ≤ next.toNat * growth rate ^ times.sum * (1 + halfUnit) ^ times.sum := most'
        _ = next.toNat * (growth rate ^ times.sum * (1 + halfUnit) ^ times.sum) := by ring
        _ ≤ start.toNat * growth rate ^ elapsed * (1 + halfUnit) ^ elapsed *
              (growth rate ^ times.sum * (1 + halfUnit) ^ times.sum) :=
          mul_le_mul_of_nonneg_right most factor
        _ = start.toNat * growth rate ^ (elapsed + times.sum) *
              (1 + halfUnit) ^ (elapsed + times.sum) := by ring

/-- Two schedules of the same length of time end that close to each other. -/
theorem schedules_close {final' : Amount} (positive : accumulatorOne ≤ start.toNat)
    (same : times.sum = others.sum) (h : refreshed rate start times = .ok final)
    (h' : refreshed rate start others = .ok final') :
    final.toNat * ((1 - halfUnit) ^ others.sum * (1 - 2 * halfUnit) ^ others.length) ≤
      final'.toNat * (1 + halfUnit) ^ others.sum := by
  have most := (refreshed_within positive h).2
  have least := (refreshed_within positive h').1
  rw [same] at most
  have most_pos : 0 ≤ (1 + halfUnit) ^ others.sum := pow_nonneg (by linarith [halfUnit_pos]) _
  have least_pos : 0 ≤ (1 - halfUnit) ^ others.sum * (1 - 2 * halfUnit) ^ others.length :=
    mul_nonneg (Within.least_nonneg _) (pow_nonneg (by linarith [two_halfUnit_lt_one]) _)
  calc final.toNat * ((1 - halfUnit) ^ others.sum * (1 - 2 * halfUnit) ^ others.length)
      ≤ start.toNat * growth rate ^ others.sum * (1 + halfUnit) ^ others.sum *
          ((1 - halfUnit) ^ others.sum * (1 - 2 * halfUnit) ^ others.length) :=
        mul_le_mul_of_nonneg_right most least_pos
    _ = start.toNat * growth rate ^ others.sum * (1 - halfUnit) ^ others.sum *
          (1 - 2 * halfUnit) ^ others.length * (1 + halfUnit) ^ others.sum := by ring
    _ ≤ final'.toNat * (1 + halfUnit) ^ others.sum := mul_le_mul_of_nonneg_right least most_pos

end Schedules

/-! ## Engines -/

namespace Engine

variable {e e' : Engine} {instants : List Timestamp}

/-- Book the interest at each of some instants. -/
def accrueAt : List Timestamp → Transact Engine PUnit
  | [] => pure ()
  | now :: later => do
    let _ ← accrue now
    accrueAt later

/-- After an accrual the engine stands at the time of the call, or later if it stood there before.
-/
theorem Accrued.elapsed {now : Timestamp} {accumulator : Amount}
    (h : Accrued e now accumulator e') :
    e'.state.accruedAt.toNat =
      e.state.accruedAt.toNat + (now.toNat - e.state.accruedAt.toNat) := by
  rw [h.state]
  dsimp only
  split
  · rename_i later
    rw [UInt64.lt_iff_toNat_lt] at later
    omega
  · rename_i earlier
    rw [UInt64.lt_iff_toNat_lt] at earlier
    omega

/-- Bookings are a schedule of refreshes, which takes the time that they bring the engine forward
by. -/
theorem accrueAt_eq_ok (h : accrueAt instants e = .ok () e') :
    ∃ times : List Nat, times.length = instants.length ∧
      e'.state.accruedAt.toNat = e.state.accruedAt.toNat + times.sum ∧
      refreshed e.state.params.interestRate.toNat e.state.accumulator times =
        .ok e'.state.accumulator := by
  induction instants generalizing e with
  | nil =>
    obtain ⟨-, rfl⟩ := Transact.pure_eq_ok.mp h
    exact ⟨[], rfl, rfl, rfl⟩
  | cons now later ih =>
    obtain ⟨accumulator, m, booked, rest⟩ := Transact.bind_eq_ok.mp h
    have accrued := accrue_eq_ok booked
    obtain ⟨times, count, seconds, run⟩ := ih rest
    have params : m.state.params = e.state.params := by rw [accrued.state]
    rw [params, accrued.accumulator] at run
    refine ⟨(now.toNat - e.state.accruedAt.toNat) :: times, by simp [count], ?_,
      refreshed_cons.mpr ⟨accumulator, accrued.current, run⟩⟩
    rw [seconds, accrued.elapsed, List.sum_cons, Nat.add_assoc]

end Engine

/-- Compound interest is exact up to rounding: a power of `n` seconds up to `n - 1` relative errors
of half a unit, a schedule of refreshes up to as many errors as seconds, and one unit lost for each
refresh. So bookings of an engine's interest that bring it to the same time leave accumulators that
differ by these errors only. -/
theorem accuracy_of_compounding (rate : Nat) :
    (∀ n factor, 1 ≤ n → compoundFactor rate n = .ok factor →
      growth rate ^ n * (1 - halfUnit) ^ (n - 1) ≤ factor / accumulatorOne ∧
        (factor : ℚ) / accumulatorOne ≤ growth rate ^ n * (1 + halfUnit) ^ (n - 1)) ∧
      (∀ (start final : Amount) (times : List Nat), accumulatorOne ≤ start.toNat →
        times.foldlM (fun accumulator elapsed => accumulate accumulator rate elapsed) start =
          .ok final →
        start.toNat * growth rate ^ times.sum * (1 - halfUnit) ^ times.sum *
            (1 - 2 * halfUnit) ^ times.length ≤ final.toNat ∧
          (final.toNat : ℚ) ≤
            start.toNat * growth rate ^ times.sum * (1 + halfUnit) ^ times.sum) ∧
      ∀ (e e₁ e₂ : Engine) (instants others : List Timestamp) (seconds : Nat),
        e.state.params.interestRate.toNat = rate → accumulatorOne ≤ e.state.accumulator.toNat →
        Engine.accrueAt instants e = .ok () e₁ → Engine.accrueAt others e = .ok () e₂ →
        e₁.state.accruedAt.toNat = e.state.accruedAt.toNat + seconds →
        e₂.state.accruedAt.toNat = e.state.accruedAt.toNat + seconds →
        e₁.state.accumulator.toNat *
            ((1 - halfUnit) ^ seconds * (1 - 2 * halfUnit) ^ others.length) ≤
          e₂.state.accumulator.toNat * (1 + halfUnit) ^ seconds := by
  refine ⟨fun n factor _ h => ?_, fun start final times positive h => refreshed_within positive h,
    ?_⟩
  · exact ⟨(compoundFactor_isPower h).2.lower, (compoundFactor_isPower h).2.upper⟩
  · intro e e₁ e₂ instants others seconds hrate positive h₁ h₂ time₁ time₂
    obtain ⟨times₁, -, sum₁, run₁⟩ := Engine.accrueAt_eq_ok h₁
    obtain ⟨times₂, count, sum₂, run₂⟩ := Engine.accrueAt_eq_ok h₂
    have close := schedules_close positive (by omega : times₁.sum = times₂.sum) run₁ run₂
    rwa [(by omega : times₂.sum = seconds), count] at close

namespace World

/-- The first engine of the lending market, after its interest was booked at some instants. -/
def bookedAt (instants : List Timestamp) : Option (Engine × Engine) := do
  let e ← engine? (history lending).seats 0
  match Engine.accrueAt instants e with
  | .ok _ e' => some (e, e')
  | .error _ _ => none

/-- What is computed as booked at some instants is booked by accruals that succeeded. -/
theorem bookedAt_eq_some {instants : List Timestamp} {e e' : Engine}
    (h : bookedAt instants = some (e, e')) :
    engine? (history lending).seats 0 = some e ∧ Engine.accrueAt instants e = .ok () e' := by
  simp only [bookedAt, Option.bind_eq_bind, Option.bind_eq_some_iff] at h
  obtain ⟨e₀, standing, h⟩ := h
  split at h
  · rename_i booked
    cases h
    exact ⟨standing, booked⟩
  · cases h

/-- The rate of the lending market. -/
def lendingRate : Nat := 158_153_934_393_112_649

set_option maxRecDepth 10000 in
/-- An hour at the rate of the lending market, at once and in parts, and bookings of its engine that
end at the same time. -/
theorem accuracy_of_compounding_lending :
    ∃ (factor : Nat) (start final : Amount) (times : List Nat) (e e₁ e₂ : Engine)
      (instants others : List Timestamp),
      times = [1000, 0, 2600] ∧ instants = [1000, 1000, 3600] ∧ others = [3600] ∧
      engine? (history lending).seats 0 = some e ∧
      compoundFactor lendingRate 3600 = .ok factor ∧
      (growth lendingRate ^ 3600 * (1 - halfUnit) ^ (3600 - 1) ≤ factor / accumulatorOne ∧
        (factor : ℚ) / accumulatorOne ≤ growth lendingRate ^ 3600 * (1 + halfUnit) ^ (3600 - 1)) ∧
      times.foldlM (fun accumulator elapsed => accumulate accumulator lendingRate elapsed) start =
        .ok final ∧
      (start.toNat * growth lendingRate ^ times.sum * (1 - halfUnit) ^ times.sum *
          (1 - 2 * halfUnit) ^ times.length ≤ final.toNat ∧
        (final.toNat : ℚ) ≤
          start.toNat * growth lendingRate ^ times.sum * (1 + halfUnit) ^ times.sum) ∧
      Engine.accrueAt instants e = .ok () e₁ ∧ Engine.accrueAt others e = .ok () e₂ ∧
      e₁.state.accumulator.toNat * ((1 - halfUnit) ^ 3600 * (1 - 2 * halfUnit) ^ others.length) ≤
        e₂.state.accumulator.toNat * (1 + halfUnit) ^ 3600 := by
  have facts : ((bookedAt [1000, 1000, 3600]).any fun (e, e₁) =>
      (bookedAt [3600]).any fun (_, e₂) =>
        (compoundFactor lendingRate 3600).toOption.any fun _ =>
          (([1000, 0, 2600].foldlM (fun accumulator elapsed =>
            accumulate accumulator lendingRate elapsed)
              e.state.accumulator).toOption.any fun _ =>
            decide (e.state.params.interestRate.toNat = lendingRate ∧
              accumulatorOne ≤ e.state.accumulator.toNat ∧
              e₁.state.accruedAt.toNat = e.state.accruedAt.toNat + 3600 ∧
              e₂.state.accruedAt.toNat = e.state.accruedAt.toNat + 3600))) = true := by
    decide +kernel
  simp only [Option.any_eq_true, Outcome.toOption_eq_some, decide_eq_true_eq] at facts
  obtain ⟨⟨e, e₁⟩, booked₁, ⟨e', e₂⟩, booked₂, factor, grown, final, folded, rate, positive,
    time₁, time₂⟩ := facts
  obtain ⟨standing, run₁⟩ := bookedAt_eq_some booked₁
  obtain ⟨standing', run₂⟩ := bookedAt_eq_some booked₂
  cases standing.symm.trans standing'
  obtain ⟨powers, schedules, bookings⟩ := accuracy_of_compounding lendingRate
  exact ⟨factor, e.state.accumulator, final, _, e, e₁, e₂, _, _, rfl, rfl, rfl, standing, grown,
    powers 3600 factor (by decide) grown, folded, schedules _ _ _ positive folded, run₁, run₂,
    bookings e e₁ e₂ _ _ 3600 rate positive run₁ run₂ time₁ time₂⟩

end World

end CollateralDebt
