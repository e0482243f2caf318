import CollateralDebt.Interest
import CollateralDebt.Proofs.Transact

/-!
# Arithmetic read backwards

An operation on amounts that succeeded stayed within its range, so its result is the number that the
same operation on `Nat` gives. Rounded quotients are read as the two inequalities that pin them
down: these, and not the quotients, are what balances of debt and supply are made of.

## What is proved

- laws for the operations of `Amount` and `Wide`, and for `mulDiv`, `mulDivUp`;
- `mulDiv_bounds`, `mulDivUp_bounds`: a rounded quotient is off by less than one;
- `mulDiv_le`, `mulDivUp_ge`: parts are no larger, multiples no smaller;
- `accumulate_ge`: an accumulator never falls.
-/

namespace CollateralDebt

/-- Narrowing a number gives the amount of that value, and nothing else. -/
@[simp] theorem narrow_eq_ok {n : Nat} {a : Amount} : narrow n = .ok a ↔ a.toNat = n := by
  unfold narrow
  split
  · rw [Except.ok.injEq, Amount.ext_iff]
    exact eq_comm
  · rename_i h
    simp only [Outcome.reject_eq_ok, false_iff]
    intro eq
    exact h (eq ▸ a.isLt)

/-- Narrowing overflows from the bound of amounts on, and fails in no other way. -/
theorem narrow_eq_error {n : Nat} {e : Failure} :
    narrow n = .error e ↔ Nat.pow 2 128 ≤ n ∧ e = .rejected .overflow := by
  unfold narrow reject
  split
  · rename_i h
    simp only [reduceCtorEq, false_iff]
    omega
  · rename_i h
    rw [Except.error.injEq]
    exact ⟨fun eq => ⟨Nat.le_of_not_lt h, eq.symm⟩, fun eq => eq.2.symm⟩

/-- A quotient that succeeds is the floor. -/
theorem mulDiv_eq_ok {a b d : Nat} {c : Amount} :
    mulDiv a b d = .ok c ↔ d ≠ 0 ∧ c.toNat = a * b / d := by
  unfold mulDiv
  split <;> simp_all

/-- Rounded up, it is one more than the floor unless the division goes through. -/
theorem mulDivUp_eq_ok {a b d : Nat} {c : Amount} :
    mulDivUp a b d = .ok c ↔ d ≠ 0 ∧ c.toNat = a * b / d + if a * b % d = 0 then 0 else 1 := by
  unfold mulDivUp
  split
  · simp_all
  · rename_i h
    rw [narrow_eq_ok]
    exact ⟨fun eq => ⟨h, eq⟩, fun eq => eq.2⟩

/-- A quotient rounded down is at most the exact one, and less than one below it. -/
theorem mulDiv_bounds {a b d : Nat} {c : Amount} (h : mulDiv a b d = .ok c) :
    c.toNat * d ≤ a * b ∧ a * b < c.toNat * d + d := by
  obtain ⟨hd, hc⟩ := mulDiv_eq_ok.mp h
  have parts := Nat.div_add_mod (a * b) d
  have rest := Nat.mod_lt (a * b) (Nat.pos_of_ne_zero hd)
  rw [hc, Nat.mul_comm (a * b / d) d]
  omega

/-- A quotient rounded up is at least the exact one, and less than one above it. -/
theorem mulDivUp_bounds {a b d : Nat} {c : Amount} (h : mulDivUp a b d = .ok c) :
    a * b ≤ c.toNat * d ∧ c.toNat * d < a * b + d := by
  obtain ⟨hd, hc⟩ := mulDivUp_eq_ok.mp h
  have parts := Nat.div_add_mod (a * b) d
  have rest := Nat.mod_lt (a * b) (Nat.pos_of_ne_zero hd)
  rw [hc, Nat.add_mul, Nat.mul_comm (a * b / d) d]
  split <;> omega

/-- A part of a number, rounded down, is at most the number. -/
theorem mulDiv_le {a b d : Nat} {c : Amount} (hb : b ≤ d) (h : mulDiv a b d = .ok c) :
    c.toNat ≤ a := by
  have positive := Nat.pos_of_ne_zero (mulDiv_eq_ok.mp h).1
  have part := Nat.le_trans (mulDiv_bounds h).1 (Nat.mul_le_mul_left a hb)
  exact Nat.le_of_mul_le_mul_right part positive

/-- A multiple of a number, rounded up, is at least the number. -/
theorem mulDivUp_ge {a b d : Nat} {c : Amount} (hb : d ≤ b) (h : mulDivUp a b d = .ok c) :
    a ≤ c.toNat := by
  have positive := Nat.pos_of_ne_zero (mulDivUp_eq_ok.mp h).1
  have multiple := Nat.le_trans (Nat.mul_le_mul_left a hb) (mulDivUp_bounds h).1
  exact Nat.le_of_mul_le_mul_right multiple positive

namespace Amount

theorem add_eq_ok {a b c : Amount} : a.add b = .ok c ↔ c.toNat = a.toNat + b.toNat := narrow_eq_ok

/-- A difference that succeeds adds up again to the first amount. -/
theorem minus_eq_ok {a b c : Amount} : a.minus b = .ok c ↔ c.toNat + b.toNat = a.toNat := by
  unfold minus
  split
  · rename_i h
    rw [le_iff] at h
    rw [Except.ok.injEq, Amount.ext_iff, toNat_sub]
    omega
  · rename_i h
    rw [le_iff] at h
    simp only [Outcome.reject_eq_ok, false_iff]
    omega

/-- A difference is refused where the second amount is the larger one. -/
theorem minus_eq_error {a b : Amount} {e : Failure} :
    a.minus b = .error e ↔ a.toNat < b.toNat ∧ e = .rejected .underflow := by
  unfold minus reject
  split
  · rename_i h
    rw [le_iff] at h
    simp only [reduceCtorEq, false_iff]
    omega
  · rename_i h
    rw [le_iff] at h
    rw [Except.error.injEq]
    exact ⟨fun eq => ⟨Nat.lt_of_not_le h, eq.symm⟩, fun eq => eq.2.symm⟩

/-- Nobody checks it, but it is the same difference. -/
theorem uncheckedMinus_eq_ok {a b c : Amount} :
    a.uncheckedMinus b = .ok c ↔ c.toNat + b.toNat = a.toNat := by
  unfold uncheckedMinus
  split
  · rename_i h
    rw [le_iff] at h
    rw [Except.ok.injEq, Amount.ext_iff, toNat_sub]
    omega
  · rename_i h
    rw [le_iff] at h
    simp only [reduceCtorEq, false_iff]
    omega

theorem ne_zero_iff {a : Amount} : a ≠ .zero ↔ 0 < a.toNat := by
  rw [Ne, Amount.ext_iff, toNat_zero]
  omega

/-- The difference cut off at zero is zero where there is nothing to take it from. -/
theorem monus_eq_zero_iff {a b : Amount} : a.monus b = .zero ↔ a ≤ b := by
  rw [Amount.ext_iff, toNat_monus, toNat_zero, le_iff]
  omega

/-- The whole unit of a supported asset is an amount. -/
theorem pow10_of_le {decimals : UInt8} (h : decimals ≤ maxCollateralDecimals) :
    ∃ unit, pow10 decimals = .ok unit ∧ unit.toNat = Nat.pow 10 decimals.toNat := by
  have small : Nat.pow 10 decimals.toNat < Nat.pow 2 128 :=
    calc Nat.pow 10 decimals.toNat ≤ Nat.pow 10 27 := Nat.pow_le_pow_right (by decide) h
      _ < Nat.pow 2 128 := by decide
  exact ⟨⟨_, small⟩, narrow_eq_ok.mpr rfl, rfl⟩

end Amount

namespace Wide

theorem checkedMul_eq_ok {a b c : Nat} : checkedMul a b = .ok c ↔ a * b < bound ∧ a * b = c := by
  unfold checkedMul
  split <;> rename_i h <;> simp [h]

theorem checkedSub_eq_ok {a b c : Nat} : checkedSub a b = .ok c ↔ b ≤ a ∧ a - b = c := by
  unfold checkedSub
  split <;> rename_i h <;> simp [h]

theorem mul_eq_ok {a b c : Nat} : mul a b = .ok c ↔ a * b < bound ∧ a * b = c := by
  unfold mul
  split <;> rename_i h <;> simp [h]

theorem add_eq_ok {a b c : Nat} : add a b = .ok c ↔ a + b < bound ∧ a + b = c := by
  unfold add
  split <;> rename_i h <;> simp [h]

theorem sub_eq_ok {a b c : Nat} : sub a b = .ok c ↔ b ≤ a ∧ a - b = c := by
  unfold sub
  split <;> rename_i h <;> simp [h]

theorem checkedDiv_eq_ok {a b c : Nat} : checkedDiv a b = .ok c ↔ b ≠ 0 ∧ a / b = c := by
  unfold checkedDiv
  split <;> rename_i h <;> simp [h]

end Wide

/-! ## Interest -/

theorem accumulatorOne_pos : 0 < accumulatorOne := by decide

theorem accumulatorOne_lt_pow : accumulatorOne < Nat.pow 2 128 := by decide

theorem ratioOne_pos : 0 < ratioOne := by decide

/-- The product of two factors, neither of which shrinks anything, shrinks nothing. -/
theorem mulFactor_ge {a b c : Nat} (ha : accumulatorOne ≤ a) (hb : accumulatorOne ≤ b)
    (h : mulFactor a b = .ok c) : accumulatorOne ≤ c := by
  simp only [mulFactor, Outcome.bind_eq_ok, Wide.checkedMul_eq_ok, Wide.add_eq_ok,
    Outcome.pure_eq_ok] at h
  obtain ⟨_, ⟨_, rfl⟩, _, ⟨_, rfl⟩, rfl⟩ := h
  rw [Nat.le_div_iff_mul_le accumulatorOne_pos]
  exact Nat.le_add_right_of_le (Nat.mul_le_mul ha hb)

/-- Compounding keeps a factor of at least one at least one. -/
theorem compoundLoop_ge {base result remaining c : Nat} (hb : accumulatorOne ≤ base)
    (hr : accumulatorOne ≤ result) (h : compoundLoop base result remaining = .ok c) :
    accumulatorOne ≤ c := by
  -- on the recursion of the loop: every product it makes is one of factors of at least one
  fun_induction compoundLoop base result remaining with
  | case1 base result =>
    cases h
    exact hr
  | case2 base result remaining _ ih =>
    obtain ⟨squared, hsquared, h⟩ := Outcome.bind_eq_ok.mp h
    have hs := mulFactor_ge hb hb hsquared
    dsimp only at h
    split at h
    · obtain ⟨next, hnext, h⟩ := Outcome.bind_eq_ok.mp h
      exact ih squared next hs (mulFactor_ge hr hs hnext) h
    · exact ih squared result hs hr h

/-- Debt never shrinks by the passing of time. -/
theorem compoundFactor_ge {rate elapsed c : Nat} (h : compoundFactor rate elapsed = .ok c) :
    accumulatorOne ≤ c := by
  unfold compoundFactor at h
  split at h
  · cases h
    exact Nat.le_refl _
  · refine compoundLoop_ge (Nat.le_add_right _ _) ?_ h
    split
    · exact Nat.le_add_right _ _
    · exact Nat.le_refl _

/-- An accumulator never falls. -/
theorem accumulate_ge {a c : Amount} {rate elapsed : Nat}
    (h : accumulate a rate elapsed = .ok c) : a ≤ c := by
  simp only [accumulate, Outcome.bind_eq_ok, Wide.checkedMul_eq_ok, narrow_eq_ok] at h
  obtain ⟨factor, hfactor, _, ⟨_, rfl⟩, hc⟩ := h
  rw [Amount.le_iff, hc, Nat.le_div_iff_mul_le accumulatorOne_pos]
  exact Nat.mul_le_mul_left _ (compoundFactor_ge hfactor)

end CollateralDebt
