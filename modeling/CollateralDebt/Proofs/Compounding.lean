import CollateralDebt.Proofs.FixedPoint

/-!
# Interest over time

More time means more interest. With exact powers this would be plain, but each product is rounded,
and numbers of seconds that follow each other, such as seven and eight, go through different
products. What carries the comparison is that the loop works through the binary digits from the
lowest up: before a digit is looked at, the digits below it have contributed at most as much as this
one would contribute alone.

## What is proved

- `mulFactor_mono`: a product of smaller factors is no larger, and fails in no other case;
- `compoundLoop_mono`, `compoundLoop_mono_remaining`: the loop on a smaller result so far, and on a
  smaller number;
- `compoundFactor_mono`, `accumulate_mono`: growth over less time;
- `accumulate_zero`: none over no time.
-/

namespace CollateralDebt

variable {a b c base base' result result' remaining remaining' s rate elapsed elapsed' : Nat}

/-! ## Products of factors -/

/-- A product of factors is rounded half up, and fails only where the sum before the division has no
room. -/
theorem mulFactor_eq_ok :
    mulFactor a b = .ok c ↔
      a * b + accumulatorOne / 2 < Wide.bound ∧
        (a * b + accumulatorOne / 2) / accumulatorOne = c := by
  simp only [mulFactor, Outcome.bind_eq_ok, Wide.checkedMul_eq_ok, Wide.add_eq_ok,
    Outcome.pure_eq_ok]
  constructor
  · rintro ⟨_, ⟨_, rfl⟩, _, ⟨small, rfl⟩, rfl⟩
    exact ⟨small, rfl⟩
  · rintro ⟨small, rfl⟩
    exact ⟨_, ⟨Nat.lt_of_le_of_lt (Nat.le_add_right _ _) small, rfl⟩, _, ⟨small, rfl⟩, rfl⟩

/-- A product of smaller factors is no larger, and it succeeds if that of the larger ones does. -/
theorem mulFactor_mono {a' b' c' : Nat} (ha : a ≤ a') (hb : b ≤ b')
    (h : mulFactor a' b' = .ok c') : ∃ c, mulFactor a b = .ok c ∧ c ≤ c' := by
  obtain ⟨small, rfl⟩ := mulFactor_eq_ok.mp h
  have less : a * b + accumulatorOne / 2 ≤ a' * b' + accumulatorOne / 2 :=
    Nat.add_le_add_right (Nat.mul_le_mul ha hb) _
  exact ⟨_, mulFactor_eq_ok.mpr ⟨Nat.lt_of_le_of_lt less small, rfl⟩, Nat.div_le_div_right less⟩

/-- A factor of at least one shrinks nothing on its right. -/
theorem le_mulFactor_right (ha : accumulatorOne ≤ a) (h : mulFactor a b = .ok c) : b ≤ c := by
  obtain ⟨-, rfl⟩ := mulFactor_eq_ok.mp h
  rw [Nat.le_div_iff_mul_le accumulatorOne_pos, Nat.mul_comm b]
  exact Nat.le_add_right_of_le (Nat.mul_le_mul_right b ha)

/-! ## The loop -/

/-- The loop at an exponent other than zero, one step on. -/
theorem compoundLoop_eq_ok (some' : remaining ≠ 0) :
    compoundLoop base result remaining = .ok c ↔
      ∃ s, mulFactor base base = .ok s ∧
        ∃ next, (if remaining % 2 = 1 then mulFactor result s else pure result) = .ok next ∧
          compoundLoop s next (remaining / 2) = .ok c := by
  rw [compoundLoop, if_neg some', Outcome.bind_eq_ok]
  refine exists_congr fun s => and_congr_right fun _ => ?_
  dsimp only
  split <;> exact Outcome.bind_eq_ok

/-- With no time left the loop answers its result. -/
theorem compoundLoop_zero : compoundLoop base result 0 = .ok result := by
  rw [compoundLoop, if_pos rfl]

/-- What is multiplied in where a digit is set keeps the order of the results. -/
theorem next_mono {next' : Nat} (odd : Prop) [Decidable odd] (less : result ≤ result')
    (h : (if odd then mulFactor result' s else pure result') = .ok next') :
    ∃ next, (if odd then mulFactor result s else pure result) = .ok next ∧ next ≤ next' := by
  split at h
  · rename_i set
    simp only [if_pos set]
    exact mulFactor_mono less (Nat.le_refl s) h
  · rename_i clear
    obtain rfl := Outcome.pure_eq_ok.mp h
    exact ⟨result, if_neg clear, less⟩

/-- A smaller result so far ends smaller. -/
theorem compoundLoop_mono {c' : Nat} (less : result ≤ result')
    (h : compoundLoop base result' remaining = .ok c') :
    ∃ c, compoundLoop base result remaining = .ok c ∧ c ≤ c' := by
  induction remaining using Nat.strongRecOn generalizing base result result' with
  | _ remaining ih =>
    rcases Decidable.em (remaining = 0) with rfl | some'
    · rw [compoundLoop_zero] at h ⊢
      cases h
      exact ⟨result, rfl, less⟩
    · obtain ⟨s, squared, next', multiplied, rest⟩ := (compoundLoop_eq_ok some').mp h
      obtain ⟨next, multiplied, less'⟩ := next_mono _ less multiplied
      obtain ⟨c, rest, le⟩ := ih (remaining / 2) (by omega) less' rest
      exact ⟨c, (compoundLoop_eq_ok some').mpr ⟨s, squared, next, multiplied, rest⟩, le⟩

/-- A result of at least one stays so where a digit is worked through. -/
theorem next_ge {next : Nat} (odd : Prop) [Decidable odd] (hs : accumulatorOne ≤ s)
    (hr : accumulatorOne ≤ result)
    (h : (if odd then mulFactor result s else pure result) = .ok next) : accumulatorOne ≤ next := by
  split at h
  · exact mulFactor_ge hr hs h
  · exact Outcome.pure_eq_ok.mp h ▸ hr

/-- A loop that still has a digit to work through ends with at least the next square. -/
theorem le_compoundLoop (hb : accumulatorOne ≤ base) (hr : accumulatorOne ≤ result)
    (some' : remaining ≠ 0) (squared : mulFactor base base = .ok s)
    (h : compoundLoop base result remaining = .ok c) : s ≤ c := by
  induction remaining using Nat.strongRecOn generalizing base result s with
  | _ remaining ih =>
    obtain ⟨s', squared', next, multiplied, rest⟩ := (compoundLoop_eq_ok some').mp h
    cases squared.symm.trans squared'
    have hs := mulFactor_ge hb hb squared
    rcases Decidable.em (remaining / 2 = 0) with last | more
    · -- the highest digit: it is set, and multiplies the square in
      rw [if_pos (by omega : remaining % 2 = 1)] at multiplied
      rw [last, compoundLoop_zero] at rest
      cases rest
      exact le_mulFactor_right hr multiplied
    · obtain ⟨s', squared', -⟩ := (compoundLoop_eq_ok more).mp rest
      exact Nat.le_trans (le_mulFactor_right hs squared')
        (ih (remaining / 2) (by omega) hs (next_ge _ hs hr multiplied) more squared' rest)

/-- The loop on a smaller number ends smaller, if the result so far is at most the next square. -/
theorem compoundLoop_mono_remaining {c' : Nat} (hb : accumulatorOne ≤ base)
    (hr : accumulatorOne ≤ result') (fewer : remaining < remaining')
    (below : ∀ s, mulFactor base base = .ok s → result ≤ s)
    (h : compoundLoop base result' remaining' = .ok c') :
    ∃ c, compoundLoop base result remaining = .ok c ∧ c ≤ c' := by
  induction remaining' using Nat.strongRecOn generalizing base result result' remaining with
  | _ remaining' ih =>
    have longer : remaining' ≠ 0 := by omega
    obtain ⟨s, squared, next', multiplied', rest'⟩ := (compoundLoop_eq_ok longer).mp h
    have hs := mulFactor_ge hb hb squared
    have le := below s squared
    rcases Decidable.em (remaining = 0) with rfl | some'
    · exact ⟨result, compoundLoop_zero, Nat.le_trans le (le_compoundLoop hb hr longer squared h)⟩
    · rcases Nat.lt_or_ge (remaining / 2) (remaining' / 2) with fewer' | same
      · -- the longer loop squares once more, which leaves room for the shorter one's product
        obtain ⟨s', squared', -⟩ := (compoundLoop_eq_ok (by omega : remaining' / 2 ≠ 0)).mp rest'
        have room : s ≤ s' := le_mulFactor_right hs squared'
        have product : ∃ next, (if remaining % 2 = 1 then mulFactor result s else pure result) =
            .ok next ∧ next ≤ s' := by
          obtain ⟨next, multiplied, small⟩ := mulFactor_mono le (Nat.le_refl s) squared'
          split
          · exact ⟨next, multiplied, small⟩
          · exact ⟨result, rfl, Nat.le_trans le room⟩
        obtain ⟨next, multiplied, small⟩ := product
        obtain ⟨c, rest, le'⟩ := ih (remaining' / 2) (by omega) hs (next_ge _ hs hr multiplied')
          fewer' (fun t ht => by cases squared'.symm.trans ht; exact small) rest'
        exact ⟨c, (compoundLoop_eq_ok some').mpr ⟨s, squared, next, multiplied, rest⟩, le'⟩
      · -- the numbers differ in the lowest digit only
        have even : ¬ remaining % 2 = 1 := by omega
        rw [if_pos (by omega : remaining' % 2 = 1)] at multiplied'
        have halves : remaining / 2 = remaining' / 2 := by omega
        obtain ⟨c, rest, le'⟩ :=
          compoundLoop_mono (Nat.le_trans le (le_mulFactor_right hr multiplied')) rest'
        refine ⟨c, (compoundLoop_eq_ok some').mpr ⟨s, squared, result, if_neg even, ?_⟩, le'⟩
        rw [halves]
        exact rest

/-! ## Growth over time -/

/-- Growth over less time is no larger, and it succeeds if the growth over more time does. -/
theorem compoundFactor_mono {c' : Nat} (less : elapsed ≤ elapsed')
    (h : compoundFactor rate elapsed' = .ok c') :
    ∃ c, compoundFactor rate elapsed = .ok c ∧ c ≤ c' := by
  have at_least := compoundFactor_ge h
  by_cases idle : rate = 0 ∨ elapsed = 0
  · refine ⟨accumulatorOne, ?_, at_least⟩
    unfold compoundFactor
    rw [if_pos idle]
  · rcases Nat.eq_or_lt_of_le less with rfl | fewer
    · exact ⟨c', h, Nat.le_refl c'⟩
    · unfold compoundFactor at h ⊢
      rw [if_neg (by omega)] at h
      rw [if_neg idle]
      dsimp only at h ⊢
      have hb : accumulatorOne ≤ accumulatorOne + rate := Nat.le_add_right _ _
      have first (n : Nat) : accumulatorOne ≤
            (if n % 2 = 1 then accumulatorOne + rate else accumulatorOne) ∧
          (if n % 2 = 1 then accumulatorOne + rate else accumulatorOne) ≤
            accumulatorOne + rate := by
        split <;> omega
      rcases Nat.lt_or_ge (elapsed / 2) (elapsed' / 2) with fewer' | same
      · refine compoundLoop_mono_remaining hb (first elapsed').1 fewer' (fun s squared => ?_) h
        exact Nat.le_trans (first elapsed).2 (le_mulFactor_right hb squared)
      · have halves : elapsed / 2 = elapsed' / 2 := by omega
        rw [if_neg (by omega : ¬ elapsed % 2 = 1), halves]
        exact compoundLoop_mono (first elapsed').1 h

/-- An accumulator after less time is no larger, and it can be computed if the one after more time
can. -/
theorem accumulate_mono {acc after' : Amount} (less : elapsed ≤ elapsed')
    (h : accumulate acc rate elapsed' = .ok after') :
    ∃ after, accumulate acc rate elapsed = .ok after ∧ after ≤ after' := by
  simp only [accumulate, Outcome.bind_eq_ok, Wide.checkedMul_eq_ok, narrow_eq_ok] at h ⊢
  obtain ⟨factor', grown', _, ⟨small, rfl⟩, whole⟩ := h
  obtain ⟨factor, grown, le⟩ := compoundFactor_mono less grown'
  have product : acc.toNat * factor ≤ acc.toNat * factor' := Nat.mul_le_mul_left _ le
  have quotient : acc.toNat * factor / accumulatorOne ≤ after'.toNat :=
    whole ▸ Nat.div_le_div_right product
  exact ⟨⟨_, Nat.lt_of_le_of_lt quotient after'.isLt⟩,
    ⟨factor, grown, _, ⟨Nat.lt_of_le_of_lt product small, rfl⟩, rfl⟩, quotient⟩

/-- In no time, an accumulator stays what it is. -/
theorem accumulate_zero (accumulator : Amount) (rate : Nat) :
    accumulate accumulator rate 0 = .ok accumulator := by
  have idle : compoundFactor rate 0 = .ok accumulatorOne := by
    unfold compoundFactor
    rw [if_pos (.inr rfl)]
  have small : accumulator.toNat * accumulatorOne < Wide.bound :=
    Nat.lt_trans (Nat.mul_lt_mul_of_pos_right accumulator.isLt accumulatorOne_pos) (by decide)
  simp only [accumulate, Outcome.bind_eq_ok, Wide.checkedMul_eq_ok, narrow_eq_ok]
  exact ⟨accumulatorOne, idle, _, ⟨small, rfl⟩,
    (Nat.mul_div_cancel accumulator.toNat accumulatorOne_pos).symm⟩

end CollateralDebt
