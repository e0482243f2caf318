import CollateralDebt.BoostCurve
import CollateralDebt.Proofs.Transact

/-!
# Looking up a boost

The search for a segment halves the places that are left. It never leaves the thresholds, and the
threshold at the place that it comes to is reached by the balance, unless it never moved. A balance
below the last threshold therefore ends in front of the last point, so both ends of its segment
exist.

## What is proved

- `ofPoints_eq_ok`: what an accepted curve is like;
- `bisect_lt`, `bisect_reached`: where the search ends;
- `boostAt_of_accepted`: an accepted curve has a multiplier for every balance.
-/

namespace CollateralDebt.BoostCurve

/-! ## Accepted curves -/

/-- The points of an accepted curve: as many thresholds as multipliers, and some of each. -/
theorem ofPoints_eq_ok {thresholds : List Amount} {multipliers : List UInt64} {c : BoostCurve}
    (h : ofPoints thresholds multipliers = .ok c) :
    c = ⟨thresholds, multipliers⟩ ∧ thresholds.length = multipliers.length ∧ thresholds ≠ [] ∧
      multipliers.head? ≠ some 0 := by
  simp only [ofPoints, Outcome.bind_eq_ok, Outcome.require_eq_ok, Outcome.pure_eq_ok] at h
  obtain ⟨_, lengths, _, ⟨some', _⟩, _, first, _, _, rfl⟩ := h
  exact ⟨rfl, lengths, some', first⟩

/-- The curve has been through the checked constructor. -/
def Accepted (c : BoostCurve) : Prop := ofPoints c.thresholds c.multipliers = .ok c

variable {c : BoostCurve}

/-- What the checked constructor gives is accepted. -/
theorem accepted_of_ofPoints {thresholds : List Amount} {multipliers : List UInt64}
    (h : ofPoints thresholds multipliers = .ok c) : c.Accepted := by
  obtain ⟨rfl, -⟩ := ofPoints_eq_ok h
  exact h

/-- A flat curve has its one multiplier at the start. -/
theorem baseBoost_of_flat {multiplier : UInt64} (h : flat multiplier = .ok c) :
    c.baseBoost = multiplier := by
  obtain ⟨rfl, -⟩ := ofPoints_eq_ok h
  rfl

/-- No accepted curve multiplies by zero. -/
theorem Accepted.baseBoost_ne_zero (h : c.Accepted) : c.baseBoost ≠ 0 := by
  obtain ⟨-, lengths, some', first⟩ := ofPoints_eq_ok h
  unfold baseBoost
  cases multipliers : c.multipliers with
  | nil =>
    rw [multipliers, List.length_nil, List.length_eq_zero_iff] at lengths
    exact absurd lengths some'
  | cons y rest =>
    rw [multipliers] at first
    exact fun zero => first (congrArg some zero)

/-! ## The search -/

section Search

variable {thresholds : List Amount} {balance : Amount}

/-- The search stays among the places that it started with. -/
theorem bisect_lt (thresholds : List Amount) (balance : Amount) (base : Nat) {size : Nat}
    (h : 0 < size) : bisect thresholds balance base size < base + size := by
  induction size using Nat.strongRecOn generalizing base with
  | ind size ih =>
    unfold bisect
    split
    · omega
    · have below := ih (size - size / 2) (by omega)
        (if thresholds.getD (base + size / 2) .zero ≤ balance then base + size / 2 else base)
        (by omega)
      dsimp only
      split at below <;> rename_i here
      · rw [if_pos here]
        omega
      · rw [if_neg here]
        omega

/-- The balance reaches the threshold at which the search ends, unless it ends where it began. -/
theorem bisect_reached (thresholds : List Amount) (balance : Amount) (base size : Nat) :
    bisect thresholds balance base size = base ∨
      thresholds.getD (bisect thresholds balance base size) .zero ≤ balance := by
  induction size using Nat.strongRecOn generalizing base with
  | ind size ih =>
    unfold bisect
    split
    · exact .inl rfl
    · dsimp only
      split
      · rename_i reached
        rcases ih (size - size / 2) (by omega) (base + size / 2) with same | further
        · rw [same]
          exact .inr reached
        · exact .inr further
      · exact ih (size - size / 2) (by omega) base

end Search

/-- Between the first and the last threshold, the search ends in front of the last point. -/
theorem segment_lt {first last : Amount} {balance : Amount}
    (hfirst : c.thresholds.head? = some first) (hlast : c.thresholds.getLast? = some last)
    (above : ¬ balance ≤ first) (below : ¬ last ≤ balance) :
    c.segment balance + 1 < c.thresholds.length := by
  have some' : 0 < c.thresholds.length := by
    cases none : c.thresholds with
    | nil =>
      rw [none] at hfirst
      cases hfirst
    | cons x rest => exact Nat.succ_pos _
  have inside := bisect_lt c.thresholds balance 0 some'
  have final : c.thresholds.getD (c.thresholds.length - 1) .zero = last := by
    rw [List.getLast?_eq_getElem?] at hlast
    rw [List.getD_eq_getElem?_getD, hlast]
    rfl
  have start : c.thresholds.getD 0 .zero = first := by
    rw [List.head?_eq_getElem?] at hfirst
    rw [List.getD_eq_getElem?_getD, hfirst]
    rfl
  unfold segment
  rcases Nat.lt_or_ge (bisect c.thresholds balance 0 c.thresholds.length + 1) c.thresholds.length
    with short | beyond
  · exact short
  have here : bisect c.thresholds balance 0 c.thresholds.length = c.thresholds.length - 1 := by
    omega
  -- so the balance would reach the last threshold, or the last would be the first
  rcases bisect_reached c.thresholds balance 0 c.thresholds.length with same | reached
  · rw [← here, same, start] at final
    rw [← final, Amount.le_iff] at below
    rw [Amount.le_iff] at above
    exact absurd (Nat.le_of_not_le below) above
  · rw [here, final] at reached
    exact absurd reached below

/-- An accepted curve has a multiplier for every balance. -/
theorem boostAt_of_accepted (h : c.Accepted) (balance : Amount) :
    ∃ y, c.boostAt balance = .ok y := by
  obtain ⟨-, lengths, -⟩ := ofPoints_eq_ok h
  unfold boostAt
  split
  · rename_i first last hfirst hlast
    split
    · exact ⟨_, rfl⟩
    · rename_i above
      split
      · exact ⟨_, rfl⟩
      · rename_i below
        have inside := segment_lt hfirst hlast above below
        dsimp only
        rw [List.getElem?_eq_getElem (Nat.lt_of_succ_lt inside), List.getElem?_eq_getElem inside,
          List.getElem?_eq_getElem (lengths ▸ Nat.lt_of_succ_lt inside),
          List.getElem?_eq_getElem (lengths ▸ inside)]
        exact ⟨_, rfl⟩
  · exact ⟨_, rfl⟩

end CollateralDebt.BoostCurve
