import CollateralDebt.Proofs.BoostCurve
import CollateralDebt.Proofs.FixedPoint
import Mathlib.Algebra.Order.Floor.Semifield
import Mathlib.Data.Rat.Floor

/-!
# A curve between its points

The points of an accepted curve rise: each threshold is above the one before it, and no multiplier
is below the one before it. So the search finds the one segment that a balance lies in, and the
curve is read in one of three ways: before the first point, after the last, or on the line between
two neighbours.

Each line is rounded down on its own. Lines are therefore not compared with each other but with the
points: to the right of a point the curve is at least as high as the point, to the left at most.
Balances in different segments have a point between them, and balances in one segment have the line.

## What is proved

- `rising_of_ofPoints`: the points of an accepted curve rise;
- `inSegment_segment`, `InSegment.unique`: the search finds the one segment of a balance;
- `toNat_interpolate`: nothing is cut off the value of a line;
- `reading_of_boostAt`: the three ways to read a curve;
- `Reading.ge`, `Reading.le`, `Reading.mono`: a curve and its points, and that it never falls;
- `interpolates_of_ofPoints`: an accepted curve interpolates its points.
-/

namespace CollateralDebt.BoostCurve

variable {xs : List Amount} {ys : List UInt64} {c : BoostCurve} {b b' : Amount} {y y' : UInt64}
  {i j : Nat}

/-! ## Rising points -/

/-- A point may stand before another: its threshold is lower, and its multiplier is not higher. -/
def Precedes (p q : Amount × UInt64) : Prop := p.1 < q.1 ∧ p.2 ≤ q.2

instance : Trans Precedes Precedes Precedes :=
  ⟨fun h h' => ⟨Nat.lt_trans h.1 h'.1, UInt64.le_trans h.2 h'.2⟩⟩

/-- What the check accepts is a chain. -/
theorem isChain_of_checkPoints : ∀ {points : List (Amount × UInt64)} {u : Unit},
    checkPoints points = .ok u → points.IsChain Precedes
  | [], _, _ => .nil
  | [_], _, _ => .singleton _
  | (x₀, y₀) :: (x₁, y₁) :: rest, _, h => by
    simp only [checkPoints, Outcome.bind_eq_ok, Outcome.require_eq_ok] at h
    obtain ⟨_, further, _, higher, h⟩ := h
    exact List.isChain_cons_cons.mpr ⟨⟨further, higher⟩, isChain_of_checkPoints h⟩

/-- Thresholds that rise, and multipliers that never fall. -/
structure Rising (xs : List Amount) (ys : List UInt64) : Prop where
  thresholds : xs.Pairwise (· < ·)
  multipliers : ys.Pairwise (· ≤ ·)

/-- The points of an accepted curve rise. -/
theorem rising_of_ofPoints (h : ofPoints xs ys = .ok c) : Rising xs ys := by
  simp only [ofPoints, Outcome.bind_eq_ok, Outcome.require_eq_ok] at h
  obtain ⟨_, lengths, _, _, _, _, _, checked, _⟩ := h
  have ordered := (isChain_of_checkPoints checked).pairwise
  constructor
  · have further := List.Pairwise.map Prod.fst (fun _ _ (h : Precedes _ _) => h.1) ordered
    rwa [List.map_fst_zip (Nat.le_of_eq lengths)] at further
  · have higher := List.Pairwise.map Prod.snd (fun _ _ (h : Precedes _ _) => h.2) ordered
    rwa [List.map_snd_zip (Nat.le_of_eq lengths.symm)] at higher

namespace Rising

/-- Of two points the later one has the higher threshold. -/
theorem threshold_lt (rising : Rising xs ys) (hj : j < xs.length) (before : i < j) :
    xs[i] < xs[j] :=
  List.pairwise_iff_getElem.mp rising.thresholds i j _ hj before

theorem threshold_le (rising : Rising xs ys) (hj : j < xs.length) (before : i ≤ j) :
    xs[i] ≤ xs[j] := by
  rcases Nat.lt_or_eq_of_le before with before | rfl
  · exact Nat.le_of_lt (rising.threshold_lt hj before)
  · exact Nat.le_refl _

/-- Of two points the later one has no lower multiplier. -/
theorem multiplier_le (rising : Rising xs ys) (hj : j < ys.length) (before : i ≤ j) :
    ys[i] ≤ ys[j] := by
  rcases Nat.lt_or_eq_of_le before with before | rfl
  · exact List.pairwise_iff_getElem.mp rising.multipliers i j _ hj before
  · exact UInt64.le_refl _

/-- A threshold that is reached stands before one that is not. -/
theorem lt_of_reached (rising : Rising xs ys) (hi : i < xs.length) (hj : j < xs.length)
    (reached : xs[i] ≤ b) (missed : b < xs[j]) : i < j := by
  refine Nat.lt_of_not_le fun behind => ?_
  exact Nat.not_lt.mpr (Nat.le_trans (rising.threshold_le hi behind) reached) missed

/-- Thresholds stand in the order of their sizes. -/
theorem le_of_threshold_le (rising : Rising xs ys) (hi : i < xs.length) (hj : j < xs.length)
    (h : xs[i] ≤ xs[j]) : i ≤ j :=
  Nat.le_of_not_lt fun behind => Nat.not_lt.mpr h (rising.threshold_lt hi behind)

end Rising

/-! ## Segments -/

/-- A balance lies in the segment that the point `i` begins: it reaches the threshold of this point,
and not that of the next. -/
def InSegment (xs : List Amount) (i : Nat) (b : Amount) : Prop :=
  ∃ _ : i + 1 < xs.length, xs[i] ≤ b ∧ b < xs[i + 1]

/-- No balance lies in two segments. -/
theorem InSegment.unique (rising : Rising xs ys) (h : InSegment xs i b) (h' : InSegment xs j b) :
    i = j := by
  obtain ⟨hi, reached, missed⟩ := h
  obtain ⟨hj, reached', missed'⟩ := h'
  have before := rising.lt_of_reached (Nat.lt_of_succ_lt hi) hj reached missed'
  have behind := rising.lt_of_reached (Nat.lt_of_succ_lt hj) hi reached' missed
  omega

/-- Behind the place at which the search ends, no threshold is reached, if none was reached behind
the places that it started with. -/
theorem unreached_of_bisect_lt (rising : Rising xs ys) {base size : Nat}
    (beyond : ∀ j (_ : j < xs.length), base + size ≤ j → b < xs[j]) :
    ∀ j (_ : j < xs.length), bisect xs b base size < j → b < xs[j] := by
  induction size using Nat.strongRecOn generalizing base with
  | ind size ih =>
    unfold bisect
    split
    · exact fun j hj behind => beyond j hj (by omega)
    · dsimp only
      split
      · exact ih _ (by omega) fun j hj behind => beyond j hj (by omega)
      · rename_i missed
        refine ih _ (by omega) fun j hj behind => ?_
        -- the half that is dropped begins at the middle, and thresholds rise from there
        have middle : base + size / 2 < xs.length := by omega
        have here : xs[base + size / 2] = xs.getD (base + size / 2) .zero :=
          List.getElem_eq_getD Amount.zero
        rw [← here] at missed
        exact Nat.lt_of_lt_of_le (Nat.lt_of_not_le missed) (rising.threshold_le hj (by omega))

/-- Between the first threshold and the last, the search finds the segment of a balance. -/
theorem inSegment_segment (rising : Rising xs ys) (some' : 0 < xs.length) (above : xs[0] ≤ b)
    (below : b < xs[xs.length - 1]) : InSegment xs (segment ⟨xs, ys⟩ b) b := by
  have inside : bisect xs b 0 xs.length < 0 + xs.length := bisect_lt xs b 0 some'
  rw [Nat.zero_add] at inside
  have reached : xs[bisect xs b 0 xs.length] ≤ b := by
    rcases bisect_reached xs b 0 xs.length with same | reached
    · simp only [same]
      exact above
    · rwa [← List.getElem_eq_getD (h := inside) Amount.zero] at reached
  have short := rising.lt_of_reached inside (by omega) reached below
  have unreached : ∀ j (_ : j < xs.length), bisect xs b 0 xs.length < j → b < xs[j] :=
    unreached_of_bisect_lt rising fun j hj behind => absurd hj (by omega)
  have next : bisect xs b 0 xs.length + 1 < xs.length := by omega
  exact ⟨next, reached, unreached _ next (Nat.lt_succ_self _)⟩

/-! ## Lines -/

/-- The value at `x` of the line from `(x₀, y₀)` to `(x₁, y₁)`, rounded down. -/
def line (x₀ x₁ : Amount) (y₀ y₁ : UInt64) (x : Amount) : Nat :=
  y₀.toNat + (y₁.toNat - y₀.toNat) * (x.toNat - x₀.toNat) / (x₁.toNat - x₀.toNat)

section Lines

variable {x₀ x₁ x x' : Amount} {y₀ y₁ : UInt64}

/-- A line that rises is never below its first point. -/
theorem le_line (x₀ x₁ : Amount) (y₀ y₁ : UInt64) (x : Amount) : y₀.toNat ≤ line x₀ x₁ y₀ y₁ x :=
  Nat.le_add_right _ _

/-- A line between two points ends no higher than the second. -/
theorem line_le (higher : y₀ ≤ y₁) (within : x ≤ x₁) : line x₀ x₁ y₀ y₁ x ≤ y₁.toNat := by
  have part : (y₁.toNat - y₀.toNat) * (x.toNat - x₀.toNat) / (x₁.toNat - x₀.toNat) ≤
      y₁.toNat - y₀.toNat := by
    apply Nat.div_le_of_le_mul
    rw [Nat.mul_comm]
    exact Nat.mul_le_mul_right _ (Nat.sub_le_sub_right within _)
  rw [UInt64.le_iff_toNat_le] at higher
  unfold line
  omega

/-- Up to its first point a line is constant. -/
theorem line_of_le (low : x ≤ x₀) : line x₀ x₁ y₀ y₁ x = y₀.toNat := by
  have start : x.toNat - x₀.toNat = 0 := Nat.sub_eq_zero_of_le low
  rw [line, start, Nat.mul_zero, Nat.zero_div, Nat.add_zero]

/-- A line between rising points rises. -/
theorem line_mono (more : x ≤ x') : line x₀ x₁ y₀ y₁ x ≤ line x₀ x₁ y₀ y₁ x' :=
  Nat.add_le_add_left (Nat.div_le_div_right (Nat.mul_le_mul_left _
    (Nat.sub_le_sub_right more _))) _

/-- On a segment, nothing is cut off the value of the line. -/
theorem toNat_interpolate (missed : x < x₁) (higher : y₀ ≤ y₁) :
    (interpolate x₀ x₁ y₀ y₁ x).toNat = line x₀ x₁ y₀ y₁ x := by
  unfold interpolate
  split
  · rename_i outside
    refine (line_of_le ?_).symm
    rcases outside with low | backwards
    · exact low
    · exact Nat.le_trans (Nat.le_of_lt missed) backwards
  · have highest : line x₀ x₁ y₀ y₁ x ≤ y₁.toNat := line_le higher (Nat.le_of_lt missed)
    have word : y₁.toNat < UInt64.size := y₁.toNat_lt
    have short : ¬ x₁ ≤ x := Nat.not_le.mpr missed
    unfold line at highest ⊢
    dsimp only
    rw [if_neg short, Nat.mod_eq_of_lt (by omega), Nat.min_eq_left (by omega),
      UInt64.toNat_ofNat_of_lt' (by omega)]

/-- The line as a ratio that is rounded down. -/
theorem line_eq_floor (reached : x₀ ≤ x) (missed : x < x₁) (higher : y₀ ≤ y₁) :
    line x₀ x₁ y₀ y₁ x = y₀.toNat +
      ⌊((y₁.toNat : ℚ) - y₀.toNat) * (x.toNat - x₀.toNat) / (x₁.toNat - x₀.toNat)⌋₊ := by
  have longer : x₀.toNat ≤ x₁.toNat := Nat.le_of_lt (Nat.lt_of_le_of_lt reached missed)
  rw [← Nat.cast_sub (UInt64.le_iff_toNat_le.mp higher), ← Nat.cast_sub reached,
    ← Nat.cast_sub longer, ← Nat.cast_mul, Nat.floor_div_eq_div, line]

/-- The product that a line is computed from is in the range of intermediate values. -/
theorem product_lt_bound (y₀ y₁ : UInt64) (x₀ x : Amount) :
    (y₁.toNat - y₀.toNat) * (x.toNat - x₀.toNat) < Wide.bound :=
  calc (y₁.toNat - y₀.toNat) * (x.toNat - x₀.toNat)
      ≤ 2 ^ 64 * 2 ^ 128 := Nat.mul_le_mul
        (Nat.le_trans (Nat.sub_le _ _) (Nat.le_of_lt y₁.toNat_lt))
        (Nat.le_trans (Nat.sub_le _ _) (Nat.le_of_lt x.isLt))
    _ < Wide.bound := by decide

end Lines

/-! ## Readings -/

/-- How a multiplier is read off a curve. -/
inductive Reading (xs : List Amount) (ys : List UInt64) (b : Amount) (y : UInt64) : Prop
  | before (hx : 0 < xs.length) (hy : 0 < ys.length) (low : b ≤ xs[0]) (same : y = ys[0])
  | after (hx : xs.length - 1 < xs.length) (hy : xs.length - 1 < ys.length)
      (high : xs[xs.length - 1] ≤ b) (same : y = ys[xs.length - 1])
  | between (i : Nat) (hx : i + 1 < xs.length) (hy : i + 1 < ys.length) (reached : xs[i] ≤ b)
      (missed : b < xs[i + 1]) (value : y.toNat = line xs[i] xs[i + 1] ys[i] ys[i + 1] b)

/-- A multiplier of an accepted curve is read in one of these ways. -/
theorem reading_of_boostAt (accepted : ofPoints xs ys = .ok c) (h : c.boostAt b = .ok y) :
    Reading xs ys b y := by
  obtain ⟨rfl, lengths, nonempty, -⟩ := ofPoints_eq_ok accepted
  have rising := rising_of_ofPoints accepted
  have some' := List.length_pos_of_ne_nil nonempty
  have first : xs.head? = some xs[0] := by
    rw [List.head?_eq_getElem?, List.getElem?_eq_getElem some']
  have last : xs.getLast? = some xs[xs.length - 1] := by
    rw [List.getLast?_eq_getElem?, List.getElem?_eq_getElem (by omega)]
  simp only [boostAt, first, last] at h
  split at h
  · rename_i low
    refine .before some' (lengths ▸ some') low ?_
    cases ys with
    | nil => exact absurd lengths (Nat.ne_of_gt some')
    | cons y₀ rest => exact (Except.ok.inj h).symm
  · rename_i above
    split at h
    · rename_i high
      refine .after (by omega) (by omega) high ?_
      rw [List.getLast?_eq_getElem?, List.getElem?_eq_getElem (by omega)] at h
      simp only [← lengths] at h
      exact (Except.ok.inj h).symm
    · rename_i below
      obtain ⟨inside, reached, missed⟩ := inSegment_segment rising some'
        (Nat.le_of_not_le above) (Nat.lt_of_not_le below)
      rw [List.getElem?_eq_getElem (by omega), List.getElem?_eq_getElem inside,
        List.getElem?_eq_getElem (by omega), List.getElem?_eq_getElem (by omega)] at h
      cases h
      exact .between _ inside (by omega) reached missed
        (toNat_interpolate missed (rising.multiplier_le _ (Nat.le_add_right _ 1)))

namespace Reading

/-- To the right of a point, the curve is at least as high as the point. -/
theorem ge (rising : Rising xs ys) (h : Reading xs ys b y) (hx : i < xs.length)
    (hy : i < ys.length) (right : xs[i] ≤ b) : ys[i] ≤ y := by
  cases h with
  | before _ _ low same =>
    have first := rising.le_of_threshold_le hx _ (Nat.le_trans right low)
    rw [same]
    exact rising.multiplier_le _ first
  | after _ _ _ same =>
    rw [same]
    exact rising.multiplier_le _ (Nat.le_pred_of_lt hx)
  | between j hj hj' _ missed value =>
    have before : i ≤ j := Nat.le_of_lt_succ (rising.lt_of_reached hx hj right missed)
    refine UInt64.le_trans (rising.multiplier_le (Nat.lt_of_succ_lt hj') before) ?_
    rw [UInt64.le_iff_toNat_le, value]
    exact le_line _ _ _ _ _

/-- To the left of a point, the curve is at most as high as the point. -/
theorem le (rising : Rising xs ys) (h : Reading xs ys b y) (hx : i < xs.length)
    (hy : i < ys.length) (left : b ≤ xs[i]) : y ≤ ys[i] := by
  cases h with
  | before _ _ _ same =>
    rw [same]
    exact rising.multiplier_le _ (Nat.zero_le _)
  | after _ _ high same =>
    have last := rising.le_of_threshold_le _ hx (Nat.le_trans high left)
    rw [same]
    exact rising.multiplier_le _ last
  | between j hj hj' reached missed value =>
    have start : j ≤ i :=
      rising.le_of_threshold_le (Nat.lt_of_succ_lt hj) hx (Nat.le_trans reached left)
    rcases Nat.lt_or_eq_of_le start with before | rfl
    · have next := rising.multiplier_le (i := j + 1) hy before
      refine UInt64.le_trans ?_ next
      rw [UInt64.le_iff_toNat_le, value]
      exact line_le (rising.multiplier_le hj' (Nat.le_add_right j 1)) (Nat.le_of_lt missed)
    · rw [line_of_le left] at value
      exact UInt64.le_of_eq (UInt64.toNat_inj.mp value)

/-- The curve is nowhere lower than its first point. -/
theorem first_le (rising : Rising xs ys) (h : Reading xs ys b y) (hy : 0 < ys.length) :
    ys[0] ≤ y := by
  have reading := h
  cases h with
  | before _ _ _ same => exact UInt64.le_of_eq same.symm
  | after _ _ _ same =>
    rw [same]
    exact rising.multiplier_le _ (Nat.zero_le _)
  | between j hj hj' reached _ _ =>
    have start := rising.multiplier_le (Nat.lt_of_succ_lt hj') (Nat.zero_le j)
    exact UInt64.le_trans start (reading.ge rising (Nat.lt_of_succ_lt hj) _ reached)

/-- The curve is nowhere higher than its last point. -/
theorem le_last (rising : Rising xs ys) (h : Reading xs ys b y) (hy : xs.length - 1 < ys.length) :
    y ≤ ys[xs.length - 1] := by
  have reading := h
  cases h with
  | before _ _ _ same =>
    rw [same]
    exact rising.multiplier_le _ (Nat.zero_le _)
  | after _ _ _ same => exact UInt64.le_of_eq same
  | between j hj hj' _ missed _ =>
    have final := rising.multiplier_le (i := j + 1) hy (Nat.le_pred_of_lt hj)
    exact UInt64.le_trans (reading.le rising hj hj' (Nat.le_of_lt missed)) final

/-- In the segment of a balance, the curve is the line. -/
theorem on_line (rising : Rising xs ys) (h : Reading xs ys b y) (hx : i + 1 < xs.length)
    (hy : i + 1 < ys.length) (reached : xs[i] ≤ b) (missed : b < xs[i + 1]) :
    y.toNat = line xs[i] xs[i + 1] ys[i] ys[i + 1] b := by
  cases h with
  | before some' _ low same =>
    obtain rfl : i = 0 := Nat.le_zero.mp (rising.le_of_threshold_le _ some'
      (Nat.le_trans reached low))
    rw [line_of_le low, same]
  | after last _ high _ =>
    have behind := rising.lt_of_reached last hx high missed
    omega
  | between j hj hj' reached' missed' value =>
    obtain rfl := InSegment.unique rising ⟨hj, reached', missed'⟩ ⟨hx, reached, missed⟩
    exact value

/-- The curve never falls. -/
theorem mono (rising : Rising xs ys) (h : Reading xs ys b y) (h' : Reading xs ys b' y')
    (more : b ≤ b') : y ≤ y' := by
  have reading := h
  cases h with
  | before _ hy _ same =>
    rw [same]
    exact h'.first_le rising hy
  | after hx hy high same =>
    rw [same]
    exact h'.ge rising hx hy (Nat.le_trans high more)
  | between i hx hy reached missed value =>
    rcases Nat.lt_or_ge b'.toNat xs[i + 1].toNat with short | beyond
    · -- both balances are in this segment, and are read off one line
      rw [UInt64.le_iff_toNat_le, value,
        h'.on_line rising hx hy (Nat.le_trans reached more) short]
      exact line_mono more
    · -- the end of the segment is between the balances
      exact UInt64.le_trans (reading.le rising hx hy (Nat.le_of_lt missed))
        (h'.ge rising hx hy beyond)

end Reading

/-! ## Interpolation -/

/-- `f` is the piecewise-linear function through the points with these thresholds and multipliers:
constant before the first point and after the last, and between two neighbours on their line, which
is rounded down. It takes the points to their multipliers, never falls, and stays between the first
multiplier and the last. -/
structure Interpolates (xs : List Amount) (ys : List UInt64) (f : Amount → UInt64) : Prop where
  lengths : xs.length = ys.length
  nonempty : 0 < xs.length
  before : ∀ b, b ≤ xs[0] → f b = ys[0]
  after : ∀ b, xs[xs.length - 1] ≤ b → f b = ys[xs.length - 1]
  /-- A balance between the first threshold and the last lies in one segment. -/
  located : ∀ b, xs[0] ≤ b → b < xs[xs.length - 1] → ∃! i, InSegment xs i b
  between : ∀ b i (_ : i + 1 < xs.length), xs[i] ≤ b → b < xs[i + 1] →
    (f b).toNat = ys[i].toNat +
      ⌊((ys[i + 1].toNat : ℚ) - ys[i].toNat) * (b.toNat - xs[i].toNat) /
        (xs[i + 1].toNat - xs[i].toNat)⌋₊
  /-- The product that the line is computed from is in the range of intermediate values. -/
  inRange : ∀ (b : Amount) i (_ : i + 1 < xs.length),
    (ys[i + 1].toNat - ys[i].toNat) * (b.toNat - xs[i].toNat) < Wide.bound
  through : ∀ i (_ : i < xs.length), f xs[i] = ys[i]
  mono : ∀ b b', b ≤ b' → f b ≤ f b'
  bounded : ∀ b, ys[0] ≤ f b ∧ f b ≤ ys[xs.length - 1]

/-- What is read off an accepted curve interpolates its points. -/
theorem interpolates_of_ofPoints (h : ofPoints xs ys = .ok c) {f : Amount → UInt64}
    (read : ∀ b, c.boostAt b = .ok (f b)) : Interpolates xs ys f := by
  obtain ⟨-, lengths, nonempty, -⟩ := ofPoints_eq_ok h
  have rising := rising_of_ofPoints h
  have some' := List.length_pos_of_ne_nil nonempty
  have reading b : Reading xs ys b (f b) := reading_of_boostAt h (read b)
  refine ⟨lengths, some', fun b low => ?_, fun b high => ?_, fun b above below => ?_,
    fun b i hi reached missed => ?_, fun b i hi => ?_, fun i hi => ?_,
    fun b b' more => (reading b).mono rising (reading b') more,
    fun b => ⟨(reading b).first_le rising _, (reading b).le_last rising _⟩⟩
  · exact UInt64.le_antisymm ((reading b).le rising some' _ low) ((reading b).first_le rising _)
  · exact UInt64.le_antisymm ((reading b).le_last rising _) ((reading b).ge rising _ _ high)
  · exact ⟨_, inSegment_segment rising some' above below, fun j here =>
      here.unique rising (inSegment_segment rising some' above below)⟩
  · rw [← line_eq_floor reached missed (rising.multiplier_le _ (Nat.le_add_right i 1))]
    exact (reading b).on_line rising hi _ reached missed
  · exact product_lt_bound _ _ _ _
  · exact UInt64.le_antisymm ((reading _).le rising hi _ (Nat.le_refl _))
      ((reading _).ge rising hi _ (Nat.le_refl _))

end CollateralDebt.BoostCurve
