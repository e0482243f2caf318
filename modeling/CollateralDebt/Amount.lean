/-!
# Amounts

Quantities of stablecoin, collateral, debt and price are natural numbers below `2 ^ 128`. The bound
is part of the type, so a stored quantity needs no invariant to be encodable, and arithmetic on
amounts is arithmetic on `Nat` followed by one visible range check.

## What is stated here

- `Amount`: the bounded naturals, with order inherited from `Nat`;
- `Amount.ofNat?`: the only partial way in, defined exactly below the bound;
- `Amount.monus`: the difference cut off at zero, which never needs a check.
-/

namespace CollateralDebt

/-- A natural number below `2 ^ 128`. -/
@[ext]
structure Amount where
  toNat : Nat
  isLt : toNat < Nat.pow 2 128
deriving DecidableEq

namespace Amount

/-- No quantity at all. -/
def zero : Amount := ⟨0, by decide⟩

/-- The largest amount, also read as "without limit" in allowances and health factors. -/
def largest : Amount := ⟨Nat.pow 2 128 - 1, by decide⟩

instance : Inhabited Amount := ⟨zero⟩

instance : LT Amount := ⟨fun a b => a.toNat < b.toNat⟩

instance : LE Amount := ⟨fun a b => a.toNat ≤ b.toNat⟩

instance (a b : Amount) : Decidable (a < b) := inferInstanceAs (Decidable (a.toNat < b.toNat))

instance (a b : Amount) : Decidable (a ≤ b) := inferInstanceAs (Decidable (a.toNat ≤ b.toNat))

theorem lt_iff {a b : Amount} : a < b ↔ a.toNat < b.toNat := Iff.rfl

theorem le_iff {a b : Amount} : a ≤ b ↔ a.toNat ≤ b.toNat := Iff.rfl

/-- The smaller of two amounts. -/
instance : Min Amount := ⟨fun a b => if a ≤ b then a else b⟩

/-- The larger of two amounts. -/
instance : Max Amount := ⟨fun a b => if a ≤ b then b else a⟩

/-- The amount with value `n`, if `n` is below the bound. -/
def ofNat? (n : Nat) : Option Amount :=
  if h : n < Nat.pow 2 128 then some ⟨n, h⟩ else none

/-- A machine word is always an amount. -/
def ofUInt64 (n : UInt64) : Amount :=
  ⟨n.toNat, Nat.lt_of_lt_of_le n.toNat_lt (by decide)⟩

/-- The exact difference of an amount and a smaller one. -/
def sub (a b : Amount) (_ : b ≤ a) : Amount :=
  ⟨a.toNat - b.toNat, Nat.lt_of_le_of_lt (Nat.sub_le _ _) a.isLt⟩

/-- The difference cut off at zero. -/
def monus (a b : Amount) : Amount :=
  ⟨a.toNat - b.toNat, Nat.lt_of_le_of_lt (Nat.sub_le _ _) a.isLt⟩

@[simp] theorem toNat_zero : zero.toNat = 0 := rfl

@[simp] theorem toNat_ofUInt64 (n : UInt64) : (ofUInt64 n).toNat = n.toNat := rfl

@[simp] theorem toNat_sub (a b : Amount) (h : b ≤ a) : (a.sub b h).toNat = a.toNat - b.toNat := rfl

@[simp] theorem toNat_monus (a b : Amount) : (a.monus b).toNat = a.toNat - b.toNat := rfl

@[simp] theorem toNat_min (a b : Amount) : (min a b).toNat = min a.toNat b.toNat := by
  show (if a ≤ b then a else b).toNat = _
  rw [Nat.min_def]
  split <;> rename_i h <;> simp only [le_iff] at h <;> simp [h]

/-- A number below the bound is an amount in exactly one way. -/
theorem ofNat?_eq_some_iff {n : Nat} {a : Amount} : ofNat? n = some a ↔ a.toNat = n := by
  unfold ofNat?
  split
  · constructor
    · intro h; cases h; rfl
    · intro h; subst h; rfl
  · rename_i h
    constructor
    · intro h'; cases h'
    · intro h'; exact absurd (h' ▸ a.isLt) h

end Amount

end CollateralDebt
