/-!
# Identifiers of 32 bytes

Accounts, assets, engines, signing keys and digests are all strings of exactly 32 bytes, compared
byte by byte from the left. The order is what fixes the place of an entry in every table keyed by an
account, and so the bytes a persisted state is written as.

## What is stated here

- `Bytes32`: a byte list with its length in the type;
- the order is a lawful linear order (`Std.TransOrd`, `Std.LawfulEqOrd`), inherited from lists.
-/

namespace CollateralDebt

/-- Bytes as they are written, hashed and read. -/
abbrev Bytes := List UInt8

/-- Exactly 32 bytes. -/
@[ext]
structure Bytes32 where
  bytes : Bytes
  length_eq : bytes.length = 32
deriving DecidableEq

/-- An account, an asset or an engine. -/
abbrev Address := Bytes32

namespace Bytes32

/-- The same byte 32 times. -/
def replicate (b : UInt8) : Bytes32 := ⟨List.replicate 32 b, by simp⟩

/-- The zero address: no account at all. -/
def zero : Bytes32 := replicate 0

instance : Inhabited Bytes32 := ⟨zero⟩

/-- The value with the given bytes, if there are 32 of them. -/
def ofBytes? (b : Bytes) : Option Bytes32 :=
  if h : b.length = 32 then some ⟨b, h⟩ else none

instance : Ord Bytes32 := ⟨fun a b => compare a.bytes b.bytes⟩

theorem compare_def (a b : Bytes32) : compare a b = compare a.bytes b.bytes := rfl

instance : Std.TransOrd Bytes32 where
  eq_swap := by
    intro a b
    simp only [compare_def]
    exact Std.OrientedCmp.eq_swap
  isLE_trans := by
    intro a b c
    simp only [compare_def]
    exact Std.TransCmp.isLE_trans

instance : Std.LawfulEqOrd Bytes32 where
  compare_self := by
    intro a
    simp only [compare_def]
    exact Std.ReflCmp.compare_self
  eq_of_compare := by
    intro a b h
    simp only [compare_def] at h
    exact Bytes32.ext (Std.LawfulEqCmp.eq_of_compare h)

/-- Bytes of the right length are a value in exactly one way. -/
theorem ofBytes?_eq_some_iff {b : Bytes} {a : Bytes32} : ofBytes? b = some a ↔ a.bytes = b := by
  unfold ofBytes?
  split
  · constructor
    · intro h; cases h; rfl
    · intro h; subst h; rfl
  · rename_i h
    constructor
    · intro h'; cases h'
    · intro h'; exact absurd (h' ▸ a.length_eq) h

end Bytes32

end CollateralDebt
