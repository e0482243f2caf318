import CollateralDebt.Bytes32
import CollateralDebt.Vault

/-!
# Documents

A document is a value that describes itself: numbers, texts and bytes, lists, and records of named
fields. What is published about a cause, an event or a market is a document, so that whoever shows
it or stores it needs to know documents only. Field names are part of what is published and do not
change with the names of this library.

## What is stated here

- `Document`: the self-describing values;
- `Documented`: the types with a published form, and the instances for the building blocks.
-/

namespace CollateralDebt

/-- A value that describes itself. -/
inductive Document where
  /-- No value. -/
  | nothing
  | flag (b : Bool)
  | text (s : String)
  | number (n : Nat)
  | bytes (b : Bytes)
  /-- A value of 32 bytes, which may have a short spelling. -/
  | address (b : Bytes32)
  | items (l : List Document)
  | fields (l : List (String × Document))

/-- A type whose values have a published form. -/
class Documented (α : Type) where
  document : α → Document

export Documented (document)

namespace Document

/-- One case among several: its name, with its fields. -/
def tagged (name : String) (l : List (String × Document)) : Document := .fields [(name, .fields l)]

end Document

namespace Documented

variable {α : Type}

instance : Documented Document := ⟨id⟩

instance : Documented Bool := ⟨.flag⟩

instance : Documented Nat := ⟨.number⟩

instance : Documented UInt8 := ⟨fun n => .number n.toNat⟩

instance : Documented UInt64 := ⟨fun n => .number n.toNat⟩

instance : Documented Amount := ⟨fun n => .number n.toNat⟩

instance : Documented Bytes32 := ⟨.address⟩

instance : Documented String := ⟨.text⟩

instance [Documented α] : Documented (List α) := ⟨fun l => .items (l.map document)⟩

instance [Documented α] : Documented (Option α) := ⟨fun o => o.elim .nothing document⟩

instance : Documented Vault :=
  ⟨fun v => .fields [("collateral_amount", document v.collateral),
    ("normalized_debt", document v.normalizedDebt)]⟩

end Documented

end CollateralDebt
