import CollateralDebt.Table
import CollateralDebt.Bytes32
import CollateralDebt.Vault

/-!
# The wire format

Values are written as bytes without any description of themselves: integers little-endian in a fixed
width, a truth value as one byte 0 or 1, 32-byte values as they are, text and lists with a 32-bit
length in front, tables and sets as the list of their entries, and a record as its fields in order.

A reader takes a value off the front of its input and hands back the rest, so readers compose in the
order in which writers append. `decode` is a reader that has to use up its input.

A table is written in ascending order of its keys and read in any order; of repeated keys the last
entry counts.

## What is stated here

- `Wire`: a type with a written form;
- instances for the building blocks, and `Wire.via` for types that are tuples in disguise;
- `decode`: reading of a whole input.
-/

namespace CollateralDebt

/-- A type whose values are written as bytes and read from the front of bytes. -/
class Wire (α : Type) where
  encode : α → Bytes
  read : Bytes → Option (α × Bytes)

namespace Wire

variable {α β : Type}

/-- The value that the whole input is the written form of. -/
def decode [Wire α] (input : Bytes) : Option α :=
  match Wire.read input with
  | some (a, []) => some a
  | _ => none

/-- Read a `β` and turn it into an `α`. -/
def readAs [Wire β] (f : β → α) (input : Bytes) : Option (α × Bytes) :=
  (Wire.read input).map fun (b, rest) => (f b, rest)

/-- The written form of another type, for a type that is the same in other clothes. -/
@[reducible] def via [Wire β] (form : α → β) (of : β → α) : Wire α where
  encode a := Wire.encode (form a)
  read := readAs of

/-! ## Integers -/

/-- The lowest `width` bytes of a number, lowest first. -/
def littleEndian : Nat → Nat → Bytes
  | 0, _ => []
  | width + 1, n => UInt8.ofNat n :: littleEndian width (n / 256)

/-- The number with these bytes, lowest first. -/
def ofLittleEndian : Bytes → Nat
  | [] => 0
  | b :: rest => b.toNat + 256 * ofLittleEndian rest

/-- The first `n` bytes and the rest, if there are that many. -/
def splitBytes (n : Nat) (input : Bytes) : Option (Bytes × Bytes) :=
  if n ≤ input.length then some (input.take n, input.drop n) else none

/-- Read a number of a fixed width. -/
def readNat (width : Nat) (input : Bytes) : Option (Nat × Bytes) :=
  (splitBytes width input).map fun (b, rest) => (ofLittleEndian b, rest)

instance : Wire UInt8 where
  encode b := [b]
  read
    | [] => none
    | b :: rest => some (b, rest)

instance : Wire UInt32 where
  encode n := littleEndian 4 n.toNat
  read input := (readNat 4 input).map fun (n, rest) => (UInt32.ofNat n, rest)

instance : Wire UInt64 where
  encode n := littleEndian 8 n.toNat
  read input := (readNat 8 input).map fun (n, rest) => (UInt64.ofNat n, rest)

instance : Wire Amount where
  encode a := littleEndian 16 a.toNat
  read input := do
    let (n, rest) ← readNat 16 input
    return (← Amount.ofNat? n, rest)

instance : Wire Bool where
  encode b := [if b then 1 else 0]
  read
    | 0 :: rest => some (false, rest)
    | 1 :: rest => some (true, rest)
    | _ => none

/-! ## Compounds -/

instance : Wire Bytes32 where
  encode b := b.bytes
  read input := do
    let (b, rest) ← splitBytes 32 input
    return (← Bytes32.ofBytes? b, rest)

instance [Wire α] [Wire β] : Wire (α × β) where
  encode p := Wire.encode p.1 ++ Wire.encode p.2
  read input := do
    let (a, rest) ← Wire.read input
    let (b, rest) ← Wire.read rest
    return ((a, b), rest)

/-- Read so many values one after the other. -/
def readMany [Wire α] : Nat → Bytes → Option (List α × Bytes)
  | 0, input => some ([], input)
  | n + 1, input => do
    let (a, rest) ← Wire.read input
    let (as, rest) ← readMany n rest
    return (a :: as, rest)

instance [Wire α] : Wire (List α) where
  encode l := Wire.encode (UInt32.ofNat l.length) ++ l.flatMap Wire.encode
  read input := do
    let (n, rest) ← Wire.read (α := UInt32) input
    readMany n.toNat rest

instance : Wire Unit where
  encode _ := []
  read input := some ((), input)

instance {κ ν : Type} [Ord κ] [Std.TransOrd κ] [Std.LawfulEqOrd κ] [Wire κ] [Wire ν] :
    Wire (Table κ ν) :=
  via Table.entries Table.ofList

/-- Text is written as its UTF-8 bytes; bytes that are no UTF-8 are refused. -/
instance : Wire String where
  encode s := Wire.encode s.toUTF8.data.toList
  read input := do
    let (b, rest) ← Wire.read (α := Bytes) input
    return (← String.fromUTF8? ⟨b.toArray⟩, rest)

instance : Wire Vault :=
  via (fun v => (v.collateral, v.normalizedDebt)) fun (collateral, debt) => ⟨collateral, debt⟩

/-- The written form of an enumeration: the byte that each of its values is given. -/
@[reducible] def viaByte (toByte : α → UInt8) (ofByte? : UInt8 → Option α) : Wire α where
  encode a := [toByte a]
  read
    | [] => none
    | b :: rest => (ofByte? b).map (·, rest)

end Wire

end CollateralDebt
