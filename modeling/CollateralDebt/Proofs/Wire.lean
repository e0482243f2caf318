import Mathlib.Algebra.Order.Ring.Nat
import Mathlib.Data.List.Induction
import CollateralDebt.Wire

/-!
# Written values are read back

A reader undoes its writer in two senses. Reading what was written gives the value back together
with whatever follows it, so that a sequence of written values is taken apart without a length in
front of it. And what a reader accepts is the written form of what it gives back, so that there is
no second spelling. The first holds of all formats here; the second of all but tables, whose entries
may come in any order.

The length of a list is written in 32 bits. So a format may lack room for a value of its type, and
says which values it has room for.

## What is proved

- `Wire.Faithful`: what fits is read back, whatever follows it, and what is read fits;
- `Wire.Roomy`: a format that has room for every value of its type;
- `Wire.Canonical`: what is read was the written form;
- the instances for the building blocks, and `via` and `viaByte` for types made of others;
- `decode_encode`, `encode_injective`, `encode_of_decode`, `decode_append`, `decode_take`: the same
  for whole inputs.
-/

namespace CollateralDebt.Wire

/-- A format whose reader gives back what its writer wrote, and gives back nothing that the writer
has no room for. -/
class Faithful (α : Type) [Wire α] where
  /-- The values that there is room for. -/
  Fits : α → Prop
  read_encode {a : α} (fits : Fits a) (rest : Bytes) :
    Wire.read (Wire.encode a ++ rest) = some (a, rest)
  fits_of_read {a : α} {input rest : Bytes} (found : Wire.read input = some (a, rest)) : Fits a

/-- A format with room for every value of its type. -/
class Roomy (α : Type) [Wire α] [Faithful α] : Prop where
  fits (a : α) : Faithful.Fits a

/-- A format whose reader accepts nothing but what its writer writes. -/
class Canonical (α : Type) [Wire α] : Prop where
  eq_of_read {a : α} {input rest : Bytes} (found : Wire.read input = some (a, rest)) :
    input = Wire.encode a ++ rest

open Faithful (Fits read_encode fits_of_read)
open Roomy (fits)
open Canonical (eq_of_read)

variable {α β : Type}

/-! ## Integers -/

@[simp] theorem length_littleEndian (width n : Nat) : (littleEndian width n).length = width := by
  induction width generalizing n with
  | zero => rfl
  | succ width ih => simp [littleEndian, ih]

/-- A number that has room in its width is read back from its bytes. -/
theorem ofLittleEndian_littleEndian {width n : Nat} (small : n < 256 ^ width) :
    ofLittleEndian (littleEndian width n) = n := by
  induction width generalizing n with
  | zero =>
    rw [Nat.pow_zero, Nat.lt_one_iff] at small
    exact small.symm
  | succ width ih =>
    have high : n / 256 < 256 ^ width :=
      Nat.div_lt_of_lt_mul (by rwa [Nat.pow_succ, Nat.mul_comm] at small)
    rw [littleEndian, ofLittleEndian, ih high, UInt8.toNat_ofNat']
    exact Nat.mod_add_div n 256

theorem ofLittleEndian_lt (b : Bytes) : ofLittleEndian b < 256 ^ b.length := by
  induction b with
  | nil => exact Nat.one_pos
  | cons x b ih =>
    have low := x.toNat_lt
    rw [ofLittleEndian, List.length_cons, Nat.pow_succ]
    omega

/-- Bytes are written again from the number that they are read as. -/
theorem littleEndian_ofLittleEndian (b : Bytes) :
    littleEndian b.length (ofLittleEndian b) = b := by
  induction b with
  | nil => rfl
  | cons x b ih =>
    have low := x.toNat_lt
    have lowest : UInt8.ofNat (x.toNat + 256 * ofLittleEndian b) = x := by
      apply UInt8.toNat_inj.mp
      rw [UInt8.toNat_ofNat']
      omega
    have higher : (x.toNat + 256 * ofLittleEndian b) / 256 = ofLittleEndian b := by omega
    rw [ofLittleEndian, List.length_cons, littleEndian, lowest, higher, ih]

/-- The first bytes are split off exactly if there are so many. -/
theorem splitBytes_eq_some_iff {n : Nat} {input b rest : Bytes} :
    splitBytes n input = some (b, rest) ↔ b.length = n ∧ input = b ++ rest := by
  unfold splitBytes
  constructor
  · intro found
    split at found
    · rename_i enough
      obtain ⟨rfl, rfl⟩ := Prod.mk.inj (Option.some.inj found)
      exact ⟨List.length_take_of_le enough, (List.take_append_drop n input).symm⟩
    · cases found
  · rintro ⟨rfl, rfl⟩
    rw [if_pos (by simp), List.take_left, List.drop_left]

/-- A number of a fixed width is read exactly from its written form. -/
theorem readNat_eq_some_iff {width n : Nat} {input rest : Bytes} :
    readNat width input = some (n, rest) ↔
      n < 256 ^ width ∧ input = littleEndian width n ++ rest := by
  unfold readNat
  constructor
  · intro found
    obtain ⟨⟨b, more⟩, taken, same⟩ := Option.map_eq_some_iff.mp found
    obtain ⟨rfl, rfl⟩ := splitBytes_eq_some_iff.mp taken
    obtain ⟨rfl, rfl⟩ := Prod.mk.inj same
    exact ⟨ofLittleEndian_lt b, by rw [littleEndian_ofLittleEndian]⟩
  · rintro ⟨small, rfl⟩
    rw [splitBytes_eq_some_iff.mpr ⟨length_littleEndian width n, rfl⟩]
    show some (ofLittleEndian (littleEndian width n), rest) = _
    rw [ofLittleEndian_littleEndian small]

instance : Faithful UInt8 where
  Fits _ := True
  read_encode _ _ := rfl
  fits_of_read _ := trivial

instance : Roomy UInt8 := ⟨fun _ => trivial⟩

instance : Canonical UInt8 where
  eq_of_read {a input rest} found := by
    cases input with
    | nil => cases found
    | cons b more =>
      cases found
      rfl

/-- A word is read exactly from the written form of its number. -/
theorem map_readNat_eq_some_iff {width : Nat} {toNat : α → Nat} {ofNat : Nat → α}
    (small : ∀ a, toNat a < 256 ^ width) (back : ∀ a, ofNat (toNat a) = a)
    (forth : ∀ n, n < 256 ^ width → toNat (ofNat n) = n) {a : α} {input rest : Bytes} :
    ((readNat width input).map fun p => (ofNat p.1, p.2)) = some (a, rest) ↔
      input = littleEndian width (toNat a) ++ rest := by
  constructor
  · intro found
    obtain ⟨⟨n, more⟩, read, same⟩ := Option.map_eq_some_iff.mp found
    obtain ⟨word, rfl⟩ := readNat_eq_some_iff.mp read
    obtain ⟨rfl, rfl⟩ := Prod.mk.inj same
    rw [forth n word]
  · rintro rfl
    rw [readNat_eq_some_iff.mpr ⟨small a, rfl⟩, Option.map_some, back]

/-- A word is read exactly where it is written, whatever follows. -/
theorem read_uint32_eq_some_iff {n : UInt32} {input rest : Bytes} :
    Wire.read input = some (n, rest) ↔ input = Wire.encode n ++ rest :=
  map_readNat_eq_some_iff (fun n => n.toNat_lt) (fun _ => UInt32.ofNat_toNat)
    fun _ word => UInt32.toNat_ofNat_of_lt' word

theorem read_uint64_eq_some_iff {n : UInt64} {input rest : Bytes} :
    Wire.read input = some (n, rest) ↔ input = Wire.encode n ++ rest :=
  map_readNat_eq_some_iff (fun n => n.toNat_lt) (fun _ => UInt64.ofNat_toNat)
    fun _ word => UInt64.toNat_ofNat_of_lt' word

instance : Faithful UInt32 where
  Fits _ := True
  read_encode _ _ := read_uint32_eq_some_iff.mpr rfl
  fits_of_read _ := trivial

instance : Roomy UInt32 := ⟨fun _ => trivial⟩

instance : Canonical UInt32 := ⟨read_uint32_eq_some_iff.mp⟩

instance : Faithful UInt64 where
  Fits _ := True
  read_encode _ _ := read_uint64_eq_some_iff.mpr rfl
  fits_of_read _ := trivial

instance : Roomy UInt64 := ⟨fun _ => trivial⟩

instance : Canonical UInt64 := ⟨read_uint64_eq_some_iff.mp⟩

instance : Faithful Amount where
  Fits _ := True
  read_encode {a} _ rest := by
    show (readNat 16 (littleEndian 16 a.toNat ++ rest)).bind _ = _
    have written : Amount.ofNat? a.toNat = some a := Amount.ofNat?_eq_some_iff.mpr rfl
    rw [readNat_eq_some_iff.mpr ⟨a.isLt, rfl⟩, Option.bind_some]
    show (Amount.ofNat? a.toNat).bind _ = _
    rw [written]
    rfl
  fits_of_read _ := trivial

instance : Roomy Amount := ⟨fun _ => trivial⟩

instance : Canonical Amount where
  eq_of_read {a input rest} found := by
    obtain ⟨⟨n, more⟩, read, found⟩ := Option.bind_eq_some_iff.mp found
    obtain ⟨b, small, same⟩ := Option.bind_eq_some_iff.mp found
    obtain ⟨-, rfl⟩ := readNat_eq_some_iff.mp read
    obtain ⟨rfl, rfl⟩ := Prod.mk.inj (Option.some.inj same)
    rw [← Amount.ofNat?_eq_some_iff.mp small]
    rfl

instance : Faithful Bool where
  Fits _ := True
  read_encode {b} _ _ := by cases b <;> rfl
  fits_of_read _ := trivial

instance : Roomy Bool := ⟨fun _ => trivial⟩

/-- A truth value is read from a 0 or a 1. -/
instance : Canonical Bool where
  eq_of_read {a input rest} found := by
    simp only [Wire.read] at found
    split at found <;> cases found <;> rfl

/-! ## Compounds -/

instance : Faithful Bytes32 where
  Fits _ := True
  read_encode {a} _ rest := by
    show (splitBytes 32 (a.bytes ++ rest)).bind _ = _
    have written : Bytes32.ofBytes? a.bytes = some a := Bytes32.ofBytes?_eq_some_iff.mpr rfl
    rw [splitBytes_eq_some_iff.mpr ⟨a.length_eq, rfl⟩, Option.bind_some]
    show (Bytes32.ofBytes? a.bytes).bind _ = _
    rw [written]
    rfl
  fits_of_read _ := trivial

instance : Roomy Bytes32 := ⟨fun _ => trivial⟩

instance : Canonical Bytes32 where
  eq_of_read {a input rest} found := by
    obtain ⟨⟨b, more⟩, read, found⟩ := Option.bind_eq_some_iff.mp found
    obtain ⟨c, sized, same⟩ := Option.bind_eq_some_iff.mp found
    obtain ⟨-, rfl⟩ := splitBytes_eq_some_iff.mp read
    obtain ⟨rfl, rfl⟩ := Prod.mk.inj (Option.some.inj same)
    rw [← Bytes32.ofBytes?_eq_some_iff.mp sized]
    rfl

instance : Faithful Unit where
  Fits _ := True
  read_encode _ _ := rfl
  fits_of_read _ := trivial

instance : Roomy Unit := ⟨fun _ => trivial⟩

section Pairs

variable [Wire α] [Wire β]

/-- A pair is read one part after the other. -/
theorem read_pair_eq_some {p : α × β} {input rest : Bytes}
    (found : Wire.read input = some (p, rest)) :
    ∃ more, Wire.read input = some (p.1, more) ∧ Wire.read more = some (p.2, rest) := by
  obtain ⟨⟨a, more⟩, first, found⟩ := Option.bind_eq_some_iff.mp found
  obtain ⟨⟨b, last⟩, second, same⟩ := Option.bind_eq_some_iff.mp found
  obtain ⟨rfl, rfl⟩ := Prod.mk.inj (Option.some.inj same)
  exact ⟨more, first, second⟩

instance [Faithful α] [Faithful β] : Faithful (α × β) where
  Fits p := Fits p.1 ∧ Fits p.2
  read_encode {p} fits rest := by
    show Option.bind (Wire.read ((Wire.encode p.1 ++ Wire.encode p.2) ++ rest)) _ = _
    rw [List.append_assoc, read_encode fits.1, Option.bind_some]
    show Option.bind (Wire.read (Wire.encode p.2 ++ rest)) _ = _
    rw [read_encode fits.2]
    rfl
  fits_of_read found := by
    obtain ⟨_, first, second⟩ := read_pair_eq_some found
    exact ⟨fits_of_read first, fits_of_read second⟩

instance [Faithful α] [Faithful β] [Roomy α] [Roomy β] : Roomy (α × β) :=
  ⟨fun p => ⟨fits p.1, fits p.2⟩⟩

instance [Canonical α] [Canonical β] : Canonical (α × β) where
  eq_of_read {p input rest} found := by
    obtain ⟨more, first, second⟩ := read_pair_eq_some found
    calc input = Wire.encode p.1 ++ more := eq_of_read first
      _ = Wire.encode p.1 ++ (Wire.encode p.2 ++ rest) := by rw [eq_of_read second]
      _ = Wire.encode p ++ rest := (List.append_assoc _ _ _).symm

end Pairs

/-! ## Lists -/

section Lists

variable [Wire α]

/-- A list that was written entry by entry is read back, whatever follows. -/
theorem readMany_flatMap [Faithful α] {l : List α} (fits : ∀ a ∈ l, Fits a) (rest : Bytes) :
    readMany l.length (l.flatMap Wire.encode ++ rest) = some (l, rest) := by
  induction l with
  | nil => rfl
  | cons a l ih =>
    have tail := ih fun b mem => fits b (List.mem_cons_of_mem a mem)
    rw [List.flatMap_cons, List.append_assoc, List.length_cons, readMany]
    simp only [read_encode (fits a List.mem_cons_self), tail, Option.bind_eq_bind,
      Option.bind_some, Option.pure_def]

/-- A list is read from its first entry on. -/
theorem readMany_succ_eq_some {n : Nat} {l : List α} {input rest : Bytes}
    (found : readMany (n + 1) input = some (l, rest)) :
    ∃ a more as, Wire.read input = some (a, more) ∧ readMany n more = some (as, rest) ∧
      l = a :: as := by
  obtain ⟨⟨a, more⟩, first, found⟩ := Option.bind_eq_some_iff.mp found
  obtain ⟨⟨as, last⟩, others, same⟩ := Option.bind_eq_some_iff.mp found
  obtain ⟨rfl, rfl⟩ := Prod.mk.inj (Option.some.inj same)
  exact ⟨a, more, as, first, others, rfl⟩

/-- As many entries are read as were asked for. -/
theorem length_of_readMany {n : Nat} {l : List α} {input rest : Bytes}
    (found : readMany n input = some (l, rest)) : l.length = n := by
  induction n generalizing input l with
  | zero =>
    cases found
    rfl
  | succ n ih =>
    obtain ⟨a, more, as, -, others, rfl⟩ := readMany_succ_eq_some found
    rw [List.length_cons, ih others]

/-- There is room for every entry that was read. -/
theorem fits_of_readMany [Faithful α] {n : Nat} {l : List α} {input rest : Bytes}
    (found : readMany n input = some (l, rest)) : ∀ a ∈ l, Fits a := by
  induction n generalizing input l with
  | zero =>
    cases found
    exact fun _ mem => absurd mem List.not_mem_nil
  | succ n ih =>
    obtain ⟨a, more, as, first, others, rfl⟩ := readMany_succ_eq_some found
    exact List.forall_mem_cons.mpr ⟨fits_of_read first, ih others⟩

/-- What was read as a list is the written form of its entries, one after the other. -/
theorem eq_of_readMany [Canonical α] {n : Nat} {l : List α} {input rest : Bytes}
    (found : readMany n input = some (l, rest)) : input = l.flatMap Wire.encode ++ rest := by
  induction n generalizing input l with
  | zero =>
    cases found
    rfl
  | succ n ih =>
    obtain ⟨a, more, as, first, others, rfl⟩ := readMany_succ_eq_some found
    rw [List.flatMap_cons, List.append_assoc, ← ih others]
    exact eq_of_read first

/-- A list is read by its length first. -/
theorem read_list_eq_some {l : List α} {input rest : Bytes}
    (found : Wire.read input = some (l, rest)) :
    ∃ (n : UInt32) (more : Bytes), Wire.read input = some (n, more) ∧
      readMany n.toNat more = some (l, rest) := by
  obtain ⟨⟨n, more⟩, counted, found⟩ := Option.bind_eq_some_iff.mp found
  exact ⟨n, more, counted, found⟩

/-- There is room for a list whose length has 32 bits, if there is for its members. -/
instance [Faithful α] : Faithful (List α) where
  Fits l := l.length < 2 ^ 32 ∧ ∀ a ∈ l, Fits a
  read_encode {l} fits rest := by
    show Option.bind (Wire.read ((Wire.encode (UInt32.ofNat l.length) ++ l.flatMap Wire.encode) ++
      rest)) _ = _
    rw [List.append_assoc, read_encode trivial, Option.bind_some]
    show readMany (UInt32.ofNat l.length).toNat _ = _
    rw [UInt32.toNat_ofNat_of_lt' fits.1]
    exact readMany_flatMap fits.2 rest
  fits_of_read found := by
    obtain ⟨n, more, -, members⟩ := read_list_eq_some found
    exact ⟨length_of_readMany members ▸ n.toNat_lt, fits_of_readMany members⟩

/-- There is room for a list of short entries if its length can be written. -/
theorem fits_list_iff [Faithful α] [Roomy α] {l : List α} : Fits l ↔ l.length < 2 ^ 32 :=
  ⟨fun h => h.1, fun h => ⟨h, fun a _ => fits a⟩⟩

instance [Canonical α] : Canonical (List α) where
  eq_of_read {l input rest} found := by
    obtain ⟨n, more, counted, members⟩ := read_list_eq_some found
    show _ = (Wire.encode (UInt32.ofNat l.length) ++ l.flatMap Wire.encode) ++ rest
    rw [List.append_assoc, ← eq_of_readMany members, length_of_readMany members,
      UInt32.ofNat_toNat]
    exact eq_of_read counted

end Lists

/-! ## Types that are others in disguise -/

section Via

variable [Wire β] {form : α → β} {of : β → α}

/-- A value in disguise is read back as what it stands for. -/
theorem readAs_encode [Faithful β] {b : β} (room : Fits b) (f : β → α) (rest : Bytes) :
    readAs f (Wire.encode b ++ rest) = some (f b, rest) := by
  unfold readAs
  rw [read_encode room]
  rfl

/-- What is read in disguise was read as what it stands for. -/
theorem readAs_eq_some {f : β → α} {a : α} {input rest : Bytes}
    (found : readAs f input = some (a, rest)) :
    ∃ b, Wire.read input = some (b, rest) ∧ f b = a := by
  obtain ⟨⟨b, more⟩, read, same⟩ := Option.map_eq_some_iff.mp found
  obtain ⟨rfl, rfl⟩ := Prod.mk.inj same
  exact ⟨b, read, rfl⟩

/-- There is room for a value in disguise if there is for what it is. -/
@[reducible] def Faithful.via [Faithful β] (of_form : ∀ a, of (form a) = a)
    (fits_form : ∀ b, Fits b → Fits (form (of b))) : @Faithful α (Wire.via form of) :=
  let _ : Wire α := Wire.via form of
  { Fits := fun a => Fits (form a)
    read_encode := fun {a} room rest => by
      show readAs of (Wire.encode (form a) ++ rest) = _
      rw [readAs_encode room, of_form]
    fits_of_read := fun found => by
      obtain ⟨b, read, rfl⟩ := readAs_eq_some found
      exact fits_form b (fits_of_read read) }

/-- A disguise that can be taken off and put on again is read in one form only. -/
theorem Canonical.via [Canonical β] (form_of : ∀ b, form (of b) = b) :
    @Canonical α (Wire.via form of) :=
  let _ : Wire α := Wire.via form of
  { eq_of_read := fun {a input rest} found => by
      obtain ⟨b, read, rfl⟩ := readAs_eq_some found
      show _ = Wire.encode (form (of b)) ++ rest
      rw [form_of]
      exact eq_of_read read }

/-- An enumeration is read back if each of its values has a byte of its own. -/
@[reducible] def Faithful.viaByte {toByte : α → UInt8} {ofByte? : UInt8 → Option α}
    (back : ∀ a, ofByte? (toByte a) = some a) : @Faithful α (Wire.viaByte toByte ofByte?) :=
  let _ : Wire α := Wire.viaByte toByte ofByte?
  { Fits := fun _ => True
    read_encode := fun {a} _ rest => by
      show (ofByte? (toByte a)).map _ = _
      rw [back]
      rfl
    fits_of_read := fun _ => trivial }

/-- So is an enumeration in which no byte stands for a value that is written otherwise. -/
theorem Canonical.viaByte {toByte : α → UInt8} {ofByte? : UInt8 → Option α}
    (only : ∀ b a, ofByte? b = some a → toByte a = b) :
    @Canonical α (Wire.viaByte toByte ofByte?) :=
  let _ : Wire α := Wire.viaByte toByte ofByte?
  { eq_of_read := fun {a input rest} found => by
      cases input with
      | nil => cases found
      | cons b more =>
        obtain ⟨a', known, same⟩ := Option.map_eq_some_iff.mp found
        obtain ⟨rfl, rfl⟩ := Prod.mk.inj same
        show b :: more = [toByte a'] ++ more
        rw [only b a' known]
        rfl }

end Via

instance : Faithful Vault := .via (fun _ => rfl) fun _ h => h

instance : Roomy Vault := ⟨fun _ => ⟨trivial, trivial⟩⟩

/-! ## Text -/

/-- A text is what its bytes are read as, and has no others. -/
theorem fromUTF8?_eq_some_iff {b : ByteArray} {s : String} :
    String.fromUTF8? b = some s ↔ s.toUTF8 = b := by
  unfold String.fromUTF8?
  constructor
  · intro text
    split at text
    · cases text
      rfl
    · cases text
  · rintro rfl
    exact dif_pos s.isValidUTF8

/-- There is room for a text whose number of bytes has 32 bits. -/
instance : Faithful String where
  Fits s := s.utf8ByteSize < 2 ^ 32
  read_encode {s} room rest := by
    have room : Fits s.toUTF8.data.toList := fits_list_iff.mpr room
    show Option.bind (Wire.read (Wire.encode s.toUTF8.data.toList ++ rest)) _ = _
    rw [read_encode room, Option.bind_some]
    show (String.fromUTF8? ⟨s.toUTF8.data.toList.toArray⟩).bind _ = _
    rw [Array.toArray_toList, fromUTF8?_eq_some_iff.mpr rfl]
    rfl
  fits_of_read {s input rest} found := by
    obtain ⟨⟨b, more⟩, read, found⟩ := Option.bind_eq_some_iff.mp found
    obtain ⟨s', text, same⟩ := Option.bind_eq_some_iff.mp found
    obtain ⟨rfl, rfl⟩ := Prod.mk.inj (Option.some.inj same)
    have room : b.length < 2 ^ 32 := fits_list_iff.mp (fits_of_read read)
    show s'.toUTF8.size < _
    rw [fromUTF8?_eq_some_iff.mp text]
    exact room

/-! ## Tables -/

section Tables

variable {κ ν : Type} [Ord κ] [Std.TransOrd κ] [Std.LawfulEqOrd κ]

omit [Std.TransOrd κ] [Std.LawfulEqOrd κ] in
/-- An insertion makes a list longer by at most one. -/
theorem length_insertEntry_le (k : κ) (v : ν) (l : List (κ × ν)) :
    (Table.insertEntry k v l).length ≤ l.length + 1 := by
  induction l with
  | nil => exact Nat.le_refl _
  | cons e l ih =>
    unfold Table.insertEntry
    split
    · exact Nat.le_refl _
    · exact Nat.le_succ _
    · exact Nat.succ_le_succ ih

/-- A table has no more entries than the list that it is read from, and no others. -/
theorem ofList_entries_le (l : List (κ × ν)) :
    (Table.ofList l).entries.length ≤ l.length ∧ ∀ e ∈ (Table.ofList l).entries, e ∈ l := by
  -- on the entries from the last one back
  induction l using List.reverseRecOn with
  | nil => exact ⟨Nat.le_refl _, fun _ mem => mem⟩
  | append_singleton l e ih =>
    have step : Table.ofList (l ++ [e]) = (Table.ofList l).insert e.1 e.2 := by
      unfold Table.ofList
      rw [List.foldl_append]
      rfl
    rw [step]
    constructor
    · rw [List.length_append]
      exact Nat.le_trans (length_insertEntry_le _ _ _) (Nat.succ_le_succ ih.1)
    · intro e' mem
      rcases Table.mem_insertEntry mem with rfl | mem
      · exact List.mem_append_right l List.mem_cons_self
      · exact List.mem_append_left _ (ih.2 e' mem)

variable [Wire κ] [Wire ν] [Faithful κ] [Faithful ν]

/-- There is room for a table if there is for the list of its entries. -/
instance : Faithful (Table κ ν) :=
  .via (β := List (κ × ν)) Table.ofList_entries fun l room =>
    have entries := ofList_entries_le l
    And.intro (Nat.lt_of_le_of_lt entries.1 room.1) fun e mem => room.2 e (entries.2 e mem)

/-- There is room for a table if its size can be written, and there is for each of its values. -/
theorem fits_table_iff [Roomy κ] {t : Table κ ν} :
    Fits t ↔ t.size < 2 ^ 32 ∧ ∀ v ∈ t.values, Fits v := by
  constructor
  · intro room
    refine ⟨room.1, fun v mem => ?_⟩
    obtain ⟨e, there, rfl⟩ := List.mem_map.mp mem
    exact (room.2 e there).2
  · intro room
    exact ⟨room.1, fun e mem => ⟨fits e.1, room.2 e.2 (List.mem_map_of_mem mem)⟩⟩

theorem fits_table_iff_size [Roomy κ] [Roomy ν] {t : Table κ ν} : Fits t ↔ t.size < 2 ^ 32 :=
  fits_list_iff (l := t.entries)

end Tables

/-! ## Whole inputs -/

section Whole

variable [Wire α] {a b : α} {input : Bytes}

/-- Decoding reads to the end, and leaves nothing over. -/
theorem decode_eq_some_iff : decode input = some a ↔ Wire.read input = some (a, []) := by
  unfold decode
  constructor
  · intro found
    split at found
    · rename_i read
      cases found
      exact read
    · cases found
  · intro read
    rw [read]

/-- What was decoded is the written form of its value. -/
theorem encode_of_decode [Canonical α] (found : decode input = some a) : Wire.encode a = input := by
  rw [eq_of_read (decode_eq_some_iff.mp found), List.append_nil]

variable [Faithful α]

/-- What was written is decoded again. -/
theorem decode_encode (room : Fits a) : decode (Wire.encode a) = some a := by
  have read := read_encode room []
  rw [List.append_nil] at read
  exact decode_eq_some_iff.mpr read

theorem fits_of_decode (found : decode input = some a) : Fits a :=
  fits_of_read (decode_eq_some_iff.mp found)

/-- Different values are written differently. -/
theorem encode_injective (hb : Fits b) (ha : Fits a) (same : Wire.encode a = Wire.encode b) :
    a = b := by
  have read := decode_encode ha
  rw [same, decode_encode hb] at read
  exact (Option.some.inj read).symm

variable [Canonical α]

/-- Nothing may follow a whole input. -/
theorem decode_append (found : decode input = some a) {more : Bytes} (some' : more ≠ []) :
    decode (α := α) (input ++ more) = none := by
  unfold decode
  rw [← encode_of_decode found, read_encode (fits_of_decode found)]
  split
  · rename_i ended
    cases ended
    exact absurd rfl some'
  · rfl

/-- Nothing may be missing at the end of a whole input. -/
theorem decode_take (found : decode input = some a) {n : Nat} (less : n < input.length) :
    decode (α := α) (input.take n) = none := by
  cases short : decode (α := α) (input.take n) with
  | none => rfl
  | some b =>
    have missing : input.drop n ≠ [] := fun none =>
      absurd (List.drop_eq_nil_iff.mp none) (Nat.not_le.mpr less)
    have refused := decode_append short missing
    rw [List.take_append_drop, found] at refused
    cases refused

end Whole

end CollateralDebt.Wire
