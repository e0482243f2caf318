import CollateralDebt.Event
import CollateralDebt.Proofs.Wire

/-!
# The written form of events

An event is written as one byte for its kind, followed by its fields. Every event whose lists are
short enough for their lengths has exactly one written form that is read, and it is read as that
event. What is not such a form is refused: bytes that no kind, no parameter and no truth value has,
a form that ends too early, and a form that something follows.

## What is proved

- `Event.readFields_encodeFields`, `Event.eq_of_readFields`: reading undoes writing, and accepts
  nothing else;
- `Event.exists_flag`: where the truth value of an event is written;
- `Event.not_malformed`, `Event.form_exact`: events and their written forms.
-/

namespace CollateralDebt

open Wire (readAs_encode readAs_eq_some)
open Wire.Faithful (Fits)

instance : Wire.Faithful Parameter := .viaByte fun p => by cases p <;> rfl

instance : Wire.Roomy Parameter := ⟨fun _ => trivial⟩

instance : Wire.Canonical Parameter :=
  .viaByte fun b _ known =>
    beq_iff_eq.mp (List.find?_some (p := fun q : Parameter => q.toByte == b) known)

/-- There are seven parameters, each with a byte of its own. -/
theorem Parameter.toByte_lt (p : Parameter) : p.toByte < 7 := by
  cases p <;> decide

namespace Event

/-- An event whose lists are short enough for their lengths to be written. -/
def Storable : Event → Prop
  | .boostUpdated _ thresholds multipliers _ =>
    thresholds.length < 2 ^ 32 ∧ multipliers.length < 2 ^ 32
  | _ => True

/-! ## Reading and writing -/

/-- The fields of an event are read back, whatever follows them. -/
theorem readFields_encodeFields {e : Event} (room : e.Storable) (rest : Bytes) :
    readFields e.tag (e.encodeFields ++ rest) = some (e, rest) := by
  cases e
  case boostUpdated sourceSet thresholds multipliers timestamp =>
    have fits : Fits (sourceSet, thresholds, multipliers, timestamp) :=
      ⟨trivial, Wire.fits_list_iff.mpr room.1, Wire.fits_list_iff.mpr room.2, trivial⟩
    simp only [tag, encodeFields, readFields]
    exact readAs_encode fits _ rest
  all_goals
    simp only [tag, encodeFields, readFields]
    exact readAs_encode (Wire.Roomy.fits _) _ rest

/-- Fields are read as those of an event that has them, with its kind in front. -/
theorem eq_of_readFields {tag : UInt8} {input rest : Bytes} {e : Event}
    (found : readFields tag input = some (e, rest)) : tag :: input = Wire.encode e ++ rest := by
  unfold readFields at found
  split at found
  case h_25 => cases found
  all_goals
    obtain ⟨fields, read, rfl⟩ := readAs_eq_some found
    exact congrArg (List.cons _) (Wire.Canonical.eq_of_read read)

/-- What was read can be written again. -/
theorem storable_of_readFields {tag : UInt8} {input rest : Bytes} {e : Event}
    (found : readFields tag input = some (e, rest)) : e.Storable := by
  unfold readFields at found
  split at found
  case h_14 =>
    obtain ⟨fields, read, rfl⟩ := readAs_eq_some found
    have fits := Wire.Faithful.fits_of_read read
    exact ⟨fits.2.1.1, fits.2.2.1.1⟩
  case h_25 => cases found
  all_goals
    obtain ⟨fields, -, rfl⟩ := readAs_eq_some found
    trivial

/-- An event is read by its tag first, and then by its fields. -/
theorem read_eq_some {input rest : Bytes} {e : Event}
    (found : Wire.read input = some (e, rest)) :
    ∃ tag fields, input = tag :: fields ∧ readFields tag fields = some (e, rest) := by
  cases input with
  | nil => cases found
  | cons tag fields => exact ⟨tag, fields, rfl, found⟩

instance : Wire.Faithful Event where
  Fits := Storable
  read_encode room rest := readFields_encodeFields room rest
  fits_of_read found := by
    obtain ⟨_, _, -, read⟩ := read_eq_some found
    exact storable_of_readFields read

instance : Wire.Canonical Event where
  eq_of_read found := by
    obtain ⟨_, _, rfl, read⟩ := read_eq_some found
    exact eq_of_readFields read

/-! ## What is refused -/

/-- There are twenty-four kinds of events. -/
theorem tag_lt (e : Event) : e.tag < 24 := by
  unfold tag
  split <;> decide

/-- Where the truth value of an event stands among its fields, if its kind has one. -/
def flagPlace : UInt8 → Option Nat
  | 2 => some 64
  | 3 => some 32
  | 4 => some 24
  | 5 => some 24
  | 13 => some 0
  | 14 => some 0
  | _ => none

/-- A kind of event with a truth value has it at the same place among its fields. -/
theorem exists_flag {e : Event} {i : Nat} (place : flagPlace e.tag = some i) :
    ∃ (front : Bytes) (flag : Bool) (back : Bytes),
      front.length = i ∧ e.encodeFields = front ++ (Wire.encode flag ++ back) := by
  cases e with
  | approvalForAll owner operator approved timestamp =>
    cases place
    refine ⟨owner.bytes ++ operator.bytes, approved, Wire.encode timestamp, ?_, ?_⟩
    · rw [List.length_append, owner.length_eq, operator.length_eq]
    · exact (List.append_assoc _ _ _).symm
  | whitelistToggled account whitelisted timestamp =>
    cases place
    exact ⟨account.bytes, whitelisted, Wire.encode timestamp, account.length_eq, rfl⟩
  | collateralAmountUpdated vault amount increase timestamp
  | internalDebtUpdated vault amount increase timestamp =>
    cases place
    refine ⟨Wire.encode vault ++ Wire.encode amount, increase, Wire.encode timestamp, ?_, ?_⟩
    · rfl
    · exact (List.append_assoc _ _ _).symm
  | boostUpdated sourceSet thresholds multipliers timestamp =>
    cases place
    exact ⟨[], sourceSet, _, rfl, rfl⟩
  | pauseToggled paused timestamp =>
    cases place
    exact ⟨[], paused, _, rfl, rfl⟩
  | _ => cases place

/-- Bytes that are no written form of an event. -/
inductive Malformed : Bytes → Prop where
  /-- No kind has the byte in front. -/
  | unknownKind {tag : UInt8} (unknown : 24 ≤ tag) (rest : Bytes) : Malformed (tag :: rest)
  /-- A parameter was set, but none has this byte. -/
  | unknownParameter {code : UInt8} (unknown : 7 ≤ code) (rest : Bytes) :
      Malformed (10 :: code :: rest)
  /-- A truth value is neither 0 nor 1. -/
  | flag {tag b : UInt8} {i : Nat} {rest : Bytes} (place : flagPlace tag = some i)
      (there : rest[i]? = some b) (neither : 1 < b) : Malformed (tag :: rest)
  /-- The end is missing. -/
  | truncated {e : Event} {n : Nat} (room : e.Storable) (less : n < (Wire.encode e).length) :
      Malformed ((Wire.encode e).take n)
  /-- Something follows. -/
  | trailing {e : Event} {more : Bytes} (room : e.Storable) (some' : more ≠ []) :
      Malformed (Wire.encode e ++ more)

/-- What is read as an event is not malformed. -/
theorem not_malformed {input : Bytes} {e : Event} (found : Wire.decode input = some e) :
    ¬ Malformed input := by
  have written : e.tag :: e.encodeFields = input := Wire.encode_of_decode found
  intro bad
  cases bad with
  | unknownKind unknown rest =>
    cases written
    exact absurd e.tag_lt (UInt8.not_lt.mpr unknown)
  | @unknownParameter code unknown rest =>
    obtain ⟨kind, fields⟩ := List.cons.inj written
    cases e with
    | parameterUpdated parameter value timestamp =>
      obtain ⟨rfl, -⟩ := List.cons.inj fields
      exact absurd parameter.toByte_lt (UInt8.not_lt.mpr unknown)
    | _ => exact absurd kind (by simp only [tag]; decide)
  | @flag tag b i rest place there neither =>
    obtain ⟨rfl, rfl⟩ := List.cons.inj written
    obtain ⟨front, flag, back, rfl, fields⟩ := exists_flag place
    rw [fields, List.getElem?_append_right (Nat.le_refl _), Nat.sub_self] at there
    revert neither
    cases flag <;> cases there <;> decide
  | @truncated e' n room less =>
    rw [Wire.decode_take (Wire.decode_encode room) less] at found
    cases found
  | @trailing e' more room some' =>
    rw [Wire.decode_append (Wire.decode_encode room) some'] at found
    cases found

/-- The written form of events is exact. An event whose lists have fewer than `2 ^ 32` members is
read from its written form, what is read as an event is its written form, and malformed bytes are
not read. -/
theorem form_exact :
    (∀ e : Event, e.Storable → Wire.decode (Wire.encode e) = some e) ∧
    (∀ (input : Bytes) (e : Event), Wire.decode input = some e →
      e.Storable ∧ Wire.encode e = input) ∧
    ∀ input, Malformed input → Wire.decode (α := Event) input = none := by
  refine ⟨fun e room => Wire.decode_encode room, fun input e found => ?_, fun input bad => ?_⟩
  · exact ⟨Wire.fits_of_decode found, Wire.encode_of_decode found⟩
  · cases found : Wire.decode (α := Event) input with
    | none => rfl
    | some e => exact absurd bad (not_malformed found)

/-- A curve with two points is read back, and is not read with a 2 for its truth value. -/
theorem form_exact_boost :
    let e := boostUpdated true [.zero, ⟨1_000, by decide⟩] [1_500_000_000, 2_500_000_000] 200
    Wire.decode (Wire.encode e) = some e ∧
      Wire.decode (α := Event) (13 :: 2 :: (Wire.encode e).drop 2) = none :=
  ⟨form_exact.1 _ ⟨by decide, by decide⟩, form_exact.2.2 _ (.flag (i := 0) rfl rfl (by decide))⟩

end Event

end CollateralDebt
