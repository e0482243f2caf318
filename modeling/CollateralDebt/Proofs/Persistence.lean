import CollateralDebt.Engine.Basic
import CollateralDebt.Ledger
import CollateralDebt.Proofs.Wire

/-!
# What is persisted

The state of an engine and that of a ledger are kept as bytes. Whatever can be written is read back,
and two states that are written alike are the same; so an engine whose state root is known is known
altogether, unless somebody found two inputs with one digest. The entries of a table may arrive in
any order and more than once. They are not written that way, but what they are read as is written
and read again as the same.

All that a state has to satisfy in order to be written is that its text, its lists, its tables and
its sets have fewer than `2 ^ 32` members.

## What is proved

- `Registry.fits_iff`, `EngineState.fits_iff`, `LedgerState.fits_iff`: there is room for exactly the
  states whose parts are short enough;
- `Wire.RoundTrips`, `Wire.roundTrips`: what follows from that for whole states;
- `state_committed`: both kinds of states, and what a state root says of an engine.
-/

namespace CollateralDebt

open Wire.Faithful (Fits)

instance : Wire.Faithful Parameters := .via (fun _ => rfl) fun _ room => room

instance : Wire.Roomy Parameters :=
  ⟨fun p => Wire.Roomy.fits (p.debtCeiling, p.collateralFactor, p.targetHealthFactor,
    p.interestRate, p.liquidationSurcharge, p.maxLiquidationDiscount, p.borrowFee, p.repayFee,
    p.dust, p.dustLiquidation, p.dustCollateral, p.whitelistingActivated, p.baseBoost)⟩

instance : Wire.Faithful BoostCurve := .via (fun _ => rfl) fun _ room => room

instance : Wire.Faithful Registry := .via (fun _ => rfl) fun _ room => room

instance : Wire.Faithful EngineState := .via (fun _ => rfl) fun _ room => room

instance : Wire.Faithful AssetInfo := .via (fun _ => rfl) fun _ room => room

instance : Wire.Faithful LedgerState := .via (fun _ => rfl) fun _ room => room

/-! ## What there is room for -/

/-- A registry whose tables are short enough for their lengths to be written. -/
structure Registry.Storable (r : Registry) : Prop where
  vaults : r.vaults.size < 2 ^ 32
  owners : r.owners.size < 2 ^ 32
  owned : r.owned.size < 2 ^ 32
  ownedEach : ∀ ids ∈ r.owned.values, ids.size < 2 ^ 32
  approvals : r.approvals.size < 2 ^ 32
  operators : r.operators.size < 2 ^ 32
  whitelist : r.whitelist.size < 2 ^ 32

/-- An engine's state whose name, curve and registry are short enough. -/
structure EngineState.Storable (s : EngineState) : Prop where
  name : s.name.utf8ByteSize < 2 ^ 32
  thresholds : s.boostCurve.thresholds.length < 2 ^ 32
  multipliers : s.boostCurve.multipliers.length < 2 ^ 32
  registry : s.registry.Storable

/-- A ledger's state whose tables are short enough. -/
structure LedgerState.Storable (s : LedgerState) : Prop where
  assets : s.assets.size < 2 ^ 32
  minters : ∀ info ∈ s.assets.values, info.minters.size < 2 ^ 32
  balances : s.balances.size < 2 ^ 32
  allowances : s.allowances.size < 2 ^ 32
  signingKeys : s.signingKeys.size < 2 ^ 32
  nonces : s.nonces.size < 2 ^ 32

/-- There is room for a registry exactly if its tables are short enough. -/
theorem Registry.fits_iff {r : Registry} : Fits r ↔ r.Storable := by
  have parts : Fits r ↔ Fits r.lastId ∧ Fits r.vaults ∧ Fits r.owners ∧ Fits r.owned ∧
      Fits r.approvals ∧ Fits r.operators ∧ Fits r.whitelist := Iff.rfl
  have owned : Fits r.owned ↔ r.owned.size < 2 ^ 32 ∧ ∀ ids ∈ r.owned.values, ids.size < 2 ^ 32 :=
    Wire.fits_table_iff.trans
      (and_congr_right fun _ => forall₂_congr fun _ _ => Wire.fits_table_iff_size)
  rw [parts, owned, Wire.fits_table_iff_size, Wire.fits_table_iff_size, Wire.fits_table_iff_size,
    Wire.fits_table_iff_size, Wire.fits_table_iff_size]
  constructor
  · rintro ⟨-, vaults, owners, ⟨owned, ownedEach⟩, approvals, operators, whitelist⟩
    exact ⟨vaults, owners, owned, ownedEach, approvals, operators, whitelist⟩
  · rintro ⟨vaults, owners, owned, ownedEach, approvals, operators, whitelist⟩
    exact ⟨trivial, vaults, owners, ⟨owned, ownedEach⟩, approvals, operators, whitelist⟩

/-- There is room for the state of an engine exactly if its name, its curve and its registry are
short enough. -/
theorem EngineState.fits_iff {s : EngineState} : Fits s ↔ s.Storable := by
  constructor
  · rintro ⟨-, name, -, -, -, -, -, -, ⟨thresholds, multipliers⟩, -, -, -, -, -, -, registry⟩
    exact ⟨name, Wire.fits_list_iff.mp thresholds, Wire.fits_list_iff.mp multipliers,
      Registry.fits_iff.mp registry⟩
  · rintro ⟨name, thresholds, multipliers, registry⟩
    exact ⟨trivial, name, trivial, trivial, trivial, trivial, trivial, Wire.Roomy.fits s.params,
      ⟨Wire.fits_list_iff.mpr thresholds, Wire.fits_list_iff.mpr multipliers⟩, trivial, trivial,
      trivial, trivial, trivial, trivial, Registry.fits_iff.mpr registry⟩

/-- There is room for the state of a ledger exactly if its tables are short enough. -/
theorem LedgerState.fits_iff {s : LedgerState} : Fits s ↔ s.Storable := by
  have parts : Fits s ↔ Fits s.assets ∧ Fits s.balances ∧ Fits s.allowances ∧ Fits s.signingKeys ∧
      Fits s.nonces := Iff.rfl
  have info {a : AssetInfo} : Fits a ↔ a.minters.size < 2 ^ 32 :=
    ⟨fun room => Wire.fits_table_iff_size.mp room.2.2.2, fun room =>
      ⟨trivial, trivial, trivial, Wire.fits_table_iff_size.mpr room⟩⟩
  have assets : Fits s.assets ↔
      s.assets.size < 2 ^ 32 ∧ ∀ a ∈ s.assets.values, a.minters.size < 2 ^ 32 :=
    Wire.fits_table_iff.trans (and_congr_right fun _ => forall₂_congr fun _ _ => info)
  rw [parts, assets, Wire.fits_table_iff_size, Wire.fits_table_iff_size, Wire.fits_table_iff_size,
    Wire.fits_table_iff_size]
  constructor
  · rintro ⟨⟨assets, minters⟩, balances, allowances, signingKeys, nonces⟩
    exact ⟨assets, minters, balances, allowances, signingKeys, nonces⟩
  · rintro ⟨assets, minters, balances, allowances, signingKeys, nonces⟩
    exact ⟨⟨assets, minters⟩, balances, allowances, signingKeys, nonces⟩

/-! ## Whole states -/

/-- Values that can be stored are read back and told apart by their written form. Whatever is read,
in whichever way it was written, can be stored and is read back as the same. -/
structure Wire.RoundTrips {α : Type} [Wire α] (Storable : α → Prop) : Prop where
  decode_encode : ∀ a, Storable a → Wire.decode (Wire.encode a) = some a
  injective : ∀ a b, Storable a → Storable b → Wire.encode a = Wire.encode b → a = b
  decode_again : ∀ input a, Wire.decode input = some a →
    Storable a ∧ Wire.decode (Wire.encode a) = some a

/-- A faithful form makes the round trip for the values that there is room for. -/
theorem Wire.roundTrips {α : Type} [Wire α] [Wire.Faithful α] {Storable : α → Prop}
    (fits_iff : ∀ {a : α}, Fits a ↔ Storable a) : Wire.RoundTrips Storable where
  decode_encode _ room := Wire.decode_encode (fits_iff.mpr room)
  injective _ _ ha hb same := Wire.encode_injective (fits_iff.mpr hb) (fits_iff.mpr ha) same
  decode_again _ _ found :=
    have room := Wire.fits_of_decode found
    ⟨fits_iff.mp room, Wire.decode_encode room⟩

/-- Two different inputs with one digest. -/
def Sha256.Collision (a b : Bytes) : Prop := a ≠ b ∧ sha256 a = sha256 b

/-- What is persisted is kept faithfully. The states of engines and of ledgers are read back from
their written form, they are told apart by it, and what is read from other bytes is read back once
it is written; and two engines with one state root have the same state, or their written states are
a collision of the digest. -/
theorem state_committed :
    Wire.RoundTrips EngineState.Storable ∧ Wire.RoundTrips LedgerState.Storable ∧
      ∀ e f : Engine, e.state.Storable → f.state.Storable → e.stateRoot = f.stateRoot →
        e.state = f.state ∨ Sha256.Collision (Wire.encode e.state) (Wire.encode f.state) := by
  have engines : Wire.RoundTrips EngineState.Storable := Wire.roundTrips EngineState.fits_iff
  refine ⟨engines, Wire.roundTrips LedgerState.fits_iff, fun e f he hf roots => ?_⟩
  by_cases written : Wire.encode e.state = Wire.encode f.state
  · exact .inl (engines.injective _ _ he hf written)
  · exact .inr ⟨written, roots⟩

/-- A ledger with two signing keys, as nobody writes it: the owners descend, and the first of them
comes a second time, with another key. -/
def unsorted : Bytes :=
  let entries : List (Address × Bytes32) :=
    [(.replicate 2, .replicate 7), (.replicate 1, .replicate 8), (.replicate 2, .replicate 9)]
  List.replicate 12 0 ++ Wire.encode entries ++ List.replicate 4 0

/-- It is read with the last key of each owner, written with the owners in order, and read again as
the same. -/
theorem state_committed_unsorted : ∃ s : LedgerState,
    Wire.decode unsorted = some s ∧ Wire.encode s ≠ unsorted ∧
      s.signingKeys.entries =
        [(.replicate 1, .replicate 8), (.replicate 2, .replicate 9)] ∧
      Wire.decode (Wire.encode s) = some s := by
  have computed : (match Wire.decode (α := LedgerState) unsorted with
    | some s => decide (Wire.encode s ≠ unsorted ∧ s.signingKeys.entries =
        [(.replicate 1, .replicate 8), (.replicate 2, .replicate 9)])
    | none => false) = true := by decide +kernel
  split at computed
  · rename_i s found
    obtain ⟨other, keys⟩ := of_decide_eq_true computed
    exact ⟨s, found, other, keys, (state_committed.2.1.decode_again _ _ found).2⟩
  · cases computed

end CollateralDebt
