import CollateralDebt.Engine.Call
import CollateralDebt.Proofs.Transact
import CollateralDebt.Proofs.Wire

/-!
# The wire form of a batch

A batch travels as two lists that go together: the kinds of its actions, and their fields. Writing
and reading are inverse to each other, so no two batches look the same on the wire and none has two
forms; and a batch that arrives on the wire does what the list of its actions does. A form that is
no batch is refused for its first bad entry: the first whose payload is not exactly what an action
of its kind is written as.

## What is proved

- `Action.readPayload_eq_some_iff`, `Action.decodePayload_eq_some_iff`: the fields of an action are
  read exactly from their written form;
- `decodeFrom_eq_ok`, `decodeFrom_cases`: the same for the entries of a batch, and the refusals;
- `batchForm_bijective`: batches and their wire forms.
-/

namespace CollateralDebt

open Wire (readAs_encode readAs_eq_some)

instance : Wire.Faithful Permit := .via (fun _ => rfl) fun _ room => room

instance : Wire.Roomy Permit :=
  ⟨fun p => Wire.Roomy.fits (α := Address × Address × Address × Amount × Timestamp × Bytes32)
    (p.asset, p.owner, p.spender, p.value, p.deadline, p.signature)⟩

instance : Wire.Canonical Permit := .via fun _ => rfl

namespace Action

/-- What an action is written as in a batch: its kind and its payload. -/
def entry (a : Action) : ActionKind × Bytes := (a.kind, a.encodePayload)

/-- The fields of an action of a kind are read exactly from their written form. -/
theorem readPayload_eq_some_iff {kind : ActionKind} {a : Action} {input rest : Bytes} :
    readPayload kind input = some (a, rest) ↔ a.kind = kind ∧ input = a.encodePayload ++ rest := by
  constructor
  · intro found
    cases kind <;>
    · simp only [readPayload] at found
      obtain ⟨fields, read, rfl⟩ := readAs_eq_some found
      exact ⟨rfl, Wire.Canonical.eq_of_read read⟩
  · rintro ⟨rfl, rfl⟩
    cases a <;>
    · simp only [kind, encodePayload, readPayload]
      exact readAs_encode (Wire.Roomy.fits _) _ rest

/-- A payload is read as the one action that is written as it. -/
theorem decodePayload_eq_some_iff {kind : ActionKind} {payload : Bytes} {a : Action} :
    decodePayload kind payload = some a ↔ a.entry = (kind, payload) := by
  unfold decodePayload entry
  rw [Prod.mk.injEq]
  constructor
  · intro found
    split at found
    · rename_i read
      cases found
      obtain ⟨same, written⟩ := readPayload_eq_some_iff.mp read
      exact ⟨same, by rw [written, List.append_nil]⟩
    · cases found
  · rintro ⟨same, written⟩
    rw [readPayload_eq_some_iff.mpr ⟨same, by rw [← written, List.append_nil]⟩]

end Action

/-- The entry at a place is the first that no action is written as. -/
structure FirstMalformed (entries : List (ActionKind × Bytes)) (i : Nat) : Prop where
  malformed : ∃ e, entries[i]? = some e ∧ ∀ a : Action, a.entry ≠ e
  preceding : ∀ e ∈ entries.take i, ∃ a : Action, a.entry = e

namespace FirstMalformed

variable {entries : List (ActionKind × Bytes)} {e : ActionKind × Bytes} {i : Nat}

/-- An entry in front that no action is written as is the first one. -/
theorem head (bad : ∀ a : Action, a.entry ≠ e) : FirstMalformed (e :: entries) 0 :=
  ⟨⟨e, rfl, bad⟩, fun _ mem => absurd mem List.not_mem_nil⟩

/-- An entry in front that is written as an action moves the first malformed one back by one. -/
theorem tail {a : Action} (written : a.entry = e) (h : FirstMalformed entries i) :
    FirstMalformed (e :: entries) (i + 1) where
  malformed := h.malformed
  preceding := by
    rw [List.take_succ_cons]
    exact List.forall_mem_cons.mpr ⟨⟨a, written⟩, h.preceding⟩

end FirstMalformed

/-- The entries of a batch are read exactly from their written forms. -/
theorem decodeFrom_eq_ok {index : Nat} {entries : List (ActionKind × Bytes)}
    {actions : List Action} :
    decodeFrom index entries = .ok actions ↔ actions.map Action.entry = entries := by
  induction entries generalizing index actions with
  | nil =>
    rw [List.map_eq_nil_iff]
    exact ⟨fun done => (Except.ok.inj done).symm, fun none => none ▸ rfl⟩
  | cons e entries ih =>
    obtain ⟨kind, payload⟩ := e
    unfold decodeFrom
    constructor
    · intro done
      obtain ⟨a, first, done⟩ := Outcome.bind_eq_ok.mp done
      obtain ⟨others, rest, done⟩ := Outcome.bind_eq_ok.mp done
      obtain rfl := Outcome.pure_eq_ok.mp done
      rw [List.map_cons, ih.mp rest,
        Action.decodePayload_eq_some_iff.mp (Outcome.ofOption_eq_ok.mp first)]
    · intro written
      obtain ⟨a, others, rfl, first, rest⟩ := List.map_eq_cons_iff.mp written
      refine Outcome.bind_eq_ok.mpr ⟨a, ?_, Outcome.bind_eq_ok.mpr ⟨others, ih.mpr rest, rfl⟩⟩
      rw [Action.decodePayload_eq_some_iff.mpr first]
      rfl

/-- Entries are read, or they are refused for the first bad one. -/
theorem decodeFrom_cases (index : Nat) (entries : List (ActionKind × Bytes)) :
    (∃ actions, decodeFrom index entries = .ok actions) ∨
      ∃ i, FirstMalformed entries i ∧
        decodeFrom index entries = reject (.invalidActionPayload (index + i)) := by
  induction entries generalizing index with
  | nil => exact .inl ⟨[], rfl⟩
  | cons e entries ih =>
    obtain ⟨kind, payload⟩ := e
    unfold decodeFrom
    cases first : Action.decodePayload kind payload with
    | none =>
      refine .inr ⟨0, .head fun a written => ?_, rfl⟩
      rw [Action.decodePayload_eq_some_iff.mpr written] at first
      cases first
    | some a =>
      have written := Action.decodePayload_eq_some_iff.mp first
      rcases ih (index + 1) with ⟨others, rest⟩ | ⟨i, bad, refused⟩
      · refine .inl ⟨a :: others, Outcome.bind_eq_ok.mpr ⟨a, rfl, ?_⟩⟩
        exact Outcome.bind_eq_ok.mpr ⟨others, rest, rfl⟩
      · refine .inr ⟨i + 1, bad.tail written, ?_⟩
        rw [Nat.add_comm i 1, ← Nat.add_assoc, ← refused]
        show (decodeFrom (index + 1) entries >>= fun others => pure (a :: others)) = _
        rw [refused]
        rfl

/-- Two lists are the wire form of actions exactly if they are the columns of their entries. -/
theorem encodeActions_eq_iff {actions : List Action} {kinds : List ActionKind}
    {payloads : List Bytes} :
    encodeActions actions = (kinds, payloads) ↔
      kinds.length = payloads.length ∧ actions.map Action.entry = kinds.zip payloads := by
  unfold encodeActions
  rw [Prod.mk.injEq]
  constructor
  · rintro ⟨rfl, rfl⟩
    refine ⟨by rw [List.length_map, List.length_map], ?_⟩
    rw [List.zip_map', List.map_inj_left]
    exact fun _ _ => rfl
  · rintro ⟨lengths, entries⟩
    have kinds' := congrArg (List.map Prod.fst) entries
    have payloads' := congrArg (List.map Prod.snd) entries
    rw [List.map_map, List.map_fst_zip (Nat.le_of_eq lengths)] at kinds'
    rw [List.map_map, List.map_snd_zip (Nat.le_of_eq lengths.symm)] at payloads'
    exact ⟨kinds', payloads'⟩

/-- With two columns of one length, the entries are read one by one. -/
theorem decodeActions_of_lengths {kinds : List ActionKind} {payloads : List Bytes}
    (lengths : kinds.length = payloads.length) (some' : kinds ≠ []) :
    decodeActions kinds payloads = decodeFrom 0 (kinds.zip payloads) := by
  unfold decodeActions Outcome.require
  rw [if_pos ⟨lengths, some'⟩]
  rfl

/-- What is read are the actions whose wire form it is, and there is at least one. -/
theorem decodeActions_eq_ok {kinds : List ActionKind} {payloads : List Bytes}
    {actions : List Action} :
    decodeActions kinds payloads = .ok actions ↔
      actions ≠ [] ∧ encodeActions actions = (kinds, payloads) := by
  constructor
  · intro done
    obtain ⟨_, required, -⟩ := Outcome.bind_eq_ok.mp done
    obtain ⟨lengths, some'⟩ := Outcome.require_eq_ok.mp required
    rw [decodeActions_of_lengths lengths some', decodeFrom_eq_ok] at done
    have form := encodeActions_eq_iff.mpr ⟨lengths, done⟩
    refine ⟨?_, form⟩
    rintro rfl
    exact some' (congrArg Prod.fst form).symm
  · rintro ⟨some', form⟩
    obtain ⟨lengths, entries⟩ := encodeActions_eq_iff.mp form
    have kinds' : kinds ≠ [] := by
      rintro rfl
      exact some' (List.map_eq_nil_iff.mp (congrArg Prod.fst form))
    rw [decodeActions_of_lengths lengths kinds', decodeFrom_eq_ok]
    exact entries

/-- A batch on the wire does what the actions do that it is read as. -/
theorem EngineCall.run_encodedBatch {kinds : List ActionKind} {payloads : List Bytes}
    {actions : List Action} (read : decodeActions kinds payloads = .ok actions) (ctx : Context)
    (parties : Parties) :
    run ctx (.encodedBatch parties kinds payloads) = run ctx (.batch parties actions) := by
  show (Arena.runEncodedBatch ctx parties kinds payloads >>= _) = _
  unfold Arena.runEncodedBatch
  rw [read]
  rfl

/-- The wire form of batches is a bijection. Two lists are read as a batch exactly if they are its
wire form and it has actions; and then the call with the two lists is the call with the actions,
whoever makes it and whatever it finds. Two lists of one length that are no wire form are refused
for the first entry that no action of its kind is written as. -/
theorem batchForm_bijective :
    (∀ kinds payloads actions, decodeActions kinds payloads = .ok actions ↔
      actions ≠ [] ∧ encodeActions actions = (kinds, payloads)) ∧
    (∀ actions, actions ≠ [] → ∀ ctx parties,
      EngineCall.run ctx
          (.encodedBatch parties (encodeActions actions).1 (encodeActions actions).2) =
        EngineCall.run ctx (.batch parties actions)) ∧
    ∀ kinds payloads, kinds ≠ [] → kinds.length = payloads.length →
      (∃ actions, decodeActions kinds payloads = .ok actions) ∨
        ∃ i, FirstMalformed (kinds.zip payloads) i ∧
          decodeActions kinds payloads = reject (.invalidActionPayload i) := by
  refine ⟨fun _ _ _ => decodeActions_eq_ok, fun actions some' ctx parties => ?_,
    fun kinds payloads some' lengths => ?_⟩
  · exact EngineCall.run_encodedBatch (decodeActions_eq_ok.mpr ⟨some', rfl⟩) ctx parties
  · rw [decodeActions_of_lengths lengths some']
    have read := decodeFrom_cases 0 (kinds.zip payloads)
    simp only [Nat.zero_add] at read
    exact read

/-- Of three entries the second lacks the last byte of an amount and the third is empty: the form is
refused for the second. -/
theorem batchForm_truncated :
    let borrowed := (Action.borrow 7 ⟨5, by decide⟩).encodePayload
    let kinds : List ActionKind := [.closeVault, .borrow, .permit]
    let payloads := [(Action.closeVault 7).encodePayload, borrowed.dropLast, []]
    FirstMalformed (kinds.zip payloads) 1 ∧
      decodeActions kinds payloads = reject (.invalidActionPayload 1) := by
  intro borrowed kinds payloads
  have refused : decodeActions kinds payloads = reject (.invalidActionPayload 1) := by
    decide +kernel
  rcases batchForm_bijective.2.2 kinds payloads (by decide) rfl with ⟨actions, read⟩ | ⟨i, bad, at'⟩
  · rw [refused] at read
    cases read
  · rw [refused] at at'
    cases at'
    exact ⟨bad, refused⟩

end CollateralDebt
