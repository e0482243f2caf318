import CollateralDebt.Proofs.Permits

/-!
# Accepted permits

A permit says nothing of the nonce that it is good for; its signature does. So a permit that is
accepted twice, under two nonces, has a signature that fits both of them: two different inputs were
hashed to one digest, be it where the terms are hashed or where the key is put in front of what
came out. Both inputs can be written down from what the ledger kept at the two acceptances, whatever
became of the owner's key in between.

## What is proved

- `littleEndian_inj`, `Acceptance.terms_ne`, `Acceptance.sealed_ne`: what is hashed tells nonces and
  digests apart;
- `LedgerCall.nonce_le_after`, `Ledger.nonce_le_replay`: nonces never go down;
- `Ledger.sound_of_mem`: an accepted permit was signed for exactly its terms, with the owner's key
  and under the owner's nonce, and takes up that nonce;
- `Acceptance.collision_spec`, `Ledger.collision_of_replayed`: a permit that is accepted twice gives
  a collision.
-/

namespace CollateralDebt

/-! ## What is hashed -/

/-- The lowest bytes of a number tell the numbers apart that have no more bytes. -/
theorem Wire.littleEndian_inj {width n m : Nat} (hn : n < 256 ^ width) (hm : m < 256 ^ width)
    (same : littleEndian width n = littleEndian width m) : n = m := by
  induction width generalizing n m with
  | zero =>
    rw [Nat.pow_zero, Nat.lt_one_iff] at hn hm
    rw [hn, hm]
  | succ width ih =>
    obtain ⟨lowest, rest⟩ := List.cons.inj same
    have low : n % 256 = m % 256 := by
      have := congrArg UInt8.toNat lowest
      rwa [UInt8.toNat_ofNat', UInt8.toNat_ofNat'] at this
    have high : n / 256 = m / 256 := by
      refine ih ?_ ?_ rest
      · exact Nat.div_lt_of_lt_mul (by rwa [Nat.pow_succ, Nat.mul_comm] at hn)
      · exact Nat.div_lt_of_lt_mul (by rwa [Nat.pow_succ, Nat.mul_comm] at hm)
    rw [← Nat.div_add_mod n 256, ← Nat.div_add_mod m 256, low, high]

/-- A permit that was accepted, with the ledger as it was and the time. -/
structure Acceptance where
  before : Ledger
  signed : Permit
  now : Timestamp

namespace Acceptance

variable {a b : Acceptance}

/-- The ledger as the permit left it. -/
def after (a : Acceptance) : Ledger := (Ledger.permit a.signed a.now).after a.before

/-- The nonce of the owner for the asset. -/
def nonce (a : Acceptance) : UInt64 := a.before.nonce a.signed.asset a.signed.owner

/-- The key that the owner had registered. -/
def key (a : Acceptance) : Bytes32 := a.before.state.signingKeys.getD a.signed.owner .zero

/-- What the digest of the permit is taken of. -/
def terms (a : Acceptance) : Bytes :=
  Permit.domain ++ Wire.encode (a.signed.asset, a.signed.owner, a.signed.spender, a.signed.value,
    a.nonce, a.signed.deadline)

/-- What the signature is the digest of. -/
def sealed (a : Acceptance) : Bytes := a.key.bytes ++ (sha256 a.terms).bytes

/-- What was hashed at two acceptances: the terms, if their digests are the same, else what was
signed. -/
def collision (a b : Acceptance) : Bytes × Bytes :=
  if sha256 a.terms = sha256 b.terms then (a.terms, b.terms) else (a.sealed, b.sealed)

/-- Under different nonces, the same permit has different terms. -/
theorem terms_ne (same : a.signed = b.signed) (nonces : a.nonce ≠ b.nonce) :
    a.terms ≠ b.terms := by
  intro equal
  unfold terms at equal
  rw [same] at equal
  have encoded := List.append_cancel_left equal
  -- asset, owner, spender and value are the same, and so is the deadline at the end
  have encoded := List.append_cancel_left encoded
  have encoded := List.append_cancel_left encoded
  have encoded := List.append_cancel_left encoded
  have encoded := List.append_cancel_left encoded
  have written := List.append_cancel_right encoded
  have bounded (n : UInt64) : n.toNat < 256 ^ 8 := n.toNat_lt
  exact nonces (UInt64.toNat_inj.mp (Wire.littleEndian_inj (bounded _) (bounded _) written))

/-- Whatever the keys are, different digests are signed as different inputs. -/
theorem sealed_ne (digests : sha256 a.terms ≠ sha256 b.terms) : a.sealed ≠ b.sealed := by
  intro equal
  have lengths : a.key.bytes.length = b.key.bytes.length :=
    a.key.length_eq.trans b.key.length_eq.symm
  exact digests (Bytes32.ext (List.append_inj_right equal lengths))

/-- What an acceptance shows: the permit is the one that the owner's key signs for exactly its
terms under the owner's nonce, and accepting it took up that nonce. -/
structure Sound (a : Acceptance) : Prop where
  registered : a.before.state.signingKeys.get? a.signed.owner = some a.key
  genuine : a.signed = a.before.signedPermit a.key a.signed.asset a.signed.owner a.signed.spender
    a.signed.value a.signed.deadline
  accepted : Ledger.permit a.signed a.now a.before = .ok () a.after
  taken : (a.after.nonce a.signed.asset a.signed.owner).toNat = a.nonce.toNat + 1

/-- A sound signature is the digest of what it seals. -/
theorem Sound.signature (h : a.Sound) : a.signed.signature = sha256 a.sealed :=
  congrArg Permit.signature h.genuine

/-- The same permit, accepted under two nonces: two inputs with the same digest. -/
theorem collision_spec (ha : a.Sound) (hb : b.Sound) (same : a.signed = b.signed)
    (nonces : a.nonce ≠ b.nonce) :
    (a.collision b).1 ≠ (a.collision b).2 ∧
      sha256 (a.collision b).1 = sha256 (a.collision b).2 := by
  unfold collision
  split
  · rename_i digests
    exact ⟨terms_ne same nonces, digests⟩
  · rename_i digests
    refine ⟨sealed_ne digests, ?_⟩
    calc sha256 a.sealed = a.signed.signature := ha.signature.symm
      _ = b.signed.signature := by rw [same]
      _ = sha256 b.sealed := hb.signature

end Acceptance

/-! ## Calls on a ledger -/

variable {l l' : Ledger} {now : Timestamp} {call : LedgerCall}
  {calls : List (Timestamp × LedgerCall)}

/-- No call takes a nonce back, whether it is accepted or refused. -/
theorem LedgerCall.nonce_le_after (l : Ledger) (now : Timestamp) (call : LedgerCall)
    (asset owner : Address) :
    (l.nonce asset owner).toNat ≤ (((call.run now).after l).nonce asset owner).toNat := by
  rcases sameNonces_or_permit now call with keeps | ⟨signed, rfl⟩
  · rw [(keeps.after l).nonce]
  · rcases Transact.after_eq (LedgerCall.run now (.permit signed)) l with ⟨_, done⟩ |
      ⟨_, refused⟩ | same
    · rw [Ledger.nonce_of_permit done]
      exact Nat.le_add_right _ _
    · rcases Ledger.permit_eq_error refused with same | ⟨_, next, _, _, known, same⟩
      · rw [same]
      · rw [same, Ledger.nonce_granted known]
        exact Nat.le_add_right _ _
    · rw [same]

namespace Ledger

/-- The ledger after calls at their times, the first one first, each accepted or refused. -/
def replay (l : Ledger) (calls : List (Timestamp × LedgerCall)) : Ledger :=
  calls.foldl (fun l (now, call) => (call.run now).after l) l

/-- Calls are replayed in two parts, one after the other. -/
theorem replay_append (l : Ledger) (calls more : List (Timestamp × LedgerCall)) :
    l.replay (calls ++ more) = (l.replay calls).replay more := List.foldl_append

/-- No nonce goes back, whatever is called. -/
theorem nonce_le_replay (l : Ledger) (calls : List (Timestamp × LedgerCall))
    (asset owner : Address) :
    (l.nonce asset owner).toNat ≤ ((l.replay calls).nonce asset owner).toNat := by
  induction calls generalizing l with
  | nil => exact Nat.le_refl _
  | cons entry calls ih =>
    exact Nat.le_trans (LedgerCall.nonce_le_after l entry.1 entry.2 asset owner) (ih _)

/-- The acceptance that a call is, if it is a permit that is accepted. -/
def accepted (l : Ledger) (now : Timestamp) : LedgerCall → Option Acceptance
  | .permit signed =>
    match permit signed now l with
    | .ok _ _ => some ⟨l, signed, now⟩
    | .error _ _ => none
  | _ => none

/-- The permits that are accepted in the course of calls, each with the ledger as it was. -/
def acceptances (l : Ledger) : List (Timestamp × LedgerCall) → List Acceptance
  | [] => []
  | (now, call) :: rest =>
    (l.accepted now call).toList ++ acceptances ((call.run now).after l) rest

/-- The acceptances of two parts are those of the first, and those of the second from where it has
led. -/
theorem acceptances_append (l : Ledger) (calls more : List (Timestamp × LedgerCall)) :
    l.acceptances (calls ++ more) = l.acceptances calls ++ (l.replay calls).acceptances more := by
  induction calls generalizing l with
  | nil => rfl
  | cons entry calls ih =>
    obtain ⟨now, call⟩ := entry
    show (l.accepted now call).toList ++ acceptances _ (calls ++ more) = _
    rw [ih, ← List.append_assoc]
    rfl

/-- A call is an acceptance if it is a permit and succeeds. -/
theorem accepted_eq_some {a : Acceptance} (h : l.accepted now call = some a) :
    a.before = l ∧ call = .permit a.signed ∧ a.now = now ∧
      permit a.signed a.now a.before = .ok () a.after := by
  cases call with
  | permit signed =>
    unfold accepted at h
    dsimp only at h
    split at h
    · rename_i u after done
      cases h
      refine ⟨rfl, rfl, rfl, ?_⟩
      rw [Acceptance.after, Transact.after_of_ok done]
      exact done
    · cases h
  | _ => cases h

/-- An acceptance in the course of calls: the permit is one of them, and is accepted where the calls
before it have led. -/
theorem exists_of_mem_acceptances {a : Acceptance} (h : a ∈ l.acceptances calls) :
    ∃ earlier later, calls = earlier ++ (a.now, .permit a.signed) :: later ∧
      a.before = l.replay earlier ∧ permit a.signed a.now a.before = .ok () a.after := by
  induction calls generalizing l with
  | nil => cases h
  | cons entry calls ih =>
    rcases List.mem_append.mp h with first | later
    · obtain ⟨here, is, time, done⟩ := accepted_eq_some (Option.mem_toList.mp first)
      refine ⟨[], calls, ?_, here, done⟩
      rw [time, ← is]
      rfl
    · obtain ⟨earlier, rest, rfl, there, done⟩ := ih later
      exact ⟨entry :: earlier, rest, rfl, there, done⟩

/-- What was accepted was sound. -/
theorem sound_of_permit {a : Acceptance} (done : permit a.signed a.now a.before = .ok () a.after) :
    a.Sound := by
  obtain ⟨key, authentic⟩ := authentic_of_permit done
  have same : a.key = key := by
    unfold Acceptance.key Table.getD
    rw [authentic.registered]
    rfl
  refine ⟨same ▸ authentic.registered, same ▸ authentic.genuine, done, ?_⟩
  rw [nonce_of_permit done, if_pos ⟨rfl, rfl⟩]
  rfl

/-- Every acceptance in the course of calls is sound. -/
theorem sound_of_mem {a : Acceptance} (h : a ∈ l.acceptances calls) : a.Sound := by
  obtain ⟨_, _, _, _, done⟩ := exists_of_mem_acceptances h
  exact sound_of_permit done

/-- What is accepted later has no lower nonces. -/
theorem nonce_le_of_mem {a : Acceptance} (h : a ∈ l.acceptances calls) (asset owner : Address) :
    (l.nonce asset owner).toNat ≤ (a.before.nonce asset owner).toNat := by
  obtain ⟨earlier, _, _, there, _⟩ := exists_of_mem_acceptances h
  rw [there]
  exact nonce_le_replay l earlier asset owner

/-- Every accepted permit takes up a nonce that no later one for the same asset and owner has. -/
theorem pairwise_acceptances (l : Ledger) (calls : List (Timestamp × LedgerCall)) :
    (l.acceptances calls).Pairwise fun a b =>
      a.signed.asset = b.signed.asset → a.signed.owner = b.signed.owner →
        a.nonce.toNat < b.nonce.toNat := by
  induction calls generalizing l with
  | nil => exact .nil
  | cons entry calls ih =>
    obtain ⟨now, call⟩ := entry
    refine List.pairwise_append.mpr ⟨?_, ih _, fun a first b later asset owner => ?_⟩
    · cases l.accepted now call with
      | none => exact .nil
      | some a => exact List.pairwise_singleton _ _
    · have first := Option.mem_toList.mp first
      have more := nonce_le_of_mem later b.signed.asset b.signed.owner
      obtain ⟨rfl, rfl, rfl, done⟩ := accepted_eq_some first
      have taken := (sound_of_permit done).taken
      rw [asset, owner] at taken
      exact Nat.lt_of_lt_of_le (Nat.lt_of_lt_of_eq (Nat.lt_succ_self _) taken.symm) more

/-- A permit that is accepted twice in the course of calls gives a collision. -/
theorem collision_of_replayed {i j : Nat} {a b : Acceptance} (less : i < j)
    (first : (l.acceptances calls)[i]? = some a) (again : (l.acceptances calls)[j]? = some b)
    (same : a.signed = b.signed) :
    (a.collision b).1 ≠ (a.collision b).2 ∧
      sha256 (a.collision b).1 = sha256 (a.collision b).2 := by
  refine Acceptance.collision_spec (sound_of_mem (List.mem_of_getElem? first))
    (sound_of_mem (List.mem_of_getElem? again)) same fun nonces => ?_
  obtain ⟨hi, rfl⟩ := List.getElem?_eq_some_iff.mp first
  obtain ⟨hj, rfl⟩ := List.getElem?_eq_some_iff.mp again
  have later := List.pairwise_iff_getElem.mp (pairwise_acceptances l calls) i j hi hj less
  have lower := later (congrArg Permit.asset same) (congrArg Permit.owner same)
  rw [nonces] at lower
  exact Nat.lt_irrefl _ lower

end Ledger

end CollateralDebt
