import CollateralDebt.Proofs.Supply

/-!
# Nonces count permits

The nonce of an owner for an asset moves with the owner's permits for that asset, one step for each,
and with nothing else. A permit that is refused at its very end has taken up its nonce as well. So a
nonce is at most the number of permits that were tried, and as long as there are not more of them
than there are nonces, there is one left for the next.

## What is proved

- `permitEnd`: a permit that takes up its nonce has been checked before;
- `nonce_of_permit`: what an accepted permit does to the nonces;
- `LedgerCall.nonce_after_le`: what any call does to them, accepted or refused;
- `nonce_history_le`: a nonce is at most the number of permits.
-/

namespace CollateralDebt

open Transact (bind_eq_ok bind_eq_error Keeps)

namespace Ledger

variable {l l' : Ledger} {u : Unit}

/-- Two ledgers with the same nonces. -/
def SameNonces (l l' : Ledger) : Prop := l'.state.nonces = l.state.nonces

namespace SameNonces

theorem refl (l : Ledger) : SameNonces l l := rfl

theorem trans {l₁ l₂ l₃ : Ledger} (h₁ : SameNonces l₁ l₂) (h₂ : SameNonces l₂ l₃) :
    SameNonces l₁ l₃ := Eq.trans h₂ h₁

instance : IsPreorder Ledger SameNonces where
  refl := .refl
  trans _ _ _ := .trans

/-- The same table gives the same nonce to every account. -/
theorem nonce (h : SameNonces l l') (asset owner : Address) :
    l'.nonce asset owner = l.nonce asset owner := by
  unfold Ledger.nonce
  rw [h]

end SameNonces

/-! ## Steps -/

theorem keepsNonces_emit (event : Event) : Keeps SameNonces (emit event) :=
  Transact.keeps_modify fun _ => rfl

theorem keepsNonces_putAsset (asset : Address) (info : AssetInfo) :
    Keeps SameNonces (putAsset asset info) := Transact.keeps_modify fun _ => rfl

theorem keepsNonces_putBalance (asset account : Address) (amount : Amount) :
    Keeps SameNonces (putBalance asset account amount) := Transact.keeps_modify fun _ => rfl

theorem keepsNonces_putAllowance (asset owner spender : Address) (amount : Amount) :
    Keeps SameNonces (putAllowance asset owner spender amount) := Transact.keeps_modify fun _ => rfl

/-- Spending an allowance takes up no nonce, whether it succeeds or is refused. -/
theorem keepsNonces_spendAllowance (asset owner spender : Address) (amount : Amount) :
    Keeps SameNonces (spendAllowance asset owner spender amount) := by
  unfold spendAllowance
  split
  · apply Transact.keeps_get.bind
    intro l
    dsimp only
    split
    · split
      · exact keepsNonces_putAllowance _ _ _ _
      · exact Transact.keeps_pure _
    · exact Transact.keeps_reject _
  · exact Transact.keeps_pure _

/-- Nor does a debit. -/
theorem keepsNonces_debit (asset account : Address) (amount : Amount) :
    Keeps SameNonces (debit asset account amount) := by
  unfold debit
  apply Transact.keeps_get.bind
  intro l
  dsimp only
  split
  · exact keepsNonces_putBalance _ _ _
  · exact Transact.keeps_reject _

/-- Nor does a credit. -/
theorem keepsNonces_credit (asset account : Address) (amount : Amount) :
    Keeps SameNonces (credit asset account amount) := by
  unfold credit
  apply Transact.keeps_get.bind
  intro l
  apply (Transact.keeps_liftM _).bind
  intro balance
  exact keepsNonces_putBalance _ _ _

/-! ## Calls -/

section Calls

variable {now : Timestamp}

/-- A transfer takes up no nonce. -/
theorem keepsNonces_transfer (asset source recipient : Address) (amount : Amount)
    (now : Timestamp) : Keeps SameNonces (transfer asset source recipient amount now) := by
  unfold transfer
  apply (readOnly_findAsset _).keeps.bind
  intro _
  apply (Transact.keeps_require _ _).bind
  intro _
  split
  · apply (keepsNonces_debit _ _ _).bind
    intro _
    apply (keepsNonces_credit _ _ _).bind
    intro _
    exact keepsNonces_emit _
  · exact Transact.keeps_pure _

theorem keepsNonces_transferFrom (asset spender source recipient : Address) (amount : Amount)
    (now : Timestamp) :
    Keeps SameNonces (transferFrom asset spender source recipient amount now) := by
  unfold transferFrom
  apply (readOnly_findAsset _).keeps.bind
  intro _
  apply (keepsNonces_spendAllowance _ _ _ _).bind
  intro _
  exact keepsNonces_transfer _ _ _ _ _

theorem keepsNonces_mint (asset minter recipient : Address) (amount : Amount) (now : Timestamp) :
    Keeps SameNonces (mint asset minter recipient amount now) := by
  unfold mint
  apply (readOnly_requireMinter _ _).keeps.bind
  intro _
  apply (Transact.keeps_require _ _).bind
  intro _
  apply (Transact.keeps_require _ _).bind
  intro _
  apply (readOnly_findAsset _).keeps.bind
  intro info
  apply (Transact.keeps_liftM _).bind
  intro total
  apply (keepsNonces_putAsset _ _).bind
  intro _
  apply (keepsNonces_credit _ _ _).bind
  intro _
  exact keepsNonces_emit _

theorem keepsNonces_burnFrom (asset minter source sender : Address) (amount : Amount)
    (now : Timestamp) : Keeps SameNonces (burnFrom asset minter source sender amount now) := by
  unfold burnFrom
  apply (readOnly_requireMinter _ _).keeps.bind
  intro _
  apply (Transact.keeps_require _ _).bind
  intro _
  apply (keepsNonces_spendAllowance _ _ _ _).bind
  intro _
  apply (keepsNonces_debit _ _ _).bind
  intro _
  apply (readOnly_findAsset _).keeps.bind
  intro info
  apply (Transact.keeps_liftM _).bind
  intro total
  apply (keepsNonces_putAsset _ _).bind
  intro _
  exact keepsNonces_emit _

/-- An approval by the owner needs no signature, and takes up no nonce. -/
theorem keepsNonces_approve (asset owner spender : Address) (amount : Amount) (now : Timestamp) :
    Keeps SameNonces (approve asset owner spender amount now) := by
  unfold approve
  apply (readOnly_findAsset _).keeps.bind
  intro _
  apply (Transact.keeps_require _ _).bind
  intro _
  apply (keepsNonces_putAllowance _ _ _ _).bind
  intro _
  exact keepsNonces_emit _

theorem keepsNonces_createAsset (asset controller : Address) (decimals : UInt8) :
    Keeps SameNonces (createAsset asset controller decimals) := by
  unfold createAsset
  apply (Transact.keeps_require _ _).bind
  intro _
  apply Transact.keeps_get.bind
  intro l
  apply (Transact.keeps_require _ _).bind
  intro _
  exact keepsNonces_putAsset _ _

theorem keepsNonces_registerMinter (asset controller minter : Address) (now : Timestamp) :
    Keeps SameNonces (registerMinter asset controller minter now) := by
  unfold registerMinter
  apply (readOnly_findAsset _).keeps.bind
  intro info
  apply (Transact.keeps_require _ _).bind
  intro _
  apply (Transact.keeps_require _ _).bind
  intro _
  apply (keepsNonces_putAsset _ _).bind
  intro _
  exact keepsNonces_emit _

/-! ## Permits -/

/-- The ledger after a permit took up its nonce. -/
def granted (l : Ledger) (signed : Permit) (next : UInt64) : Ledger :=
  { l with state :=
    { l.state with nonces := l.state.nonces.insert (signed.asset, signed.owner) next } }

/-- A permit that is in time, for a known asset, and signed with the owner's key under the owner's
nonce. -/
structure Authentic (l : Ledger) (signed : Permit) (key : Bytes32) (now : Timestamp) : Prop where
  known : ∃ info, l.state.assets.get? signed.asset = some info
  inTime : now ≤ signed.deadline
  registered : l.state.signingKeys.get? signed.owner = some key
  genuine : signed = l.signedPermit key signed.asset signed.owner signed.spender signed.value
    signed.deadline

/-- How a permit ends: before it takes up its nonce, or, if it is authentic, as the approval does
that follows. -/
def PermitEnd (l : Ledger) (signed : Permit) (now : Timestamp)
    (result : EStateM.Result Failure Ledger Unit) : Prop :=
  (∃ f, result = .error f l) ∨
    ∃ key next, l.Authentic signed key now ∧
      nextNonce (l.nonce signed.asset signed.owner) = .ok next ∧
      result = approve signed.asset signed.owner signed.spender signed.value now
        (l.granted signed next)

/-- A permit is taken apart once: it takes up its nonce only after all of its checks. -/
theorem permitEnd (l : Ledger) (signed : Permit) (now : Timestamp) :
    PermitEnd l signed now (permit signed now l) := by
  have stop (f : Failure) : PermitEnd l signed now (.error f l) := .inl ⟨f, rfl⟩
  unfold permit
  apply (readOnly_findAsset _).bind_cases stop
  intro info found
  apply (Transact.readOnly_require _ _).bind_cases stop
  intro _ inTime
  apply Transact.readOnly_get.bind_cases stop
  intro m got
  obtain ⟨rfl, -⟩ := Transact.get_eq_ok.mp got
  apply (Transact.readOnly_liftM _).bind_cases stop
  intro key registered
  apply (Transact.readOnly_require _ _).bind_cases stop
  intro _ right
  apply (Transact.readOnly_liftM _).bind_cases stop
  intro next taken
  have authentic : l.Authentic signed key now := {
    known := ⟨info, (findAsset_eq_ok.mp found).1⟩
    inTime := (Transact.require_eq_ok.mp inTime).1
    registered := Outcome.ofOption_eq_ok.mp (Transact.liftM_eq_ok.mp registered).1
    genuine := Permit.ext rfl rfl rfl rfl rfl (Transact.require_eq_ok.mp right).1.symm }
  exact .inr ⟨key, next, authentic, (Transact.liftM_eq_ok.mp taken).1, rfl⟩

/-- What a permit takes up is one nonce of its owner, and no other. -/
theorem nonce_granted {signed : Permit} {next : UInt64}
    (known : nextNonce (l.nonce signed.asset signed.owner) = .ok next) (x y : Address) :
    ((l.granted signed next).nonce x y).toNat =
      (l.nonce x y).toNat + if signed.asset = x ∧ signed.owner = y then 1 else 0 := by
  unfold nextNonce at known
  split at known
  · rename_i room
    cases known
    show ((l.state.nonces.insert (signed.asset, signed.owner) _).getD (x, y) 0).toNat = _
    unfold Table.getD
    by_cases same : (x, y) = (signed.asset, signed.owner)
    · cases same
      rw [Table.get?_insert_self, if_pos ⟨rfl, rfl⟩]
      show (l.nonce signed.asset signed.owner + 1).toNat = _
      rw [UInt64.toNat_add, UInt64.toNat_one]
      exact Nat.mod_eq_of_lt room
    · rw [Table.get?_insert_of_ne _ _ same, if_neg fun both => same (by rw [both.1, both.2])]
      rfl
  · cases known

/-- An accepted permit has taken up its nonce. -/
theorem nonce_of_permit {signed : Permit} (done : permit signed now l = .ok u l')
    (x y : Address) :
    (l'.nonce x y).toNat =
      (l.nonce x y).toNat + if signed.asset = x ∧ signed.owner = y then 1 else 0 := by
  rcases permitEnd l signed now with ⟨f, ended⟩ | ⟨_, next, _, known, ended⟩
  · cases done.symm.trans ended
  · rw [((keepsNonces_approve _ _ _ _ _ _).1 _ _ (ended.symm.trans done)).nonce]
    exact nonce_granted known x y

/-- A refused permit has taken up its nonce, or nothing at all. -/
theorem nonce_of_refused_permit {signed : Permit} {f : Failure}
    (refused : permit signed now l = .error f l') (x y : Address) :
    (l'.nonce x y).toNat ≤
      (l.nonce x y).toNat + if signed.asset = x ∧ signed.owner = y then 1 else 0 := by
  rcases permitEnd l signed now with ⟨f, ended⟩ | ⟨_, next, _, known, ended⟩
  · cases refused.symm.trans ended
    exact Nat.le_add_right _ _
  · rw [((keepsNonces_approve _ _ _ _ _ _).2 _ _ (ended.symm.trans refused)).nonce]
    exact Nat.le_of_eq (nonce_granted known x y)

end Calls

end Ledger

/-! ## Histories -/

namespace LedgerCall

/-- Whether a call is a permit of an owner for an asset. -/
def isPermit (asset owner : Address) : LedgerCall → Bool
  | .permit signed => signed.asset = asset ∧ signed.owner = owner
  | _ => false

/-- A call that is not a permit keeps the nonces, whether it is accepted or refused. -/
theorem sameNonces_or_permit (now : Timestamp) (call : LedgerCall) :
    Keeps Ledger.SameNonces (call.run now) ∨ ∃ signed, call = .permit signed := by
  cases call with
  | createAsset asset controller decimals => exact .inl (Ledger.keepsNonces_createAsset _ _ _)
  | registerMinter asset controller minter => exact .inl (Ledger.keepsNonces_registerMinter _ _ _ _)
  | mint asset minter recipient amount => exact .inl (Ledger.keepsNonces_mint _ _ _ _ _)
  | burnFrom asset minter source sender amount =>
    exact .inl (Ledger.keepsNonces_burnFrom _ _ _ _ _ _)
  | transfer asset source recipient amount => exact .inl (Ledger.keepsNonces_transfer _ _ _ _ _)
  | transferFrom asset spender source recipient amount =>
    exact .inl (Ledger.keepsNonces_transferFrom _ _ _ _ _ _)
  | approve asset owner spender amount => exact .inl (Ledger.keepsNonces_approve _ _ _ _ _)
  | registerSigningKey owner key => exact .inl (Transact.keeps_modify fun _ => rfl)
  | permit signed => exact .inr ⟨signed, rfl⟩

/-- A call takes up a nonce at most, and only if it is a permit. -/
theorem nonce_after_le (l : Ledger) (now : Timestamp) (call : LedgerCall) (asset owner : Address) :
    (((call.run now).after l).nonce asset owner).toNat ≤
      (l.nonce asset owner).toNat + if call.isPermit asset owner then 1 else 0 := by
  rcases sameNonces_or_permit now call with keeps | ⟨signed, rfl⟩
  · rw [(keeps.after l).nonce]
    exact Nat.le_add_right _ _
  · simp only [isPermit, decide_eq_true_eq]
    rcases Transact.after_eq (LedgerCall.run now (.permit signed)) l with ⟨_, done⟩ |
      ⟨_, refused⟩ | same
    · exact Nat.le_of_eq (Ledger.nonce_of_permit done asset owner)
    · exact Ledger.nonce_of_refused_permit refused asset owner
    · rw [same]
      exact Nat.le_add_right _ _

end LedgerCall

/-- A nonce is at most the number of the permits that were tried. -/
theorem Ledger.nonce_history_le (calls : List (Timestamp × LedgerCall)) (asset owner : Address) :
    ((Ledger.history calls).nonce asset owner).toNat ≤
      calls.countP fun entry => entry.2.isPermit asset owner := by
  -- on the calls from the last one back
  induction calls using List.reverseRecOn with
  | nil => exact Nat.le_refl _
  | append_singleton calls entry ih =>
    have here := LedgerCall.nonce_after_le (Ledger.history calls) entry.1 entry.2 asset owner
    rw [history_append, List.countP_append, List.countP_singleton]
    omega

end CollateralDebt
