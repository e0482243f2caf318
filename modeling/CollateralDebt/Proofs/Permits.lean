import CollateralDebt.Proofs.Nonces

/-!
# What a permit shows

A permit that gets as far as its nonce has been checked: its asset is known, it is in time, and its
signature is the one that the owner's key gives for exactly its terms under the owner's nonce. All
that can go wrong after that is the approval, and only for a permit to nobody.

## What is proved

- `authentic_of_permit`: an accepted permit was authentic;
- `permit_eq_error`: what a refused permit leaves.
-/

namespace CollateralDebt.Ledger

open Transact (bind_eq_ok bind_eq_error)

variable {l l' : Ledger} {signed : Permit} {key : Bytes32} {now : Timestamp} {u : Unit}

/-! ## Approvals -/

/-- An approval that is refused sets nothing. -/
theorem traceless_approve (asset owner spender : Address) (amount : Amount) (now : Timestamp) :
    Transact.Traceless (approve asset owner spender amount now) := by
  unfold approve
  apply (readOnly_findAsset asset).bind_traceless
  intro _
  apply (Transact.readOnly_require _ _).bind_traceless
  intro _
  exact ((Transact.unfailing_modify _).bind fun _ => Transact.unfailing_modify _).traceless

/-- For a known asset, an approval is refused only if it is to nobody. -/
theorem approve_eq_error {asset owner spender : Address} {amount : Amount} {info : AssetInfo}
    {f : Failure} (known : l.state.assets.get? asset = some info)
    (refused : approve asset owner spender amount now l = .error f l') : spender = .zero := by
  unfold approve at refused
  rcases bind_eq_error.mp refused with refused | ⟨_, _, _, refused⟩
  · rw [unknown_of_findAsset refused] at known
    cases known
  rcases bind_eq_error.mp refused with refused | ⟨_, _, _, refused⟩
  · exact Decidable.not_not.mp (Transact.require_eq_error.mp refused).1
  rcases bind_eq_error.mp refused with refused | ⟨_, _, _, refused⟩
  · cases refused
  · cases refused

/-! ## Permits -/

/-- An accepted permit was authentic. -/
theorem authentic_of_permit (done : permit signed now l = .ok u l') :
    ∃ key, l.Authentic signed key now := by
  rcases permitEnd l signed now with ⟨f, ended⟩ | ⟨key, next, authentic, -, -⟩
  · cases done.symm.trans ended
  · exact ⟨key, authentic⟩

/-- A refused permit changed nothing, or it was an authentic permit to nobody and took up its
nonce. -/
theorem permit_eq_error {f : Failure} (refused : permit signed now l = .error f l') :
    l' = l ∨ ∃ key next, l.Authentic signed key now ∧ signed.spender = .zero ∧
      nextNonce (l.nonce signed.asset signed.owner) = .ok next ∧ l' = l.granted signed next := by
  rcases permitEnd l signed now with ⟨f, ended⟩ | ⟨key, next, authentic, taken, ended⟩
  · cases refused.symm.trans ended
    exact .inl rfl
  · have failed := ended.symm.trans refused
    obtain ⟨info, known⟩ := authentic.known
    have nobody := approve_eq_error (l := l.granted signed next) known failed
    exact .inr ⟨key, next, authentic, nobody, taken, traceless_approve _ _ _ _ _ _ _ _ failed⟩

end CollateralDebt.Ledger
