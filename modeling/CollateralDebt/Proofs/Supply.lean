import Mathlib.Data.List.Induction
import CollateralDebt.Proofs.Ledger
import CollateralDebt.Proofs.Tame

/-!
# The supply is held

A ledger is *balanced* if the supply of every asset is what all accounts together hold of it. Calls
keep a ledger balanced, and being balanced is what bounds the funds of an account: they are part of
the supply, and the supply is an amount. So a credit that follows a debit or an issue finds room, a
burning that found the funds finds the supply, and a call that is refused has moved nothing.

## What is proved

- `held_debit`, `held_credit`: what the two steps do to what is held;
- `LedgerCall.balanced`, `LedgerCall.sameFunds_of_refused`: accepted calls keep a ledger balanced,
  refused ones move nothing;
- `balanced_history`: every ledger that is built by calls is balanced;
- `LedgerCall.tameAt`: how a call on such a ledger can be refused.
-/

namespace CollateralDebt

open Transact (TameAt TracelessAt bind_eq_ok bind_eq_error)

namespace Ledger

variable {asset account : Address} {amount : Amount} {l l' : Ledger} {u : Unit}

/-- What all accounts together hold of an asset. -/
def held (l : Ledger) (asset : Address) : Nat :=
  l.state.balances.weight fun e => issue e.1.1 e.2.toNat asset

/-- The supply of every asset is what is held of it. -/
def Balanced (l : Ledger) : Prop := ∀ asset, l.held asset = (l.totalSupply asset).toNat

/-! ## What is held -/

/-- What is held is read off the funds. -/
theorem held_of_sameFunds (same : SameFunds l l') (x : Address) : l'.held x = l.held x := by
  unfold held
  rw [same.balances]

/-- Setting a balance adds the new one to what is held and takes away the old one. -/
theorem held_insert (l : Ledger) (asset account : Address) (amount : Amount) (x : Address) :
    held { l with state :=
      { l.state with balances := l.state.balances.insert (asset, account) amount } } x +
        issue asset (l.balanceOf asset account).toNat x =
      l.held x + issue asset amount.toNat x := by
  have inserted := l.state.balances.weight_insert
    (fun e => issue e.1.1 e.2.toNat x) (asset, account) amount
  have old : ((l.state.balances.get? (asset, account)).map fun w => issue asset w.toNat x).getD 0 =
      issue asset (l.balanceOf asset account).toNat x := by
    unfold balanceOf Table.getD
    cases l.state.balances.get? (asset, account) with
    | none => exact (issue_zero asset x).symm
    | some w => rfl
  rw [← old]
  exact inserted

/-- The funds of one account are part of what is held. -/
theorem balance_le_held (l : Ledger) (asset account : Address) :
    (l.balanceOf asset account).toNat ≤ l.held asset := by
  unfold balanceOf Table.getD
  cases found : l.state.balances.get? (asset, account) with
  | none => exact Nat.zero_le _
  | some w =>
    have part := l.state.balances.le_weight (fun e => issue e.1.1 e.2.toNat asset) found
    rw [issue_self] at part
    exact part

/-- A debit takes its amount from what is held. -/
theorem held_debit (h : debit asset account amount l = .ok u l') (x : Address) :
    l'.held x + issue asset amount.toNat x = l.held x := by
  simp only [debit, bind_eq_ok, Transact.get_eq_ok] at h
  obtain ⟨_, _, ⟨rfl, rfl⟩, h⟩ := h
  split at h
  · rename_i enough
    rw [putBalance_eq_ok] at h
    subst h
    have set := held_insert l asset account ((l.balanceOf asset account).sub amount enough) x
    have parts := issue_add asset ((l.balanceOf asset account).toNat - amount.toNat) amount.toNat x
    rw [Nat.sub_add_cancel (Amount.le_iff.mp enough)] at parts
    rw [Amount.toNat_sub] at set
    omega
  · cases h

/-- A credit adds its amount to what is held. -/
theorem held_credit (h : credit asset account amount l = .ok u l') (x : Address) :
    l'.held x = l.held x + issue asset amount.toNat x := by
  simp only [credit, bind_eq_ok, Transact.get_eq_ok, Transact.liftM_eq_ok, Amount.add_eq_ok,
    putBalance_eq_ok] at h
  obtain ⟨_, _, ⟨rfl, rfl⟩, balance, _, ⟨hbalance, rfl⟩, rfl⟩ := h
  have set := held_insert l asset account balance x
  rw [hbalance, issue_add] at set
  refine Nat.add_right_cancel (set.trans ?_)
  omega

/-- There is no supply of an asset that nobody made known. -/
theorem totalSupply_of_unknown (unknown : l.state.assets.get? asset = none) :
    l.totalSupply asset = .zero := by
  unfold totalSupply
  rw [unknown]
  rfl

/-- Looking an asset up fails only if nobody made it known. -/
theorem unknown_of_findAsset {f : Failure} (h : findAsset asset l = .error f l') :
    l.state.assets.get? asset = none := by
  unfold findAsset assetInfo at h
  rcases bind_eq_error.mp h with h | ⟨_, _, got, h⟩
  · cases h
  obtain ⟨rfl, rfl⟩ := Transact.get_eq_ok.mp got
  exact (Outcome.ofOption_eq_error.mp (Transact.liftM_eq_error.mp h).1).1

/-! ## Balanced ledgers -/

namespace Balanced

theorem empty : Balanced .empty := fun _ => rfl

/-- Whether a ledger is balanced is read off its funds. -/
theorem congr (h : Balanced l) (same : SameFunds l l') : Balanced l' := by
  intro x
  rw [held_of_sameFunds same, same.supply, h x]

/-- An account holds no more than the supply. -/
theorem balance_le (h : Balanced l) (asset account : Address) :
    l.balanceOf asset account ≤ l.totalSupply asset := by
  rw [Amount.le_iff, ← h asset]
  exact balance_le_held l asset account

/-- What was debited can be credited to any account. -/
theorem credit_of_debit {source recipient : Address} {m : Ledger} {f : Failure} (h : Balanced l)
    (out : debit asset source amount l = .ok u m) :
    credit asset recipient amount m ≠ .error f l' := by
  intro refused
  have room := balance_le_held m asset recipient
  have rest := held_debit out asset
  have supply := h asset
  have small := (l.totalSupply asset).isLt
  have large := (credit_eq_error refused).1
  rw [issue_self] at rest
  omega

/-- What was issued can be credited to any account. -/
theorem credit_of_issue {recipient : Address} {info : AssetInfo} {total : Amount} {f : Failure}
    (h : Balanced l) (found : l.state.assets.get? asset = some info)
    (issued : total.toNat = info.totalSupply.toNat + amount.toNat) :
    credit asset recipient amount { l with state := { l.state with
      assets := l.state.assets.insert asset { info with totalSupply := total } } } ≠
        .error f l' := by
  intro refused
  have room := Amount.le_iff.mp (h.balance_le asset recipient)
  have small := total.isLt
  have large := (credit_eq_error refused).1
  change Nat.pow 2 128 ≤ (l.balanceOf asset recipient).toNat + amount.toNat at large
  rw [totalSupply_of_get? found] at room
  omega

/-- What was debited can be taken off the supply. -/
theorem supply_of_debit {m : Ledger} (h : Balanced l)
    (out : debit asset account amount l = .ok u m) : amount ≤ m.totalSupply asset := by
  have funds := (debit_eq_ok out).1 asset account
  have part := h.balance_le asset account
  rw [portion_self] at funds
  rw [Amount.le_iff] at part ⊢
  rw [(debit_eq_ok out).2]
  omega

end Balanced

/-! ## Steps -/

theorem readOnly_requireMinter (asset minter : Address) :
    Transact.ReadOnly (requireMinter asset minter) :=
  (readOnly_findAsset asset).bind fun _ => Transact.readOnly_require _ _

/-- A debit that is refused has written nothing. -/
theorem traceless_debit (asset account : Address) (amount : Amount) :
    Transact.Traceless (debit asset account amount) := by
  unfold debit
  apply Transact.readOnly_get.bind_traceless
  intro l
  dsimp only
  split
  · exact (Transact.unfailing_modify _).traceless
  · exact fun _ _ _ h => by cases h; rfl

section Tame

variable {p : Prop}

/-- An unknown asset is a cause of its own. -/
theorem tameAt_findAsset (asset : Address) : TameAt p l (findAsset asset) := by
  refine Transact.failsOnlyAt_get_bind ?_
  refine Transact.failsOnlyAt_liftM ?_
  unfold assetInfo
  exact Outcome.tame_ofOption (by simp) _

theorem tameAt_requireMinter (asset minter : Address) :
    TameAt p l (requireMinter asset minter) := by
  apply (tameAt_findAsset asset).bind
  intro _ _ _
  exact Transact.failsOnlyAt_require (by simp)

/-- An allowance is compared before it is lowered. -/
theorem tameAt_spendAllowance (asset owner spender : Address) (amount : Amount) :
    TameAt p l (spendAllowance asset owner spender amount) := by
  unfold spendAllowance
  split
  · refine Transact.failsOnlyAt_get_bind ?_
    dsimp only
    split
    · split
      · exact Transact.failsOnlyAt_modify _
      · exact Transact.failsOnlyAt_pure _
    · exact Transact.failsOnlyAt_reject (by simp)
  · exact Transact.failsOnlyAt_pure _

/-- A balance is compared before it is lowered. -/
theorem tameAt_debit (asset account : Address) (amount : Amount) :
    TameAt p l (debit asset account amount) := by
  unfold debit
  refine Transact.failsOnlyAt_get_bind ?_
  dsimp only
  split
  · exact Transact.failsOnlyAt_modify _
  · exact Transact.failsOnlyAt_reject (by simp)

/-- A credit is added with a check. -/
theorem tameAt_credit (asset account : Address) (amount : Amount) :
    TameAt p l (credit asset account amount) :=
  Transact.failsOnlyAt_get_bind <| Transact.failsOnlyAt_liftM_bind (tame_add _ _) fun _ _ =>
    Transact.failsOnlyAt_modify _

end Tame

/-! ## Calls that move nothing -/

/-- An asset that is refused is not known afterwards. -/
theorem traceless_createAsset (asset controller : Address) (decimals : UInt8) :
    Transact.Traceless (createAsset asset controller decimals) := by
  unfold createAsset
  apply (Transact.readOnly_require _ _).bind_traceless
  intro _
  apply Transact.readOnly_get.bind_traceless
  intro _
  apply (Transact.readOnly_require _ _).bind_traceless
  intro _
  exact (Transact.unfailing_modify _).traceless

/-- A new asset has no supply, and an unknown one has none either. -/
theorem keeps_createAsset (asset controller : Address) (decimals : UInt8) :
    Transact.Keeps SameFunds (createAsset asset controller decimals) := by
  intro l
  constructor
  · intro _ l' h
    simp only [createAsset, bind_eq_ok, Transact.require_eq_ok, Transact.get_eq_ok,
      putAsset_eq_ok] at h
    obtain ⟨_, _, ⟨_, rfl⟩, _, _, ⟨rfl, rfl⟩, _, _, ⟨unknown, rfl⟩, rfl⟩ := h
    refine ⟨rfl, fun x => ?_⟩
    rw [totalSupply_insert]
    split
    · rename_i here
      have absent : l.state.assets.get? asset = none := by
        simpa [Table.contains] using unknown
      rw [here, totalSupply_of_unknown absent]
    · rfl
  · intro f l' h
    rw [traceless_createAsset asset controller decimals l f l' h]
    exact SameFunds.refl l

/-- Signing keys are no funds. -/
theorem keeps_registerSigningKey (owner : Address) (key : Bytes32) :
    Transact.Keeps SameFunds (registerSigningKey owner key) :=
  Transact.keeps_modify fun _ => ⟨rfl, fun _ => rfl⟩

/-! ## What is spent -/

/-- An allowance was lowered, and nothing else happened. -/
structure Spent (l : Ledger) (asset owner spender : Address) (amount : Amount) (l' : Ledger) :
    Prop where
  foreign : owner ≠ spender
  limited : l.allowance asset owner spender ≠ .largest
  enough : amount ≤ l.allowance asset owner spender
  lowered :
    l' = l.allowing asset owner spender ((l.allowance asset owner spender).sub amount enough)

/-- Lowering an allowance moves no funds. -/
theorem Spent.sameFunds {owner spender : Address} (h : Spent l asset owner spender amount l') :
    SameFunds l l' := by
  rw [h.lowered]
  exact ⟨rfl, fun _ => rfl⟩

/-- Spending an allowance lowers it, or leaves all as it is for the owner and for those who are
allowed anything. -/
theorem spendAllowance_eq_ok {owner spender : Address}
    (done : spendAllowance asset owner spender amount l = .ok u l') :
    l' = l ∨ Spent l asset owner spender amount l' := by
  unfold spendAllowance at done
  split at done
  · rename_i foreign
    simp only [bind_eq_ok, Transact.get_eq_ok] at done
    obtain ⟨_, _, ⟨rfl, rfl⟩, done⟩ := done
    split at done
    · rename_i enough
      split at done
      · rename_i limited
        exact .inr ⟨foreign, limited, enough, (putAllowance_eq_ok.mp done).symm⟩
      · exact .inl (Transact.pure_eq_ok.mp done).2.symm
    · cases done
  · exact .inl (Transact.pure_eq_ok.mp done).2.symm

/-- An allowance that does not suffice is not lowered. -/
theorem traceless_spendAllowance (asset owner spender : Address) (amount : Amount) :
    Transact.Traceless (spendAllowance asset owner spender amount) := by
  unfold spendAllowance
  split
  · apply Transact.readOnly_get.bind_traceless
    intro l
    dsimp only
    split
    · split
      · exact (Transact.unfailing_modify _).traceless
      · exact (Transact.unfailing_pure _).traceless
    · exact fun s f s' failed => ((Transact.readOnly_reject _) s).2 f s' failed
  · exact (Transact.unfailing_pure _).traceless

/-! ## Calls that move funds -/

section Moving

variable {source recipient minter sender : Address} {now : Timestamp} {f : Failure}

/-- A transfer that is refused leaves the ledger as it was: after the debit nothing fails. -/
theorem tracelessAt_transfer (h : Balanced l) :
    TracelessAt l (transfer asset source recipient amount now) := by
  unfold transfer
  apply (readOnly_findAsset asset).bind_tracelessAt
  intro _ _
  apply (Transact.readOnly_require _ _).bind_tracelessAt
  intro _ _
  split
  · intro f l' refused
    rcases bind_eq_error.mp refused with refused | ⟨_, m, out, refused⟩
    · exact traceless_debit _ _ _ l f l' refused
    rcases bind_eq_error.mp refused with refused | ⟨_, _, _, refused⟩
    · exact absurd refused (h.credit_of_debit out)
    · cases refused
  · exact (Transact.unfailing_pure ()).traceless l

/-- A refused minting leaves the ledger as it was: after the issue nothing fails. -/
theorem tracelessAt_mint (h : Balanced l) :
    TracelessAt l (mint asset minter recipient amount now) := by
  unfold mint
  apply (readOnly_requireMinter asset minter).bind_tracelessAt
  intro _ _
  apply (Transact.readOnly_require _ _).bind_tracelessAt
  intro _ _
  apply (Transact.readOnly_require _ _).bind_tracelessAt
  intro _ _
  apply (readOnly_findAsset asset).bind_tracelessAt
  intro info found
  apply (Transact.readOnly_liftM _).bind_tracelessAt
  intro total issued f l' refused
  rcases bind_eq_error.mp refused with refused | ⟨_, m, put, refused⟩
  · cases refused
  obtain rfl := putAsset_eq_ok.mp put
  rcases bind_eq_error.mp refused with refused | ⟨_, _, _, refused⟩
  · have sum := Amount.add_eq_ok.mp (Transact.liftM_eq_ok.mp issued).1
    exact absurd refused (h.credit_of_issue (findAsset_eq_ok.mp found).1 sum)
  · cases refused

/-- A transfer out of an allowance that is refused has spent the allowance at most. -/
theorem spent_of_transferFrom {spender : Address} (h : Balanced l)
    (refused : transferFrom asset spender source recipient amount now l = .error f l') :
    l' = l ∨ Spent l asset source spender amount l' := by
  unfold transferFrom at refused
  rcases bind_eq_error.mp refused with refused | ⟨_, _, found, refused⟩
  · exact .inl ((readOnly_findAsset asset l).2 f l' refused)
  obtain ⟨-, rfl⟩ := findAsset_eq_ok.mp found
  rcases bind_eq_error.mp refused with refused | ⟨_, m, spent, refused⟩
  · exact .inl (traceless_spendAllowance _ _ _ _ _ _ _ refused)
  have same := (keeps_spendAllowance _ _ _ _ l).1 _ _ spent
  rw [tracelessAt_transfer (h.congr same) f l' refused]
  exact spendAllowance_eq_ok spent

/-- A burning that is refused has spent the allowance at most: after the debit nothing fails. -/
theorem spent_of_burnFrom (h : Balanced l)
    (refused : burnFrom asset minter source sender amount now l = .error f l') :
    l' = l ∨ Spent l asset source sender amount l' := by
  unfold burnFrom at refused
  rcases bind_eq_error.mp refused with refused | ⟨_, _, allowed, refused⟩
  · exact .inl ((readOnly_requireMinter asset minter l).2 f l' refused)
  obtain ⟨-, rfl⟩ := requireMinter_eq_ok.mp allowed
  rcases bind_eq_error.mp refused with refused | ⟨_, _, valid, refused⟩
  · exact .inl ((Transact.readOnly_require _ _ l).2 f l' refused)
  obtain ⟨something, rfl⟩ := Transact.require_eq_ok.mp valid
  rcases bind_eq_error.mp refused with refused | ⟨_, m, spent, refused⟩
  · exact .inl (traceless_spendAllowance _ _ _ _ _ _ _ refused)
  have same := (keeps_spendAllowance _ _ _ _ l).1 _ _ spent
  rcases bind_eq_error.mp refused with refused | ⟨_, m', out, refused⟩
  · rw [traceless_debit _ _ _ m f l' refused]
    exact spendAllowance_eq_ok spent
  -- the supply covers what was debited, which also means that the asset is known
  have covered := Amount.le_iff.mp (h.congr same |>.supply_of_debit out)
  rcases bind_eq_error.mp refused with refused | ⟨info, _, known, refused⟩
  · rw [totalSupply_of_unknown (unknown_of_findAsset refused)] at covered
    exact absurd covered (Nat.not_le.mpr (Amount.ne_zero_iff.mp something))
  obtain ⟨found, rfl⟩ := findAsset_eq_ok.mp known
  rw [totalSupply_of_get? found] at covered
  rcases bind_eq_error.mp refused with refused | ⟨_, _, _, refused⟩
  · have short := (Amount.minus_eq_error.mp (Transact.liftM_eq_error.mp refused).1).1
    exact absurd covered (Nat.not_le.mpr short)
  · cases refused

/-- A refused transfer out of an allowance can have spent the allowance, but it moved nothing. -/
theorem sameFunds_of_transferFrom {spender : Address} (h : Balanced l)
    (refused : transferFrom asset spender source recipient amount now l = .error f l') :
    SameFunds l l' := by
  rcases spent_of_transferFrom h refused with rfl | spent
  · exact .refl _
  · exact spent.sameFunds

/-- A refused burning can have spent the allowance, but it moved nothing. -/
theorem sameFunds_of_burnFrom (h : Balanced l)
    (refused : burnFrom asset minter source sender amount now l = .error f l') :
    SameFunds l l' := by
  rcases spent_of_burnFrom h refused with rfl | spent
  · exact .refl _
  · exact spent.sameFunds

/-! ## Accepted calls -/

/-- What a transfer takes from one account it adds to another. -/
theorem balanced_transfer (h : Balanced l)
    (done : transfer asset source recipient amount now l = .ok u l') : Balanced l' := by
  intro x
  rw [(transfer_eq_ok done).2]
  simp only [transfer, bind_eq_ok, findAsset_eq_ok, Transact.require_eq_ok] at done
  obtain ⟨_, _, ⟨_, rfl⟩, _, _, ⟨_, rfl⟩, done⟩ := done
  split at done
  · simp only [bind_eq_ok, emit_eq_ok] at done
    obtain ⟨_, l₁, out, _, l₂, into, rfl⟩ := done
    have out := held_debit out x
    have into := held_credit into x
    have before := h x
    show l₂.held x = _
    omega
  · rw [Transact.pure_eq_ok] at done
    rw [← done.2]
    exact h x

/-- So does a transfer on behalf of the owner. -/
theorem balanced_transferFrom {spender : Address} (h : Balanced l)
    (done : transferFrom asset spender source recipient amount now l = .ok u l') :
    Balanced l' := by
  simp only [transferFrom, bind_eq_ok, findAsset_eq_ok] at done
  obtain ⟨_, _, ⟨_, rfl⟩, _, l₁, spent, done⟩ := done
  exact balanced_transfer (h.congr ((keeps_spendAllowance _ _ _ _ l).1 _ _ spent)) done

/-- What a minting adds to an account it adds to the supply. -/
theorem balanced_mint (h : Balanced l)
    (done : mint asset minter recipient amount now l = .ok u l') : Balanced l' := by
  intro x
  rw [(mint_eq_ok done).2, ← h x]
  simp only [mint, bind_eq_ok, requireMinter_eq_ok, Transact.require_eq_ok, findAsset_eq_ok,
    Transact.liftM_eq_ok, putAsset_eq_ok, emit_eq_ok] at done
  obtain ⟨_, _, ⟨_, rfl⟩, _, _, ⟨_, rfl⟩, _, _, ⟨_, rfl⟩, info, _, ⟨found, rfl⟩, total, _,
    ⟨_, rfl⟩, _, _, rfl, _, l₁, into, rfl⟩ := done
  exact held_credit into x

/-- What a burning takes from an account it takes off the supply. -/
theorem balanced_burnFrom (h : Balanced l)
    (done : burnFrom asset minter source sender amount now l = .ok u l') : Balanced l' := by
  intro x
  have supply := (burnFrom_eq_ok done).2 x
  simp only [burnFrom, bind_eq_ok, requireMinter_eq_ok, Transact.require_eq_ok, findAsset_eq_ok,
    Transact.liftM_eq_ok, putAsset_eq_ok, emit_eq_ok] at done
  obtain ⟨_, _, ⟨_, rfl⟩, _, _, ⟨_, rfl⟩, _, l₁, spent, _, l₂, out, info, _, ⟨_, rfl⟩, total, _,
    ⟨_, rfl⟩, _, _, rfl, rfl⟩ := done
  have out := held_debit out x
  have before := held_of_sameFunds ((keeps_spendAllowance _ _ _ _ l).1 _ _ spent) x
  have start := h x
  change l₂.held x = _
  omega

/-! ## What a refusal can be -/

variable {p : Prop}

/-- A transfer compares, and adds with a check. -/
theorem tameAt_transfer (asset source recipient : Address) (amount : Amount) (now : Timestamp) :
    TameAt p l (transfer asset source recipient amount now) := by
  unfold transfer
  apply (tameAt_findAsset asset).bind
  intro _ _ _
  refine Transact.failsOnlyAt_require_bind (by simp) ?_
  intro _
  split
  · apply (tameAt_debit _ _ _).bind
    intro _ _ _
    apply (tameAt_credit _ _ _).bind
    intro _ _ _
    exact Transact.failsOnlyAt_modify _
  · exact Transact.failsOnlyAt_pure _

theorem tameAt_transferFrom (asset spender source recipient : Address) (amount : Amount)
    (now : Timestamp) : TameAt p l (transferFrom asset spender source recipient amount now) := by
  unfold transferFrom
  apply (tameAt_findAsset asset).bind
  intro _ _ _
  apply (tameAt_spendAllowance _ _ _ _).bind
  intro _ _ _
  exact tameAt_transfer _ _ _ _ _

/-- A minting adds twice, each time with a check. -/
theorem tameAt_mint (asset minter recipient : Address) (amount : Amount) (now : Timestamp) :
    TameAt p l (mint asset minter recipient amount now) := by
  unfold mint
  apply (tameAt_requireMinter _ _).bind
  intro _ _ _
  refine Transact.failsOnlyAt_require_bind (by simp) ?_
  intro _
  refine Transact.failsOnlyAt_require_bind (by simp) ?_
  intro _
  apply (tameAt_findAsset asset).bind
  intro _ _ _
  apply Transact.failsOnlyAt_liftM_bind (tame_add _ _)
  intro _ _
  refine Transact.failsOnlyAt_modify_bind ?_
  apply (tameAt_credit _ _ _).bind
  intro _ _ _
  exact Transact.failsOnlyAt_modify _

/-- On a balanced ledger, the supply covers what is burnt. -/
theorem tameAt_burnFrom (h : Balanced l) (asset minter source sender : Address) (amount : Amount)
    (now : Timestamp) : TameAt p l (burnFrom asset minter source sender amount now) := by
  unfold burnFrom
  apply (tameAt_requireMinter _ _).bind
  intro _ _ allowed
  obtain ⟨-, rfl⟩ := requireMinter_eq_ok.mp allowed
  refine Transact.failsOnlyAt_require_bind (by simp) ?_
  intro _
  apply (tameAt_spendAllowance _ _ _ _).bind
  intro _ m spent
  have same := (keeps_spendAllowance _ _ _ _ l).1 _ _ spent
  apply (tameAt_debit _ _ _).bind
  intro _ m' out
  have covered := (h.congr same).supply_of_debit out
  apply (tameAt_findAsset asset).bind
  intro info _ known
  obtain ⟨found, rfl⟩ := findAsset_eq_ok.mp known
  rw [totalSupply_of_get? found] at covered
  apply Transact.failsOnlyAt_liftM_bind (tame_minus covered)
  intro _ _
  refine Transact.failsOnlyAt_modify_bind ?_
  exact Transact.failsOnlyAt_modify _

/-- An approval computes nothing. -/
theorem tameAt_approve (asset owner spender : Address) (amount : Amount) (now : Timestamp) :
    TameAt p l (approve asset owner spender amount now) := by
  unfold approve
  apply (tameAt_findAsset asset).bind
  intro _ _ _
  refine Transact.failsOnlyAt_require_bind (by simp) ?_
  intro _
  refine Transact.failsOnlyAt_modify_bind ?_
  exact Transact.failsOnlyAt_modify _

theorem tameAt_createAsset (asset controller : Address) (decimals : UInt8) :
    TameAt p l (createAsset asset controller decimals) := by
  unfold createAsset
  refine Transact.failsOnlyAt_require_bind (by simp) ?_
  intro _
  refine Transact.failsOnlyAt_get_bind ?_
  refine Transact.failsOnlyAt_require_bind (by simp) ?_
  intro _
  exact Transact.failsOnlyAt_modify _

/-- Nor does naming a minter. -/
theorem tameAt_registerMinter (asset controller minter : Address) (now : Timestamp) :
    TameAt p l (registerMinter asset controller minter now) := by
  unfold registerMinter
  apply (tameAt_findAsset asset).bind
  intro _ _ _
  refine Transact.failsOnlyAt_require_bind (by simp) ?_
  intro _
  refine Transact.failsOnlyAt_require_bind (by simp) ?_
  intro _
  refine Transact.failsOnlyAt_modify_bind ?_
  exact Transact.failsOnlyAt_modify _

/-- The step to the next nonce is excused if there is none. -/
theorem tameAt_permit_excused (signed : Permit) (now : Timestamp)
    (excuse : UInt64.size ≤ (l.nonce signed.asset signed.owner).toNat + 1 → p) :
    TameAt p l (permit signed now) := by
  unfold permit
  apply (tameAt_findAsset _).bind
  intro _ _ known
  obtain ⟨-, rfl⟩ := findAsset_eq_ok.mp known
  refine Transact.failsOnlyAt_require_bind (by simp) ?_
  intro _
  refine Transact.failsOnlyAt_get_bind ?_
  apply Transact.failsOnlyAt_liftM_bind (Outcome.tame_ofOption (by simp) _)
  intro key _
  refine Transact.failsOnlyAt_require_bind (by simp) ?_
  intro _
  refine Transact.failsOnlyAt_liftM_bind ?_ ?_
  · intro f failed
    unfold nextNonce at failed
    split at failed
    · cases failed
    · rename_i large
      cases failed
      exact excuse (Nat.le_of_not_lt large)
  intro next _
  refine Transact.failsOnlyAt_modify_bind ?_
  exact tameAt_approve _ _ _ _ _

/-- There is another nonce for the permit, so the step to it stays in range. -/
theorem tameAt_permit (signed : Permit) (now : Timestamp)
    (room : (l.nonce signed.asset signed.owner).toNat + 1 < UInt64.size) :
    TameAt p l (permit signed now) :=
  tameAt_permit_excused signed now fun large => absurd room (Nat.not_lt.mpr large)

end Moving

end Ledger

/-! ## All calls -/

namespace LedgerCall

open Ledger (Balanced SameFunds)

variable {l l' : Ledger} {now : Timestamp} {call : LedgerCall} {u : Unit}

/-- An accepted call keeps a ledger balanced. -/
theorem balanced (h : Balanced l) (done : call.run now l = .ok u l') : Balanced l' := by
  cases call with
  | createAsset asset controller decimals =>
    exact h.congr ((Ledger.keeps_createAsset _ _ _ l).1 _ _ done)
  | registerMinter asset controller minter =>
    exact h.congr ((Ledger.keeps_registerMinter _ _ _ _ l).1 _ _ done)
  | mint asset minter recipient amount => exact Ledger.balanced_mint h done
  | burnFrom asset minter source sender amount => exact Ledger.balanced_burnFrom h done
  | transfer asset source recipient amount => exact Ledger.balanced_transfer h done
  | transferFrom asset spender source recipient amount =>
    exact Ledger.balanced_transferFrom h done
  | approve asset owner spender amount =>
    exact h.congr ((Ledger.keeps_approve _ _ _ _ _ l).1 _ _ done)
  | registerSigningKey owner key =>
    exact h.congr ((Ledger.keeps_registerSigningKey _ _ l).1 _ _ done)
  | permit signed => exact h.congr ((Ledger.keeps_permit _ _ l).1 _ _ done)

/-- A refused call on a balanced ledger moved nothing. -/
theorem sameFunds_of_refused {f : Failure} (h : Balanced l)
    (refused : call.run now l = .error f l') : SameFunds l l' := by
  cases call with
  | createAsset asset controller decimals =>
    exact (Ledger.keeps_createAsset _ _ _ l).2 f l' refused
  | registerMinter asset controller minter =>
    exact (Ledger.keeps_registerMinter _ _ _ _ l).2 f l' refused
  | mint asset minter recipient amount =>
    rw [Ledger.tracelessAt_mint h f l' refused]
    exact .refl l
  | burnFrom asset minter source sender amount => exact Ledger.sameFunds_of_burnFrom h refused
  | transfer asset source recipient amount =>
    rw [Ledger.tracelessAt_transfer h f l' refused]
    exact .refl l
  | transferFrom asset spender source recipient amount =>
    exact Ledger.sameFunds_of_transferFrom h refused
  | approve asset owner spender amount => exact (Ledger.keeps_approve _ _ _ _ _ l).2 f l' refused
  | registerSigningKey owner key => exact (Ledger.keeps_registerSigningKey _ _ l).2 f l' refused
  | permit signed => exact (Ledger.keeps_permit _ _ l).2 f l' refused

/-- A ledger that is balanced is so after any call that is tried on it, whether it was accepted or
refused. -/
theorem balanced_after (h : Balanced l) : Balanced ((call.run now).after l) := by
  rcases Transact.after_eq (call.run now) l with ⟨_, done⟩ | ⟨_, refused⟩ | same
  · exact balanced h done
  · exact h.congr (sameFunds_of_refused h refused)
  · rw [same]
    exact h

/-- A call on a balanced ledger is refused for no mistake in its arithmetic, except that a permit
may find no nonce after its own. -/
theorem tameAt_excused {p : Prop} (h : Balanced l)
    (excuse : ∀ signed, call = .permit signed →
      UInt64.size ≤ (l.nonce signed.asset signed.owner).toNat + 1 → p) :
    TameAt p l (call.run now) := by
  cases call with
  | createAsset asset controller decimals => exact Ledger.tameAt_createAsset _ _ _
  | registerMinter asset controller minter => exact Ledger.tameAt_registerMinter _ _ _ _
  | mint asset minter recipient amount => exact Ledger.tameAt_mint _ _ _ _ _
  | burnFrom asset minter source sender amount => exact Ledger.tameAt_burnFrom h _ _ _ _ _ _
  | transfer asset source recipient amount => exact Ledger.tameAt_transfer _ _ _ _ _
  | transferFrom asset spender source recipient amount =>
    exact Ledger.tameAt_transferFrom _ _ _ _ _ _
  | approve asset owner spender amount => exact Ledger.tameAt_approve _ _ _ _ _
  | registerSigningKey owner key => exact Transact.failsOnlyAt_modify _
  | permit signed => exact Ledger.tameAt_permit_excused signed now (excuse signed rfl)

/-- A call on a balanced ledger is refused for no mistake in its arithmetic, if there is a nonce for
the permit that it may be. -/
theorem tameAt {p : Prop} (h : Balanced l)
    (room : ∀ signed, call = .permit signed →
      (l.nonce signed.asset signed.owner).toNat + 1 < UInt64.size) :
    TameAt p l (call.run now) :=
  tameAt_excused h fun signed here large => absurd (room signed here) (Nat.not_lt.mpr large)

end LedgerCall

/-- The last call of a history is tried where the calls before it have led. -/
theorem Ledger.history_append (calls : List (Timestamp × LedgerCall))
    (entry : Timestamp × LedgerCall) :
    Ledger.history (calls ++ [entry]) = (entry.2.run entry.1).after (Ledger.history calls) := by
  unfold Ledger.history
  rw [List.foldl_append]
  rfl

/-- Every ledger that is built by calls is balanced, whichever of them were refused. -/
theorem Ledger.balanced_history (calls : List (Timestamp × LedgerCall)) :
    (Ledger.history calls).Balanced := by
  -- on the calls from the last one back
  induction calls using List.reverseRecOn with
  | nil => exact .empty
  | append_singleton calls entry ih =>
    rw [history_append]
    exact LedgerCall.balanced_after ih

end CollateralDebt
