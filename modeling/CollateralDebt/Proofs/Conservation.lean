import CollateralDebt.Proofs.Permits

/-!
# The ledger conserves supply

A call on the ledger makes its writes one after the other, and nothing takes them back when a later
one is refused. That is safe because the ledger is balanced: what was taken from an account finds
room on another, what was issued finds room on its recipient, and what was burnt was part of the
supply. So all that a refused call can leave behind is what it did before the funds were touched: a
part of an allowance is spent, or the nonce of a permit is taken up.

## What is proved

- `LedgerCall.charted`: funds are only held of known assets;
- `LedgerCall.leftover_of_refused`: what a refused call leaves behind;
- `LedgerCall.overissues_of_overflow`: only an issue beyond the range of amounts overflows;
- `supply_conserved`: all of it, for every sequence of calls.
-/

namespace CollateralDebt

open Transact (bind_eq_ok bind_eq_error)

namespace Ledger

variable {asset account : Address} {amount : Amount} {l l' : Ledger} {u : Unit}

/-! ## Known assets -/

/-- Whether the ledger knows an asset. -/
def Knows (l : Ledger) (asset : Address) : Prop := (l.state.assets.get? asset).isSome

/-- Funds are held of known assets only. -/
def Charted (l : Ledger) : Prop :=
  ∀ asset account, (l.state.balances.get? (asset, account)).isSome → l.Knows asset

/-- Assets stay known, and new accounts hold known assets. -/
structure Widened (l l' : Ledger) : Prop where
  assets : ∀ asset, l.Knows asset → l'.Knows asset
  balances : ∀ asset account, (l'.state.balances.get? (asset, account)).isSome →
    (l.state.balances.get? (asset, account)).isSome ∨ l'.Knows asset

/-- If assets stay known and new accounts hold known ones, funds are still held of known assets
only. -/
theorem Charted.widened (h : Charted l) (wider : Widened l l') : Charted l' := by
  intro asset account holds
  rcases wider.balances asset account holds with before | known
  · exact wider.assets asset (h asset account before)
  · exact known

namespace Widened

theorem refl (l : Ledger) : Widened l l := ⟨fun _ h => h, fun _ _ h => .inl h⟩

theorem trans {l₁ l₂ l₃ : Ledger} (h₁ : Widened l₁ l₂) (h₂ : Widened l₂ l₃) : Widened l₁ l₃ where
  assets x known := h₂.assets x (h₁.assets x known)
  balances x y holds := by
    rcases h₂.balances x y holds with before | known
    · exact (h₁.balances x y before).imp_right (h₂.assets x)
    · exact .inr known

end Widened

theorem knows_of_get? {info : AssetInfo} (h : l.state.assets.get? asset = some info) :
    l.Knows asset := by
  unfold Knows
  rw [h]
  rfl

/-- Whatever else a step does, it is harmless here if it touches neither assets nor balances. -/
theorem widened_of_same (assets : l'.state.assets = l.state.assets)
    (balances : l'.state.balances = l.state.balances) : Widened l l' := by
  constructor
  · intro x known
    unfold Knows at known ⊢
    rwa [assets]
  · intro x y holds
    rw [balances] at holds
    exact .inl holds

/-- Writing an asset makes it known, if it was not. -/
theorem widened_putAsset (l : Ledger) (asset : Address) (info : AssetInfo) :
    Widened l { l with state :=
      { l.state with assets := l.state.assets.insert asset info } } := by
  refine ⟨fun x known => ?_, fun x y holds => .inl holds⟩
  unfold Knows at known ⊢
  rw [Table.get?_insert_ite]
  split
  · rfl
  · exact known

/-- A new balance can be written for any asset that is known. -/
theorem widened_putBalance (known : l.Knows asset) (account : Address) (amount : Amount) :
    Widened l { l with state :=
      { l.state with balances := l.state.balances.insert (asset, account) amount } } := by
  refine ⟨fun x known => known, fun x y holds => ?_⟩
  rw [Table.get?_insert_ite] at holds
  split at holds
  · rename_i here
    cases here
    exact .inr known
  · exact .inl holds

/-- A debit opens no account. -/
theorem widened_debit (known : l.Knows asset) (done : debit asset account amount l = .ok u l') :
    Widened l l' := by
  simp only [debit, bind_eq_ok, Transact.get_eq_ok] at done
  obtain ⟨_, _, ⟨rfl, rfl⟩, done⟩ := done
  split at done
  · rw [putBalance_eq_ok] at done
    subst done
    exact widened_putBalance known account _
  · cases done

/-- A credit of a known asset opens at most an account of that asset. -/
theorem widened_credit (known : l.Knows asset) (done : credit asset account amount l = .ok u l') :
    Widened l l' := by
  simp only [credit, bind_eq_ok, Transact.get_eq_ok, Transact.liftM_eq_ok, putBalance_eq_ok] at done
  obtain ⟨_, _, ⟨rfl, rfl⟩, total, _, ⟨_, rfl⟩, rfl⟩ := done
  exact widened_putBalance known account total

section Accepted

variable {source recipient minter sender spender controller : Address} {decimals : UInt8}
  {now : Timestamp}

/-- A new asset is held by nobody. -/
theorem widened_createAsset (done : createAsset asset controller decimals l = .ok u l') :
    Widened l l' := by
  simp only [createAsset, bind_eq_ok, Transact.require_eq_ok, Transact.get_eq_ok,
    putAsset_eq_ok] at done
  obtain ⟨_, _, ⟨_, rfl⟩, _, _, ⟨rfl, rfl⟩, _, _, ⟨_, rfl⟩, rfl⟩ := done
  exact widened_putAsset l asset _

theorem widened_registerMinter (done : registerMinter asset controller minter now l = .ok u l') :
    Widened l l' := by
  simp only [registerMinter, bind_eq_ok, findAsset_eq_ok, Transact.require_eq_ok, putAsset_eq_ok,
    emit_eq_ok] at done
  obtain ⟨info, _, ⟨_, rfl⟩, _, _, ⟨_, rfl⟩, _, _, ⟨_, rfl⟩, _, _, rfl, rfl⟩ := done
  exact (widened_putAsset l asset _).trans (widened_of_same rfl rfl)

/-- A transfer looks the asset up before it moves anything. -/
theorem widened_transfer (done : transfer asset source recipient amount now l = .ok u l') :
    Widened l l' := by
  simp only [transfer, bind_eq_ok, findAsset_eq_ok, Transact.require_eq_ok] at done
  obtain ⟨_, _, ⟨found, rfl⟩, _, _, ⟨_, rfl⟩, done⟩ := done
  have known := knows_of_get? found
  split at done
  · simp only [bind_eq_ok, emit_eq_ok] at done
    obtain ⟨_, l₁, out, _, l₂, into, rfl⟩ := done
    have first := widened_debit known out
    have second := widened_credit (first.assets asset known) into
    exact (first.trans second).trans (widened_of_same rfl rfl)
  · obtain ⟨-, rfl⟩ := Transact.pure_eq_ok.mp done
    exact .refl l

/-- Spending an allowance opens no account. -/
theorem widened_spendAllowance (done : spendAllowance asset source spender amount l = .ok u l') :
    Widened l l' := by
  rcases spendAllowance_eq_ok done with rfl | spent
  · exact .refl _
  · rw [spent.lowered]
    exact widened_of_same rfl rfl

theorem widened_transferFrom
    (done : transferFrom asset spender source recipient amount now l = .ok u l') :
    Widened l l' := by
  simp only [transferFrom, bind_eq_ok, findAsset_eq_ok] at done
  obtain ⟨_, _, ⟨_, rfl⟩, _, l₁, spent, done⟩ := done
  exact (widened_spendAllowance spent).trans (widened_transfer done)

/-- A minting looks the asset up before it issues anything. -/
theorem widened_mint (done : mint asset minter recipient amount now l = .ok u l') :
    Widened l l' := by
  simp only [mint, bind_eq_ok, requireMinter_eq_ok, Transact.require_eq_ok, findAsset_eq_ok,
    Transact.liftM_eq_ok, putAsset_eq_ok, emit_eq_ok] at done
  obtain ⟨_, _, ⟨_, rfl⟩, _, _, ⟨_, rfl⟩, _, _, ⟨_, rfl⟩, info, _, ⟨found, rfl⟩, total, _,
    ⟨_, rfl⟩, _, _, rfl, _, l₁, into, rfl⟩ := done
  have issued := widened_putAsset l asset { info with totalSupply := total }
  have credited := widened_credit (issued.assets asset (knows_of_get? found)) into
  exact (issued.trans credited).trans (widened_of_same rfl rfl)

/-- A burning debits an account and lowers a supply, which opens no account. -/
theorem widened_burnFrom (done : burnFrom asset minter source sender amount now l = .ok u l') :
    Widened l l' := by
  simp only [burnFrom, bind_eq_ok, requireMinter_eq_ok, Transact.require_eq_ok, findAsset_eq_ok,
    Transact.liftM_eq_ok, putAsset_eq_ok, emit_eq_ok] at done
  obtain ⟨_, _, ⟨⟨info, found, _⟩, rfl⟩, _, _, ⟨_, rfl⟩, _, l₁, spent, _, l₂, out, _, _, ⟨_, rfl⟩,
    total, _, ⟨_, rfl⟩, _, _, rfl, rfl⟩ := done
  have lowered := widened_spendAllowance spent
  have debited := widened_debit (lowered.assets asset (knows_of_get? found)) out
  exact ((lowered.trans debited).trans (widened_putAsset l₂ asset _)).trans
    (widened_of_same rfl rfl)

theorem widened_approve {owner : Address}
    (done : approve asset owner spender amount now l = .ok u l') : Widened l l' := by
  simp only [approve, bind_eq_ok, findAsset_eq_ok, Transact.require_eq_ok, putAllowance_eq_ok,
    emit_eq_ok] at done
  obtain ⟨_, _, ⟨_, rfl⟩, _, _, ⟨_, rfl⟩, _, _, rfl, rfl⟩ := done
  exact widened_of_same rfl rfl

/-- A permit opens no account. -/
theorem widened_permit {signed : Permit} (done : permit signed now l = .ok u l') :
    Widened l l' := by
  rcases permitEnd l signed now with ⟨f, ended⟩ | ⟨key, next, -, -, ended⟩
  · cases done.symm.trans ended
  · have taken : Widened l (l.granted signed next) := widened_of_same rfl rfl
    exact taken.trans (widened_approve (ended.symm.trans done))

end Accepted

/-! ## What cannot overflow -/

section Overflow

variable {source recipient minter sender spender controller : Address} {decimals : UInt8}
  {now : Timestamp}

/-- The one failure that checked additions have. -/
abbrev Overflows : Failure := .rejected .overflow

/-- A computation that does not overflow from this ledger. -/
abbrev FitsAt {α : Type} (l : Ledger) (m : Transact Ledger α) : Prop :=
  Transact.FailsOnlyAt (· ≠ Overflows) l m

theorem findAsset_fits (asset : Address) : FitsAt l (findAsset asset) := by
  intro f l' failed
  cases findAsset_eq_error failed
  simp

/-- A minter is looked up, and nothing is added. -/
theorem requireMinter_fits (asset minter : Address) :
    FitsAt l (requireMinter asset minter) :=
  (findAsset_fits asset).bind fun _ _ _ => Transact.failsOnlyAt_require (by simp)

/-- Allowances are only lowered. -/
theorem spendAllowance_fits (asset owner spender : Address) (amount : Amount) :
    FitsAt l (spendAllowance asset owner spender amount) := by
  unfold spendAllowance
  split
  · refine Transact.unfailing_get.failsOnlyAt.bind ?_
    intro m _ _
    dsimp only
    split
    · split
      · exact (Transact.unfailing_modify _).failsOnlyAt
      · exact (Transact.unfailing_pure _).failsOnlyAt
    · exact Transact.failsOnlyAt_reject (by simp)
  · exact (Transact.unfailing_pure _).failsOnlyAt

/-- So are balances, by a debit. -/
theorem debit_fits (asset account : Address) (amount : Amount) :
    FitsAt l (debit asset account amount) := by
  unfold debit
  refine Transact.unfailing_get.failsOnlyAt.bind ?_
  intro m _ _
  dsimp only
  split
  · exact (Transact.unfailing_modify _).failsOnlyAt
  · exact Transact.failsOnlyAt_reject (by simp)

/-- The credit after a debit finds room. -/
theorem transfer_fits (h : Balanced l) (asset source recipient : Address) (amount : Amount)
    (now : Timestamp) : FitsAt l (transfer asset source recipient amount now) := by
  unfold transfer
  apply (findAsset_fits asset).bind
  intro _ _ found
  obtain ⟨-, rfl⟩ := findAsset_eq_ok.mp found
  refine (Transact.failsOnlyAt_require (by simp)).bind ?_
  intro _ _ valid
  obtain ⟨-, rfl⟩ := Transact.require_eq_ok.mp valid
  split
  · apply (debit_fits _ _ _).bind
    intro _ m out
    refine Transact.FailsOnlyAt.bind (fun _ _ failed => absurd failed (h.credit_of_debit out)) ?_
    intro _ _ _
    exact (Transact.unfailing_modify _).failsOnlyAt
  · exact (Transact.unfailing_pure _).failsOnlyAt

/-- A transfer on behalf of the owner spends an allowance first, which moves nothing. -/
theorem transferFrom_fits (h : Balanced l) (asset spender source recipient : Address)
    (amount : Amount) (now : Timestamp) :
    FitsAt l (transferFrom asset spender source recipient amount now) := by
  unfold transferFrom
  apply (findAsset_fits asset).bind
  intro _ _ found
  obtain ⟨-, rfl⟩ := findAsset_eq_ok.mp found
  apply (spendAllowance_fits _ _ _ _).bind
  intro _ m spent
  exact transfer_fits (h.congr ((keeps_spendAllowance _ _ _ _ l).1 _ _ spent)) _ _ _ _ _

/-- A burning takes off what was debited, and adds nothing. -/
theorem burnFrom_fits (asset minter source sender : Address) (amount : Amount)
    (now : Timestamp) : FitsAt l (burnFrom asset minter source sender amount now) := by
  unfold burnFrom
  apply (requireMinter_fits _ _).bind
  intro _ _ _
  refine (Transact.failsOnlyAt_require (by simp)).bind ?_
  intro _ _ _
  apply (spendAllowance_fits _ _ _ _).bind
  intro _ _ _
  apply (debit_fits _ _ _).bind
  intro _ _ _
  apply (findAsset_fits asset).bind
  intro info _ _
  refine Transact.failsOnlyAt_liftM_bind (by simp) ?_
  intro _ _
  refine (Transact.unfailing_modify _).failsOnlyAt.bind ?_
  intro _ _ _
  exact (Transact.unfailing_modify _).failsOnlyAt

/-- An approval sets an allowance, and adds nothing to it. -/
theorem approve_fits (asset owner spender : Address) (amount : Amount) (now : Timestamp) :
    FitsAt l (approve asset owner spender amount now) := by
  unfold approve
  apply (findAsset_fits asset).bind
  intro _ _ _
  refine (Transact.failsOnlyAt_require (by simp)).bind ?_
  intro _ _ _
  exact ((Transact.unfailing_modify _).bind fun _ => Transact.unfailing_modify _).failsOnlyAt

/-- A new asset starts with a supply of zero. -/
theorem createAsset_fits (asset controller : Address) (decimals : UInt8) :
    FitsAt l (createAsset asset controller decimals) := by
  unfold createAsset
  refine (Transact.failsOnlyAt_require (by simp)).bind ?_
  intro _ _ _
  refine Transact.unfailing_get.failsOnlyAt.bind ?_
  intro _ _ _
  refine (Transact.failsOnlyAt_require (by simp)).bind ?_
  intro _ _ _
  exact (Transact.unfailing_modify _).failsOnlyAt

theorem registerMinter_fits (asset controller minter : Address) (now : Timestamp) :
    FitsAt l (registerMinter asset controller minter now) := by
  unfold registerMinter
  apply (findAsset_fits asset).bind
  intro info _ _
  refine (Transact.failsOnlyAt_require (by simp)).bind ?_
  intro _ _ _
  refine (Transact.failsOnlyAt_require (by simp)).bind ?_
  intro _ _ _
  exact ((Transact.unfailing_modify _).bind fun _ => Transact.unfailing_modify _).failsOnlyAt

/-- A minting overflows only where the supply does: the credit after it finds room. -/
theorem mint_overflows (h : Balanced l)
    (refused : mint asset minter recipient amount now l = .error Overflows l') :
    2 ^ 128 ≤ (l.totalSupply asset).toNat + amount.toNat := by
  unfold mint at refused
  rcases bind_eq_error.mp refused with refused | ⟨_, _, allowed, refused⟩
  · exact absurd rfl (requireMinter_fits _ _ _ _ refused)
  obtain ⟨-, rfl⟩ := requireMinter_eq_ok.mp allowed
  rcases bind_eq_error.mp refused with refused | ⟨_, _, valid, refused⟩
  · cases (Transact.require_eq_error.mp refused).2.1
  obtain ⟨-, rfl⟩ := Transact.require_eq_ok.mp valid
  rcases bind_eq_error.mp refused with refused | ⟨_, _, valid, refused⟩
  · cases (Transact.require_eq_error.mp refused).2.1
  obtain ⟨-, rfl⟩ := Transact.require_eq_ok.mp valid
  rcases bind_eq_error.mp refused with refused | ⟨info, _, known, refused⟩
  · exact absurd rfl (findAsset_fits _ _ _ refused)
  obtain ⟨found, rfl⟩ := findAsset_eq_ok.mp known
  rcases bind_eq_error.mp refused with refused | ⟨total, _, issued, refused⟩
  · rw [totalSupply_of_get? found]
    exact (narrow_eq_error.mp (Transact.liftM_eq_error.mp refused).1).1
  obtain ⟨sum, rfl⟩ := Transact.liftM_eq_ok.mp issued
  rcases bind_eq_error.mp refused with refused | ⟨_, _, put, refused⟩
  · cases refused
  obtain rfl := putAsset_eq_ok.mp put
  rcases bind_eq_error.mp refused with refused | ⟨_, _, _, refused⟩
  · exact absurd refused (h.credit_of_issue found (Amount.add_eq_ok.mp sum))
  · cases refused

/-- A permit raises a nonce, which faults and does not overflow where it is the last one. -/
theorem permit_fits (signed : Permit) (now : Timestamp) :
    FitsAt l (permit signed now) := by
  unfold permit
  apply (findAsset_fits _).bind
  intro _ _ _
  refine (Transact.failsOnlyAt_require (by simp)).bind ?_
  intro _ _ _
  refine Transact.unfailing_get.failsOnlyAt.bind ?_
  intro m _ _
  refine Transact.failsOnlyAt_liftM_bind (by simp) ?_
  intro key _
  refine (Transact.failsOnlyAt_require (by simp)).bind ?_
  intro _ _ _
  refine Transact.failsOnlyAt_liftM_bind (by simp [nextNonce]) ?_
  intro next _
  refine (Transact.unfailing_modify _).failsOnlyAt.bind ?_
  intro _ _ _
  exact approve_fits _ _ _ _ _

end Overflow

/-! ## What a refused call leaves -/

/-- What a call that is refused can leave behind: nothing; a lowered allowance, of the account that
moves or burns the funds on behalf of their owner; or the nonce of an authentic permit to nobody
taken up. -/
inductive Leftover (l : Ledger) (now : Timestamp) : LedgerCall → Ledger → Prop where
  | nothing {call : LedgerCall} : Leftover l now call l
  | transferFrom {asset spender source recipient : Address} {amount : Amount} {l' : Ledger}
      (spent : Spent l asset source spender amount l') :
      Leftover l now (.transferFrom asset spender source recipient amount) l'
  | burnFrom {asset minter source sender : Address} {amount : Amount} {l' : Ledger}
      (spent : Spent l asset source sender amount l') :
      Leftover l now (.burnFrom asset minter source sender amount) l'
  | permit {signed : Permit} {key : Bytes32} {next : UInt64}
      (authentic : l.Authentic signed key now) (nobody : signed.spender = .zero)
      (taken : nextNonce (l.nonce signed.asset signed.owner) = .ok next) :
      Leftover l now (.permit signed) (l.granted signed next)

/-- How a call can be refused. -/
structure Refusal (l : Ledger) (now : Timestamp) (call : LedgerCall) (f : Failure) (l' : Ledger) :
    Prop where
  leftover : Leftover l now call l'
  covered : f ≠ .rejected .underflow
  /-- The one addition that overflows is that of an issue to the supply. It comes before the issue is
  written, and by `leftover` a refused minting has written nothing: the credit did not overflow. -/
  room : f = .rejected .overflow → ∃ asset minter recipient amount,
    call = .mint asset minter recipient amount ∧
      2 ^ 128 ≤ (l.totalSupply asset).toNat + amount.toNat

/-- A ledger that conserves supply: the supply of an asset is what all accounts hold of it, and an
amount; and nothing is held of an asset that nobody made known. -/
structure Conserved (l : Ledger) : Prop where
  held : ∀ asset, l.held asset = (l.totalSupply asset).toNat
  fits : ∀ asset, (l.totalSupply asset).toNat < 2 ^ 128
  known : ∀ asset account, (l.state.balances.get? (asset, account)).isSome →
    (l.state.assets.get? asset).isSome

end Ledger

namespace LedgerCall

open Ledger (Balanced Charted Conserved Leftover Refusal Widened)

variable {l l' : Ledger} {now : Timestamp} {call : LedgerCall} {u : Unit} {f : Failure}

/-- An accepted call makes funds of known assets only. -/
theorem widened (done : call.run now l = .ok u l') : Widened l l' := by
  cases call with
  | createAsset asset controller decimals => exact Ledger.widened_createAsset done
  | registerMinter asset controller minter => exact Ledger.widened_registerMinter done
  | mint asset minter recipient amount => exact Ledger.widened_mint done
  | burnFrom asset minter source sender amount => exact Ledger.widened_burnFrom done
  | transfer asset source recipient amount => exact Ledger.widened_transfer done
  | transferFrom asset spender source recipient amount => exact Ledger.widened_transferFrom done
  | approve asset owner spender amount => exact Ledger.widened_approve done
  | registerSigningKey owner key =>
    rw [← Transact.modify_eq_ok.mp done]
    exact Ledger.widened_of_same rfl rfl
  | permit signed => exact Ledger.widened_permit done

/-- What a refused call on a balanced ledger leaves behind. -/
theorem leftover_of_refused (h : Balanced l) (refused : call.run now l = .error f l') :
    Leftover l now call l' := by
  cases call with
  | createAsset asset controller decimals =>
    rw [Ledger.traceless_createAsset _ _ _ _ _ _ refused]
    exact .nothing
  | registerMinter asset controller minter =>
    rw [Ledger.traceless_registerMinter _ _ _ _ _ _ _ refused]
    exact .nothing
  | mint asset minter recipient amount =>
    rw [Ledger.tracelessAt_mint h _ _ refused]
    exact .nothing
  | burnFrom asset minter source sender amount =>
    rcases Ledger.spent_of_burnFrom h refused with rfl | spent
    · exact .nothing
    · exact .burnFrom spent
  | transfer asset source recipient amount =>
    rw [Ledger.tracelessAt_transfer h _ _ refused]
    exact .nothing
  | transferFrom asset spender source recipient amount =>
    rcases Ledger.spent_of_transferFrom h refused with rfl | spent
    · exact .nothing
    · exact .transferFrom spent
  | approve asset owner spender amount =>
    rw [Ledger.traceless_approve _ _ _ _ _ _ _ _ refused]
    exact .nothing
  | registerSigningKey owner key => exact absurd refused (Transact.unfailing_modify _ _ _ _)
  | permit signed =>
    rcases Ledger.permit_eq_error refused with rfl | ⟨key, next, authentic, nobody, taken, rfl⟩
    · exact .nothing
    · exact .permit authentic nobody taken

/-- Of all calls on a balanced ledger, only a minting can overflow, and only if the supply does. -/
theorem overissues_of_overflow (h : Balanced l)
    (refused : call.run now l = .error (.rejected .overflow) l') :
    ∃ asset minter recipient amount, call = .mint asset minter recipient amount ∧
      2 ^ 128 ≤ (l.totalSupply asset).toNat + amount.toNat := by
  cases call with
  | createAsset asset controller decimals =>
    exact absurd rfl (Ledger.createAsset_fits _ _ _ _ _ refused)
  | registerMinter asset controller minter =>
    exact absurd rfl (Ledger.registerMinter_fits _ _ _ _ _ _ refused)
  | mint asset minter recipient amount =>
    exact ⟨asset, minter, recipient, amount, rfl, Ledger.mint_overflows h refused⟩
  | burnFrom asset minter source sender amount =>
    exact absurd rfl (Ledger.burnFrom_fits _ _ _ _ _ _ _ _ refused)
  | transfer asset source recipient amount =>
    exact absurd rfl (Ledger.transfer_fits h _ _ _ _ _ _ _ refused)
  | transferFrom asset spender source recipient amount =>
    exact absurd rfl (Ledger.transferFrom_fits h _ _ _ _ _ _ _ _ refused)
  | approve asset owner spender amount =>
    exact absurd rfl (Ledger.approve_fits _ _ _ _ _ _ _ refused)
  | registerSigningKey owner key => exact absurd refused (Transact.unfailing_modify _ _ _ _)
  | permit signed => exact absurd rfl (Ledger.permit_fits _ _ _ _ refused)

/-- A call keeps a balanced ledger charted, whether it is accepted or refused. -/
theorem charted_after (balanced : Balanced l) (h : Charted l) :
    Charted ((call.run now).after l) := by
  rcases Transact.after_eq (call.run now) l with ⟨_, done⟩ | ⟨_, refused⟩ | same
  · exact h.widened (widened done)
  · generalize (call.run now).after l = l' at refused ⊢
    cases leftover_of_refused balanced refused with
    | nothing => exact h
    | transferFrom spent | burnFrom spent =>
      rw [spent.lowered]
      exact h.widened (Ledger.widened_of_same rfl rfl)
    | permit => exact h.widened (Ledger.widened_of_same rfl rfl)
  · rw [same]
    exact h

end LedgerCall

namespace Ledger

/-- Nothing is held of an unknown asset, on every ledger that is built by calls. -/
theorem charted_history (calls : List (Timestamp × LedgerCall)) : (history calls).Charted := by
  -- on the calls from the last one back
  induction calls using List.reverseRecOn with
  | nil => exact fun _ _ holds => nomatch holds
  | append_singleton calls entry ih =>
    rw [history_append]
    exact LedgerCall.charted_after (balanced_history calls) ih

/-- The ledger conserves supply. After any sequence of calls, each of them accepted or refused, the
supply of every asset is what its accounts hold and an amount, and nothing is held of an unknown
asset. Another call that is refused leaves the ledger as it was, up to the allowance that it was
about to spend or the nonce of an authentic permit to nobody; it is not refused because the supply
is less than what is burnt, and for a sum out of range only if that sum is the supply. -/
theorem supply_conserved (calls : List (Timestamp × LedgerCall)) :
    (history calls).Conserved ∧ ∀ now call f l',
      LedgerCall.run now call (history calls) = .error f l' →
        Refusal (history calls) now call f l' := by
  have balanced := balanced_history calls
  constructor
  · exact ⟨balanced, fun asset => ((history calls).totalSupply asset).isLt, charted_history calls⟩
  · intro now call f l' refused
    constructor
    · exact LedgerCall.leftover_of_refused balanced refused
    · rintro rfl
      have tame := LedgerCall.tameAt_excused (p := True) balanced (fun _ _ _ => trivial) _ _ refused
      exact tame.1 rfl
    · rintro rfl
      exact LedgerCall.overissues_of_overflow balanced refused

/-- Ten of an asset are made, and somebody else may move four of them. -/
def shared : List (Timestamp × LedgerCall) :=
  let asset : Address := .replicate 1
  let owner : Address := .replicate 2
  [(1, .createAsset asset owner 18), (1, .registerMinter asset owner owner),
    (2, .mint asset owner owner ⟨10, by decide⟩),
    (2, .approve asset owner (.replicate 3) ⟨4, by decide⟩)]

/-- Three of them to nobody. -/
def astray : LedgerCall :=
  .transferFrom (.replicate 1) (.replicate 3) (.replicate 2) .zero ⟨3, by decide⟩

/-- The transfer is refused after its allowance was spent, and moved nothing. -/
theorem supply_conserved_astray :
    ∃ l', astray.run 3 (history shared) = .error (.rejected .zeroAddress) l' ∧
      (l'.allowance (.replicate 1) (.replicate 2) (.replicate 3)).toNat = 1 ∧
      (history shared).Conserved ∧
      Refusal (history shared) 3 astray (.rejected .zeroAddress) l' := by
  have computed : (match astray.run 3 (history shared) with
    | .error f l' => decide (f = .rejected .zeroAddress ∧
        (l'.allowance (.replicate 1) (.replicate 2) (.replicate 3)).toNat = 1)
    | .ok _ _ => false) = true := by decide +kernel
  split at computed
  · rename_i f l' refused
    obtain ⟨rfl, left⟩ := of_decide_eq_true computed
    exact ⟨l', refused, left, (supply_conserved shared).1,
      (supply_conserved shared).2 3 astray _ l' refused⟩
  · cases computed

end Ledger

end CollateralDebt
