import CollateralDebt.Ledger.Call
import CollateralDebt.Proofs.FixedPoint
import CollateralDebt.Proofs.Table

/-!
# Supply and balances

What a call does to the funds on a ledger is an equation for every asset and every account: the
balance after it, with what went out, is the balance before it, with what came in. An amount counts
at its own asset and account only, so one equation says both what changed and what did not.

## What is proved

- `mint_eq_ok`, `burnFrom_eq_ok`, `transfer_eq_ok`, `transferFrom_eq_ok`: these equations;
- `SameFunds`: the calls that move nothing, whether they are accepted or refused;
- `transfer_ne_insufficientBalance`: funds that are there are not refused for want of them.
-/

namespace CollateralDebt.Ledger

open Transact (bind_eq_ok)

variable {asset account : Address} {amount : Amount} {l l' : Ledger} {u : Unit}

/-! ## What counts where -/

/-- What `n` of an asset on an account counts for at the asset `x` and the account `y`. -/
def portion (asset account : Address) (n : Nat) (x y : Address) : Nat :=
  if x = asset ∧ y = account then n else 0

/-- What `n` of an asset counts for in the supply of the asset `x`. -/
def issue (asset : Address) (n : Nat) (x : Address) : Nat := if x = asset then n else 0

/-- On its own account a portion counts in full. -/
@[simp] theorem portion_self (asset account : Address) (n : Nat) :
    portion asset account n asset account = n := if_pos ⟨rfl, rfl⟩

/-- Anywhere else it counts for nothing. -/
theorem portion_of_ne {n : Nat} {x y : Address} (h : ¬ (x = asset ∧ y = account)) :
    portion asset account n x y = 0 := if_neg h

@[simp] theorem portion_zero (asset account x y : Address) :
    portion asset account 0 x y = 0 := ite_self 0

/-- Portions of one account add up. -/
theorem portion_add (asset account : Address) (m n : Nat) (x y : Address) :
    portion asset account (m + n) x y =
      portion asset account m x y + portion asset account n x y := by
  unfold portion
  split <;> rfl

@[simp] theorem issue_self (asset : Address) (n : Nat) : issue asset n asset = n := if_pos rfl

@[simp] theorem issue_zero (asset x : Address) : issue asset 0 x = 0 := ite_self 0

/-- Issues of one asset add up. -/
theorem issue_add (asset : Address) (m n : Nat) (x : Address) :
    issue asset (m + n) x = issue asset m x + issue asset n x := by
  unfold issue
  split <;> rfl

/-! ## Steps -/

@[simp] theorem emit_eq_ok {event : Event} :
    emit event l = .ok u l' ↔ { l with log := l.log.emit event } = l' := Transact.modify_eq_ok

/-- Looking an asset up succeeds for those that are known, and only reads. -/
@[simp] theorem findAsset_eq_ok {info : AssetInfo} :
    findAsset asset l = .ok info l' ↔ l.state.assets.get? asset = some info ∧ l = l' := by
  simp only [findAsset, bind_eq_ok, Transact.get_eq_ok, Transact.liftM_eq_ok, assetInfo,
    Outcome.ofOption_eq_ok]
  constructor
  · rintro ⟨_, _, ⟨rfl, rfl⟩, h, rfl⟩
    exact ⟨h, rfl⟩
  · rintro ⟨h, rfl⟩
    exact ⟨_, _, ⟨rfl, rfl⟩, h, rfl⟩

@[simp] theorem putAsset_eq_ok {info : AssetInfo} :
    putAsset asset info l = .ok u l' ↔
      { l with state := { l.state with assets := l.state.assets.insert asset info } } = l' :=
  Transact.modify_eq_ok

@[simp] theorem putBalance_eq_ok :
    putBalance asset account amount l = .ok u l' ↔
      { l with state :=
        { l.state with balances := l.state.balances.insert (asset, account) amount } } = l' :=
  Transact.modify_eq_ok

/-- The ledger with another allowance. -/
def allowing (l : Ledger) (asset owner spender : Address) (amount : Amount) : Ledger :=
  (putAllowance asset owner spender amount).after l

@[simp] theorem putAllowance_eq_ok {owner spender : Address} :
    putAllowance asset owner spender amount l = .ok u l' ↔
      l.allowing asset owner spender amount = l' := Transact.modify_eq_ok

/-- The check for a minter passes for those who are named with the asset. -/
@[simp] theorem requireMinter_eq_ok {minter : Address} :
    requireMinter asset minter l = .ok u l' ↔
      (∃ info, l.state.assets.get? asset = some info ∧ info.minters.contains minter = true) ∧
        l = l' := by
  simp only [requireMinter, bind_eq_ok, findAsset_eq_ok, Transact.require_eq_ok]
  constructor
  · rintro ⟨info, _, ⟨found, rfl⟩, listed, rfl⟩
    exact ⟨⟨info, found, listed⟩, rfl⟩
  · rintro ⟨⟨info, found, listed⟩, rfl⟩
    exact ⟨info, _, ⟨found, rfl⟩, listed, rfl⟩

/-- The supply of a known asset is the one noted with it. -/
theorem totalSupply_of_get? {info : AssetInfo} (h : l.state.assets.get? asset = some info) :
    l.totalSupply asset = info.totalSupply := by
  unfold totalSupply
  rw [h]
  rfl

/-- Replacing what is known of an asset replaces its supply, and no other. -/
theorem totalSupply_insert (l : Ledger) (asset x : Address) (info : AssetInfo) :
    totalSupply { l with state := { l.state with assets := l.state.assets.insert asset info } } x =
      if x = asset then info.totalSupply else l.totalSupply x := by
  unfold totalSupply
  by_cases h : x = asset
  · subst h
    rw [if_pos rfl, Table.get?_insert_self]
    rfl
  · rw [if_neg h, Table.get?_insert_of_ne _ _ h]

/-- Setting a balance sets that balance, and no other. -/
theorem balanceOf_insert (l : Ledger) (asset account x y : Address) (amount : Amount) :
    balanceOf { l with state :=
      { l.state with balances := l.state.balances.insert (asset, account) amount } } x y =
      if x = asset ∧ y = account then amount else l.balanceOf x y := by
  unfold balanceOf Table.getD
  by_cases h : x = asset ∧ y = account
  · obtain ⟨rfl, rfl⟩ := h
    rw [if_pos ⟨rfl, rfl⟩, Table.get?_insert_self]
    rfl
  · have other : (x, y) ≠ (asset, account) := fun eq => h (Prod.mk.injEq .. ▸ eq)
    rw [if_neg h, Table.get?_insert_of_ne _ _ other]

/-- A debit lowers one balance by its amount, and no supply. -/
theorem debit_eq_ok (h : debit asset account amount l = .ok u l') :
    (∀ x y, (l'.balanceOf x y).toNat + portion asset account amount.toNat x y =
      (l.balanceOf x y).toNat) ∧ ∀ x, l'.totalSupply x = l.totalSupply x := by
  simp only [debit, bind_eq_ok, Transact.get_eq_ok] at h
  obtain ⟨_, _, ⟨rfl, rfl⟩, h⟩ := h
  split at h
  · rename_i enough
    rw [putBalance_eq_ok] at h
    subst h
    refine ⟨fun x y => ?_, fun x => rfl⟩
    rw [balanceOf_insert, portion]
    split
    · rename_i here
      obtain ⟨rfl, rfl⟩ := here
      rw [Amount.le_iff] at enough
      rw [Amount.toNat_sub]
      omega
    · rfl
  · cases h

/-- A credit raises one balance by its amount, and no supply. -/
theorem credit_eq_ok (h : credit asset account amount l = .ok u l') :
    (∀ x y, (l'.balanceOf x y).toNat =
      (l.balanceOf x y).toNat + portion asset account amount.toNat x y) ∧
      ∀ x, l'.totalSupply x = l.totalSupply x := by
  simp only [credit, bind_eq_ok, Transact.get_eq_ok, Transact.liftM_eq_ok, Amount.add_eq_ok,
    putBalance_eq_ok] at h
  obtain ⟨_, _, ⟨rfl, rfl⟩, balance, _, ⟨hbalance, rfl⟩, rfl⟩ := h
  refine ⟨fun x y => ?_, fun x => rfl⟩
  rw [balanceOf_insert, portion]
  split
  · rename_i here
    obtain ⟨rfl, rfl⟩ := here
    exact hbalance
  · rfl

/-! ## Calls that move nothing -/

/-- Two ledgers with the same funds. -/
structure SameFunds (l l' : Ledger) : Prop where
  balances : l'.state.balances = l.state.balances
  supply : ∀ x, l'.totalSupply x = l.totalSupply x

namespace SameFunds

theorem refl (l : Ledger) : SameFunds l l := ⟨rfl, fun _ => rfl⟩

theorem trans {l₁ l₂ l₃ : Ledger} (h₁ : SameFunds l₁ l₂) (h₂ : SameFunds l₂ l₃) :
    SameFunds l₁ l₃ where
  balances := h₂.balances.trans h₁.balances
  supply x := (h₂.supply x).trans (h₁.supply x)

instance : IsPreorder Ledger SameFunds where
  refl := .refl
  trans _ _ _ := .trans

/-- The same funds are the same balances. -/
theorem balance {l l' : Ledger} (h : SameFunds l l') (x y : Address) :
    l'.balanceOf x y = l.balanceOf x y := by
  unfold balanceOf
  rw [h.balances]

end SameFunds

/-- Events are no funds. -/
theorem keeps_emit (event : Event) : Transact.Keeps SameFunds (emit event) :=
  Transact.keeps_modify fun _ => ⟨rfl, fun _ => rfl⟩

/-- Nor are allowances. -/
theorem keeps_putAllowance (asset owner spender : Address) (amount : Amount) :
    Transact.Keeps SameFunds (putAllowance asset owner spender amount) :=
  Transact.keeps_modify fun _ => ⟨rfl, fun _ => rfl⟩

theorem readOnly_findAsset (asset : Address) : Transact.ReadOnly (findAsset asset) :=
  Transact.readOnly_get.bind fun _ => Transact.readOnly_liftM _

/-- So spending an allowance moves nothing by itself. -/
theorem keeps_spendAllowance (asset owner spender : Address) (amount : Amount) :
    Transact.Keeps SameFunds (spendAllowance asset owner spender amount) := by
  unfold spendAllowance
  split
  · apply Transact.keeps_get.bind
    intro l
    dsimp only
    split
    · split
      · exact keeps_putAllowance _ _ _ _
      · exact Transact.keeps_pure _
    · exact Transact.keeps_reject _
  · exact Transact.keeps_pure _

/-- Approving moves nothing. -/
theorem keeps_approve (asset owner spender : Address) (amount : Amount) (now : Timestamp) :
    Transact.Keeps SameFunds (approve asset owner spender amount now) := by
  unfold approve
  apply ((readOnly_findAsset asset).keeps).bind
  intro _
  apply (Transact.keeps_require _ _).bind
  intro _
  apply (keeps_putAllowance asset owner spender amount).bind
  intro _
  exact keeps_emit _

/-- A permit approves, and moves nothing. -/
theorem keeps_permit (p : Permit) (now : Timestamp) :
    Transact.Keeps SameFunds (permit p now) := by
  unfold permit
  apply ((readOnly_findAsset p.asset).keeps).bind
  intro _
  apply (Transact.keeps_require _ _).bind
  intro _
  apply Transact.keeps_get.bind
  intro l
  apply (Transact.keeps_liftM _).bind
  intro key
  apply (Transact.keeps_require _ _).bind
  intro _
  apply (Transact.keeps_liftM _).bind
  intro next
  refine Transact.Keeps.bind ?_ fun _ => ?_
  · exact Transact.keeps_modify fun _ => ⟨rfl, fun _ => rfl⟩
  exact keeps_approve _ _ _ _ _

/-- A minter who is refused is not named afterwards. -/
theorem traceless_registerMinter (asset controller minter : Address) (now : Timestamp) :
    Transact.Traceless (registerMinter asset controller minter now) := by
  unfold registerMinter
  apply (readOnly_findAsset asset).bind_traceless
  intro _
  apply (Transact.readOnly_require _ _).bind_traceless
  intro _
  apply (Transact.readOnly_require _ _).bind_traceless
  intro _
  exact ((Transact.unfailing_modify _).bind fun _ => Transact.unfailing_modify _).traceless

/-- Naming a minter moves nothing: the asset keeps its supply. -/
theorem keeps_registerMinter (asset controller minter : Address) (now : Timestamp) :
    Transact.Keeps SameFunds (registerMinter asset controller minter now) := by
  intro l
  constructor
  · intro _ l' h
    simp only [registerMinter, bind_eq_ok, findAsset_eq_ok, Transact.require_eq_ok, putAsset_eq_ok,
      emit_eq_ok] at h
    obtain ⟨info, _, ⟨found, rfl⟩, _, _, ⟨_, rfl⟩, _, _, ⟨_, rfl⟩, _, _, rfl, rfl⟩ := h
    refine ⟨rfl, fun x => ?_⟩
    show totalSupply { l with state := { l.state with assets := l.state.assets.insert asset _ } } x
      = _
    rw [totalSupply_insert]
    split
    · rename_i here
      rw [here, totalSupply_of_get? found]
    · rfl
  · intro e l' h
    rw [traceless_registerMinter asset controller minter now l e l' h]
    exact SameFunds.refl l

/-! ## Calls that move funds -/

/-- Funds were moved: they left the source and came to the recipient, and the supply is as it
was. -/
theorem transfer_eq_ok {source recipient : Address} {now : Timestamp}
    (h : transfer asset source recipient amount now l = .ok u l') :
    (∀ x y, (l'.balanceOf x y).toNat + portion asset source amount.toNat x y =
      (l.balanceOf x y).toNat + portion asset recipient amount.toNat x y) ∧
      ∀ x, l'.totalSupply x = l.totalSupply x := by
  simp only [transfer, bind_eq_ok, findAsset_eq_ok, Transact.require_eq_ok] at h
  obtain ⟨_, _, ⟨_, rfl⟩, _, _, ⟨_, rfl⟩, h⟩ := h
  split at h
  · simp only [bind_eq_ok, emit_eq_ok] at h
    obtain ⟨_, l₁, debited, _, l₂, credited, rfl⟩ := h
    obtain ⟨out, supply₁⟩ := debit_eq_ok debited
    obtain ⟨into, supply₂⟩ := credit_eq_ok credited
    refine ⟨fun x y => ?_, fun x => (supply₂ x).trans (supply₁ x)⟩
    have := out x y
    have := into x y
    show (l₂.balanceOf x y).toNat + _ = _
    omega
  · rename_i nothing
    rw [Transact.pure_eq_ok] at h
    obtain ⟨-, rfl⟩ := h
    rw [Decidable.not_not] at nothing
    subst nothing
    exact ⟨fun x y => by rw [Amount.toNat_zero, portion_zero, portion_zero], fun x => rfl⟩

/-- Funds were moved out of an allowance: the same as if their owner had moved them. -/
theorem transferFrom_eq_ok {spender source recipient : Address} {now : Timestamp}
    (h : transferFrom asset spender source recipient amount now l = .ok u l') :
    (∀ x y, (l'.balanceOf x y).toNat + portion asset source amount.toNat x y =
      (l.balanceOf x y).toNat + portion asset recipient amount.toNat x y) ∧
      ∀ x, l'.totalSupply x = l.totalSupply x := by
  simp only [transferFrom, bind_eq_ok, findAsset_eq_ok] at h
  obtain ⟨_, _, ⟨_, rfl⟩, _, l₁, spent, moved⟩ := h
  have same := (keeps_spendAllowance _ _ _ _ l).1 _ _ spent
  obtain ⟨balance, supply⟩ := transfer_eq_ok moved
  refine ⟨fun x y => ?_, fun x => (supply x).trans (same.supply x)⟩
  rw [← same.balance x y]
  exact balance x y

/-- Funds were created: they came to the recipient, and the supply grew by them. -/
theorem mint_eq_ok {minter recipient : Address} {now : Timestamp}
    (h : mint asset minter recipient amount now l = .ok u l') :
    (∀ x y, (l'.balanceOf x y).toNat =
      (l.balanceOf x y).toNat + portion asset recipient amount.toNat x y) ∧
      ∀ x, (l'.totalSupply x).toNat = (l.totalSupply x).toNat + issue asset amount.toNat x := by
  simp only [mint, bind_eq_ok, requireMinter_eq_ok, Transact.require_eq_ok, findAsset_eq_ok,
    Transact.liftM_eq_ok, Amount.add_eq_ok, putAsset_eq_ok, emit_eq_ok] at h
  obtain ⟨_, _, ⟨_, rfl⟩, _, _, ⟨_, rfl⟩, _, _, ⟨_, rfl⟩, info, _, ⟨found, rfl⟩, total, _,
    ⟨htotal, rfl⟩, _, _, rfl, _, l₁, credited, rfl⟩ := h
  obtain ⟨into, supply⟩ := credit_eq_ok credited
  refine ⟨fun x y => into x y, fun x => ?_⟩
  show (l₁.totalSupply x).toNat = _
  rw [supply x, totalSupply_insert, issue]
  split
  · rename_i here
    rw [here, totalSupply_of_get? found]
    exact htotal
  · rfl

/-- Funds were destroyed: they left the source, and the supply fell by them. -/
theorem burnFrom_eq_ok {minter source sender : Address} {now : Timestamp}
    (h : burnFrom asset minter source sender amount now l = .ok u l') :
    (∀ x y, (l'.balanceOf x y).toNat + portion asset source amount.toNat x y =
      (l.balanceOf x y).toNat) ∧
      ∀ x, (l'.totalSupply x).toNat + issue asset amount.toNat x = (l.totalSupply x).toNat := by
  simp only [burnFrom, bind_eq_ok, requireMinter_eq_ok, Transact.require_eq_ok, findAsset_eq_ok,
    Transact.liftM_eq_ok, Amount.minus_eq_ok, putAsset_eq_ok, emit_eq_ok] at h
  obtain ⟨_, _, ⟨_, rfl⟩, _, _, ⟨_, rfl⟩, _, l₁, spent, _, l₂, debited, info, _, ⟨found, rfl⟩,
    total, _, ⟨htotal, rfl⟩, _, _, rfl, rfl⟩ := h
  have same := (keeps_spendAllowance _ _ _ _ l).1 _ _ spent
  obtain ⟨out, supply⟩ := debit_eq_ok debited
  refine ⟨fun x y => ?_, fun x => ?_⟩
  · rw [← same.balance x y]
    exact out x y
  · rw [← same.supply x, ← supply x]
    show (totalSupply { l₂ with state :=
      { l₂.state with assets := l₂.state.assets.insert asset _ } } x).toNat + _ = _
    rw [totalSupply_insert, issue]
    split
    · rename_i here
      rw [here, totalSupply_of_get? found]
      exact htotal
    · rfl

/-! ## Refusals -/

/-- Looking an asset up fails in one way. -/
theorem findAsset_eq_error {f : Failure} (h : findAsset asset l = .error f l') :
    f = .rejected (.unknownAsset asset) := by
  unfold findAsset assetInfo at h
  rcases Transact.bind_eq_error.mp h with h | ⟨_, _, _, h⟩
  · cases h
  · exact (Outcome.ofOption_eq_error.mp (Transact.liftM_eq_error.mp h).1).2

/-- A credit is refused if the funds do not fit the account. -/
theorem credit_eq_error {f : Failure} (h : credit asset account amount l = .error f l') :
    Nat.pow 2 128 ≤ (l.balanceOf asset account).toNat + amount.toNat ∧ f = .rejected .overflow ∧
      l' = l := by
  unfold credit at h
  rcases Transact.bind_eq_error.mp h with h | ⟨_, _, got, h⟩
  · cases h
  obtain ⟨rfl, rfl⟩ := Transact.get_eq_ok.mp got
  rcases Transact.bind_eq_error.mp h with h | ⟨_, _, _, h⟩
  · obtain ⟨refused, rfl⟩ := Transact.liftM_eq_error.mp h
    obtain ⟨large, rfl⟩ := narrow_eq_error.mp refused
    exact ⟨large, rfl, rfl⟩
  · cases h

/-- A transfer of funds that are there is not refused for want of them. -/
theorem transfer_ne_insufficientBalance {source recipient : Address} {now : Timestamp}
    {available needed : Amount} (enough : amount ≤ l.balanceOf asset source) :
    transfer asset source recipient amount now l ≠
      .error (.rejected (.insufficientBalance available needed)) l' := by
  intro h
  unfold transfer at h
  rcases Transact.bind_eq_error.mp h with h | ⟨_, _, found, h⟩
  · cases findAsset_eq_error h
  obtain ⟨_, rfl⟩ := findAsset_eq_ok.mp found
  rcases Transact.bind_eq_error.mp h with h | ⟨_, _, valid, h⟩
  · cases (Transact.require_eq_error.mp h).2.1
  obtain ⟨_, rfl⟩ := Transact.require_eq_ok.mp valid
  split at h
  · rcases Transact.bind_eq_error.mp h with h | ⟨_, _, debited, h⟩
    · -- the debit finds the funds, so it is not what was refused
      unfold debit at h
      rcases Transact.bind_eq_error.mp h with h | ⟨_, _, got, h⟩
      · cases h
      obtain ⟨rfl, rfl⟩ := Transact.get_eq_ok.mp got
      rw [dif_pos enough] at h
      cases h
    rcases Transact.bind_eq_error.mp h with h | ⟨_, _, _, h⟩
    · cases (credit_eq_error h).2.1
    · cases h
  · cases h

/-- Minting takes nobody's funds. -/
theorem mint_ne_insufficientBalance {minter recipient : Address} {now : Timestamp}
    {available needed : Amount} :
    mint asset minter recipient amount now l ≠
      .error (.rejected (.insufficientBalance available needed)) l' := by
  intro h
  unfold mint requireMinter at h
  rcases Transact.bind_eq_error.mp h with h | ⟨_, _, _, h⟩
  · rcases Transact.bind_eq_error.mp h with h | ⟨_, _, _, h⟩
    · cases findAsset_eq_error h
    · cases (Transact.require_eq_error.mp h).2.1
  rcases Transact.bind_eq_error.mp h with h | ⟨_, _, _, h⟩
  · cases (Transact.require_eq_error.mp h).2.1
  rcases Transact.bind_eq_error.mp h with h | ⟨_, _, _, h⟩
  · cases (Transact.require_eq_error.mp h).2.1
  rcases Transact.bind_eq_error.mp h with h | ⟨_, _, _, h⟩
  · cases findAsset_eq_error h
  rcases Transact.bind_eq_error.mp h with h | ⟨_, _, _, h⟩
  · cases (narrow_eq_error.mp (Transact.liftM_eq_error.mp h).1).2
  rcases Transact.bind_eq_error.mp h with h | ⟨_, _, _, h⟩
  · cases h
  rcases Transact.bind_eq_error.mp h with h | ⟨_, _, _, h⟩
  · cases (credit_eq_error h).2.1
  · cases h

end CollateralDebt.Ledger
