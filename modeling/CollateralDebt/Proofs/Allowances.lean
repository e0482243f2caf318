import CollateralDebt.Proofs.Acceptances

/-!
# What is drawn on allowances

Whoever moves or destroys the funds of somebody else draws on an allowance. What a call demands is a
number for every asset, owner and spender, zero almost everywhere, so one statement says which
allowances fall, by how much, and that no other does. Owners need no allowance for their own funds,
and the largest one is never used up. Calls in a row demand the sum.

Permits are the only other thing in a batch that sets allowances. They take up nonces of their
owners, and leave alone what they do not name.

## What is proved

- `Draws`, `Drawn`: one allowance, and all of them;
- `drawn_transfer`, `drawn_mint`, `drawn_transferFrom`, `drawn_burnFrom`: what calls demand;
- `Granted`, `granted_replay`: what permits that are handed in one after the other set.
-/

namespace CollateralDebt

/-- What is known of an asset, its supply apart. -/
def AssetInfo.terms (a : AssetInfo) : AssetInfo := { a with totalSupply := .zero }

/-- The terms and the supply are all that is known of an asset. -/
theorem AssetInfo.ext_terms {a b : AssetInfo} (terms : a.terms = b.terms)
    (supply : a.totalSupply = b.totalSupply) : a = b := by
  obtain ⟨controller, decimals, -, minters⟩ := AssetInfo.ext_iff.mp terms
  exact AssetInfo.ext controller decimals supply minters

namespace Ledger

open Transact (bind_eq_ok)

variable {asset account owner spender source recipient minter sender : Address} {amount : Amount}
  {now : Timestamp} {l l' l'' : Ledger} {u : Unit}

/-- What is known of an asset, its supply apart, if it is known at all. -/
def terms (l : Ledger) (asset : Address) : Option AssetInfo :=
  (l.state.assets.get? asset).map AssetInfo.terms

/-- An asset with the terms and the supply that it had is as it was. -/
theorem get?_of_terms {x : Address} (terms : l'.terms x = l.terms x)
    (supply : l'.totalSupply x = l.totalSupply x) :
    l'.state.assets.get? x = l.state.assets.get? x := by
  unfold Ledger.terms at terms
  unfold totalSupply at supply
  cases here : l.state.assets.get? x with
  | none =>
    rw [here] at terms
    exact Option.map_eq_none_iff.mp terms
  | some a =>
    rw [here] at terms supply
    obtain ⟨b, there, same⟩ := Option.map_eq_some_iff.mp terms
    rw [there] at supply ⊢
    exact congrArg some (AssetInfo.ext_terms same supply)

/-! ## One allowance -/

/-- An allowance was `before` and is `after`, when so much of the owner's funds was moved or
destroyed on it. -/
structure Draws (owner spender : Address) (n : Nat) (before after : Amount) : Prop where
  unlimited : owner = spender ∨ before = .largest → after = before
  falls : owner ≠ spender → before ≠ .largest → after.toNat + n = before.toNat

namespace Draws

variable {n m : Nat} {a b c : Amount}

theorem refl (owner spender : Address) (a : Amount) : Draws owner spender 0 a a :=
  ⟨fun _ => rfl, fun _ _ => rfl⟩

/-- An allowance on which nothing was drawn is what it was. -/
theorem eq_of_zero (h : Draws owner spender 0 a b) : b = a := by
  by_cases free : owner = spender ∨ a = .largest
  · exact h.unlimited free
  · obtain ⟨foreign, limited⟩ := not_or.mp free
    exact Amount.ext (h.falls foreign limited)

/-- Somebody else's allowance covers an amount that is drawn on it. -/
theorem enough (h : Draws owner spender amount.toNat a b) (foreign : owner ≠ spender) :
    amount ≤ a := by
  by_cases limited : a = .largest
  · subst limited
    exact Nat.le_pred_of_lt amount.isLt
  · exact Nat.le_of_add_left_le (Nat.le_of_eq (h.falls foreign limited))

/-- One demand after the other is the demand for both. -/
theorem trans (first : Draws owner spender n a b) (second : Draws owner spender m b c) :
    Draws owner spender (n + m) a c := by
  by_cases free : owner = spender ∨ a = .largest
  · obtain rfl := first.unlimited free
    exact ⟨second.unlimited, fun foreign limited => absurd free (not_or.mpr ⟨foreign, limited⟩)⟩
  · obtain ⟨foreign, limited⟩ := not_or.mp free
    have fell := first.falls foreign limited
    -- what is left of a limited allowance is limited
    have limited' : b ≠ .largest := by
      rintro rfl
      have top : a.toNat ≤ Amount.largest.toNat := Nat.le_pred_of_lt a.isLt
      exact limited (Amount.ext (by omega))
    have fell' := second.falls foreign limited'
    exact ⟨fun free' => absurd free' free, fun _ _ => by omega⟩

end Draws

/-! ## All allowances -/

/-- What drawing `n` on an allowance demands of the allowance of `s` on the funds of `o` in the
asset `x`. -/
def demand (asset owner spender : Address) (n : Nat) (x o s : Address) : Nat :=
  if x = asset ∧ o = owner ∧ s = spender then n else 0

/-- Drawing demands its amount of the allowance that it is drawn on. -/
@[simp] theorem demand_self (asset owner spender : Address) (n : Nat) :
    demand asset owner spender n asset owner spender = n := if_pos ⟨rfl, rfl, rfl⟩

@[simp] theorem demand_zero (asset owner spender x o s : Address) :
    demand asset owner spender 0 x o s = 0 := ite_self 0

/-- It demands nothing of any other allowance. -/
theorem demand_of_ne {n : Nat} {x o s : Address} (h : ¬ (x = asset ∧ o = owner ∧ s = spender)) :
    demand asset owner spender n x o s = 0 := if_neg h

/-- So much was demanded of each allowance, and else nothing changed about permits, keys and the
terms of assets. -/
structure Drawn (demanded : Address → Address → Address → Nat) (l l' : Ledger) : Prop where
  allowance : ∀ x o s, Draws o s (demanded x o s) (l.allowance x o s) (l'.allowance x o s)
  nonces : l'.state.nonces = l.state.nonces
  signingKeys : l'.state.signingKeys = l.state.signingKeys
  terms : ∀ x, l'.terms x = l.terms x

namespace Drawn

variable {d d' : Address → Address → Address → Nat}

theorem refl (l : Ledger) : Drawn (fun _ _ _ => 0) l l :=
  ⟨fun _ _ _ => .refl _ _ _, rfl, rfl, fun _ => rfl⟩

/-- Demands of two steps add up. -/
theorem trans (first : Drawn d l l') (second : Drawn d' l' l'') :
    Drawn (fun x o s => d x o s + d' x o s) l l'' where
  allowance x o s := (first.allowance x o s).trans (second.allowance x o s)
  nonces := second.nonces.trans first.nonces
  signingKeys := second.signingKeys.trans first.signingKeys
  terms x := (second.terms x).trans (first.terms x)

/-- Demands that are the same everywhere can stand for each other. -/
theorem congr (same : ∀ x o s, d x o s = d' x o s) (h : Drawn d l l') : Drawn d' l l' :=
  ⟨fun x o s => same x o s ▸ h.allowance x o s, h.nonces, h.signingKeys, h.terms⟩

end Drawn

/-- Nothing was demanded. -/
def Undrawn (l l' : Ledger) : Prop := Drawn (fun _ _ _ => 0) l l'

/-- Nothing is drawn where the allowances, the nonces, the keys and the terms are the same. -/
theorem Undrawn.of_state (allowances : l'.state.allowances = l.state.allowances)
    (nonces : l'.state.nonces = l.state.nonces)
    (signingKeys : l'.state.signingKeys = l.state.signingKeys)
    (terms : ∀ x, l'.terms x = l.terms x) : Undrawn l l' := by
  refine ⟨fun x o s => ?_, nonces, signingKeys, terms⟩
  have same : l'.allowance x o s = l.allowance x o s := by
    unfold Ledger.allowance
    rw [allowances]
  rw [same]
  exact .refl _ _ _

/-- Steps that draw nothing draw nothing together. -/
theorem Undrawn.trans (first : Undrawn l l') (second : Undrawn l' l'') : Undrawn l l'' :=
  Drawn.trans first second

/-! ## Steps -/

/-- Setting an allowance sets that allowance, and no other. -/
theorem allowance_allowing (l : Ledger) (asset owner spender x o s : Address) (amount : Amount) :
    (l.allowing asset owner spender amount).allowance x o s =
      if x = asset ∧ o = owner ∧ s = spender then amount else l.allowance x o s := by
  show (l.state.allowances.insert (asset, owner, spender) amount).getD (x, o, s) .zero = _
  unfold Table.getD
  by_cases here : x = asset ∧ o = owner ∧ s = spender
  · obtain ⟨rfl, rfl, rfl⟩ := here
    rw [if_pos ⟨rfl, rfl, rfl⟩, Table.get?_insert_self]
    rfl
  · have other : (x, o, s) ≠ (asset, owner, spender) := fun same => here (by cases same; simp)
    rw [if_neg here, Table.get?_insert_of_ne _ _ other]
    rfl

/-- Replacing what is known of an asset by the same terms with another supply changes no terms. -/
theorem terms_insert {info info' : AssetInfo} (found : l.state.assets.get? asset = some info)
    (same : info'.terms = info.terms) (x : Address) :
    terms { l with state := { l.state with assets := l.state.assets.insert asset info' } } x =
      l.terms x := by
  unfold terms
  by_cases here : x = asset
  · subst here
    rw [found, Table.get?_insert_self, Option.map_some, Option.map_some, same]
  · rw [Table.get?_insert_of_ne _ _ here]

/-- A debit by itself draws on no allowance. -/
theorem undrawn_debit (h : debit asset account amount l = .ok u l') : Undrawn l l' := by
  simp only [debit, bind_eq_ok, Transact.get_eq_ok] at h
  obtain ⟨_, _, ⟨rfl, rfl⟩, h⟩ := h
  split at h
  · obtain rfl := putBalance_eq_ok.mp h
    exact .of_state rfl rfl rfl fun _ => rfl
  · cases h

/-- Nor does a credit. -/
theorem undrawn_credit (h : credit asset account amount l = .ok u l') : Undrawn l l' := by
  simp only [credit, bind_eq_ok, Transact.get_eq_ok, Transact.liftM_eq_ok, putBalance_eq_ok] at h
  obtain ⟨_, _, ⟨rfl, rfl⟩, _, _, ⟨_, rfl⟩, rfl⟩ := h
  exact .of_state rfl rfl rfl fun _ => rfl

/-- What is spent is demanded of one allowance. -/
theorem drawn_spendAllowance (h : spendAllowance asset owner spender amount l = .ok u l') :
    Drawn (demand asset owner spender amount.toNat) l l' := by
  -- every other allowance is as it was, so the demand is met if it is met here
  have only (here : Draws owner spender amount.toNat (l.allowance asset owner spender)
        (l'.allowance asset owner spender))
      (others : ∀ x o s, ¬ (x = asset ∧ o = owner ∧ s = spender) →
        l'.allowance x o s = l.allowance x o s)
      (nonces : l'.state.nonces = l.state.nonces)
      (signingKeys : l'.state.signingKeys = l.state.signingKeys)
      (terms : ∀ x, l'.terms x = l.terms x) :
      Drawn (demand asset owner spender amount.toNat) l l' := by
    refine ⟨fun x o s => ?_, nonces, signingKeys, terms⟩
    by_cases same : x = asset ∧ o = owner ∧ s = spender
    · obtain ⟨rfl, rfl, rfl⟩ := same
      rw [demand_self]
      exact here
    · rw [demand_of_ne same, others x o s same]
      exact .refl _ _ _
  unfold spendAllowance at h
  split at h
  · rename_i foreign
    simp only [bind_eq_ok, Transact.get_eq_ok] at h
    obtain ⟨_, _, ⟨rfl, rfl⟩, h⟩ := h
    split at h
    · rename_i covered
      split at h
      · rename_i limited
        obtain rfl := putAllowance_eq_ok.mp h
        refine only ⟨fun free => absurd free (not_or.mpr ⟨foreign, limited⟩), fun _ _ => ?_⟩
          (fun x o s other => ?_) rfl rfl fun _ => rfl
        · rw [allowance_allowing, if_pos ⟨rfl, rfl, rfl⟩, Amount.toNat_sub]
          exact Nat.sub_add_cancel covered
        · rw [allowance_allowing, if_neg other]
      · rename_i largest
        obtain ⟨-, rfl⟩ := Transact.pure_eq_ok.mp h
        exact only ⟨fun _ => rfl, fun _ limited => absurd limited largest⟩ (fun _ _ _ _ => rfl)
          rfl rfl fun _ => rfl
    · cases h
  · rename_i own
    obtain ⟨-, rfl⟩ := Transact.pure_eq_ok.mp h
    exact only ⟨fun _ => rfl, fun foreign => absurd foreign own⟩ (fun _ _ _ _ => rfl) rfl rfl
      fun _ => rfl

/-! ## Calls -/

/-- Owners who move their own funds draw on nothing. -/
theorem drawn_transfer (h : transfer asset source recipient amount now l = .ok u l') :
    Undrawn l l' := by
  simp only [transfer, bind_eq_ok, findAsset_eq_ok, Transact.require_eq_ok] at h
  obtain ⟨_, _, ⟨_, rfl⟩, _, _, ⟨_, rfl⟩, h⟩ := h
  split at h
  · simp only [bind_eq_ok, emit_eq_ok] at h
    obtain ⟨_, l₁, debited, _, l₂, credited, rfl⟩ := h
    exact ((undrawn_debit debited).trans (undrawn_credit credited)).trans
      (.of_state rfl rfl rfl fun _ => rfl)
  · obtain ⟨-, rfl⟩ := Transact.pure_eq_ok.mp h
    exact .refl _

/-- New funds draw on nothing. -/
theorem drawn_mint (h : mint asset minter recipient amount now l = .ok u l') : Undrawn l l' := by
  simp only [mint, bind_eq_ok, requireMinter_eq_ok, Transact.require_eq_ok, findAsset_eq_ok,
    Transact.liftM_eq_ok, putAsset_eq_ok, emit_eq_ok] at h
  obtain ⟨_, _, ⟨_, rfl⟩, _, _, ⟨_, rfl⟩, _, _, ⟨_, rfl⟩, info, _, ⟨found, rfl⟩, total, _,
    ⟨_, rfl⟩, _, _, rfl, _, l₁, credited, rfl⟩ := h
  have issued : Undrawn l { l with state :=
      { l.state with assets := l.state.assets.insert asset { info with totalSupply := total } } } :=
    .of_state rfl rfl rfl (terms_insert found rfl)
  exact (issued.trans (undrawn_credit credited)).trans (.of_state rfl rfl rfl fun _ => rfl)

/-- Moving funds on behalf of a spender draws on the spender's allowance. -/
theorem drawn_transferFrom
    (h : transferFrom asset spender source recipient amount now l = .ok u l') :
    Drawn (demand asset source spender amount.toNat) l l' := by
  simp only [transferFrom, bind_eq_ok, findAsset_eq_ok] at h
  obtain ⟨_, _, ⟨_, rfl⟩, _, l₁, spent, moved⟩ := h
  exact (drawn_spendAllowance spent).trans (drawn_transfer moved)

/-- Destroying funds on behalf of a sender draws on the sender's allowance. -/
theorem drawn_burnFrom (h : burnFrom asset minter source sender amount now l = .ok u l') :
    Drawn (demand asset source sender amount.toNat) l l' := by
  simp only [burnFrom, bind_eq_ok, requireMinter_eq_ok, Transact.require_eq_ok, findAsset_eq_ok,
    Transact.liftM_eq_ok, putAsset_eq_ok, emit_eq_ok] at h
  obtain ⟨_, _, ⟨_, rfl⟩, _, _, ⟨_, rfl⟩, _, l₁, spent, _, l₂, debited, info, _, ⟨found, rfl⟩,
    total, _, ⟨_, rfl⟩, _, _, rfl, rfl⟩ := h
  have issued : Undrawn l₂ { l₂ with
      state := { l₂.state with
        assets := l₂.state.assets.insert asset { info with totalSupply := total } }
      log := l₂.log.emit (.tokenBurn asset source amount now) } :=
    .of_state rfl rfl rfl (terms_insert found rfl)
  exact (drawn_spendAllowance spent).trans ((undrawn_debit debited).trans issued)

/-! ## Permits -/

/-- What permits set are allowances that they name and nonces of their owners. -/
structure Granted (permits : List Permit) (l l' : Ledger) : Prop where
  allowance : ∀ x o s, (∀ signed ∈ permits,
      ¬ (signed.asset = x ∧ signed.owner = o ∧ signed.spender = s)) →
    l'.allowance x o s = l.allowance x o s
  nonce : ∀ x o, (∀ signed ∈ permits, ¬ (signed.asset = x ∧ signed.owner = o)) →
    l'.nonce x o = l.nonce x o
  signingKeys : l'.state.signingKeys = l.state.signingKeys
  terms : ∀ x, l'.terms x = l.terms x

theorem Granted.refl (permits : List Permit) (l : Ledger) : Granted permits l l :=
  ⟨fun _ _ _ _ => rfl, fun _ _ _ => rfl, rfl, fun _ => rfl⟩

/-- What a list of permits grants is granted one permit after the other. -/
theorem Granted.cons {signed : Permit} {permits : List Permit} (first : Granted [signed] l l')
    (rest : Granted permits l' l'') : Granted (signed :: permits) l l'' where
  allowance x o s other :=
    (rest.allowance x o s fun p among => other p (List.mem_cons_of_mem _ among)).trans
      (first.allowance x o s fun p here => other p (List.mem_cons.mpr
        (.inl (List.mem_singleton.mp here))))
  nonce x o other :=
    (rest.nonce x o fun p among => other p (List.mem_cons_of_mem _ among)).trans
      (first.nonce x o fun p here => other p (List.mem_cons.mpr
        (.inl (List.mem_singleton.mp here))))
  signingKeys := rest.signingKeys.trans first.signingKeys
  terms x := (rest.terms x).trans (first.terms x)

/-- A permit that took up its nonce. -/
theorem granted_granted (l : Ledger) (signed : Permit) (next : UInt64) :
    Granted [signed] l (l.granted signed next) := by
  refine ⟨fun _ _ _ _ => rfl, fun x o other => ?_, rfl, fun _ => rfl⟩
  have foreign : (x, o) ≠ (signed.asset, signed.owner) := fun same =>
    other signed (List.mem_singleton.mpr rfl) (by cases same; simp)
  show (l.state.nonces.insert (signed.asset, signed.owner) next).getD (x, o) 0 = _
  unfold Table.getD
  rw [Table.get?_insert_of_ne _ _ foreign]
  rfl

/-- A permit, accepted or refused. -/
theorem granted_permit (l : Ledger) (signed : Permit) (now : Timestamp) :
    Granted [signed] l ((permit signed now).after l) := by
  rcases Transact.after_eq (permit signed now) l with ⟨_, done⟩ | ⟨_, refused⟩ | same
  · rcases permitEnd l signed now with ⟨f, ended⟩ | ⟨_, next, _, _, ended⟩
    · cases done.symm.trans ended
    · have approved := ended.symm.trans done
      simp only [approve, bind_eq_ok, findAsset_eq_ok, Transact.require_eq_ok, putAllowance_eq_ok,
        emit_eq_ok] at approved
      obtain ⟨_, _, ⟨_, rfl⟩, _, _, ⟨_, rfl⟩, _, _, rfl, ended⟩ := approved
      have taken := granted_granted l signed next
      rw [← ended]
      refine ⟨fun x o s other => ?_, taken.nonce, taken.signingKeys, taken.terms⟩
      have foreign := other signed (List.mem_singleton.mpr rfl)
      refine (allowance_allowing _ _ _ _ x o s _).trans (if_neg fun here => foreign ?_)
      exact ⟨here.1.symm, here.2.1.symm, here.2.2.symm⟩
  · rcases permit_eq_error refused with same | ⟨_, next, _, _, _, took⟩
    · rw [same]
      exact .refl _ _
    · rw [took]
      exact granted_granted l signed next
  · rw [same]
    exact .refl _ _

/-- Permits that are handed in one after the other. -/
theorem granted_replay (l : Ledger) (permits : List Permit) (now : Timestamp) :
    Granted permits l (l.replay (permits.map fun signed => (now, .permit signed))) := by
  induction permits generalizing l with
  | nil => exact .refl _ _
  | cons signed permits ih => exact (granted_permit l signed now).cons (ih _)

end Ledger

end CollateralDebt
