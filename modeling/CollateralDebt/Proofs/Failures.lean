import CollateralDebt.Proofs.FixedPoint
import CollateralDebt.Proofs.Transact

/-!
# The failures of a computation

What a computation can fail with is a predicate on failures, and the ways to build computations
treat all of these predicates alike. A sequence fails as one of its steps does; a check fails with
its cause; an operation on numbers fails where it leaves its range. So each way to build a
computation has one law, for any predicate, and a particular discipline of failures is that
predicate put into the laws.

The laws of computations without state are equivalences, and `simp` takes a formula apart by them
until only the ranges of its operations are left. A computation over a state is taken apart from the
front: what its first step has established is handed on to the next one.

## What is proved

- `Outcome.failsOnly_bind` and one equivalence for each operation;
- `Transact.FailsOnlyAt.bind` and one law for each way to build a computation over a state.
-/

namespace CollateralDebt

/-! ## Computations without state -/

namespace Outcome

variable {α β : Type} {P Q : Failure → Prop}

/-- Every failure of the computation is one of these. -/
def FailsOnly (P : Failure → Prop) (x : Outcome α) : Prop := ∀ f, x = .error f → P f

@[simp] theorem failsOnly_ok (a : α) : FailsOnly P (.ok a) := fun _ h => nomatch h

@[simp] theorem failsOnly_pure (a : α) : FailsOnly P (pure a) := failsOnly_ok a

@[simp] theorem failsOnly_error {f : Failure} : FailsOnly P (.error f : Outcome α) ↔ P f := by
  constructor
  · exact fun h => h f rfl
  · intro h g same
    cases same
    exact h

/-- A rejection is one of these failures if its cause makes it one. -/
@[simp] theorem failsOnly_reject {e : Error} :
    FailsOnly P (reject e : Outcome α) ↔ P (.rejected e) :=
  failsOnly_error

/-- A sequence fails as its first step, or as the second does after a success of the first. -/
@[simp] theorem failsOnly_bind {x : Outcome α} {f : α → Outcome β} :
    FailsOnly P (x >>= f) ↔ FailsOnly P x ∧ ∀ a, x = .ok a → FailsOnly P (f a) := by
  cases x with
  | ok a =>
    constructor
    · exact fun h => ⟨failsOnly_ok a, fun _ same => Except.ok.inj same ▸ h⟩
    · exact fun h => h.2 a rfl
  | error g =>
    constructor
    · exact fun h => ⟨fun _ same => h _ (Except.error.inj same ▸ rfl), nofun⟩
    · exact fun h _ same => h.1 _ (Except.error.inj same ▸ rfl)

theorem FailsOnly.bind {x : Outcome α} {f : α → Outcome β} (hx : FailsOnly P x)
    (hf : ∀ a, x = .ok a → FailsOnly P (f a)) : FailsOnly P (x >>= f) :=
  failsOnly_bind.mpr ⟨hx, hf⟩

/-- What becomes of the value has no part in how a computation fails. -/
@[simp] theorem failsOnly_map {x : Outcome α} {f : α → β} :
    FailsOnly P (f <$> x) ↔ FailsOnly P x := by
  rw [← bind_pure_comp, failsOnly_bind]
  exact ⟨And.left, fun h => ⟨h, fun _ _ => failsOnly_pure _⟩⟩

@[simp] theorem failsOnly_ite {c : Prop} [Decidable c] {x y : Outcome α} :
    FailsOnly P (if c then x else y) ↔ (c → FailsOnly P x) ∧ (¬ c → FailsOnly P y) := by
  by_cases h : c <;> simp [h]

/-- A check fails with its cause, and only where its condition does not hold. -/
@[simp] theorem failsOnly_require {c : Prop} [Decidable c] {e : Error} :
    FailsOnly P (require c e) ↔ (¬ c → P (.rejected e)) := by
  simp [require]

@[simp] theorem failsOnly_ofOption {o : Option α} {e : Error} :
    FailsOnly P (ofOption e o) ↔ (o = none → P (.rejected e)) := by
  cases o <;> simp [ofOption]

/-- What fails only in fewer ways also fails only in more. -/
theorem FailsOnly.mono (h : ∀ f, P f → Q f) {x : Outcome α} (hx : FailsOnly P x) :
    FailsOnly Q x :=
  fun f failed => h f (hx f failed)

end Outcome

/-! ## Operations -/

section Operations

open Outcome (FailsOnly)

variable {P : Failure → Prop} {a b d : Nat} {x y : Amount}

/-- A number fails to be an amount for being too large. -/
@[simp] theorem failsOnly_narrow {n : Nat} :
    FailsOnly P (narrow n) ↔ (Nat.pow 2 128 ≤ n → P (.rejected .overflow)) := by
  constructor
  · exact fun h large => h _ (narrow_eq_error.mpr ⟨large, rfl⟩)
  · intro h f failed
    obtain ⟨large, rfl⟩ := narrow_eq_error.mp failed
    exact h large

/-- A quotient fails for a divisor that is zero, and for being too large. -/
@[simp] theorem failsOnly_mulDiv : FailsOnly P (mulDiv a b d) ↔
    (d = 0 → P (.rejected .divisionByZero)) ∧
      (d ≠ 0 → Nat.pow 2 128 ≤ a * b / d → P (.rejected .overflow)) := by
  simp only [mulDiv, Outcome.failsOnly_ite, Outcome.failsOnly_reject, failsOnly_narrow, ne_eq]

@[simp] theorem failsOnly_mulDivUp : FailsOnly P (mulDivUp a b d) ↔
    (d = 0 → P (.rejected .divisionByZero)) ∧
      (d ≠ 0 → Nat.pow 2 128 ≤ a * b / d + (if a * b % d = 0 then 0 else 1) →
        P (.rejected .overflow)) := by
  simp only [mulDivUp, Outcome.failsOnly_ite, Outcome.failsOnly_reject, failsOnly_narrow, ne_eq]

@[simp] theorem failsOnly_add : FailsOnly P (x.add y) ↔
    (Nat.pow 2 128 ≤ x.toNat + y.toNat → P (.rejected .overflow)) :=
  failsOnly_narrow

/-- A checked difference is rejected where it would be below zero. -/
@[simp] theorem failsOnly_minus : FailsOnly P (x.minus y) ↔
    (¬ y ≤ x → P (.rejected .underflow)) := by
  unfold Amount.minus
  split <;> rename_i h <;> simp [h]

/-- An unchecked difference faults where a checked one is rejected. -/
@[simp] theorem failsOnly_uncheckedMinus : FailsOnly P (x.uncheckedMinus y) ↔
    (¬ y ≤ x → P .fault) := by
  unfold Amount.uncheckedMinus
  split <;> rename_i h <;> simp [h]

namespace Wide

@[simp] theorem failsOnly_checkedMul : FailsOnly P (checkedMul a b) ↔
    (bound ≤ a * b → P (.rejected .overflow)) := by
  simp [checkedMul]

@[simp] theorem failsOnly_checkedDiv : FailsOnly P (checkedDiv a b) ↔
    (b = 0 → P (.rejected .divisionByZero)) := by
  simp [checkedDiv]

@[simp] theorem failsOnly_checkedSub : FailsOnly P (checkedSub a b) ↔
    (a < b → P (.rejected .underflow)) := by
  simp [checkedSub]

@[simp] theorem failsOnly_mul : FailsOnly P (mul a b) ↔ (bound ≤ a * b → P .fault) := by
  simp [mul]

@[simp] theorem failsOnly_add : FailsOnly P (add a b) ↔ (bound ≤ a + b → P .fault) := by
  simp [add]

@[simp] theorem failsOnly_sub : FailsOnly P (sub a b) ↔ (a < b → P .fault) := by
  simp [sub]

end Wide

end Operations

/-! ## Computations over a state -/

namespace Transact

variable {σ τ α β : Type} {P Q : Failure → Prop} {s : σ}

/-- Every failure of the computation from this state is one of these. -/
def FailsOnlyAt (P : Failure → Prop) (s : σ) (m : Transact σ α) : Prop :=
  ∀ f s', m s = .error f s' → P f

theorem Unfailing.failsOnlyAt {m : Transact σ α} (h : Unfailing m) : FailsOnlyAt P s m :=
  fun f s' failed => absurd failed (h s f s')

theorem failsOnlyAt_pure (a : α) : FailsOnlyAt P s (pure a : Transact σ α) :=
  (unfailing_pure a).failsOnlyAt

theorem failsOnlyAt_modify (f : σ → σ) : FailsOnlyAt P s (modify f : Transact σ PUnit) :=
  (unfailing_modify f).failsOnlyAt

theorem failsOnlyAt_reject {e : Error} (h : P (.rejected e)) :
    FailsOnlyAt P s (reject e : Transact σ α) := by
  intro f s' failed
  cases failed
  exact h

theorem failsOnlyAt_require {c : Prop} [Decidable c] {e : Error} (h : P (.rejected e)) :
    FailsOnlyAt P s (require c e) := by
  intro f s' failed
  rw [(require_eq_error.mp failed).2.1]
  exact h

/-- What is computed without the state fails as it does alone. -/
theorem failsOnlyAt_liftM {x : Outcome α} (h : x.FailsOnly P) :
    FailsOnlyAt P s (liftM x : Transact σ α) :=
  fun f _ failed => h f (liftM_eq_error.mp failed).1

/-- The second step is only taken from where the first has ended with a success. -/
theorem FailsOnlyAt.bind {m : Transact σ α} {f : α → Transact σ β} (hm : FailsOnlyAt P s m)
    (hf : ∀ a t, m s = .ok a t → FailsOnlyAt P t (f a)) : FailsOnlyAt P s (m >>= f) := by
  intro failure s' failed
  rcases bind_eq_error.mp failed with failed | ⟨a, t, ok, failed⟩
  · exact hm failure s' failed
  · exact hf a t ok failure s' failed

/-- From a state, too, what fails only in fewer ways fails only in more. -/
theorem FailsOnlyAt.mono (h : ∀ f, P f → Q f) {m : Transact σ α} (hm : FailsOnlyAt P s m) :
    FailsOnlyAt Q s m :=
  fun f s' failed => h f (hm f s' failed)

/-- A check in front hands the state on as it is. -/
theorem ReadOnly.failsOnlyAt_bind {m : Transact σ α} {f : α → Transact σ β}
    (readOnly : ReadOnly m) (hm : FailsOnlyAt P s m)
    (hf : ∀ a, m s = .ok a s → FailsOnlyAt P s (f a)) : FailsOnlyAt P s (m >>= f) := by
  refine hm.bind fun a t ok => ?_
  obtain rfl := (readOnly s).1 a t ok
  exact hf a ok

theorem failsOnlyAt_get_bind {f : σ → Transact σ β} (h : FailsOnlyAt P s (f s)) :
    FailsOnlyAt P s (get >>= f) := h

theorem failsOnlyAt_modify_bind {g : σ → σ} {f : PUnit → Transact σ β}
    (h : FailsOnlyAt P (g s) (f ⟨⟩)) : FailsOnlyAt P s (modify g >>= f) := h

/-- What is computed without the state hands the state on, and its value. -/
theorem failsOnlyAt_liftM_bind {x : Outcome α} {f : α → Transact σ β} (hx : x.FailsOnly P)
    (hf : ∀ a, x = .ok a → FailsOnlyAt P s (f a)) :
    FailsOnlyAt P s ((liftM x : Transact σ α) >>= f) := by
  refine (failsOnlyAt_liftM hx).bind fun a t ok => ?_
  obtain ⟨done, rfl⟩ := liftM_eq_ok.mp ok
  exact hf a done

/-- After a check its condition holds. -/
theorem failsOnlyAt_require_bind {c : Prop} [Decidable c] {e : Error} {f : Unit → Transact σ β}
    (h : P (.rejected e)) (hf : c → FailsOnlyAt P s (f ())) :
    FailsOnlyAt P s (require c e >>= f) := by
  refine (failsOnlyAt_require h).bind fun _ t ok => ?_
  obtain ⟨holds, rfl⟩ := require_eq_ok.mp ok
  exact hf holds

/-- A computation on a part of the state fails as it does on the part. -/
theorem failsOnlyAt_zoom {part : σ → τ} {put : τ → σ → σ} {m : Transact τ α}
    (h : FailsOnlyAt P (part s) m) : FailsOnlyAt P s (zoom part put m) := by
  intro f s' failed
  obtain ⟨t, refused, _⟩ := zoom_eq_error.mp failed
  exact h f t refused

/-- What is restored after a failure changes nothing about the failure. -/
theorem failsOnlyAt_atomically {restore : σ → σ → σ} {m : Transact σ α}
    (h : FailsOnlyAt P s m) : FailsOnlyAt P s (atomically restore m) := by
  intro f s' failed
  obtain ⟨t, refused, _⟩ := atomically_eq_error.mp failed
  exact h f t refused

/-- A write that may be refused fails as what is to be written does. -/
theorem failsOnlyAt_update {f : σ → Outcome σ} (h : (f s).FailsOnly P) :
    FailsOnlyAt P s (update f) := by
  intro e s' failed
  unfold update at failed
  cases result : f s with
  | ok t =>
    rw [result] at failed
    cases failed
  | error g =>
    rw [result] at failed
    cases failed
    exact h _ result

/-- An attempt passes on what is not a rejection. -/
theorem failsOnlyAt_attempt {m : Transact σ α} (h : FailsOnlyAt P s m) :
    FailsOnlyAt P s (attempt m) := by
  intro f s' failed
  unfold attempt at failed
  cases ended : m s with
  | ok a t =>
    rw [ended] at failed
    cases failed
  | error g t =>
    rw [ended] at failed
    have known := h g t ended
    cases g <;> cases failed <;> exact known

/-- A fold fails as one of its entries does, from wherever the entries before it have led. -/
theorem failsOnlyAt_foldlM {f : β → α → Transact σ β} {I : List α → β → σ → Prop} {l : List α}
    (entry : ∀ done a rest b t, l = done ++ a :: rest → I done b t → FailsOnlyAt P t (f b a))
    (step : ∀ done a b t b' t', I done b t → f b a t = .ok b' t' → I (done ++ [a]) b' t')
    {b : β} (start : I [] b s) : FailsOnlyAt P s (l.foldlM f b) := by
  -- on the entries that are left: each of them moves over to those that were done
  have rest : ∀ (todo done : List α) (b : β) (t : σ), l = done ++ todo → I done b t →
      FailsOnlyAt P t (todo.foldlM f b) := by
    intro todo
    induction todo with
    | nil => exact fun _ b _ _ _ => failsOnlyAt_pure b
    | cons a todo ih =>
      intro done b t split holds
      rw [List.foldlM_cons]
      refine (entry done a todo b t split holds).bind fun c t' ok => ?_
      refine ih (done ++ [a]) c t' ?_ (step done a b t c t' holds ok)
      rw [List.append_assoc]
      exact split
  exact rest l [] b s rfl start

end Transact

end CollateralDebt
