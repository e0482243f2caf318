import Mathlib.Order.Defs.Unbundled
import CollateralDebt.Outcome

/-!
# Taking computations apart

A computation that succeeded went through all of its steps, and each of them succeeded. The laws of
the first two sections read a success backwards, one step at a time: they are what every statement
about a call starts from.

The third section is about refusals. A call that checks first and writes last leaves no trace when
it is refused, and that is a property of the order of its steps alone: steps that only read, then
steps that never fail.

## What is proved

- `Outcome.bind_eq_ok`, `Transact.bind_eq_ok` and one law for each way to build a computation;
- `foldlM_induction`: what every step of a fold preserves holds at its end;
- `Traceless`: a failure leaves the state as it was, and how this follows from `ReadOnly` and
  `Unfailing` steps;
- `Keeps`: a relation between start and end that holds wherever a computation ends;
- `Blind`: a part of the state that a computation does not see;
- `after_zoom`, `after_eq`: what a computation that was tried leaves behind.
-/

namespace CollateralDebt

namespace Outcome

variable {α β : Type}

/-- A sequence succeeds exactly if both of its parts do. -/
theorem bind_eq_ok {x : Outcome α} {f : α → Outcome β} {b : β} :
    (x >>= f) = .ok b ↔ ∃ a, x = .ok a ∧ f a = .ok b := by
  cases x with
  | ok a =>
    constructor
    · intro h
      exact ⟨a, rfl, h⟩
    · rintro ⟨_, h, h'⟩
      cases h
      exact h'
  | error e =>
    constructor
    · intro h
      cases h
    · rintro ⟨_, h, _⟩
      cases h

@[simp] theorem pure_eq_ok {a b : α} : (pure a : Outcome α) = .ok b ↔ a = b :=
  Except.ok.injEq a b ▸ Iff.rfl

/-- What a success gives can be read without the reason of a failure. -/
theorem toOption_eq_some {x : Outcome α} {a : α} : x.toOption = some a ↔ x = .ok a := by
  cases x with
  | ok b =>
    show some b = some a ↔ _
    rw [Option.some.injEq, Except.ok.injEq]
  | error e =>
    show none = some a ↔ _
    simp only [reduceCtorEq]

@[simp] theorem reject_eq_ok {e : Error} {a : α} : (reject e : Outcome α) = .ok a ↔ False := by
  unfold reject
  simp only [reduceCtorEq]

/-- A check succeeds exactly if its condition holds. -/
@[simp] theorem require_eq_ok {p : Prop} [Decidable p] {e : Error} {u : Unit} :
    require p e = .ok u ↔ p := by
  unfold require
  split <;> simp_all

/-- Only what is absent fails, with the cause that was given for it. -/
@[simp] theorem ofOption_eq_error {e : Error} {o : Option α} {f : Failure} :
    ofOption e o = .error f ↔ o = none ∧ f = .rejected e := by
  cases o with
  | none =>
    show Except.error (Failure.rejected e) = _ ↔ _
    rw [Except.error.injEq]
    exact ⟨fun h => ⟨rfl, h.symm⟩, fun h => h.2.symm⟩
  | some a => simp [ofOption]

@[simp] theorem ofOption_eq_ok {e : Error} {o : Option α} {a : α} :
    ofOption e o = .ok a ↔ o = some a := by
  cases o <;> simp [ofOption]

end Outcome

namespace Transact

variable {σ τ α β : Type}

/-! ## Successes -/

/-- A sequence succeeds exactly if both of its parts do, the second from where the first ended. -/
theorem bind_eq_ok {m : Transact σ α} {f : α → Transact σ β} {s s' : σ} {b : β} :
    (m >>= f) s = .ok b s' ↔ ∃ a t, m s = .ok a t ∧ f a t = .ok b s' := by
  show EStateM.bind m f s = _ ↔ _
  unfold EStateM.bind
  cases m s with
  | ok a t =>
    constructor
    · intro h
      exact ⟨a, t, rfl, h⟩
    · rintro ⟨_, _, h, h'⟩
      cases h
      exact h'
  | error e t =>
    constructor
    · intro h
      cases h
    · rintro ⟨_, _, h, _⟩
      cases h

/-- After a success the rest goes on from where it ended. -/
theorem bind_of_ok {m : Transact σ α} {f : α → Transact σ β} {s t : σ} {a : α}
    (h : m s = .ok a t) : (m >>= f) s = f a t := by
  show EStateM.bind m f s = _
  unfold EStateM.bind
  rw [h]

/-- After a failure nothing goes on. -/
theorem bind_of_error {m : Transact σ α} {f : α → Transact σ β} {s t : σ} {e : Failure}
    (h : m s = .error e t) : (m >>= f) s = .error e t := by
  show EStateM.bind m f s = _
  unfold EStateM.bind
  rw [h]

/-- A computation has an answer exactly if it succeeds. -/
theorem run'_eq_some {m : Transact σ α} {s : σ} {a : α} :
    EStateM.run' m s = some a ↔ ∃ s', m s = .ok a s' := by
  unfold EStateM.run' EStateM.run
  cases m s with
  | ok b t =>
    constructor
    · rintro ⟨⟩
      exact ⟨t, rfl⟩
    · rintro ⟨_, ⟨⟩⟩
      rfl
  | error e t =>
    constructor
    · rintro ⟨⟩
    · rintro ⟨_, ⟨⟩⟩

@[simp] theorem pure_eq_ok {a b : α} {s s' : σ} :
    (pure a : Transact σ α) s = .ok b s' ↔ a = b ∧ s = s' := by
  show EStateM.Result.ok a s = _ ↔ _
  rw [EStateM.Result.ok.injEq]

@[simp] theorem get_eq_ok {s a s' : σ} :
    (get : Transact σ σ) s = .ok a s' ↔ s = a ∧ s = s' := by
  show EStateM.Result.ok s s = _ ↔ _
  rw [EStateM.Result.ok.injEq]

@[simp] theorem modify_eq_ok {f : σ → σ} {s s' : σ} {u : PUnit} :
    (modify f : Transact σ PUnit) s = .ok u s' ↔ f s = s' := by
  show EStateM.Result.ok PUnit.unit (f s) = _ ↔ _
  rw [EStateM.Result.ok.injEq]
  exact ⟨fun h => h.2, fun h => ⟨rfl, h⟩⟩

/-- What is computed without the state leaves the state as it is. -/
@[simp] theorem liftM_eq_ok {x : Outcome α} {s s' : σ} {a : α} :
    (liftM x : Transact σ α) s = .ok a s' ↔ x = .ok a ∧ s = s' := by
  cases x with
  | ok b =>
    show EStateM.Result.ok b s = _ ↔ _
    rw [EStateM.Result.ok.injEq, Except.ok.injEq]
  | error e =>
    show EStateM.Result.error e s = _ ↔ _
    simp only [reduceCtorEq, false_and]

@[simp] theorem reject_eq_ok {e : Error} {s s' : σ} {a : α} :
    (reject e : Transact σ α) s = .ok a s' ↔ False := by
  unfold reject
  simp only [reduceCtorEq]

/-- A check that passes leaves the state as it is. -/
@[simp] theorem require_eq_ok {p : Prop} [Decidable p] {e : Error} {s s' : σ} {u : Unit} :
    (require p e : Transact σ Unit) s = .ok u s' ↔ p ∧ s = s' := by
  unfold require
  split <;> simp_all

/-- What fails without the state leaves the state as it is, too. -/
@[simp] theorem liftM_eq_error {x : Outcome α} {s s' : σ} {e : Failure} :
    (liftM x : Transact σ α) s = .error e s' ↔ x = .error e ∧ s = s' := by
  cases x with
  | ok b =>
    show EStateM.Result.ok b s = _ ↔ _
    simp only [reduceCtorEq, false_and]
  | error f =>
    show EStateM.Result.error f s = _ ↔ _
    rw [EStateM.Result.error.injEq, Except.error.injEq]

/-- A check fails with its cause alone, where its condition does not hold. -/
@[simp] theorem require_eq_error {p : Prop} [Decidable p] {cause : Error} {e : Failure}
    {s s' : σ} :
    (require p cause : Transact σ Unit) s = .error e s' ↔
      ¬ p ∧ e = .rejected cause ∧ s = s' := by
  unfold require
  split
  · rename_i holds
    constructor
    · intro h
      cases h
    · rintro ⟨fails, _⟩
      exact absurd holds fails
  · rename_i fails
    constructor
    · intro h
      cases h
      exact ⟨fails, rfl, rfl⟩
    · rintro ⟨_, rfl, rfl⟩
      rfl

/-- A success on a part of the state puts the part back. -/
theorem zoom_eq_ok {part : σ → τ} {put : τ → σ → σ} {m : Transact τ α} {s s' : σ} {a : α} :
    zoom part put m s = .ok a s' ↔ ∃ t, m (part s) = .ok a t ∧ put t s = s' := by
  unfold zoom
  cases m (part s) with
  | ok b t =>
    simp only [EStateM.Result.ok.injEq]
    constructor
    · rintro ⟨rfl, rfl⟩
      exact ⟨t, ⟨rfl, rfl⟩, rfl⟩
    · rintro ⟨_, ⟨rfl, rfl⟩, rfl⟩
      exact ⟨rfl, rfl⟩
  | error e t => simp only [reduceCtorEq, false_and, exists_false]

/-- So does a failure: what it wrote to the part stays. -/
theorem zoom_eq_error {part : σ → τ} {put : τ → σ → σ} {m : Transact τ α} {s s' : σ}
    {e : Failure} :
    zoom part put m s = .error e s' ↔ ∃ t, m (part s) = .error e t ∧ put t s = s' := by
  unfold zoom
  cases m (part s) with
  | ok b t => simp only [reduceCtorEq, false_and, exists_false]
  | error e t =>
    simp only [EStateM.Result.error.injEq]
    constructor
    · rintro ⟨rfl, rfl⟩
      exact ⟨t, ⟨rfl, rfl⟩, rfl⟩
    · rintro ⟨_, ⟨rfl, rfl⟩, rfl⟩
      exact ⟨rfl, rfl⟩

/-- Being all or nothing changes no success. -/
theorem atomically_eq_ok {restore : σ → σ → σ} {m : Transact σ α} {s s' : σ} {a : α} :
    atomically restore m s = .ok a s' ↔ m s = .ok a s' := by
  unfold atomically
  cases m s <;> simp

/-- A failure of all or nothing ends where the restoring leads. -/
theorem atomically_eq_error {restore : σ → σ → σ} {m : Transact σ α} {s s' : σ} {e : Failure} :
    atomically restore m s = .error e s' ↔ ∃ t, m s = .error e t ∧ restore s t = s' := by
  unfold atomically
  cases m s with
  | ok b t => simp only [reduceCtorEq, false_and, exists_false]
  | error e t =>
    simp only [EStateM.Result.error.injEq]
    constructor
    · rintro ⟨rfl, rfl⟩
      exact ⟨t, ⟨rfl, rfl⟩, rfl⟩
    · rintro ⟨_, ⟨rfl, rfl⟩, rfl⟩
      exact ⟨rfl, rfl⟩

/-- What an attempt answers: the value, or the cause of a refusal; where it ends either way. -/
theorem attempt_eq_ok {m : Transact σ α} {s s' : σ} {r : Except Error α} :
    attempt m s = .ok r s' ↔
      (∃ a, r = .ok a ∧ m s = .ok a s') ∨ ∃ e, r = .error e ∧ m s = .error (.rejected e) s' := by
  unfold attempt
  cases m s with
  | ok b t =>
    simp only [EStateM.Result.ok.injEq, reduceCtorEq, and_false, exists_false, or_false]
    constructor
    · rintro ⟨rfl, rfl⟩
      exact ⟨b, rfl, rfl, rfl⟩
    · rintro ⟨_, rfl, rfl, rfl⟩
      exact ⟨rfl, rfl⟩
  | error f t =>
    cases f with
    | rejected e =>
      simp only [EStateM.Result.ok.injEq, EStateM.Result.error.injEq, Failure.rejected.injEq,
        reduceCtorEq, and_false, exists_false, false_or]
      constructor
      · rintro ⟨rfl, rfl⟩
        exact ⟨e, rfl, rfl, rfl⟩
      · rintro ⟨_, rfl, rfl, rfl⟩
        exact ⟨rfl, rfl⟩
    | fault => simp
    | absent => simp

/-- A sequence fails in its first part, or in its second after the first succeeded. -/
theorem bind_eq_error {m : Transact σ α} {f : α → Transact σ β} {s s' : σ} {e : Failure} :
    (m >>= f) s = .error e s' ↔
      m s = .error e s' ∨ ∃ a t, m s = .ok a t ∧ f a t = .error e s' := by
  show EStateM.bind m f s = _ ↔ _
  unfold EStateM.bind
  cases m s with
  | ok a t =>
    simp only [reduceCtorEq, false_or]
    constructor
    · intro h
      exact ⟨a, t, rfl, h⟩
    · rintro ⟨_, _, h, h'⟩
      cases h
      exact h'
  | error e t => simp

/-- One step for each entry of a list, the first one first. -/
theorem mapM_cons_eq_ok {f : α → Transact σ β} {a : α} {l : List α} {bs : List β} {s s' : σ} :
    (a :: l).mapM f s = .ok bs s' ↔
      ∃ b t rest, f a s = .ok b t ∧ l.mapM f t = .ok rest s' ∧ bs = b :: rest := by
  simp only [List.mapM_cons, bind_eq_ok, pure_eq_ok]
  constructor
  · rintro ⟨b, t, first, rest, _, done, rfl, rfl⟩
    exact ⟨b, t, rest, first, done, rfl⟩
  · rintro ⟨b, t, rest, first, done, rfl⟩
    exact ⟨b, t, first, rest, s', done, rfl, rfl⟩

/-- What every step of a fold preserves holds at its end. The property may speak of the entries
that were done. -/
theorem foldlM_induction {f : β → α → Transact σ β} {P : List α → β → σ → Prop}
    (step : ∀ done a b s b' s', P done b s → f b a s = .ok b' s' → P (done ++ [a]) b' s')
    {l : List α} {b b' : β} {s s' : σ} (start : P [] b s) (h : l.foldlM f b s = .ok b' s') :
    P l b' s' := by
  -- on the entries that are left: each of them moves over to those that were done
  have rest : ∀ (todo done : List α) (b : β) (s : σ), P done b s →
      todo.foldlM f b s = .ok b' s' → P (done ++ todo) b' s' := by
    intro todo
    induction todo with
    | nil =>
      intro done b s holds h
      obtain ⟨rfl, rfl⟩ := pure_eq_ok.mp h
      rw [List.append_nil]
      exact holds
    | cons a todo ih =>
      intro done b s holds h
      rw [List.foldlM_cons] at h
      obtain ⟨c, t, hc, h⟩ := bind_eq_ok.mp h
      have := ih (done ++ [a]) c t (step done a b s c t holds hc) h
      rwa [List.append_assoc] at this
  exact rest l [] b s start h

/-! ## Refusals without a trace -/

/-- A computation that ends in the state it started from, whatever comes out of it. -/
def ReadOnly (m : Transact σ α) : Prop :=
  ∀ s, (∀ a s', m s = .ok a s' → s' = s) ∧ ∀ e s', m s = .error e s' → s' = s

/-- A computation that always gives a value. -/
def Unfailing (m : Transact σ α) : Prop := ∀ s e s', m s ≠ .error e s'

/-- A computation that, from this state, leaves the state as it was when it fails. -/
def TracelessAt (s : σ) (m : Transact σ α) : Prop := ∀ e s', m s = .error e s' → s' = s

/-- A computation that leaves the state as it was when it fails. -/
def Traceless (m : Transact σ α) : Prop := ∀ s, TracelessAt s m

/-- What never fails leaves no trace of a failure. -/
theorem Unfailing.traceless {m : Transact σ α} (h : Unfailing m) : Traceless m :=
  fun s e s' failed => absurd failed (h s e s')

theorem readOnly_pure (a : α) : ReadOnly (pure a : Transact σ α) := by
  intro s
  constructor
  · intro _ _ h
    exact (pure_eq_ok.mp h).2.symm
  · intro _ _ h
    cases h

theorem readOnly_get : ReadOnly (get : Transact σ σ) := by
  intro s
  constructor
  · intro _ _ h
    exact (get_eq_ok.mp h).2.symm
  · intro _ _ h
    cases h

theorem readOnly_liftM (x : Outcome α) : ReadOnly (liftM x : Transact σ α) := by
  intro s
  constructor
  · intro _ _ h
    exact (liftM_eq_ok.mp h).2.symm
  · intro _ _ h
    cases x <;> cases h
    rfl

theorem readOnly_reject (e : Error) : ReadOnly (reject e : Transact σ α) := by
  intro s
  constructor
  · intro _ _ h
    cases h
  · intro _ _ h
    cases h
    rfl

theorem readOnly_require (p : Prop) [Decidable p] (e : Error) :
    ReadOnly (require p e : Transact σ Unit) := by
  unfold require
  split
  · exact readOnly_pure ()
  · exact readOnly_reject e

/-- Steps that only read can be put one after the other. -/
theorem ReadOnly.bind {m : Transact σ α} {f : α → Transact σ β} (hm : ReadOnly m)
    (hf : ∀ a, ReadOnly (f a)) : ReadOnly (m >>= f) := by
  intro s
  constructor
  · intro b s' h
    obtain ⟨a, t, ha, hb⟩ := bind_eq_ok.mp h
    rw [(hf a t).1 b s' hb, (hm s).1 a t ha]
  · intro e s' h
    rcases bind_eq_error.mp h with h | ⟨a, t, ha, hb⟩
    · exact (hm s).2 e s' h
    · rw [(hf a t).2 e s' hb, (hm s).1 a t ha]

/-- With a check in front, a sequence ends at once and changes nothing, or as the rest does. -/
theorem ReadOnly.bind_cases {m : Transact σ α} {f : α → Transact σ β} {s : σ}
    {P : EStateM.Result Failure σ β → Prop} (h : ReadOnly m) (stop : ∀ e, P (.error e s))
    (rest : ∀ a, m s = .ok a s → P (f a s)) : P ((m >>= f) s) := by
  cases ended : m s with
  | ok a t =>
    obtain rfl := (h s).1 a t ended
    rw [bind_of_ok ended]
    exact rest a ended
  | error e t =>
    obtain rfl := (h s).2 e t ended
    rw [bind_of_error ended]
    exact stop e

section Relation

variable {R R' : σ → σ → Prop}

/-- Wherever a computation ends, its state stands in this relation to the one it started from. -/
def Keeps (R : σ → σ → Prop) (m : Transact σ α) : Prop :=
  ∀ s, (∀ a s', m s = .ok a s' → R s s') ∧ ∀ e s', m s = .error e s' → R s s'

/-- A write keeps the relations that it stands in from every state. -/
theorem keeps_modify {f : σ → σ} (h : ∀ s, R s (f s)) :
    Keeps R (modify f : Transact σ PUnit) := by
  intro s
  constructor
  · intro _ s' ok
    exact modify_eq_ok.mp ok ▸ h s
  · intro _ _ failed
    cases failed

/-- What keeps a relation keeps every wider one. -/
theorem Keeps.mono (h : ∀ {s t}, R s t → R' s t) {m : Transact σ α} (hm : Keeps R m) :
    Keeps R' m :=
  fun s => ⟨fun a s' ok => h ((hm s).1 a s' ok), fun e s' failed => h ((hm s).2 e s' failed)⟩

/-- An attempt ends where its computation does. -/
theorem Keeps.attempt {m : Transact σ α} (h : Keeps R m) : Keeps R (attempt m) := by
  intro s
  unfold Transact.attempt
  cases ended : m s with
  | ok a t =>
    constructor
    · rintro _ _ ⟨⟩
      exact (h s).1 a t ended
    · rintro _ _ ⟨⟩
  | error f t =>
    have kept := (h s).2 f t ended
    cases f <;> constructor <;> rintro _ _ ⟨⟩ <;> exact kept

/-! A relation is kept along all of a sequence if it is reflexive and transitive. -/

variable [IsPreorder σ R]

/-- What only reads ends where it started. -/
theorem ReadOnly.keeps {m : Transact σ α} (h : ReadOnly m) : Keeps R m := by
  intro s
  constructor
  · intro a s' ok
    rw [(h s).1 a s' ok]
    exact refl s
  · intro e s' failed
    rw [(h s).2 e s' failed]
    exact refl s

theorem keeps_pure (a : α) : Keeps R (pure a : Transact σ α) := (readOnly_pure a).keeps

theorem keeps_get : Keeps R (get : Transact σ σ) := readOnly_get.keeps

theorem keeps_liftM (x : Outcome α) : Keeps R (liftM x : Transact σ α) := (readOnly_liftM x).keeps

theorem keeps_reject (e : Error) : Keeps R (reject e : Transact σ α) := (readOnly_reject e).keeps

theorem keeps_require (p : Prop) [Decidable p] (e : Error) :
    Keeps R (require p e : Transact σ Unit) :=
  (readOnly_require p e).keeps

/-- A step that may be refused keeps the relation if its successes do. -/
theorem keeps_update {f : σ → Outcome σ} (h : ∀ s s', f s = .ok s' → R s s') :
    Keeps R (update f) := by
  intro s
  unfold update
  cases result : f s with
  | ok t =>
    constructor
    · rintro _ _ ⟨⟩
      exact h s t result
    · rintro _ _ ⟨⟩
  | error e =>
    constructor
    · rintro _ _ ⟨⟩
    · rintro _ _ ⟨⟩
      exact refl s

/-- Steps that keep a relation can be put one after the other. -/
theorem Keeps.bind {m : Transact σ α} {f : α → Transact σ β} (hm : Keeps R m)
    (hf : ∀ a, Keeps R (f a)) : Keeps R (m >>= f) := by
  intro s
  constructor
  · intro b s' h
    obtain ⟨a, t, ha, hb⟩ := bind_eq_ok.mp h
    exact IsTrans.trans _ _ _ ((hm s).1 a t ha) ((hf a t).1 b s' hb)
  · intro e s' h
    rcases bind_eq_error.mp h with h | ⟨a, t, ha, hb⟩
    · exact (hm s).2 e s' h
    · exact IsTrans.trans _ _ _ ((hm s).1 a t ha) ((hf a t).2 e s' hb)

/-- A fold keeps what each of its entries keeps. -/
theorem Keeps.foldlM {f : β → α → Transact σ β} (h : ∀ b a, Keeps R (f b a)) (l : List α)
    (b : β) : Keeps R (l.foldlM f b) := by
  induction l generalizing b with
  | nil => exact keeps_pure b
  | cons a l ih =>
    rw [List.foldlM_cons]
    exact (h b a).bind ih

/-- What is left behind by a computation that was tried is where it ended, or where it started. -/
theorem Keeps.after {m : Transact σ α} (h : Keeps R m) (s : σ) : R s (m.after s) := by
  unfold Transact.after
  cases ended : m s with
  | ok a t => exact (h s).1 a t ended
  | error f t =>
    cases f with
    | rejected e => exact (h s).2 _ t ended
    | fault => exact refl s
    | absent => exact refl s

end Relation

theorem unfailing_pure (a : α) : Unfailing (pure a : Transact σ α) := fun _ _ _ h => nomatch h

theorem unfailing_get : Unfailing (get : Transact σ σ) := fun _ _ _ h => nomatch h

theorem unfailing_modify (f : σ → σ) : Unfailing (modify f : Transact σ PUnit) :=
  fun _ _ _ h => nomatch h

/-- What never fails can be followed by what never fails. -/
theorem Unfailing.bind {m : Transact σ α} {f : α → Transact σ β} (hm : Unfailing m)
    (hf : ∀ a, Unfailing (f a)) : Unfailing (m >>= f) := by
  intro s e s' h
  rcases bind_eq_error.mp h with h | ⟨a, t, _, hb⟩
  · exact hm s e s' h
  · exact hf a t e s' hb

/-- Checks in front leave no trace. -/
theorem ReadOnly.bind_traceless {m : Transact σ α} {f : α → Transact σ β} (hm : ReadOnly m)
    (hf : ∀ a, Traceless (f a)) : Traceless (m >>= f) := by
  intro s e s' h
  rcases bind_eq_error.mp h with h | ⟨a, t, ha, hb⟩
  · exact (hm s).2 e s' h
  · rw [hf a t e s' hb, (hm s).1 a t ha]

/-- Writes at the end leave no trace of a failure, if nothing fails after them. -/
theorem Traceless.bind_unfailing {m : Transact σ α} {f : α → Transact σ β} (hm : Traceless m)
    (hf : ∀ a, Unfailing (f a)) : Traceless (m >>= f) := by
  intro s e s' h
  rcases bind_eq_error.mp h with h | ⟨a, t, _, hb⟩
  · exact hm s e s' h
  · exact absurd hb (hf a t e s')

/-- Checks in front tell something about the state, and leave no trace. -/
theorem ReadOnly.bind_tracelessAt {s : σ} {m : Transact σ α} {f : α → Transact σ β}
    (hm : ReadOnly m) (hf : ∀ a, m s = .ok a s → TracelessAt s (f a)) :
    TracelessAt s (m >>= f) := by
  intro e s' h
  rcases bind_eq_error.mp h with h | ⟨a, t, ha, hb⟩
  · exact (hm s).2 e s' h
  · have same := (hm s).1 a t ha
    subst same
    exact hf a ha e s' hb

/-- The same from one state. -/
theorem TracelessAt.bind_unfailing {s : σ} {m : Transact σ α} {f : α → Transact σ β}
    (hm : TracelessAt s m) (hf : ∀ a, Unfailing (f a)) : TracelessAt s (m >>= f) := by
  intro e s' h
  rcases bind_eq_error.mp h with h | ⟨a, t, _, hb⟩
  · exact hm e s' h
  · exact absurd hb (hf a t e s')

/-- What leaves no trace on a part leaves none on the whole. -/
theorem traceless_zoom {part : σ → τ} {put : τ → σ → σ} {m : Transact τ α}
    (hput : ∀ s, put (part s) s = s) (hm : Traceless m) : Traceless (zoom part put m) := by
  intro s e s' h
  obtain ⟨t, failed, rfl⟩ := zoom_eq_error.mp h
  rw [hm _ _ _ failed, hput]

/-! ## What is not seen -/

/-- A computation that does not see what `f` changes: where it succeeds, it also does from the
changed state, with the same value, and the change is still there. -/
def Blind (f : σ → σ) (m : Transact σ α) : Prop :=
  ∀ s a s', m s = .ok a s' → m (f s) = .ok a (f s')

theorem blind_pure {f : σ → σ} (a : α) : Blind f (pure a : Transact σ α) := by
  intro s b s' h
  obtain ⟨rfl, rfl⟩ := pure_eq_ok.mp h
  rfl

/-- A write that commutes with the change does not see it. -/
theorem blind_modify {f g : σ → σ} (comm : ∀ s, g (f s) = f (g s)) :
    Blind f (modify g : Transact σ PUnit) := by
  intro s _ s' h
  rw [← modify_eq_ok.mp h]
  exact modify_eq_ok.mpr (comm s)

/-- A check on something else does not see the change. -/
theorem blind_require {f : σ → σ} (p : Prop) [Decidable p] (e : Error) :
    Blind f (require p e : Transact σ Unit) := by
  intro s _ s' h
  obtain ⟨holds, rfl⟩ := require_eq_ok.mp h
  exact require_eq_ok.mpr ⟨holds, rfl⟩

/-- Steps that do not see a change can be put one after the other. -/
theorem Blind.bind {f : σ → σ} {m : Transact σ α} {g : α → Transact σ β} (hm : Blind f m)
    (hg : ∀ a, Blind f (g a)) : Blind f (m >>= g) := by
  intro s b s' h
  obtain ⟨a, t, ha, hb⟩ := bind_eq_ok.mp h
  rw [bind_of_ok (hm s a t ha)]
  exact hg a t b s' hb

/-- Reading the state, if what is read off it is not changed. -/
theorem blind_get_bind {f : σ → σ} {g : σ → Transact σ α} (same : ∀ s, g (f s) = g s)
    (hg : ∀ s, Blind f (g s)) : Blind f (get >>= g) := by
  intro s a s' h
  show g (f s) (f s) = _
  rw [same]
  exact hg s s a s' h

/-! ## What is left behind -/

/-- A success leaves behind where it ended. -/
theorem after_of_ok {m : Transact σ α} {s s' : σ} {a : α} (h : m s = .ok a s') :
    m.after s = s' := by
  unfold after
  rw [h]

/-- What is read first leaves nothing behind. -/
theorem after_bind_of_read {m : Transact σ α} {f : α → Transact σ β} {s : σ} {a : α}
    (h : m s = .ok a s) : (m >>= f).after s = (f a).after s := by
  unfold after
  rw [bind_of_ok h]

/-- What is answered has no part in what is left behind. -/
theorem after_discard (m : Transact σ α) (b : β) (s : σ) :
    (m >>= fun _ => pure b).after s = m.after s := by
  cases ended : m s with
  | ok a t =>
    rw [after_of_ok ended]
    exact after_of_ok (bind_of_ok ended)
  | error f t =>
    unfold after
    rw [bind_of_error ended, ended]
    cases f <;> rfl

/-- Trying a computation on a part of the state changes that part alone. -/
theorem after_zoom {part : σ → τ} {put : τ → σ → σ} (m : Transact τ α) (s : σ)
    (hput : put (part s) s = s) : (zoom part put m).after s = put (m.after (part s)) s := by
  unfold after zoom
  cases m (part s) with
  | ok a t => rfl
  | error f t =>
    cases f with
    | rejected e => rfl
    | fault => exact hput.symm
    | absent => exact hput.symm

/-- Where a computation that was tried can have ended: at a success, at a refusal, or where it
started. -/
theorem after_eq (m : Transact σ α) (s : σ) :
    (∃ a, m s = .ok a (m.after s)) ∨ (∃ e, m s = .error (.rejected e) (m.after s)) ∨
      m.after s = s := by
  unfold after
  cases m s with
  | ok a t => exact .inl ⟨a, rfl⟩
  | error f t =>
    cases f with
    | rejected e => exact .inr (.inl ⟨e, rfl⟩)
    | fault => exact .inr (.inr rfl)
    | absent => exact .inr (.inr rfl)

/-- A computation without a trace ends at a success or where it started. -/
theorem Traceless.after_eq {m : Transact σ α} (h : Traceless m) (s : σ) :
    (∃ a, m s = .ok a (m.after s)) ∨ m.after s = s := by
  rcases Transact.after_eq m s with ok | ⟨e, refused⟩ | same
  · exact .inl ok
  · exact .inr (h s _ _ refused)
  · exact .inr same

end Transact

end CollateralDebt
