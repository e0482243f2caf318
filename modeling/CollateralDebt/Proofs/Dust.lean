import CollateralDebt.Proofs.World.Trace

/-!
# No dust

A vault owes nothing, or more than dust. Batches see to it for every vault that they take debt from
or give debt to, in the called engine and in the others, and what is not dust does not become dust
later: the accumulator only grows, and with it what a vault owes. Only a liquidation leaves dust
behind, and only a higher threshold makes dust of what was none.

## What is proved

- `Swept`: each vault owes what it owed, or is above dust; every tidy step and so every tidy trace
  is of this kind;
- `dust_rule`: what a batch changes is above dust, and everything is in a run of careful calls.
-/

namespace CollateralDebt

/-- None of the parameters that are set by code is the bound for dust. -/
theorem Parameters.dust_set (p : Parameters) (value : UInt64) (parameter : Parameter) :
    (p.set value parameter).dust = p.dust := by
  cases parameter <;> rfl

namespace Engine

/-- A vault owes nothing, or at least the dust of the engine. The products are exact, as rounding
could hide dust. -/
def AboveDust (e : Engine) (v : Vault) : Prop :=
  v.normalizedDebt = .zero ∨
    e.state.params.dust.toNat * accumulatorOne ≤ v.normalizedDebt.toNat * e.state.accumulator.toNat

instance (e : Engine) (v : Vault) : Decidable (e.AboveDust v) := inferInstanceAs (Decidable (_ ∨ _))

variable {now : Timestamp} {e e' e₁ e₂ e₃ : Engine} {v v' : Vault}

/-- What passes the check for dust is above it. -/
theorem aboveDust_of_not_isDusty
    (clean : ¬ isDusty v.normalizedDebt e.state.accumulator e.state.params.dust) :
    e.AboveDust v := by
  simp only [isDusty, Bool.and_eq_true, decide_eq_true_eq, not_and, not_lt] at clean
  rcases Nat.eq_zero_or_pos v.normalizedDebt.toNat with none' | owes
  · exact .inl (Amount.ext none')
  · exact .inr (clean owes)

/-- The accumulator is no lower, and the threshold of dust no higher. -/
structure Eased (e e' : Engine) : Prop where
  accumulator : e.state.accumulator ≤ e'.state.accumulator
  dust : e'.state.params.dust ≤ e.state.params.dust

theorem Eased.refl (e : Engine) : Eased e e := ⟨Nat.le_refl _, Nat.le_refl _⟩

/-- What is eased twice is eased. -/
theorem Eased.trans (h₁ : Eased e₁ e₂) (h₂ : Eased e₂ e₃) : Eased e₁ e₃ :=
  ⟨Nat.le_trans h₁.accumulator h₂.accumulator, Nat.le_trans h₂.dust h₁.dust⟩

/-- What is above dust stays so, as long as it is not repaid. -/
theorem AboveDust.eased (h : e.AboveDust v) (eased : Eased e e')
    (debt : v'.normalizedDebt = v.normalizedDebt) : e'.AboveDust v' := by
  unfold AboveDust at h ⊢
  rw [debt]
  rcases h with none' | enough
  · exact .inl none'
  · refine .inr ?_
    calc e'.state.params.dust.toNat * accumulatorOne
        ≤ e.state.params.dust.toNat * accumulatorOne := Nat.mul_le_mul_right _ eased.dust
      _ ≤ v.normalizedDebt.toNat * e.state.accumulator.toNat := enough
      _ ≤ v.normalizedDebt.toNat * e'.state.accumulator.toNat :=
        Nat.mul_le_mul_left _ eased.accumulator

/-- Each vault owes what it owed before, or is above dust. -/
structure Swept (e e' : Engine) : Prop extends Eased e e' where
  vaults : ∀ id v', e'.vault? id = some v' →
    (∃ v, e.vault? id = some v ∧ v'.normalizedDebt = v.normalizedDebt) ∨ e'.AboveDust v'

namespace Swept

/-- Where the vaults are the same, all of them owe what they owed. -/
theorem of_vaults (eased : Eased e e')
    (vaults : e'.state.registry.vaults = e.state.registry.vaults) : Swept e e' where
  toEased := eased
  vaults id v' there := by
    refine .inl ⟨v', ?_, rfl⟩
    unfold Engine.vault? Registry.vault? at there ⊢
    rw [← vaults]
    exact there

theorem refl (e : Engine) : Swept e e := .of_vaults (.refl e) rfl

/-- What two steps sweep, both together do. -/
theorem trans (h₁ : Swept e₁ e₂) (h₂ : Swept e₂ e₃) : Swept e₁ e₃ where
  toEased := h₁.toEased.trans h₂.toEased
  vaults id v' there := by
    rcases h₂.vaults id v' there with ⟨v, between, same⟩ | above
    · rcases h₁.vaults id v between with ⟨u, before, same'⟩ | above
      · exact .inl ⟨u, before, same.trans same'⟩
      · exact .inr (above.eased h₂.toEased same)
    · exact .inr above

end Swept

/-- A tidy step lowers no accumulator and raises no bound for dust. -/
theorem Step.eased (step : Step True now e e') : Eased e e' := by
  refine ⟨step.grown, ?_⟩
  cases step with
  | accrued booked =>
    rw [booked.state]
    exact Nat.le_refl _
  | parameter =>
    show (Parameters.set _ _ _).dust ≤ _
    rw [Parameters.dust_set]
    exact Nat.le_refl _
  | dusts lower => exact lower trivial
  | _ => exact Nat.le_refl _

/-- A tidy step changes the debt of a vault only to what is above dust. -/
theorem Step.swept (step : Step True now e e') : Swept e e' := by
  have eased := step.eased
  cases step with
  | @created owner id registry _ minted =>
    obtain ⟨-, -, vaults⟩ := Registry.mint_eq_ok minted
    refine ⟨eased, fun i v' there => ?_⟩
    replace there : registry.vaults.get? i = some v' := there
    rw [vaults, Table.get?_insert_ite] at there
    split at there
    · cases there
      exact .inr (.inl rfl)
    · exact .inl ⟨v', there, rfl⟩
  | @removed owner id registry burnt =>
    obtain ⟨-, vaults⟩ := Registry.burn_eq_ok burnt
    refine ⟨eased, fun i v' there => ?_⟩
    replace there : registry.vaults.get? i = some v' := there
    rw [vaults, Table.get?_erase_ite] at there
    split at there
    · cases there
    · exact .inl ⟨v', there, rfl⟩
  | transferred => exact .of_vaults eased (Registry.vaults_move _ _ _ _)
  | collateral _ found =>
    refine ⟨eased, fun i v' there => ?_⟩
    rcases Registry.setVault_cases there with ⟨rfl, rfl⟩ | before
    · exact .inl ⟨_, found, rfl⟩
    · exact .inl ⟨v', before, rfl⟩
  | debt _ found _ _ clean =>
    refine ⟨eased, fun i v' there => ?_⟩
    rcases Registry.setVault_cases there with ⟨rfl, rfl⟩ | before
    · exact .inr (aboveDust_of_not_isDusty (clean trivial))
    · exact .inl ⟨v', before, rfl⟩
  | accrued booked => exact .of_vaults eased (congrArg Registry.vaults booked.registry)
  | _ => exact .of_vaults eased rfl

/-- So a tidy trace leaves each vault at what it owed, or above dust. -/
theorem Trace.swept (trace : Trace True now e e') : Swept e e' := by
  induction trace with
  | refl => exact .refl e
  | tail _ step ih => exact ih.trans step.swept

end Engine

namespace World

variable {w : World}

/-- Every vault of every engine is above dust. -/
def AboveDust (w : World) : Prop :=
  ∀ place e, engine? w.seats place = some e → ∀ id v, e.vault? id = some v → e.AboveDust v

/-- A careful call leaves no dust in a world without dust. -/
theorem AboveDust.next (h : w.AboveDust) (hw : w.Reachable) {call : Call}
    (careful : w.Careful call) : (w.next call).AboveDust := by
  intro place e there id v found
  cases standing : engine? w.seats place with
  | none =>
    obtain ⟨config, _, _, now, treasury, _, _, _, _, created⟩ := founded_next standing there
    unfold Engine.vault? at found
    rw [(new_of_create created).registry] at found
    cases found
  | some o =>
    have led : ∃ n, engine? (w.next call).seats place = some n ∧ LedBy True call place o n :=
      traced_next hw.exact (fun _ => careful) standing
    obtain ⟨n, stands, led⟩ := led
    cases stands.symm.trans there
    rcases led with rfl | ⟨_, _, trace⟩
    · exact h place e standing id v found
    · rcases trace.swept.vaults id v found with ⟨u, before, same⟩ | above
      · exact (h place o standing id u before).eased trace.swept.toEased same
      · exact above

/-- A run of careful calls leaves no dust in a world without dust. -/
theorem AboveDust.run {calls : List Call} (h : w.AboveDust) (hw : w.Reachable)
    (careful : Throughout Careful w calls) : (w.run calls).AboveDust := by
  induction calls generalizing w with
  | nil => exact h
  | cons call rest ih =>
    obtain ⟨first, later⟩ := careful
    exact ih (h.next hw first) (hw.next call) later

/-- **No dust.** Whatever an accepted batch from a reachable world makes of the normalized debt of a
vault, of the called engine or of any other, a vault whose debt it has changed and that still exists
owes nothing or at least the dust of its engine. So in a history without accepted liquidations in
which no accepted call raises the dust of an engine, and with any amount of time between the calls,
every vault of every engine owes nothing or at least its engine's dust. -/
theorem dust_rule :
    (∀ (w w' : World) (called : Nat) (caller : Address) (now : Timestamp) (remotes : List Nat)
      (call : EngineCall) (p : Parties) (actions : List Action) (reply : EngineReply),
      w.Reachable → call.asBatch = some (p, actions) →
      callEngine called caller now remotes call w = .ok reply w' →
      ∀ place before, engine? w.seats place = some before →
        ∃ after, engine? w'.seats place = some after ∧ ∀ id v, after.vault? id = some v →
          (before.vault? id).map (·.normalizedDebt) ≠ some v.normalizedDebt → after.AboveDust v) ∧
    ∀ calls, Throughout Careful .empty calls →
      ∀ seat ∈ (history calls).seats, ∀ id v, seat.engine.vault? id = some v →
        seat.engine.AboveDust v := by
  constructor
  · intro w w' called caller now remotes call p actions reply hw batch accepted place before
      standing
    have careful : True → w.Careful (.engine called caller now remotes call) := by
      intro _ _ e _
      cases call with
      | batch => trivial
      | encodedBatch => trivial
      | _ => cases batch
    obtain ⟨after, stands, led⟩ := traced_callEngine hw.exact careful accepted standing
    refine ⟨after, stands, fun id v found changed => ?_⟩
    rcases led with rfl | ⟨_, _, trace⟩
    · exact absurd (congrArg _ found) changed
    · rcases trace.swept.vaults id v found with ⟨u, had, same⟩ | above
      · refine absurd ?_ changed
        rw [had, same]
        rfl
      · exact above
  · intro calls careful seat mem id v found
    have nothing : World.empty.AboveDust := nofun
    obtain ⟨place, here⟩ := List.getElem?_of_mem mem
    refine nothing.run ⟨[], rfl⟩ careful place seat.engine ?_ id v found
    show ((history calls).seats[place]?).map _ = _
    rw [here]
    rfl

/-- The borrower of the small market pays back half of the debt. -/
def halving : EngineCall := .batch borrower [.repayDebt 1 (tenths 50)]

/-- The small market, at some interest from then on and with less dust; a thousand seconds later its
borrower pays back half of the debt. -/
def thrifty : List Call := smallMarket ++ [
  .engine 0 (account 3) 0 [] (.setParameter "IR" 158_153_934_393_112_649),
  .engine 0 (account 3) 0 [] (.setDusts (tenths 5) (tenths 10) (tenths 1)),
  .engine 0 (account 5) 1000 [] halving]

set_option maxRecDepth 10000 in
/-- The rest of the debt is above dust, as is everything in this history. -/
theorem dust_rule_thrifty :
    (∃ reply w' after v,
      callEngine 0 (account 5) 1000 [] halving (history (thrifty.take 11)) = .ok reply w' ∧
      engine? w'.seats 0 = some after ∧ after.vault? 1 = some v ∧ v.normalizedDebt ≠ .zero ∧
      after.AboveDust v) ∧
    Throughout Careful .empty thrifty ∧
    ∀ seat ∈ (history thrifty).seats, ∀ id v, seat.engine.vault? id = some v →
      seat.engine.AboveDust v := by
  obtain ⟨batches, careful⟩ := dust_rule
  have throughout : Throughout Careful .empty thrifty := by decide +kernel
  refine ⟨?_, throughout, careful thrifty throughout⟩
  have accepted : (history (thrifty.take 11)).accepts 0 (account 5) 1000 [] halving = true := by
    decide +kernel
  obtain ⟨reply, w', answer⟩ := accepts_eq_true.mp accepted
  have facts : ((engine? (history (thrifty.take 11)).seats 0).any fun before =>
      (engine? ((history (thrifty.take 11)).next
          (.engine 0 (account 5) 1000 [] halving)).seats 0).any fun after =>
        (after.vault? 1).any fun v => decide (v.normalizedDebt ≠ .zero ∧
          (before.vault? 1).map (·.normalizedDebt) ≠ some v.normalizedDebt)) = true := by
    decide +kernel
  rw [next_engine answer] at facts
  simp only [Option.any_eq_true, decide_eq_true_eq] at facts
  obtain ⟨before, standing, after, stands, v, found, owes, changed⟩ := facts
  obtain ⟨after', same, above⟩ := batches _ w' 0 (account 5) 1000 [] halving borrower _ reply
    ⟨_, rfl⟩ rfl answer 0 before standing
  cases same.symm.trans stands
  exact ⟨reply, w', after, v, answer, stands, found, owes, above 1 v found changed⟩

end World

end CollateralDebt
