import CollateralDebt.Error

/-!
# Outcomes and transactions

A computation can end in three ways besides giving a value. It can be *rejected*, with a cause that
is part of the answer; it can *fault*, when an operation that nobody checks leaves its range and the
program stops; and it can be *absent*, when it addresses a party that was never set up. Rejections
are ordinary results, faults are what the theory shows not to happen.

A computation over a state is a `Transact`. It keeps the state reached when it fails, because a
refused ledger call does keep what it did before it was refused; whoever wants all or nothing says
so with `atomically`.

## What is stated here

- `Failure`, `Outcome`, `Transact`: the three ways to fail and the two kinds of computation;
- `Transact.zoom`: run a computation on a part of the state;
- `Transact.after`: the state after a computation was tried;
- `Transact.attempt`: turn a rejection, and nothing else, into a value.
-/

namespace CollateralDebt

/-- How a computation can fail to give a value. -/
inductive Failure where
  /-- The call is refused for the given cause. -/
  | rejected (error : Error)
  /-- An unchecked operation left its range. -/
  | fault
  /-- The call addresses an engine, a treasury or a price feed that does not exist. -/
  | absent
deriving DecidableEq

/-- A computation without state. -/
abbrev Outcome (α : Type) := Except Failure α

/-- A computation over a state `σ`; a failure keeps the state reached. -/
abbrev Transact (σ α : Type) := EStateM Failure σ α

/-- Refuse, in a computation without state. -/
def reject {α : Type} (error : Error) : Outcome α := .error (.rejected error)

namespace Outcome

/-- Refuse for the given cause unless the condition holds. -/
def require (condition : Prop) [Decidable condition] (error : Error) : Outcome Unit :=
  if condition then .ok () else reject error

/-- The value, or the cause of its absence. -/
def ofOption {α : Type} (error : Error) : Option α → Outcome α
  | some a => .ok a
  | none => reject error

end Outcome

namespace Transact

variable {σ τ α β : Type}

/-- A computation without state, run beside one. -/
instance : MonadLift (Except Failure) (EStateM Failure σ) where
  monadLift
    | .ok a => fun s => .ok a s
    | .error f => fun s => .error f s

/-- Refuse for the given cause. -/
def reject (error : Error) : Transact σ α := fun s => .error (.rejected error) s

/-- Refuse for the given cause unless the condition holds. -/
def require (condition : Prop) [Decidable condition] (error : Error) : Transact σ Unit :=
  if condition then pure () else reject error

/-- Run a computation on a part of the state, whether it succeeds or fails. -/
def zoom (part : σ → τ) (put : τ → σ → σ) (m : Transact τ α) : Transact σ α := fun s =>
  match m (part s) with
  | .ok a t => .ok a (put t s)
  | .error f t => .error f (put t s)

/-- Replace the state by the outcome of a pure computation on it; a failure leaves it alone. -/
def update (f : σ → Outcome σ) : Transact σ Unit := fun s =>
  match f s with
  | .ok s' => .ok () s'
  | .error e => .error e s

/-- Run a computation and, if it fails, put back what `restore` takes from the state before it. -/
def atomically (restore : σ → σ → σ) (m : Transact σ α) : Transact σ α := fun s =>
  match m s with
  | .ok a s' => .ok a s'
  | .error f s' => .error f (restore s s')

/-- The state after a computation was tried. One that is refused leaves what it did before it was
refused; one that stops the program leaves nothing. -/
def after (m : Transact σ α) (s : σ) : σ :=
  match m s with
  | .ok _ s' => s'
  | .error (.rejected _) s' => s'
  | .error _ _ => s

/-- Run a computation and give a rejection back as a value. Any other failure is passed on. -/
def attempt (m : Transact σ α) : Transact σ (Except Error α) := fun s =>
  match m s with
  | .ok a s' => .ok (.ok a) s'
  | .error (.rejected e) s' => .ok (.error e) s'
  | .error f s' => .error f s'

end Transact

end CollateralDebt
