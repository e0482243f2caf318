import Mathlib.Algebra.Group.Basic
import Mathlib.Data.List.Forall2
import CollateralDebt.World
import CollateralDebt.Proofs.Transact

/-!
# Engines at their seats

A call takes an engine and some others from their seats, works on them in an arena, and puts them
back. The places are pairwise distinct, so nothing is put back twice, and a sum over all engines
changes by what the sum over the arena changes.

## What is proved

- `nodup_places`: the places of a call are distinct;
- `Stage`: an arena that was set up from the seats at these places;
- `engine?_putEngines`, `rel_putEngines`, `forall_putEngines`, `map_putEngines`, `sum_putEngines`:
  the seats after the engines were put back.
-/

namespace CollateralDebt

/-- The engines of an arena, the called one first. -/
def Arena.engines (s : Arena) : List Engine := s.engine :: s.remotes.map (·.engine)

/-- What holds of all engines of an arena holds of the called one and of the others. -/
theorem Arena.forall_engines {P : Engine → Prop} {s : Arena} :
    (∀ e ∈ s.engines, P e) ↔ P s.engine ∧ ∀ r ∈ s.remotes, P r.engine := by
  unfold Arena.engines
  rw [List.forall_mem_cons, List.forall_mem_map]

namespace World

/-! ## Places -/

theorem nodup_eraseDups {α : Type} [BEq α] [LawfulBEq α] (l : List α) : l.eraseDups.Nodup := by
  match l with
  | [] => exact List.nodup_nil
  | a :: l =>
    rw [List.eraseDups_cons, List.nodup_cons]
    constructor
    · intro mem
      have := List.mem_eraseDups.mp mem
      simp at this
    · exact nodup_eraseDups _
termination_by l.length
decreasing_by exact Nat.lt_succ_of_le (List.length_filter_le _ _)

/-- The places of the engines that a call can touch, the called one first. -/
def places (place : Nat) (remotes : List Nat) : List Nat := place :: otherPlaces place remotes

/-- No place is taken twice, also if a call names it twice. -/
theorem nodup_places (place : Nat) (remotes : List Nat) : (places place remotes).Nodup := by
  unfold places otherPlaces
  rw [List.nodup_cons]
  constructor
  · intro mem
    have := List.mem_eraseDups.mp mem
    simp at this
  · exact nodup_eraseDups _

/-! ## Taking engines from their seats -/

/-- The engine of the seat at a place, if there is one. -/
def engine? (seats : List Seat) (i : Nat) : Option Engine := seats[i]?.map (·.engine)

/-- The engine at a place is the engine of the seat there. -/
theorem engine?_eq_getElem? (seats : List Seat) (i : Nat) :
    engine? seats i = (seats.map (·.engine))[i]? := by
  unfold engine?
  rw [List.getElem?_map]

/-- The engine of a seat is the one at its place. -/
theorem engine?_of_seat {seats : List Seat} {i : Nat} {seat : Seat}
    (found : seats[i]? = some seat) : engine? seats i = some seat.engine := by
  unfold engine?
  rw [found]
  rfl

/-- An engine stays at its place when others are seated behind. -/
theorem engine?_append {seats : List Seat} {i : Nat} {e : Engine}
    (standing : engine? seats i = some e) (more : List Seat) :
    engine? (seats ++ more) i = some e := by
  rw [engine?_eq_getElem?] at standing ⊢
  rw [List.map_append, List.getElem?_append_left (List.getElem?_eq_some_iff.mp standing).1]
  exact standing

/-- A change of a seat that keeps its engine changes no engine. -/
theorem engine?_modify {connection : Seat → Seat}
    (keeps : ∀ seat, (connection seat).engine = seat.engine) (seats : List Seat) (i k : Nat) :
    engine? (seats.modify i connection) k = engine? seats k := by
  unfold engine?
  rw [List.getElem?_modify]
  split
  · cases seats[k]? with
    | none => rfl
    | some seat => exact congrArg some (keeps seat)
  · cases seats[k]? <;> rfl

/-- Changing the connections of a seat changes no engine. -/
theorem map_engine_modify {connection : Seat → Seat}
    (keeps : ∀ seat, (connection seat).engine = seat.engine) (seats : List Seat) (i : Nat) :
    (seats.modify i connection).map (·.engine) = seats.map (·.engine) := by
  apply List.ext_getElem?
  intro k
  rw [← engine?_eq_getElem?, ← engine?_eq_getElem?]
  exact engine?_modify keeps seats i k

/-- An arena whose engines were taken from the seats at the places of a call. -/
structure Stage (w : World) (place : Nat) (remotes : List Nat) (s : Arena) : Prop where
  ledger : s.ledger = w.ledger
  requests : s.requests = w.requests
  engines : List.Forall₂ (fun i e => engine? w.seats i = some e) (places place remotes) s.engines

theorem atPlace_eq_ok {α : Type} {l : List α} {i : Nat} {a : α} :
    atPlace l i = .ok a ↔ l[i]? = some a := by
  unfold atPlace
  cases l[i]? <;> simp

/-- Looking up a list of places succeeds if each of them does. -/
theorem mapM_eq_ok {α β : Type} {f : α → Outcome β} {l : List α} {l' : List β}
    (h : l.mapM f = .ok l') : List.Forall₂ (fun a b => f a = .ok b) l l' := by
  induction l generalizing l' with
  | nil =>
    cases h
    exact .nil
  | cons a l ih =>
    rw [List.mapM_cons] at h
    obtain ⟨b, hb, h⟩ := Outcome.bind_eq_ok.mp h
    obtain ⟨rest, hrest, h⟩ := Outcome.bind_eq_ok.mp h
    cases Outcome.pure_eq_ok.mp h
    exact .cons hb (ih hrest)

theorem remote_eq_ok {w : World} {i : Nat} {r : Remote} (h : w.remote i = .ok r) :
    engine? w.seats i = some r.engine := by
  simp only [remote, Outcome.bind_eq_ok, atPlace_eq_ok, Outcome.pure_eq_ok] at h
  obtain ⟨seat, found, treasury, _, rfl⟩ := h
  exact engine?_of_seat found

/-- The arena of a call is set up from the seat of the engine and from the other engines. -/
theorem stage_of_remotes {w : World} {place : Nat} {remotes : List Nat} {seat : Seat}
    {others : List Remote} (found : w.seats[place]? = some seat)
    (reached : (otherPlaces place remotes).mapM w.remote = .ok others) :
    w.Stage place remotes ⟨seat.engine, w.ledger, others, w.requests⟩ := by
  refine ⟨rfl, rfl, .cons (engine?_of_seat found) ?_⟩
  rw [List.forall₂_map_right_iff]
  exact (mapM_eq_ok reached).imp fun _ _ => remote_eq_ok

/-- The engine that is called is the one of the seat at its place. -/
theorem Stage.engine {w : World} {place : Nat} {remotes : List Nat} {s : Arena}
    (h : w.Stage place remotes s) : engine? w.seats place = some s.engine := by
  cases h.engines with
  | cons first _ => exact first

/-- Every engine of the arena is the engine of some seat. -/
theorem Stage.exists_seat {w : World} {place : Nat} {remotes : List Nat} {s : Arena}
    (h : w.Stage place remotes s) {e : Engine} (he : e ∈ s.engines) :
    ∃ seat ∈ w.seats, seat.engine = e := by
  have standing := h.engines
  generalize places place remotes = l at standing
  generalize s.engines = es at he standing
  induction standing with
  | nil => cases he
  | cons first _ ih =>
    rcases List.mem_cons.mp he with rfl | he
    · obtain ⟨seat, found, rfl⟩ := Option.map_eq_some_iff.mp first
      exact ⟨seat, List.mem_of_getElem? found, rfl⟩
    · exact ih he

/-- The engines of the arena are in the order of the places. -/
theorem Stage.getElem? {w : World} {place k i : Nat} {remotes : List Nat} {s : Arena}
    (h : w.Stage place remotes s) (here : (places place remotes)[k]? = some i) :
    s.engines[k]? = engine? w.seats i := by
  have standing := h.engines
  generalize places place remotes = l at standing here
  generalize s.engines = es at standing
  induction standing generalizing k with
  | nil => cases here
  | cons first _ ih =>
    cases k with
    | zero =>
      cases here
      exact first.symm
    | succ k => exact ih here

/-- What holds of all engines at their seats holds of those in the arena. -/
theorem Stage.forall_engines {P : Engine → Prop} {w : World} {place : Nat} {remotes : List Nat}
    {s : Arena} (h : w.Stage place remotes s) (all : ∀ seat ∈ w.seats, P seat.engine) :
    ∀ e ∈ s.engines, P e := by
  intro e mem
  obtain ⟨seat, seated, rfl⟩ := h.exists_seat mem
  exact all seat seated

/-! ## Putting engines back -/

/-- Put engines back at their places. -/
def putEngines (seats : List Seat) (back : List (Nat × Engine)) : List Seat :=
  back.foldl (fun seats (i, e) => putEngine seats i e) seats

variable {seats : List Seat} {i k : Nat} {e o : Engine}

/-- An engine that was put back stands at its place. -/
theorem engine?_putEngine_self (h : engine? seats i = some o) (e : Engine) :
    engine? (putEngine seats i e) i = some e := by
  unfold engine? putEngine at *
  obtain ⟨seat, found, rfl⟩ := Option.map_eq_some_iff.mp h
  rw [List.getElem?_modify_eq, found]
  rfl

/-- At another place it changes nothing. -/
theorem engine?_putEngine_of_ne (e : Engine) (h : i ≠ k) :
    engine? (putEngine seats i e) k = engine? seats k := by
  unfold engine? putEngine
  rw [List.getElem?_modify_ne _ _ h]

/-- What is put at a place last is what stays there. -/
theorem putEngine_putEngine (seats : List Seat) (i : Nat) (e o : Engine) :
    putEngine (putEngine seats i e) i o = putEngine seats i o := by
  unfold putEngine
  rw [List.modify_modify_eq]
  rfl

/-- Engines at two places can be put back in either order. -/
theorem putEngine_comm (seats : List Seat) (h : i ≠ k) (e o : Engine) :
    putEngine (putEngine seats i e) k o = putEngine (putEngine seats k o) i e :=
  List.modify_modify_ne _ _ _ h

/-- An engine may as well be put back after those at other places. -/
theorem putEngines_putEngine {l : List Nat} {es : List Engine} (h : i ∉ l) :
    putEngines (putEngine seats i e) (l.zip es) = putEngine (putEngines seats (l.zip es)) i e := by
  induction l generalizing seats es with
  | nil => rfl
  | cons k l ih =>
    rw [List.mem_cons, not_or] at h
    cases es with
    | nil => rfl
    | cons o es =>
      show putEngines (putEngine (putEngine seats i e) k o) (l.zip es) =
        putEngine (putEngines (putEngine seats k o) (l.zip es)) i e
      rw [putEngine_comm seats h.1, ih h.2]

/-- Seats at other places are as they were. -/
theorem engine?_putEngines_of_notMem {l : List Nat} {es : List Engine} (h : k ∉ l) :
    engine? (putEngines seats (l.zip es)) k = engine? seats k := by
  induction l generalizing seats es with
  | nil => rfl
  | cons i l ih =>
    rw [List.mem_cons, not_or] at h
    cases es with
    | nil => rfl
    | cons e es =>
      show engine? (putEngines (putEngine seats i e) (l.zip es)) k = _
      rw [ih h.2, engine?_putEngine_of_ne e (Ne.symm h.1)]

/-- Engines that stand at places other than `i` still do after one was put back at `i`. -/
theorem standing_putEngine {l : List Nat} {os : List Engine} (h : i ∉ l) (e : Engine)
    (standing : List.Forall₂ (fun i o => engine? seats i = some o) l os) :
    List.Forall₂ (fun k o => engine? (putEngine seats i e) k = some o) l os := by
  induction standing with
  | nil => exact .nil
  | cons first _ ih =>
    rw [List.mem_cons, not_or] at h
    refine .cons ?_ (ih h.2)
    rw [engine?_putEngine_of_ne e h.1]
    exact first

/-- The engine that was put back for one of the places sits there. -/
theorem engine?_putEngines {l : List Nat} {os ns : List Engine} {n : Nat} (nodup : l.Nodup)
    (standing : List.Forall₂ (fun i o => engine? seats i = some o) l os)
    (length : ns.length = os.length) (here : l[n]? = some k) :
    engine? (putEngines seats (l.zip ns)) k = ns[n]? := by
  induction l generalizing seats os ns n with
  | nil => cases here
  | cons i l ih =>
    obtain ⟨outside, nodup⟩ := List.nodup_cons.mp nodup
    cases standing with
    | @cons _ o _ os first standing =>
      cases ns with
      | nil => cases length
      | cons e ns =>
        show engine? (putEngines (putEngine seats i e) (l.zip ns)) k = (e :: ns)[n]?
        cases n with
        | zero =>
          cases here
          rw [engine?_putEngines_of_notMem outside]
          exact engine?_putEngine_self first e
        | succ n =>
          exact ih nodup (standing_putEngine outside e standing) (Nat.succ.inj length) here

/-- If every engine that was put back stands in a relation to the one that was taken, so does every
engine to the one that was at its seat. -/
theorem rel_putEngines {R : Engine → Engine → Prop} (refl : ∀ e, R e e) {l : List Nat}
    {os ns : List Engine} (nodup : l.Nodup)
    (standing : List.Forall₂ (fun i o => engine? seats i = some o) l os)
    (rel : List.Forall₂ R os ns) (found : engine? seats k = some o) :
    ∃ n, engine? (putEngines seats (l.zip ns)) k = some n ∧ R o n := by
  -- on the places: the first engine is put back at a seat that none of the others touches
  induction l generalizing seats os ns with
  | nil =>
    cases standing
    cases rel
    exact ⟨o, found, refl o⟩
  | cons i l ih =>
    obtain ⟨outside, nodup⟩ := List.nodup_cons.mp nodup
    cases standing with
    | @cons _ p _ os first standing =>
      cases rel with
      | @cons _ n _ ns good rel =>
        show ∃ n', engine? (putEngines (putEngine seats i n) (l.zip ns)) k = some n' ∧ R o n'
        by_cases here : i = k
        · subst here
          cases found.symm.trans first
          refine ⟨n, ?_, good⟩
          rw [engine?_putEngines_of_notMem outside]
          exact engine?_putEngine_self first n
        · apply ih nodup (standing_putEngine outside n standing) rel
          rw [engine?_putEngine_of_ne n here]
          exact found

/-- What holds of every engine that was taken or stayed holds of every engine afterwards. -/
theorem forall_putEngine {P : Engine → Prop} (h : ∀ seat ∈ seats, P seat.engine) (he : P e) :
    ∀ seat ∈ putEngine seats i e, P seat.engine := by
  intro seat mem
  obtain ⟨k, found⟩ := List.mem_iff_getElem?.mp mem
  by_cases here : i = k
  · subst here
    unfold putEngine at found
    rw [List.getElem?_modify_eq] at found
    obtain ⟨_, _, rfl⟩ := Option.map_eq_some_iff.mp found
    exact he
  · unfold putEngine at found
    rw [List.getElem?_modify_ne _ _ here] at found
    exact h seat (List.mem_of_getElem? found)

/-- What holds of all engines, and of those that are put back, holds afterwards. -/
theorem forall_putEngines {P : Engine → Prop} {l : List Nat} {es : List Engine}
    (h : ∀ seat ∈ seats, P seat.engine) (hes : ∀ e ∈ es, P e) :
    ∀ seat ∈ putEngines seats (l.zip es), P seat.engine := by
  induction l generalizing seats es with
  | nil => exact h
  | cons i l ih =>
    cases es with
    | nil => exact h
    | cons e es =>
      obtain ⟨he, hes⟩ := List.forall_mem_cons.mp hes
      exact ih (forall_putEngine h he) hes

/-- Putting back an engine that a function does not tell from the one taken leaves what the function
reads off the seats. -/
theorem map_putEngine {α : Type} {f : Engine → α} (found : engine? seats i = some o)
    (same : f e = f o) :
    (putEngine seats i e).map (fun seat => f seat.engine) =
      seats.map fun seat => f seat.engine := by
  induction seats generalizing i with
  | nil => cases found
  | cons seat seats ih =>
    cases i with
    | zero =>
      cases found
      show f e :: _ = f seat.engine :: _
      rw [same]
    | succ i =>
      show f seat.engine :: (putEngine seats i e).map _ = _
      rw [ih found]
      rfl

/-- What is the same on the engines put back is the same at every place. -/
theorem map_putEngines {α : Type} {f : Engine → α} {l : List Nat} {os ns : List Engine}
    (nodup : l.Nodup) (standing : List.Forall₂ (fun i o => engine? seats i = some o) l os)
    (same : ns.map f = os.map f) :
    (putEngines seats (l.zip ns)).map (fun seat => f seat.engine) =
      seats.map fun seat => f seat.engine := by
  induction l generalizing seats os ns with
  | nil => rfl
  | cons i l ih =>
    obtain ⟨outside, nodup⟩ := List.nodup_cons.mp nodup
    cases standing with
    | @cons _ o _ os first standing =>
      cases ns with
      | nil => cases same
      | cons n ns =>
        obtain ⟨good, same⟩ := List.cons.inj same
        show (putEngines (putEngine seats i n) (l.zip ns)).map _ = _
        rw [ih nodup (standing_putEngine outside n standing) same, map_putEngine first good]

/-- A sum over all engines changes by what the engine that was put back changes. -/
theorem sum_putEngine {M : Type} [AddCommMonoid M] (f : Engine → M)
    (found : engine? seats i = some o) :
    ((putEngine seats i e).map fun seat => f seat.engine).sum + f o =
      (seats.map fun seat => f seat.engine).sum + f e := by
  induction seats generalizing i with
  | nil => cases found
  | cons seat seats ih =>
    cases i with
    | zero =>
      cases found
      show f e + _ + f seat.engine = f seat.engine + _ + f e
      rw [add_right_comm, add_comm (f e), add_right_comm]
    | succ i =>
      show f seat.engine + ((putEngine seats i e).map fun seat => f seat.engine).sum + f o =
        f seat.engine + (seats.map fun seat => f seat.engine).sum + f e
      rw [add_assoc, ih found, add_assoc]

/-- A sum over all seats changes by what the engines put back add to it in place of what they were.
-/
theorem sum_putEngines {M : Type} [AddCommMonoid M] (f : Engine → M) {l : List Nat}
    {os ns : List Engine} (nodup : l.Nodup) (length : ns.length = os.length)
    (standing : List.Forall₂ (fun i o => engine? seats i = some o) l os) :
    ((putEngines seats (l.zip ns)).map fun seat => f seat.engine).sum + (os.map f).sum =
      (seats.map fun seat => f seat.engine).sum + (ns.map f).sum := by
  induction l generalizing seats os ns with
  | nil =>
    cases standing
    cases List.eq_nil_of_length_eq_zero length
    rfl
  | cons i l ih =>
    obtain ⟨outside, nodup⟩ := List.nodup_cons.mp nodup
    cases standing with
    | @cons _ o _ os first standing =>
      cases ns with
      | nil => cases length
      | cons n ns =>
        have rest := ih nodup (Nat.succ.inj length) (standing_putEngine outside n standing)
        have here := sum_putEngine (e := n) f first
        show ((putEngines (putEngine seats i n) (l.zip ns)).map fun seat => f seat.engine).sum +
          (f o + (os.map f).sum) = _ + (f n + (ns.map f).sum)
        rw [add_comm (f o), ← add_assoc, rest, add_right_comm, here, add_assoc]

end World

end CollateralDebt
