import Mathlib.Algebra.Order.Field.Basic
import Mathlib.Algebra.Order.Field.Rat
import Mathlib.Tactic.Linarith
import Mathlib.Tactic.NormNum
import Mathlib.Tactic.Positivity
import CollateralDebt.PriceFeed.Call
import CollateralDebt.Proofs.FixedPoint

/-!
# How far a price moves

An update of a price is compared with the bound of its feed in whole ten-thousandths, and the size
of a move is rounded down before it is compared. So a bound of `b` lets everything pass that moves
the price by less than `b + 1` of them, and the largest word, at which sizes are cut off, lets
everything pass. What is between `b` and `b + 1` adds up over a run: after `k` updates the price can
be further away than `k` moves of `b` ten-thousandths would have brought it.

Nothing else moves a price. The admin decides who updates it and whether it is updated at all, and a
refused call leaves no trace.

## What is proved

- `deviation_le_iff`, `FeedState.updatePrice_eq_ok`: which updates are accepted;
- `FeedCall.run_eq_ok`: what the calls on a feed do;
- `PriceFeed.course_history`: a run of calls is a chain of moves, with other settings between them;
- `PriceFeed.moves_bounded`: how far the moves of a run bring the price.
-/

namespace CollateralDebt

/-! ## One update -/

/-- How far two prices are apart. -/
def Amount.distance (p q : Amount) : Nat := (q.toNat - p.toNat) + (p.toNat - q.toNat)

/-- The size of a move is at most a bound exactly if it falls short of the next ten-thousandth, or
if the bound is where sizes are cut off. -/
theorem deviation_le_iff {p q : Amount} {bound : UInt64} (priced : p ≠ .zero) :
    deviation p q ≤ bound ↔
      p.distance q * basisPoints < (bound.toNat + 1) * p.toNat ∨
        bound.toNat = UInt64.size - 1 := by
  have positive := Amount.ne_zero_iff.mp priced
  have word := bound.toNat_lt_size
  have size : (deviation p q).toNat =
      min (p.distance q * basisPoints / p.toNat) (UInt64.size - 1) := by
    unfold deviation Amount.distance
    rw [if_neg (Nat.ne_of_gt positive)]
    apply UInt64.toNat_ofNat_of_lt'
    exact Nat.lt_of_le_of_lt (Nat.min_le_right _ _) (by decide)
  -- a quotient is at most the bound exactly if it is below the next number, so nothing is divided
  rw [UInt64.le_iff_toNat_le, size, min_le_iff, ← Nat.lt_succ_iff, Nat.div_lt_iff_lt_mul positive]
  apply or_congr Iff.rfl
  omega

/-- An update of a price, with the feed that it is made on. -/
structure Move where
  before : FeedState
  caller : Address
  price : Amount
  now : Timestamp
deriving DecidableEq

namespace Move

variable {m : Move}

/-- The price that the move starts from. -/
def start (m : Move) : Amount := m.before.observation.price

/-- The feed that the move leads to. -/
def after (m : Move) : FeedState := { m.before with observation := ⟨m.price, m.now⟩ }

/-- What is told of the move. -/
def event (m : Move) : Event := .priceUpdated m.start m.price m.now

/-- The price moves by at most `n` ten-thousandths of where it starts. -/
def Within (m : Move) (n : Nat) : Prop := m.start.distance m.price * basisPoints ≤ n * m.start.toNat

instance (m : Move) (n : Nat) : Decidable (m.Within n) :=
  inferInstanceAs (Decidable (_ ≤ _))

/-- A move that a bound lets pass: the operator makes it while the feed is on, to some price, and
by less than a ten-thousandth more than the bound unless nothing is larger than that. -/
structure Allowed (m : Move) (bound : UInt64) : Prop where
  operator : m.caller = m.before.operator
  active : m.before.isActive = true
  priced : m.price ≠ .zero
  near : m.start.distance m.price * basisPoints < (bound.toNat + 1) * m.start.toNat ∨
    bound.toNat = UInt64.size - 1

/-- What a bound lets pass is within the next ten-thousandth. -/
theorem Allowed.within {bound : UInt64} (h : m.Allowed bound) (proper : bound.toNat < basisPoints) :
    m.Within (bound.toNat + 1) := by
  rcases h.near with near | largest
  · exact Nat.le_of_lt near
  · rw [largest] at proper
    exact absurd proper (by decide)

end Move

namespace FeedState

variable {f f' : FeedState} {caller : Address} {price : Amount} {now : Timestamp} {event : Event}

/-- With a price and a bound, a feed compares the deviation with the bound. -/
theorem accepts_iff (priced : f.observation.price ≠ .zero) (bounded : f.maxDeviation ≠ 0) :
    f.accepts price ↔ deviation f.observation.price price ≤ f.maxDeviation := by
  simp only [accepts, priced, bounded, decide_false, Bool.false_or, decide_eq_true_eq]

/-- A feed with a price and a bound accepts exactly the moves that the bound lets pass. -/
theorem updatePrice_eq_ok (priced : f.observation.price ≠ .zero) (bounded : f.maxDeviation ≠ 0) :
    f.updatePrice caller price now = .ok (f', event) ↔
      (Move.mk f caller price now).Allowed f.maxDeviation ∧ (Move.mk f caller price now).after = f' ∧
        (Move.mk f caller price now).event = event := by
  simp only [updatePrice, Outcome.bind_eq_ok, Outcome.require_eq_ok, Outcome.pure_eq_ok,
    accepts_iff priced bounded, deviation_le_iff priced, Prod.mk.injEq, exists_and_left,
    exists_const]
  constructor
  · rintro ⟨operator, active, some', near, same, told⟩
    exact ⟨⟨operator, active, some', near⟩, same, told⟩
  · rintro ⟨⟨operator, active, some', near⟩, same, told⟩
    exact ⟨operator, active, some', near, same, told⟩

end FeedState

/-! ## Calls -/

/-- The events of one kind are those of before, and the new one if it is of that kind. -/
theorem EventLog.ofKind_emit (log : EventLog) (e : Event) (kind : EventKind) :
    (log.emit e).ofKind kind = log.ofKind kind ++ if e.kind = kind then [e] else [] := by
  unfold ofKind emit
  rw [List.filter_append, List.filter_singleton]
  by_cases same : e.kind = kind <;> simp [same]

/-- The calls that a feed with a price and a bound accepts at a time, and what it is after them. -/
inductive FeedCall.Granted (f : FeedState) (log : EventLog) (now : Timestamp) :
    FeedCall → PriceFeed → Prop
  | updatePrice {caller : Address} {price : Amount}
      (allowed : (Move.mk f caller price now).Allowed f.maxDeviation) :
      Granted f log now (.updatePrice caller price)
        ⟨some (Move.mk f caller price now).after, log.emit (Move.mk f caller price now).event⟩
  | setOperator {operator : Address} (someone : operator ≠ .zero) (another : operator ≠ f.operator) :
      Granted f log now (.setOperator f.admin operator)
        ⟨some { f with operator }, log.emit (.operatorChanged f.operator operator now)⟩
  | setActive {active : Bool} :
      Granted f log now (.setActive f.admin active) ⟨some { f with isActive := active }, log⟩

section Run

variable {feed feed' : PriceFeed} {f : FeedState} {now : Timestamp} {call : FeedCall}

/-- A feed accepts exactly the calls that are granted. -/
theorem FeedCall.run_eq_ok (standing : feed.state = some f) (priced : f.observation.price ≠ .zero)
    (bounded : f.maxDeviation ≠ 0) :
    call.run feed now = .ok feed' ↔ Granted f feed.log now call feed' := by
  have required (s : FeedState) : feed.requireState = .ok s ↔ f = s := by
    rw [PriceFeed.requireState, Outcome.ofOption_eq_ok, standing, Option.some.injEq]
  cases call with
  | updatePrice caller price =>
    simp only [run, PriceFeed.updatePrice, Outcome.bind_eq_ok, required, Outcome.pure_eq_ok,
      Prod.exists]
    constructor
    · rintro ⟨_, rfl, s, event, updated, rfl⟩
      obtain ⟨allowed, rfl, rfl⟩ := (FeedState.updatePrice_eq_ok priced bounded).mp updated
      exact .updatePrice allowed
    · rintro ⟨allowed⟩
      exact ⟨f, rfl, _, _, (FeedState.updatePrice_eq_ok priced bounded).mpr ⟨allowed, rfl, rfl⟩, rfl⟩
  | setOperator caller operator =>
    simp only [run, PriceFeed.setOperator, FeedState.setOperator, Outcome.bind_eq_ok, required,
      Outcome.require_eq_ok, Outcome.pure_eq_ok]
    constructor
    · rintro ⟨_, rfl, _, ⟨_, rfl, _, someone, _, another, rfl⟩, rfl⟩
      exact .setOperator someone another
    · rintro ⟨⟩
      rename_i someone another
      exact ⟨f, rfl, _, ⟨(), rfl, (), someone, (), another, rfl⟩, rfl⟩
  | setActive caller active =>
    simp only [run, PriceFeed.setActive, FeedState.setActive, Outcome.bind_eq_ok, required,
      Outcome.require_eq_ok, Outcome.pure_eq_ok]
    constructor
    · rintro ⟨_, rfl, _, ⟨_, rfl, rfl⟩, rfl⟩
      exact .setActive
    · rintro ⟨⟩
      exact ⟨f, rfl, _, ⟨(), rfl, rfl⟩, rfl⟩

/-- An update is accepted exactly if the bound lets it pass. -/
theorem FeedCall.run_updatePrice_iff (standing : feed.state = some f)
    (priced : f.observation.price ≠ .zero) (bounded : f.maxDeviation ≠ 0) {caller : Address}
    {price : Amount} :
    (∃ feed', FeedCall.run feed now (.updatePrice caller price) = .ok feed') ↔
      (Move.mk f caller price now).Allowed f.maxDeviation := by
  constructor
  · rintro ⟨feed', done⟩
    obtain ⟨allowed⟩ := (run_eq_ok standing priced bounded).mp done
    exact allowed
  · intro allowed
    exact ⟨_, (run_eq_ok standing priced bounded).mpr (.updatePrice allowed)⟩

namespace PriceFeed

/-- The feed after a call that is accepted or refused. -/
def next (feed : PriceFeed) (now : Timestamp) (call : FeedCall) : PriceFeed :=
  (call.run feed now).toOption.getD feed

/-- The move that a call makes: an update that is accepted. -/
def move? (feed : PriceFeed) (now : Timestamp) (call : FeedCall) : Option Move :=
  match call, call.run feed now with
  | .updatePrice caller price, .ok _ => feed.state.map (⟨·, caller, price, now⟩)
  | _, _ => none

/-- The moves of a run, each with the feed as it was at that moment. -/
def moves (feed : PriceFeed) : List (Timestamp × FeedCall) → List Move
  | [] => []
  | (now, call) :: rest => (feed.move? now call).toList ++ (feed.next now call).moves rest

/-- A run goes on from where its first call has led. -/
theorem history_cons (feed : PriceFeed) (now : Timestamp) (call : FeedCall)
    (rest : List (Timestamp × FeedCall)) :
    feed.history ((now, call) :: rest) = (feed.next now call).history rest := rfl

/-- A refused call changes neither the state nor the log. -/
theorem history_refused {calls : List (Timestamp × FeedCall)} {failure : Failure}
    (refused : call.run (feed.history calls) now = .error failure) :
    feed.history (calls ++ [(now, call)]) = feed.history calls := by
  show List.foldl _ feed (calls ++ _) = _
  rw [List.foldl_append]
  show (feed.history calls).next now call = _
  rw [next, refused]
  rfl

/-- What a call does to a feed: it moves the price, by as much as the bound lets pass, or it leaves
the price and the bound alone. -/
theorem next_cases (standing : feed.state = some f) (priced : f.observation.price ≠ .zero)
    (bounded : f.maxDeviation ≠ 0) (now : Timestamp) (call : FeedCall) :
    (∃ m : Move, m.before = f ∧ m.Allowed f.maxDeviation ∧ feed.move? now call = some m ∧
      feed.next now call = ⟨some m.after, feed.log.emit m.event⟩) ∨
    feed.move? now call = none ∧ ∃ g, (feed.next now call).state = some g ∧
      g.observation = f.observation ∧ g.maxDeviation = f.maxDeviation ∧
      (feed.next now call).log.ofKind .priceUpdated = feed.log.ofKind .priceUpdated := by
  cases result : call.run feed now with
  | error failure =>
    refine .inr ⟨?_, f, ?_⟩
    · unfold move?
      rw [result]
      cases call <;> rfl
    · rw [next, result]
      exact ⟨standing, rfl, rfl, rfl⟩
  | ok feed' =>
    have next_eq : feed.next now call = feed' := by
      rw [next, result]
      rfl
    rw [next_eq]
    cases (FeedCall.run_eq_ok standing priced bounded).mp result with
    | @updatePrice caller price allowed =>
      refine .inl ⟨⟨f, caller, price, now⟩, rfl, allowed, ?_, rfl⟩
      unfold move?
      rw [result, standing]
      rfl
    | setOperator =>
      refine .inr ⟨rfl, _, rfl, rfl, rfl, ?_⟩
      rw [EventLog.ofKind_emit, if_neg (by simp [Event.kind]), List.append_nil]
    | setActive => exact .inr ⟨rfl, _, rfl, rfl, rfl, rfl⟩

end PriceFeed

end Run

/-! ## Runs -/

/-- A chain of moves from one state of a feed to another, each of them allowed; what happens between
them leaves the price and the bound alone. -/
inductive Course : FeedState → List Move → FeedState → Prop
  | done (f : FeedState) : Course f [] f
  | settle {f g last : FeedState} {moves : List Move} (price : g.observation = f.observation)
      (bound : g.maxDeviation = f.maxDeviation) (rest : Course g moves last) : Course f moves last
  | move {m : Move} {last : FeedState} {moves : List Move} (allowed : m.Allowed m.before.maxDeviation)
      (rest : Course m.after moves last) : Course m.before (m :: moves) last

/-- As far as `k` moves of `n` ten-thousandths each can bring a price, up or down. -/
def Compounded (n k : Nat) (p q : Amount) : Prop :=
  (p.toNat : ℚ) * (1 - n / basisPoints) ^ k ≤ q.toNat ∧
    (q.toNat : ℚ) ≤ p.toNat * (1 + n / basisPoints) ^ k

instance (n k : Nat) (p q : Amount) : Decidable (Compounded n k p q) :=
  inferInstanceAs (Decidable (_ ∧ _))

/-- One move compounds to itself. -/
theorem Move.Within.compounded {m : Move} {n : Nat} (h : m.Within n) :
    Compounded n 1 m.start m.price := by
  have moved : (m.start.distance m.price * basisPoints : ℚ) ≤ n * m.start.toNat := by
    exact_mod_cast h
  have up : (m.price.toNat : ℚ) ≤ m.start.toNat + m.start.distance m.price := by
    have : m.price.toNat ≤ m.start.toNat + m.start.distance m.price := by
      unfold Amount.distance
      omega
    exact_mod_cast this
  have down : (m.start.toNat : ℚ) ≤ m.price.toNat + m.start.distance m.price := by
    have : m.start.toNat ≤ m.price.toNat + m.start.distance m.price := by
      unfold Amount.distance
      omega
    exact_mod_cast this
  have far : (m.start.distance m.price : ℚ) ≤ m.start.toNat * (n / basisPoints) := by
    rw [← mul_div_assoc, le_div_iff₀ (by norm_num [basisPoints]), mul_comm (m.start.toNat : ℚ)]
    exact moved
  constructor
  · rw [pow_one, mul_sub, mul_one]
    linarith
  · rw [pow_one, mul_add, mul_one]
    linarith

/-- Another move takes the price further by its own share. -/
theorem Compounded.cons {n k : Nat} {p q r : Amount} (proper : n ≤ basisPoints)
    (first : Compounded n 1 p q) (rest : Compounded n k q r) : Compounded n (k + 1) p r := by
  have share : (n / basisPoints : ℚ) ≤ 1 := by
    rw [div_le_one (by norm_num [basisPoints])]
    exact_mod_cast proper
  constructor
  · calc (p.toNat : ℚ) * (1 - n / basisPoints) ^ (k + 1)
        = p.toNat * (1 - n / basisPoints) ^ 1 * (1 - n / basisPoints) ^ k := by
          rw [pow_one, pow_succ', mul_assoc]
      _ ≤ q.toNat * (1 - n / basisPoints) ^ k :=
        mul_le_mul_of_nonneg_right first.1 (pow_nonneg (by linarith) k)
      _ ≤ r.toNat := rest.1
  · calc (r.toNat : ℚ)
        ≤ q.toNat * (1 + n / basisPoints) ^ k := rest.2
      _ ≤ p.toNat * (1 + n / basisPoints) ^ 1 * (1 + n / basisPoints) ^ k :=
        mul_le_mul_of_nonneg_right first.2 (by positivity)
      _ = p.toNat * (1 + n / basisPoints) ^ (k + 1) := by
          rw [pow_one, pow_succ', mul_assoc]

namespace Course

variable {f last : FeedState} {moves : List Move}

/-- No move changes the bound. -/
theorem maxDeviation_eq (h : Course f moves last) : last.maxDeviation = f.maxDeviation := by
  induction h with
  | done => rfl
  | settle _ bound _ ih => rw [ih, bound]
  | move _ _ ih => exact ih

/-- Every move of a course was allowed by the bound of its start. -/
theorem allowed (h : Course f moves last) : ∀ m ∈ moves, m.Allowed f.maxDeviation := by
  induction h with
  | done => nofun
  | settle _ bound _ ih => rwa [← bound]
  | move allowed _ ih =>
    intro m mem
    rcases List.mem_cons.mp mem with rfl | mem
    · exact allowed
    · exact ih m mem

/-- A price that is there stays there. -/
theorem priced (h : Course f moves last) (priced : f.observation.price ≠ .zero) :
    last.observation.price ≠ .zero := by
  induction h with
  | done => exact priced
  | settle price _ _ ih => exact ih (price ▸ priced)
  | move allowed _ ih => exact ih allowed.priced

/-- Moves of `n` ten-thousandths add up to what they compound to. -/
theorem compounded {n : Nat} (proper : n ≤ basisPoints) (h : Course f moves last)
    (within : ∀ m ∈ moves, m.Within n) :
    Compounded n moves.length f.observation.price last.observation.price := by
  induction h with
  | done f =>
    constructor <;> rw [List.length_nil, pow_zero, mul_one]
  | settle price _ _ ih =>
    rw [← price]
    exact ih within
  | move _ _ ih =>
    obtain ⟨first, rest⟩ := List.forall_mem_cons.mp within
    exact first.compounded.cons proper (ih rest)

end Course

/-- What the moves of a run make of a feed: the bound lets each of them pass, the price never comes
to nothing and the bound stays, and the price is no further away than the moves could bring it. A
bound of `b` ten-thousandths counts for `b + 1` there, unless no move makes use of what rounding
leaves it. -/
structure Bounded (f : FeedState) (moves : List Move) (last : FeedState) : Prop where
  allowed : ∀ m ∈ moves, m.Allowed f.maxDeviation
  priced : last.observation.price ≠ .zero
  bound : last.maxDeviation = f.maxDeviation
  compounded : f.maxDeviation.toNat < basisPoints →
    Compounded (f.maxDeviation.toNat + 1) moves.length f.observation.price last.observation.price
  tight : f.maxDeviation.toNat ≤ basisPoints → (∀ m ∈ moves, m.Within f.maxDeviation.toNat) →
    Compounded f.maxDeviation.toNat moves.length f.observation.price last.observation.price

/-- What is true of every move of a course is bounded in total by compounding. -/
theorem Course.bounded {f last : FeedState} {moves : List Move} (h : Course f moves last)
    (priced : f.observation.price ≠ .zero) : Bounded f moves last where
  allowed := h.allowed
  priced := h.priced priced
  bound := h.maxDeviation_eq
  compounded proper := h.compounded proper fun m mem => (h.allowed m mem).within proper
  tight proper within := h.compounded proper within

namespace PriceFeed

/-- Every run of calls is a course, and its moves are what the log tells of. -/
theorem course_history {feed : PriceFeed} {f : FeedState} (standing : feed.state = some f)
    (priced : f.observation.price ≠ .zero) (bounded : f.maxDeviation ≠ 0)
    (calls : List (Timestamp × FeedCall)) :
    ∃ g, (feed.history calls).state = some g ∧ Course f (feed.moves calls) g ∧
      (feed.history calls).log.ofKind .priceUpdated =
        feed.log.ofKind .priceUpdated ++ (feed.moves calls).map Move.event := by
  -- on the calls, from any feed: each of them leaves another one to the calls after it
  induction calls generalizing feed f with
  | nil => exact ⟨f, standing, .done f, (List.append_nil _).symm⟩
  | cons entry rest ih =>
    obtain ⟨now, call⟩ := entry
    rw [history_cons, moves]
    rcases next_cases standing priced bounded now call with
      ⟨m, rfl, allowed, made, next⟩ | ⟨made, g, stands, price, bound, told⟩
    · have stands : (feed.next now call).state = some m.after := by rw [next]
      rw [made]
      obtain ⟨last, ends, course, told⟩ := ih stands allowed.priced bounded
      refine ⟨last, ends, .move allowed course, ?_⟩
      have kind : m.event.kind = .priceUpdated := rfl
      rw [told, next, EventLog.ofKind_emit, if_pos kind, List.append_assoc]
      rfl
    · rw [made]
      obtain ⟨last, ends, course, tells⟩ := ih stands (price ▸ priced) (bound ▸ bounded)
      exact ⟨last, ends, .settle price bound course, by rw [tells, told]; rfl⟩

/-- **Bounded moves.** Take a feed with a price and a bound, and any calls on it, by anyone and at any
times. The log tells of the moves of the run, one by one. Each of them was made by the operator of
that moment while the feed was on, and moved the price by less than `b + 1` ten-thousandths, `b`
being the bound; so after `k` moves the price is within `k` such moves of where it was, and within
`k` moves of `b` if none of them was larger than that. The price is never zero, and the bound is the
same for ever. The next update is accepted exactly if it is such a move, and a call that is refused
changes neither the state nor the log. -/
theorem moves_bounded {feed : PriceFeed} {f : FeedState} (standing : feed.state = some f)
    (priced : f.observation.price ≠ .zero) (bounded : f.maxDeviation ≠ 0)
    (calls : List (Timestamp × FeedCall)) :
    ∃ last, (feed.history calls).state = some last ∧ Bounded f (feed.moves calls) last ∧
      (feed.history calls).log.ofKind .priceUpdated =
        feed.log.ofKind .priceUpdated ++ (feed.moves calls).map Move.event ∧
      (∀ caller price now,
        (∃ feed', FeedCall.run (feed.history calls) now (.updatePrice caller price) = .ok feed') ↔
          (Move.mk last caller price now).Allowed f.maxDeviation) ∧
      ∀ now call failure, FeedCall.run (feed.history calls) now call = .error failure →
        feed.history (calls ++ [(now, call)]) = feed.history calls := by
  obtain ⟨last, stands, course, told⟩ := course_history standing priced bounded calls
  have still := course.bounded priced
  refine ⟨last, stands, still, told, fun caller price now => ?_, fun _ _ _ => history_refused⟩
  rw [← still.bound]
  exact FeedCall.run_updatePrice_iff stands still.priced (still.bound ▸ bounded)

/-- A new feed at a price of two thousand, which moves by half at most. -/
def twoThousand : FeedState :=
  .create (.replicate 1) (.replicate 2) ⟨2_000_000_000_000_000_000_000, by decide⟩ 100

/-- Up by half, and a tenth more. -/
def overstep : Move :=
  ⟨twoThousand, .replicate 2, ⟨3_000_100_000_000_000_000_000, by decide⟩, 101⟩

/-- The update is accepted, though it moves the price by more than the bound. -/
theorem overstep_beyond_bound :
    twoThousand.observation.price ≠ .zero ∧ twoThousand.maxDeviation.toNat = 5_000 ∧
      (ofState twoThousand).moves [(101, .updatePrice overstep.caller overstep.price)] = [overstep] ∧
      ((ofState twoThousand).history [(101, .updatePrice overstep.caller overstep.price)]).state =
        some overstep.after ∧
      ¬ overstep.Within 5_000 ∧
      ¬ Compounded 5_000 1 twoThousand.observation.price overstep.after.observation.price := by
  decide +kernel

/-- The operator moves the price up by half. The feed is off while the next update comes; when it is
on again, another operator brings the price back. -/
def upAndDown : List (Timestamp × FeedCall) := [
  (101, .updatePrice (.replicate 2) ⟨3_000_000_000_000_000_000_000, by decide⟩),
  (102, .setActive (.replicate 1) false),
  (103, .updatePrice (.replicate 2) ⟨2_000_000_000_000_000_000_000, by decide⟩),
  (104, .setActive (.replicate 1) true),
  (105, .setOperator (.replicate 1) (.replicate 3)),
  (106, .updatePrice (.replicate 3) ⟨2_000_000_000_000_000_000_000, by decide⟩)]

/-- Two moves, by two operators, and none of them larger than the bound. -/
theorem moves_bounded_upAndDown :
    ∃ last, ((ofState twoThousand).history upAndDown).state = some last ∧
      ((ofState twoThousand).moves upAndDown).map Move.caller = [.replicate 2, .replicate 3] ∧
      Bounded twoThousand ((ofState twoThousand).moves upAndDown) last ∧
      Compounded 5_000 2 twoThousand.observation.price last.observation.price := by
  have callers : ((ofState twoThousand).moves upAndDown).map Move.caller =
      [.replicate 2, .replicate 3] := by decide +kernel
  have within : ∀ m ∈ (ofState twoThousand).moves upAndDown, m.Within 5_000 := by decide +kernel
  have standing : (ofState twoThousand).state = some twoThousand := rfl
  obtain ⟨last, ends, bounded, -⟩ := moves_bounded standing (by decide) (by decide) upAndDown
  have two : ((ofState twoThousand).moves upAndDown).length = 2 := by
    rw [← List.length_map, callers]
    rfl
  refine ⟨last, ends, callers, bounded, ?_⟩
  rw [← two]
  exact bounded.tight (by decide) within

end PriceFeed

end CollateralDebt
