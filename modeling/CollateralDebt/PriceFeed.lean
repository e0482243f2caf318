import CollateralDebt.Event
import CollateralDebt.FixedPoint

/-!
# Price feeds

A feed holds the last observed price of one whole unit of a collateral asset. Its operator updates
it, in bounded moves; its admin names the operator and turns the feed on and off. A price is usable
while the feed is on, the price is not zero, and the observation is not too old.

## What is stated here

- `Observation.usablePrice`: a price that is neither zero nor stale;
- `deviation`: the size of a move, in ten-thousandths;
- `FeedState.updatePrice`, `FeedState.setOperator`: the calls on a feed, with the events they make;
- `PriceFeed`: a feed that may still be empty, and its log.
-/

namespace CollateralDebt

/-- A price and the time of its observation. -/
@[ext]
structure Observation where
  price : Amount
  updatedAt : Timestamp
deriving DecidableEq

namespace Observation

/-- The age at a time; an observation from the future has none. -/
def age (o : Observation) (now : Timestamp) : UInt64 :=
  if o.updatedAt ≤ now then now - o.updatedAt else 0

/-- Older than allowed. -/
def isStale (o : Observation) (now : Timestamp) (maxAge : UInt64) : Bool := maxAge < o.age now

/-- The price, if it can be used. -/
def usablePrice (o : Observation) (now : Timestamp) (maxAge : UInt64) : Outcome Amount := do
  Outcome.require (o.price ≠ .zero) .oracleUnavailable
  Outcome.require (¬ o.isStale now maxAge) (.oracleStale o.updatedAt now maxAge)
  return o.price

instance : Wire Observation :=
  .via (fun o => (o.price, o.updatedAt)) fun (price, updatedAt) => ⟨price, updatedAt⟩

end Observation

/-- The number of ten-thousandths in one. -/
def basisPoints : Nat := 10_000

/-- The move from one price to another, in ten-thousandths of the first, rounded down and cut off at
the largest word. A move from nothing counts as one. -/
def deviation (oldPrice newPrice : Amount) : UInt64 :=
  if oldPrice.toNat = 0 then UInt64.ofNat basisPoints
  else
    let difference :=
      (newPrice.toNat - oldPrice.toNat) + (oldPrice.toNat - newPrice.toNat)
    UInt64.ofNat (min (difference * basisPoints / oldPrice.toNat) (UInt64.size - 1))

/-- A price in another precision, rounded down or cut off at the largest amount. -/
def convertPrice (price : Amount) (fromDecimals toDecimals : UInt8) : Amount :=
  if toDecimals ≤ fromDecimals then
    let divisor := Amount.pow10Capped (fromDecimals.toNat - toDecimals.toNat)
    ⟨price.toNat / divisor.toNat, Nat.lt_of_le_of_lt (Nat.div_le_self _ _) price.isLt⟩
  else
    let multiplier := Amount.pow10Capped (toDecimals.toNat - fromDecimals.toNat)
    (Amount.ofNat? (price.toNat * multiplier.toNat)).getD .largest

/-- A price feed. -/
@[ext]
structure FeedState where
  observation : Observation
  /-- The account that updates the price. -/
  operator : Address
  /-- The account that names the operator. -/
  admin : Address
  /-- The greatest age of a usable price. -/
  maxAge : UInt64
  isActive : Bool
  /-- The greatest move of one update, in ten-thousandths; zero for no bound. -/
  maxDeviation : UInt64
deriving DecidableEq

namespace FeedState

/-- A new feed: prices are good for an hour, and move by half at most. -/
def create (admin operator : Address) (price : Amount) (now : Timestamp) : FeedState where
  observation := ⟨price, now⟩
  operator := operator
  admin := admin
  maxAge := 3_600
  isActive := true
  maxDeviation := 5_000

/-- Whether an update from the current price stays within the bound. A first price is free. -/
def accepts (f : FeedState) (newPrice : Amount) : Bool :=
  let oldPrice := f.observation.price
  oldPrice = .zero || f.maxDeviation = 0 || deviation oldPrice newPrice ≤ f.maxDeviation

/-- Update the price; only the operator may. -/
def updatePrice (f : FeedState) (caller : Address) (newPrice : Amount) (now : Timestamp) :
    Outcome (FeedState × Event) := do
  let oldPrice := f.observation.price
  Outcome.require (caller = f.operator) (.unauthorized f.operator caller)
  Outcome.require f.isActive .oracleUnavailable
  Outcome.require (newPrice ≠ .zero) (.zeroAmount newPrice)
  Outcome.require (f.accepts newPrice) (.oraclePriceDeviation oldPrice newPrice f.maxDeviation)
  return ({ f with observation := ⟨newPrice, now⟩ }, .priceUpdated oldPrice newPrice now)

/-- Name another operator; only the admin may. -/
def setOperator (f : FeedState) (caller operator : Address) (now : Timestamp) :
    Outcome (FeedState × Event) := do
  Outcome.require (caller = f.admin) (.unauthorized f.admin caller)
  Outcome.require (operator ≠ .zero) .zeroAddress
  Outcome.require (operator ≠ f.operator) (.invalidParameterValue .operator)
  return ({ f with operator }, .operatorChanged f.operator operator now)

/-- Turn the feed on or off; only the admin may. -/
def setActive (f : FeedState) (caller : Address) (active : Bool) : Outcome FeedState := do
  Outcome.require (caller = f.admin) (.unauthorized f.admin caller)
  return { f with isActive := active }

/-- The price, if it can be used. -/
def price (f : FeedState) (now : Timestamp) : Outcome Amount := do
  Outcome.require f.isActive .oracleUnavailable
  f.observation.usablePrice now f.maxAge

/-- Whether the feed is on and its observation not too old. -/
def isFresh (f : FeedState) (now : Timestamp) : Bool :=
  f.isActive && !f.observation.isStale now f.maxAge

instance : Wire FeedState :=
  .via (fun f => (f.observation, f.operator, f.admin, f.maxAge, f.isActive, f.maxDeviation))
    fun (observation, operator, admin, maxAge, isActive, maxDeviation) =>
      { observation, operator, admin, maxAge, isActive, maxDeviation }

end FeedState

/-- A feed that may not have been set up, and the log of its updates. -/
@[ext]
structure PriceFeed where
  state : Option FeedState
  log : EventLog
deriving DecidableEq

namespace PriceFeed

/-- The feed that was never set up. -/
def empty : PriceFeed := ⟨none, []⟩

instance : Inhabited PriceFeed := ⟨empty⟩

/-- A feed that was just set up. -/
def ofState (state : FeedState) : PriceFeed := ⟨some state, []⟩

/-- A feed with one account for admin and operator. -/
def withPrice (operator : Address) (price : Amount) (now : Timestamp) : PriceFeed :=
  ofState (.create operator operator price now)

/-- The state, which has to be there. -/
def requireState (f : PriceFeed) : Outcome FeedState :=
  Outcome.ofOption .oracleUnavailable f.state

/-- Update the price. -/
def updatePrice (f : PriceFeed) (caller : Address) (price : Amount) (now : Timestamp) :
    Outcome PriceFeed := do
  let (state, event) ← (← f.requireState).updatePrice caller price now
  return ⟨some state, f.log.emit event⟩

/-- Name another operator. -/
def setOperator (f : PriceFeed) (caller operator : Address) (now : Timestamp) :
    Outcome PriceFeed := do
  let (state, event) ← (← f.requireState).setOperator caller operator now
  return ⟨some state, f.log.emit event⟩

/-- Turn the feed on or off. -/
def setActive (f : PriceFeed) (caller : Address) (active : Bool) : Outcome PriceFeed := do
  let state ← (← f.requireState).setActive caller active
  return { f with state := some state }

/-- The price, if it can be used. -/
def read (f : PriceFeed) (now : Timestamp) : Outcome Amount := do
  (← f.requireState).price now

end PriceFeed

end CollateralDebt
