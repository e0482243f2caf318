import CollateralDebt.PriceFeed

/-!
# Calls on a price feed

The calls by which a price feed changes, as data. A refused call changes nothing.

## What is stated here

- `FeedCall`, `FeedCall.run`: a call, and what it does at a time;
- `PriceFeed.history`: a feed after a list of calls.
-/

namespace CollateralDebt

/-- A changing call on a price feed. -/
inductive FeedCall where
  | updatePrice (caller : Address) (price : Amount)
  | setOperator (caller operator : Address)
  | setActive (caller : Address) (active : Bool)
deriving DecidableEq

/-- Make a call. -/
def FeedCall.run (f : PriceFeed) (now : Timestamp) : FeedCall → Outcome PriceFeed
  | .updatePrice caller price => f.updatePrice caller price now
  | .setOperator caller operator => f.setOperator caller operator now
  | .setActive caller active => f.setActive caller active

/-- A feed after calls at their times, the first one first, each accepted or refused. -/
def PriceFeed.history (start : PriceFeed) (calls : List (Timestamp × FeedCall)) : PriceFeed :=
  calls.foldl (fun f (now, call) => (call.run f now).toOption.getD f) start

end CollateralDebt
