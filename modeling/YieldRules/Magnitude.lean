import YieldRules.Fault
import YieldRules.Decimal.Shortest

/-!
# Effect magnitudes

The size of an effect is an amount for each thing counted, or a percentage of
a cost. A positive percentage boosts the yield that pays the cost, so the cost
is taken as the boosted amount and the delta is what the boost added to it; a
percentage that is zero or negative is taken of the cost itself. The rule does
not depend on the kind of number it is computed with.
-/

namespace YieldRules

inductive Magnitude (α : Type) where
  | amount (perItem : α)
  | percent (percent : α)
  deriving DecidableEq

/-- A cost that no percentage can be taken of. -/
structure NegativeCost (α : Type) where
  cost : α
  deriving DecidableEq

/-- The change that an effect makes for a number of items and their total cost. -/
def Magnitude.delta {α : Type} [Add α] [Sub α] [Mul α] [Div α] [OfNat α 0] [OfNat α 1]
    [OfNat α 100] [LT α] [DecidableLT α] (m : Magnitude α) (count cost : α) :
    Except (NegativeCost α) α :=
  match m with
  | amount perItem => .ok (perItem * count)
  | percent q =>
    if cost < 0 then
      .error ⟨cost⟩
    else
      let p := q / 100
      if 0 < p then .ok (cost - cost / (1 + p)) else .ok (cost * p)

/-- What is said of a cost below zero. -/
def NegativeCost.fault (e : NegativeCost Float) : Fault :=
  .invalidInput ("negative base cost " ++ Decimal.shortest e.cost ++ " with a percent argument")

namespace Arguments

/-- The magnitude that the arguments give: an amount if there is one, otherwise a percentage. -/
def magnitude (args : Arguments) : Except Fault (Magnitude Float) := do
  match ← (args.number "Amount").mapError .ofArgument with
  | some x => return .amount x
  | none =>
    match ← (args.number "Percent").mapError .ofArgument with
    | some x => return .percent x
    | none => throw (.unhandledArguments args.describe)

/-- The change that the arguments make for a number of items and their total cost. -/
def delta (args : Arguments) (count cost : Float) : Except Fault Float := do
  let m ← args.magnitude
  (m.delta count cost).mapError NegativeCost.fault

end Arguments

end YieldRules
