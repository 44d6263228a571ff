import CarbonAware.Quantity

/-!
# Invalid policies

What can be wrong with the parameters of a policy, and the message for each.
-/

namespace CarbonAware

/-- What is wrong with the parameters of a policy. -/
inductive PolicyError where
  | noThresholdLookahead
  | noAverageLookahead
  | negativeConfidence (threshold : Moer)
  | noCoreCounts
  | zeroCoreCount
  | coreCountsNotAscending (counts : List UInt32)
  | p95OutOfRange (threshold : Float)
  | negativeWaste (threshold : Dollars)
  | idleFloorOutOfRange (floor : Float)
deriving DecidableEq

/-- A list of counts in brackets. -/
def countsText (counts : List UInt32) : String :=
  let items := ", ".intercalate (counts.map fun count => Nat.repr count.toNat)
  s!"[{items}]"

def PolicyError.message : PolicyError → String
  | .noThresholdLookahead => "threshold lookahead must be positive"
  | .noAverageLookahead => "moving-average lookahead must be positive"
  | .negativeConfidence threshold => "confidence threshold must not be negative, got " ++ threshold.text
  | .noCoreCounts => "at least one core count is required"
  | .zeroCoreCount => "core counts must be positive"
  | .coreCountsNotAscending counts => "core counts must be strictly ascending: " ++ countsText counts
  | .p95OutOfRange threshold => "p95 threshold must be within `(0, 1]`, got " ++ Numeral.plain threshold
  | .negativeWaste threshold => "waste threshold must not be negative, got " ++ threshold.text
  | .idleFloorOutOfRange floor => "idle floor must be within `0..1`, got " ++ Numeral.plain floor

end CarbonAware
