import CarbonAware.Policy.Threshold

/-!
# Rescheduling by a moving average

The run window slides forward over the forecast.  A workload moves to the first start where the mean over the window
is no higher than at the two neighbouring starts, and lower than at present by more than a margin
(`MovingAverageShift.findWindow`).
-/

namespace CarbonAware

/-- Rescheduling to the first local minimum of the forecast's moving average. -/
structure MovingAverageShift where
  acceptance : AcceptanceRate
  /-- The improvement of the mean forecast that a postponement must exceed. -/
  confidence : Moer
  /-- How many buckets ahead the forecast can be trusted. -/
  lookahead : Nat
deriving DecidableEq

namespace MovingAverageShift

instance : Inhabited MovingAverageShift := ⟨⟨.always, ⟨50.0⟩, 288⟩⟩

def validate (p : MovingAverageShift) : Except PolicyError Unit :=
  if p.lookahead = 0 then .error .noAverageLookahead
  else if p.confidence < .zero then .error (.negativeConfidence p.confidence)
  else .ok ()

/--
The starts to try for a workload of the given buckets: after its own start, and such that the window one bucket later
still ends before the bound.
-/
def starts (buckets : BucketRange) (bound : Nat) : List Nat :=
  List.range' (buckets.start + 1) (bound - (buckets.length + 1) - (buckets.start + 1))

/-- Whether the mean at `start` is below the target and no higher than at the neighbouring starts. -/
def isDip (meanAt : Nat → Except SeriesError Moer) (target : Moer) (start : Nat) : Except SeriesError Bool := do
  let current ← meanAt start
  if current < target then
    let before ← meanAt (start - 1)
    if current ≤ before then
      let after ← meanAt (start + 1)
      return decide (current ≤ after)
    else return false
  else return false

/-- The first of the starts that is a dip. -/
def firstDip (meanAt : Nat → Except SeriesError Moer) (target : Moer) : List Nat → Except SeriesError (Option Nat)
  | [] => .ok none
  | start :: rest => do
    if ← isDip meanAt target start then return some start else firstDip meanAt target rest

/-- The window that the workload should move to; a workload of no buckets stays where it is. -/
def findWindow (p : MovingAverageShift) (series : CarbonSeries) : WindowSearch := fun w => do
  let buckets := w.window.buckets
  if buckets.length = 0 then return none
  else
    let current ← w.averageRate series .forecast
    let bound := min (forecastHorizon buckets.start p.lookahead) series.length
    let meanAt start := series.average .forecast ⟨start, start + buckets.length⟩
    let start ← firstDip meanAt (current - p.confidence) (starts buckets bound)
    return start.map fun start => .ofBuckets start buckets.length

end MovingAverageShift

end CarbonAware
