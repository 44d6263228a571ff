import CarbonAware.Adoption.Rate
import CarbonAware.Grid.LowCarbonRun
import CarbonAware.Policy.Delays
import CarbonAware.Policy.Validation

/-!
# Rescheduling by a threshold

A workload moves to the start of the first low-carbon run that is at or after its own start, ends within the horizon,
is long enough, and has a lower mean forecast than the workload's present window (`ThresholdShift.findWindow`).
-/

namespace CarbonAware

/-- The last bucket that a forecast made at `start` reaches; bucket numbers end at the greatest 64-bit word. -/
def forecastHorizon (start lookahead : Nat) : Nat := min (start + lookahead) Numeral.maxUInt64

/-- Rescheduling into runs of buckets whose forecast is below a threshold. -/
structure ThresholdShift where
  acceptance : AcceptanceRate
  /-- A bucket is low-carbon if its forecast is below this. -/
  rateThreshold : UInt32
  /-- How many buckets ahead the forecast can be trusted. -/
  lookahead : Nat
deriving DecidableEq

namespace ThresholdShift

instance : Inhabited ThresholdShift := ⟨⟨.always, 810, 288⟩⟩

def validate (p : ThresholdShift) : Except PolicyError Unit :=
  if p.lookahead = 0 then .error .noThresholdLookahead else .ok ()

/--
The first run that ends within the horizon, has at least `length` buckets and a mean below `current`.  The runs are in
order, so the search ends at the first one beyond the horizon.
-/
def firstFit (horizon length : Nat) (current : Moer) : List LowCarbonRun → Option LowCarbonRun
  | [] => none
  | run :: rest =>
    if horizon ≤ run.buckets.start ∨ horizon < run.buckets.stop then none
    else if run.length < length ∨ current ≤ run.average then firstFit horizon length current rest
    else some run

/-- The window that the workload should move to, given the low-carbon runs of the series. -/
def findWindow (p : ThresholdShift) (series : CarbonSeries) (runs : Array LowCarbonRun) : WindowSearch := fun w =>
  let buckets := w.window.buckets
  (w.averageRate series .forecast).map fun current =>
    (firstFit (forecastHorizon buckets.start p.lookahead) buckets.length current
      (LowCarbonRun.startingFrom runs buckets.start)).map
        fun run => .ofBuckets run.buckets.start buckets.length

end ThresholdShift

end CarbonAware
