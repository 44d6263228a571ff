import CarbonAware.Grid.CarbonSeries

/-!
# Low-carbon runs

A low-carbon run is a maximal run of buckets whose forecast lies below a threshold.  `LowCarbonRun.all` finds the runs
of a series in one pass over the forecast; a run still open at the end of the series has no known end and is left out.
`LowCarbonRun.startingFrom` finds, by halving, those that start at a given bucket or later.
-/

namespace CarbonAware

/-- A maximal run of buckets below a threshold, with its mean forecast. -/
structure LowCarbonRun where
  buckets : BucketRange
  average : Moer
deriving DecidableEq

/-- A run that has not ended yet: its first bucket and the sum of its values so far. -/
structure OpenRun where
  start : Nat
  sum : UInt64
deriving DecidableEq

namespace LowCarbonRun

def length (run : LowCarbonRun) : Nat := run.buckets.length

/-- The run that ends just before the bucket `stop`. -/
def close (run : OpenRun) (stop : Nat) : LowCarbonRun :=
  ⟨⟨run.start, stop⟩, ⟨run.sum.toFloat / Float.ofNat (stop - run.start)⟩⟩

/-- The runs of the values from the bucket `index` on, where `current` is the run that reaches up to there. -/
def scan (threshold : UInt32) (index : Nat) : Option OpenRun → List UInt32 → List LowCarbonRun
  | _, [] => []
  | none, value :: rest =>
    if value < threshold then scan threshold (index + 1) (some ⟨index, value.toUInt64⟩) rest
    else scan threshold (index + 1) none rest
  | some run, value :: rest =>
    if value < threshold then scan threshold (index + 1) (some ⟨run.start, run.sum + value.toUInt64⟩) rest
    else close run index :: scan threshold (index + 1) none rest

/-- The runs of the forecast below the threshold, in order. -/
def all (series : CarbonSeries) (threshold : UInt32) : Array LowCarbonRun :=
  (scan threshold 0 none (series.values .forecast)).toArray

/--
The first index from `lo` to `hi` whose element does not satisfy `isBefore`, or `hi`, if the elements that satisfy it
come first.  Every step halves the interval.
-/
def boundary {α : Type} (isBefore : α → Bool) (xs : Array α) (lo hi : Nat) (h : hi ≤ xs.size) : Nat :=
  if hlt : lo < hi then
    let middle := lo + (hi - lo) / 2
    if isBefore xs[middle] then boundary isBefore xs (middle + 1) hi h
    else boundary isBefore xs lo middle (by omega)
  else lo
termination_by hi - lo

/-- The runs that start at the bucket or later, in order. -/
def startingFrom (runs : Array LowCarbonRun) (bucket : Nat) : List LowCarbonRun :=
  runs.toList.drop (boundary (fun run => decide (run.buckets.start < bucket)) runs 0 runs.size (Nat.le_refl _))

end LowCarbonRun

end CarbonAware
