import CarbonAware.Grid.Window

/-!
# Carbon series

The emissions rate of the grid, one observed and one forecast whole number per bucket.  Running sums of both are kept
with the values, so that the average over any range costs two look-ups (`CarbonSeries.average`).
-/

namespace CarbonAware

/-- Why a series cannot be built, or a query not answered. -/
inductive SeriesError where
  | empty
  | lengthMismatch (observed forecast : Nat)
  | indexOutOfRange (index length : Nat)
  | invalidRange (range : BucketRange) (length : Nat)
deriving DecidableEq, Repr

def SeriesError.message : SeriesError → String
  | .empty => "carbon series must not be empty"
  | .lengthMismatch observed forecast =>
    s!"observed and forecast series differ in length: {observed} vs {forecast}"
  | .indexOutOfRange index length => s!"bucket {index} is out of range for a series of {length} buckets"
  | .invalidRange range length =>
    let text := range.text
    s!"invalid bucket range {text} for a series of {length} buckets"

/-- The running sums of a list, from `total` on: one more than it has elements. -/
def runningSums (total : UInt64) : List UInt32 → List UInt64
  | [] => [total]
  | value :: rest => total :: runningSums (total + value.toUInt64) rest

theorem length_runningSums (total : UInt64) (values : List UInt32) :
    (runningSums total values).length = values.length + 1 := by
  induction values generalizing total with
  | nil => rfl
  | cons value rest ih => simp [runningSums, ih]

/-- The values of one kind with their running sums: entry `i` of `sums` is the sum of the first `i` values. -/
structure Track where
  values : Array UInt32
  sums : Array UInt64
  sums_eq : sums = (runningSums 0 values.toList).toArray

namespace Track

def ofValues (values : Array UInt32) : Track := ⟨values, _, rfl⟩

theorem size_sums (t : Track) : t.sums.size = t.values.size + 1 := by
  simp [t.sums_eq, length_runningSums]

end Track

/-- Which of the two values of a bucket is meant. -/
inductive SeriesKind where
  | observed
  | forecast
deriving DecidableEq, Repr

/--
The most buckets of a series, two to the power of 54.  A bucket takes 24 bytes, so that no memory holds more; and the
seconds of that many buckets are 64-bit numbers.
-/
def maxBuckets : Nat := 18014398509481984

/-- The observed and the forecast emissions rate, of one value per bucket each. -/
structure CarbonSeries where
  observed : Track
  forecast : Track
  same_size : forecast.values.size = observed.values.size
  size_pos : 0 < observed.values.size
  size_le : observed.values.size ≤ maxBuckets

namespace CarbonSeries

/--
The series of the two lists of values, which must be of one length and not empty.  Longer lists than a memory holds are
refused too, so that every series fits in one.
-/
def build (observed forecast : Array UInt32) : Except SeriesError CarbonSeries :=
  if h : observed.size = 0 ∨ forecast.size = 0 then .error .empty
  else if h' : forecast.size = observed.size then
    if hle : observed.size ≤ maxBuckets then
      .ok ⟨.ofValues observed, .ofValues forecast, h', by simp only [Track.ofValues]; omega, hle⟩
    else .error (.invalidRange ⟨0, observed.size⟩ maxBuckets)
  else .error (.lengthMismatch observed.size forecast.size)

/-- The number of buckets. -/
def length (s : CarbonSeries) : Nat := s.observed.values.size

theorem length_le (s : CarbonSeries) : s.length ≤ maxBuckets := s.size_le

def isEmpty (s : CarbonSeries) : Bool := s.length == 0

def track (s : CarbonSeries) : SeriesKind → Track
  | .observed => s.observed
  | .forecast => s.forecast

theorem size_track (s : CarbonSeries) (kind : SeriesKind) : (s.track kind).values.size = s.length := by
  cases kind
  · rfl
  · exact s.same_size

/-- The values of one kind, in the order of the buckets. -/
def values (s : CarbonSeries) (kind : SeriesKind) : List UInt32 := (s.track kind).values.toList

/-- The value of one bucket. -/
def at? (s : CarbonSeries) (kind : SeriesKind) (index : Nat) : Except SeriesError UInt32 :=
  match (s.track kind).values[index]? with
  | some value => .ok value
  | none => .error (.indexOutOfRange index s.length)

/-- The mean of the values over a range of at least one bucket, all within the series. -/
def average (s : CarbonSeries) (kind : SeriesKind) (range : BucketRange) : Except SeriesError Moer :=
  let sums := (s.track kind).sums
  if h : range.start < range.stop ∧ range.stop ≤ s.length then
    have : sums.size = s.length + 1 := by rw [← s.size_track kind]; exact Track.size_sums _
    .ok ⟨(sums[range.stop] - sums[range.start]).toFloat / Float.ofNat range.length⟩
  else .error (.invalidRange range s.length)

/-- As `average`, but the mean over no buckets is zero. -/
def averageOrZero (s : CarbonSeries) (kind : SeriesKind) (range : BucketRange) : Except SeriesError Moer :=
  if range.isEmpty then .ok .zero else s.average kind range

end CarbonSeries

end CarbonAware
