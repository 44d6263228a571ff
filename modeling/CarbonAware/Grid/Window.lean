import CarbonAware.Quantity

/-!
# Run windows

Time is measured in seconds since the trace epoch and divided into buckets of five minutes.  A `Window` is a
half-open interval of seconds; `Window.buckets` is the range of buckets that it covers, and `Window.ofBuckets` the
window of a range.  A range may also be given in words of 64 bits (`Window.ofBucketWords`), so that words count down
from the epoch as well as up.

Seconds are signed numbers of 64 bits.  As in a build without overflow checks, a sum or a difference that is no such
number wraps around.  The boundaries of the buckets of a series are far from doing so.
-/

namespace CarbonAware

/-- The seconds of one bucket. -/
def bucketSeconds : Int := 300

/-- The buckets from `start` up to, but not including, `stop`. -/
structure BucketRange where
  start : Nat
  stop : Nat
deriving DecidableEq, Repr

namespace BucketRange

/-- The number of buckets of the range. -/
def length (r : BucketRange) : Nat := r.stop - r.start

def isEmpty (r : BucketRange) : Bool := r.stop ≤ r.start

def text (r : BucketRange) : String := s!"{r.start}..{r.stop}"

end BucketRange

/-- The seconds from `start` up to, but not including, `stop`. -/
structure Window where
  start : Int
  stop : Int
deriving DecidableEq, Repr

namespace Window

/-- The last bucket boundary at or before the given second. -/
def floor (seconds : Int) : Int := Numeral.wrapInt64 (seconds / bucketSeconds * bucketSeconds)

/-- The window with both ends moved down to a bucket boundary. -/
def aligned (start stop : Int) : Window := ⟨floor start, floor stop⟩

/-- The window of the `length` buckets of a series from the bucket `start` on. -/
def ofBuckets (start length : Int) : Window := ⟨start * bucketSeconds, (start + length) * bucketSeconds⟩

/--
The window of a range given in words, each of which stands for the signed number with the same bits; buckets before
the epoch have negative numbers.
-/
def ofBucketWords (start length : UInt64) : Window :=
  let window := ofBuckets start.toInt64.toInt length.toInt64.toInt
  ⟨Numeral.wrapInt64 window.start, Numeral.wrapInt64 window.stop⟩

def duration (w : Window) : Int := Numeral.wrapInt64 (w.stop - w.start)

def hours (w : Window) : Hours := Quantity.ofSeconds w.duration

/-- Whether both ends are bucket boundaries. -/
def isAligned (w : Window) : Bool := w.start % bucketSeconds == 0 && w.stop % bucketSeconds == 0

/-- The bucket of the given second; seconds before the epoch belong to the first bucket. -/
def bucketOf (seconds : Int) : Nat := (max seconds 0 / bucketSeconds).toNat

/-- The buckets from that of the start to that of the end, none if the window ends before it starts. -/
def buckets (w : Window) : BucketRange := ⟨bucketOf w.start, max (bucketOf w.stop) (bucketOf w.start)⟩

/-- The window cut down to at most `seconds` seconds, the cut moved down to a bucket boundary. -/
def truncated (w : Window) (seconds : Int) : Window :=
  ⟨w.start, min (floor (Numeral.wrapInt64 (w.start + seconds))) w.stop⟩

def text (w : Window) : String := s!"[{w.start}, {w.stop})"

def compactText (w : Window) : String := s!"{w.start}..{w.stop}"

end Window

end CarbonAware
