import CarbonAware.Quantity

/-!
# Utilisation, power and price of a machine

The power draw is a linear regression on memory and mean utilisation, one for each of the common core counts and one
for all others, and is never negative.  The hourly price is linear in cores and memory.
-/

namespace CarbonAware

/-- Processor utilisation as fractions of the allocated cores. -/
structure Utilization where
  average : Float
  maximum : Float
  /-- The 95th percentile. -/
  p95 : Float
deriving DecidableEq

namespace Utilization

/-- Utilisation given in percent. -/
def ofPercentages (average maximum p95 : Float) : Utilization :=
  ⟨average / 100.0, maximum / 100.0, p95 / 100.0⟩

/-- All statistics scaled by one ratio. -/
def rescaled (u : Utilization) (ratio : Float) : Utilization :=
  ⟨u.average * ratio, u.maximum * ratio, u.p95 * ratio⟩

end Utilization

namespace Machine

/-- The power draw of a machine with whole gigabytes of memory at a mean utilisation. -/
def power (cores ramGigabytes : UInt32) (utilization : Float) : Watts :=
  let ram := ramGigabytes.toFloat
  Quantity.nonNegative ⟨
    match cores with
    | 2 => -12.1318 * ram + 42.1 * utilization + 120.023
    | 4 => -0.792386 * ram + 40.41 * utilization + 23.2432
    | 8 => 42.1392 * utilization + 16.6206
    | _ => -0.0200128 * ram + 188.199 * utilization + 112.653⟩

/-- The on-demand price of a machine. -/
def price (cores ramMegabytes : UInt32) : DollarsPerHour :=
  ⟨-0.0038 + 0.0468 * cores.toFloat + 0.0017 * ramMegabytes.toFloat / 1000.0⟩

end Machine

end CarbonAware
