import CarbonAware.Proofs.Outcomes

/-!
# What every scenario preserves

`Simulation.Preserves` lists what a scenario keeps of a workload, and how far it may go in what it changes.  Moving a
workload along the grid and adjusting it each stay within these bounds, and so does a run on all of its workloads
(`Simulation.run_preserves`).
-/

namespace CarbonAware

namespace Simulation

/-- How a workload may differ after a scenario. -/
structure Preserves (s : Simulation) (scenario : Scenario) (before after : Workload) : Prop where
  id : after.id = before.id
  traceWindow : after.traceWindow = before.traceWindow
  runtime : after.runtime = before.runtime
  ramMegabytes : after.ramMegabytes = before.ramMegabytes
  cores_le : after.cores ≤ before.cores
  /-- Only a core reduction changes the cores, and to a listed number. -/
  cores_mem : after.cores ≠ before.cores →
    ∃ policy, scenario.adjustment = .coreReduction policy ∧ after.cores ∈ policy.coreCounts
  aligned : after.window.isAligned = true
  start_le : before.window.start ≤ after.window.start
  duration_le : after.window.duration ≤ before.window.duration
  stop_le : after.window.stop ≤ bucketSeconds * s.series.length
  /-- Only a shutdown changes the duration. -/
  shutdown_of_duration_ne : after.window.duration ≠ before.window.duration →
    ∃ policy, scenario.adjustment = .shutdown policy
  /-- Only an eligible workload is postponed. -/
  start_eq_of_ineligible : s.eligibility.contains before = false → after.window.start = before.window.start

variable {s : Simulation} {scenario : Scenario}

/-- The rescheduling stage: the workload is moved along the grid. -/
private theorem preserves_startingAt {w : Workload} {start : Int} (hstart : w.window.start ≤ start)
    (hgrid : (w.startingAt start).window.OnGrid s.series.length)
    (hineligible : s.eligibility.contains w = false → start = w.window.start) :
    s.Preserves scenario w (w.startingAt start) where
  id := rfl
  traceWindow := rfl
  runtime := rfl
  ramMegabytes := rfl
  cores_le := UInt32.le_refl _
  cores_mem := fun h => absurd rfl h
  aligned := hgrid.aligned
  start_le := hstart
  duration_le := le_of_eq (w.window.duration_startingAt start)
  stop_le := hgrid.stop_le
  shutdown_of_duration_ne := fun h => absurd (w.window.duration_startingAt start) h
  start_eq_of_ineligible := hineligible

/-- A core reduction after the rescheduling stage. -/
private theorem Preserves.reduced {w moved : Workload} (h : s.Preserves scenario w moved) {policy : CoreReduction}
    (hpolicy : scenario.adjustment = .coreReduction policy) {cores : UInt32} (hmem : cores ∈ policy.coreCounts)
    (hfewer : cores < moved.cores) (utilization : Utilization) :
    s.Preserves scenario w { moved with cores, utilization } :=
  { h with
    cores_le := UInt32.le_trans (UInt32.le_of_lt hfewer) h.cores_le
    cores_mem := fun _ => ⟨policy, hpolicy, hmem⟩ }

/-- A shutdown after the rescheduling stage. -/
private theorem Preserves.truncated {w moved : Workload} (h : s.Preserves scenario w moved) {policy : Shutdown}
    (hpolicy : scenario.adjustment = .shutdown policy) (hgrid : moved.window.OnGrid s.series.length) {seconds : Int}
    (hseconds : |seconds| ≤ 2 ^ 60) (utilization : Utilization) :
    s.Preserves scenario w { moved with window := moved.window.truncated seconds, utilization } :=
  { h with
    aligned := hgrid.truncated_isAligned s.series.length_le hseconds
    duration_le := le_trans (hgrid.duration_truncated s.series.length_le hseconds).1 h.duration_le
    stop_le := le_trans (moved.window.truncated_stop_le seconds) h.stop_le
    shutdown_of_duration_ne := fun _ => ⟨policy, hpolicy⟩ }

/-- A scenario keeps a workload on the grid within the bounds. -/
theorem preserves_settled (s : Simulation) (scenario : Scenario) {w : Workload}
    (h : w.window.OnGrid s.series.length) : s.Preserves scenario w (s.settled scenario w).workload := by
  obtain ⟨start, hstart, hmoved, hgrid, hineligible⟩ := s.rescheduled_of_onGrid scenario.rescheduling h
  have hpreserves : s.Preserves scenario w (w.startingAt start) := preserves_startingAt hstart hgrid hineligible
  rw [settled, hmoved, adjusted]
  rcases scenario.adjustment.applyOwn_cases (Decisions.mk s.seed |>.salted adjustmentSalt) (w.startingAt start) with
    heq | ⟨policy, hpolicy, cores, hmem, hfewer, heq⟩ | ⟨policy, hpolicy, seconds, hseconds, heq⟩
  · rw [heq]; exact hpreserves
  · rw [heq]; exact hpreserves.reduced hpolicy hmem hfewer _
  · rw [heq]; exact hpreserves.truncated hpolicy hgrid hseconds _

/-- A valid run over workloads on the grid leaves as many workloads in the same order, each within the bounds. -/
theorem run_preserves (s : Simulation) (scenario : Scenario) (hscenario : scenario.validate = .ok ())
    (heligibility : s.eligibility.validate = .ok ()) (hgrid : ∀ w ∈ s.workloads, w.window.OnGrid s.series.length) :
    ∃ o, s.run scenario = .ok o ∧ List.Forall₂ (s.Preserves scenario) s.workloads o.workloads := by
  obtain ⟨o, ho⟩ := run_ok_of_covered hscenario heligibility fun w hw => (hgrid w hw).covered
  refine ⟨o, ho, ?_⟩
  rw [run_eq_ok ho]
  simp only [outcomeOf]
  rw [List.forall₂_map_right_iff, List.forall₂_same]
  exact fun w hw => s.preserves_settled scenario (hgrid w hw)

theorem run_preserves_twoMachines :
    let policy : CoreReduction := { (default : CoreReduction) with wasteThreshold := .zero }
    let scenario : Scenario := ⟨.threshold default, .coreReduction policy⟩
    ∃ o, twoMachines.run scenario = .ok o ∧
      List.Forall₂ (twoMachines.Preserves scenario) twoMachines.workloads o.workloads :=
  run_preserves twoMachines _ (by decide) (by decide) twoMachines_onGrid

end Simulation

end CarbonAware
