import CarbonAware.Proofs.FirstFit
import CarbonAware.Proofs.Postponements

/-!
# Moves that lead nowhere

A threshold policy takes the first fitting run at or after the workload's start.  If that run starts right there, the
workload is moved to its own window (`ThresholdShift.findWindow_own_iff`): the pass counts a move, but the workload
starts as before.  Such moves in place are all that the two counts of a run differ by
(`Simulation.run_counts_moves_in_place`).
-/

namespace CarbonAware

theorem Window.OnGrid.ofBuckets_eq {length : Nat} {w : Window} (h : w.OnGrid length) :
    ofBuckets w.buckets.start w.buckets.length = w := by
  obtain ⟨start, count, -, rfl⟩ := h.eq_ofBuckets
  have hcount : start + count - start = count := by omega
  rw [buckets_ofBuckets, BucketRange.length, hcount]

/-! ### A run at the workload's own start -/

namespace ThresholdShift

/-- The policy would move the workload into the run from the workload's own first bucket up to `stop`. -/
structure OwnRun (p : ThresholdShift) (series : CarbonSeries) (w : Workload) (stop : Nat) : Prop where
  closed : LowCarbonRun.IsClosed series p.rateThreshold ⟨w.window.buckets.start, stop⟩
  within : stop ≤ forecastHorizon w.window.buckets.start p.lookahead
  long_enough : w.window.buckets.length ≤ stop - w.window.buckets.start
  lower : ∃ current, w.averageRate series .forecast = .ok current ∧
    ¬ current ≤ series.meanOver .forecast ⟨w.window.buckets.start, stop⟩

private theorem fits_own_iff {p : ThresholdShift} {series : CarbonSeries} {w : Workload} {stop : Nat} :
    p.Fits series w ⟨w.window.buckets.start, stop⟩ ↔ p.OwnRun series w stop := by
  constructor
  · rintro ⟨hclosed, -, hwithin, hlong, mean, current, hmean, hcurrent, hlower⟩
    rw [hclosed.average_eq, Except.ok.injEq] at hmean
    exact ⟨hclosed, hwithin, hlong, current, hcurrent, Quantity.not_le.2 (hmean ▸ hlower)⟩
  · rintro ⟨hclosed, hwithin, hlong, current, hcurrent, hlower⟩
    exact ⟨hclosed, Nat.le_refl _, hwithin, hlong, _, current, hclosed.average_eq, hcurrent, Quantity.not_le.1 hlower⟩

/-- The search finds the workload's own window if and only if a run that the policy takes starts there. -/
theorem findWindow_own_iff {p : ThresholdShift} {series : CarbonSeries} {w : Workload}
    (hgrid : w.window.OnGrid series.length) :
    p.findWindow series (LowCarbonRun.all series p.rateThreshold) w = .ok (some w.window) ↔
      ∃ stop, p.OwnRun series w stop := by
  rw [findWindow_eq_some_iff]
  constructor
  · rintro ⟨⟨start, stop⟩, hfirst, hwindow⟩
    have hstart := congrArg (fun window => window.buckets.start) hwindow
    rw [Window.buckets_ofBuckets] at hstart
    obtain rfl : w.window.buckets.start = start := hstart
    exact ⟨stop, fits_own_iff.1 hfirst.fits⟩
  · -- no run starts before the workload, so one that starts with it is the first
    rintro ⟨stop, hown⟩
    refine ⟨⟨w.window.buckets.start, stop⟩, ⟨fits_own_iff.2 hown, fun other hother => hother.not_before⟩, ?_⟩
    exact hgrid.ofBuckets_eq.symm

end ThresholdShift

/-! ### The moves of a run -/

namespace Simulation

variable {s : Simulation}

/-- A threshold policy accepts the eligible workload, and takes a run that starts where the workload does. -/
def TakesOwnRun (s : Simulation) (r : Rescheduling) (w : Workload) : Prop :=
  ∃ p, r = .threshold p ∧ s.eligibility.contains w = true ∧
    (p.acceptance.draw ((Decisions.mk s.seed |>.salted reschedulingSalt).generator w.id)).1 = true ∧
    ∃ stop, p.OwnRun s.series w stop

/-- Only the threshold policy moves a workload to where it is. -/
theorem movesInPlace_iff {r : Rescheduling} {w : Workload} (hgrid : w.window.OnGrid s.series.length) :
    s.movesInPlace r w = true ↔ s.TakesOwnRun r w := by
  rw [movesInPlace, decide_eq_true_eq, destination_eq_some]
  cases r with
  | none =>
    constructor
    · rintro ⟨-, hfound⟩
      cases hfound
    · rintro ⟨p, hp, -⟩
      cases hp
  | threshold policy =>
    have hproposed : s.proposals (.threshold policy) w = .ok (some w.window) ↔
        (policy.acceptance.draw ((Decisions.mk s.seed |>.salted reschedulingSalt).generator w.id)).1 = true ∧
          ∃ stop, policy.OwnRun s.series w stop := by
      rw [← ThresholdShift.findWindow_own_iff hgrid]
      exact Rescheduling.ifAccepted_eq_some
    rw [hproposed]
    constructor
    · exact fun h => ⟨policy, rfl, h⟩
    · rintro ⟨p, hp, h⟩
      cases hp
      exact h
  | movingAverage policy =>
    constructor
    · rintro ⟨-, hfound⟩
      -- the moving average tries only later starts
      have hlater := (MovingAverageShift.start_of_findWindow hgrid.covered (Rescheduling.ifAccepted_eq_some.1 hfound).2).1
      rw [← hgrid.start_eq] at hlater
      exact absurd hlater (lt_irrefl _)
    · rintro ⟨p, hp, -⟩
      cases hp

/--
A run counts the workloads that start later, and besides them those that it moved in place.  So the two counts agree if
and only if no workload starts with a run that a threshold policy takes for it.
-/
theorem run_counts_moves_in_place (s : Simulation) (scenario : Scenario) (hscenario : scenario.validate = .ok ())
    (heligibility : s.eligibility.validate = .ok ()) (hgrid : ∀ w ∈ s.workloads, w.window.OnGrid s.series.length)
    (htrace : ∀ w ∈ s.workloads, w.traceWindow = w.window) :
    ∃ o, s.run scenario = .ok o ∧
      o.delays.moved = o.rescheduled + s.workloads.countP (s.movesInPlace scenario.rescheduling) ∧
      (o.delays.moved = o.rescheduled ↔ ∀ w ∈ s.workloads, ¬ s.TakesOwnRun scenario.rescheduling w) := by
  obtain ⟨o, ho⟩ := run_ok_of_covered hscenario heligibility fun w hw => (hgrid w hw).covered
  have hmoved : o.delays.moved = o.rescheduled + s.workloads.countP (s.movesInPlace scenario.rescheduling) := by
    rw [run_eq_ok ho]
    exact moved_eq_rescheduled_add _ _ hgrid htrace
  refine ⟨o, ho, hmoved, ?_⟩
  rw [hmoved, Nat.add_eq_left, List.countP_eq_zero]
  exact forall₂_congr fun w hw => not_congr (movesInPlace_iff (hgrid w hw))

/-- A machine that runs for one bucket, at the start of a run of two. -/
def atOwnRun : Simulation where
  series := ⟨.ofValues #[700, 100, 900], .ofValues #[700, 100, 900], rfl, by decide, by decide⟩
  workloads := [idleMachine 1 0 1]
  eligibility := ⟨0, 86100⟩
  seed := 0

theorem atOwnRun_onGrid : ∀ w ∈ atOwnRun.workloads, w.window.OnGrid atOwnRun.series.length := by
  intro w hw
  obtain rfl := List.mem_singleton.1 hw
  exact Window.onGrid_ofBuckets (by decide)

theorem run_counts_moves_in_place_atOwnRun :
    let scenario : Scenario := ⟨.threshold default, .none⟩
    ∃ o, atOwnRun.run scenario = .ok o ∧
      o.delays.moved = o.rescheduled + atOwnRun.workloads.countP (atOwnRun.movesInPlace scenario.rescheduling) ∧
      o.delays.moved ≠ o.rescheduled := by
  intro scenario
  obtain ⟨o, ho, hmoved, -⟩ := run_counts_moves_in_place atOwnRun scenario (by decide) (by decide) atOwnRun_onGrid
    (List.forall_mem_singleton.2 rfl)
  have hplace : atOwnRun.workloads.countP (atOwnRun.movesInPlace scenario.rescheduling) = 1 := by decide +kernel
  exact ⟨o, ho, hmoved, by omega⟩

/-- The counts of a run may differ: a machine is counted as moved, but starts as in the trace. -/
theorem moved_ne_rescheduled_atOwnRun :
    (∀ w ∈ atOwnRun.workloads, w.window.OnGrid atOwnRun.series.length ∧ w.traceWindow = w.window) ∧
    ∃ o, atOwnRun.run ⟨.threshold default, .none⟩ = .ok o ∧ o.delays.moved = 1 ∧ o.rescheduled = 0 := by
  have hcounts : (atOwnRun.run ⟨.threshold default, .none⟩).toOption.map (fun o => (o.delays.moved, o.rescheduled)) =
      some (1, 0) := by decide +kernel
  obtain ⟨o, ho, hcounts⟩ := toOption_map_eq_some.1 hcounts
  rw [Prod.mk.injEq] at hcounts
  exact ⟨fun w hw => ⟨atOwnRun_onGrid w hw, by rw [List.mem_singleton.1 hw]; rfl⟩, o, ho, hcounts⟩

end Simulation

end CarbonAware
