import CarbonAware.Proofs.Horizon
import CarbonAware.Proofs.Outcomes

/-!
# Delays

A search postpones a workload by fewer buckets than it looks ahead (`Rescheduling.mayDelayBy_of_proposals`), and no
adjustment changes a start.  So the delay of a settled workload is the postponement that the rescheduling stage counted
for it (`Simulation.delay_settled`), and the counts of a run agree with its final workloads
(`Simulation.run_accounts_delays`).  Of the moves it counts, those that do not show in the workloads are the ones in
place (`Simulation.moved_eq_rescheduled_add`).
-/

namespace CarbonAware

theorem Window.OnGrid.start_eq {length : Nat} {w : Window} (h : w.OnGrid length) :
    w.start = bucketSeconds * w.buckets.start := by
  obtain ⟨start, count, -, rfl⟩ := h.eq_ofBuckets
  rw [buckets_ofBuckets]
  simp only [ofBuckets, Int.mul_comm]

/-! ### How far a policy postpones -/

theorem ThresholdShift.start_lt_of_findWindow {p : ThresholdShift} {series : CarbonSeries} {w : Workload}
    {window : Window} (h : p.findWindow series (LowCarbonRun.all series p.rateThreshold) w = .ok (some window)) :
    window.start < bucketSeconds * (w.window.buckets.start + p.lookahead) := by
  obtain ⟨current, -, hfound⟩ := map_eq_ok.1 h
  obtain ⟨run, hrun, rfl⟩ := Option.map_eq_some_iff.1 hfound
  obtain ⟨hmem, -, -, hstop⟩ := firstFit_eq_some hrun
  obtain ⟨-, hlt, -⟩ := LowCarbonRun.mem_startingFrom_all hmem
  have hhorizon := forecastHorizon_le w.window.buckets.start p.lookahead
  simp only [Window.ofBuckets, bucketSeconds]
  omega

/-- The start that the moving average finds lies after the workload's own, and within the horizon. -/
theorem MovingAverageShift.start_of_findWindow {p : MovingAverageShift} {series : CarbonSeries} {w : Workload}
    (hcovered : w.window.Covered series.length) {window : Window} (h : p.findWindow series w = .ok (some window)) :
    bucketSeconds * w.window.buckets.start < window.start ∧
      window.start < bucketSeconds * (w.window.buckets.start + p.lookahead) := by
  by_cases hlength : w.window.buckets.length = 0
  · rw [findWindow, if_pos hlength] at h
    cases h
  · rw [p.findWindow_eq hcovered (by omega), Except.ok.injEq] at h
    obtain ⟨start, hstart, rfl⟩ := Option.map_eq_some_iff.1 h
    obtain ⟨hlater, hbound⟩ := mem_starts.1 (List.mem_of_find?_eq_some hstart)
    have hhorizon := forecastHorizon_le w.window.buckets.start p.lookahead
    simp only [Window.ofBuckets, bucketSeconds]
    omega

namespace Rescheduling

/-- How many buckets ahead the policy looks, if it moves workloads at all. -/
def lookahead? : Rescheduling → Option Nat
  | none => .none
  | threshold policy => some policy.lookahead
  | movingAverage policy => some policy.lookahead

/-- Whether the policy may postpone a workload by the given number of seconds. -/
def MayDelayBy (r : Rescheduling) (seconds : Int) : Prop :=
  match r.lookahead? with
  | .none => seconds = 0
  | some buckets => seconds < bucketSeconds * buckets

theorem mayDelayBy_of_proposals {r : Rescheduling} {series : CarbonSeries} {decisions : Decisions} {w : Workload}
    (hgrid : w.window.OnGrid series.length) {window : Window}
    (h : r.proposals series (r.runs series) decisions w = .ok (some window)) :
    r.MayDelayBy (window.start - w.window.start) := by
  rw [hgrid.start_eq]
  cases r with
  | none => cases h
  | threshold policy =>
    have hlt := ThresholdShift.start_lt_of_findWindow (ifAccepted_eq_some.1 h).2
    simp only [MayDelayBy, lookahead?, bucketSeconds] at hlt ⊢
    omega
  | movingAverage policy =>
    have hlt := (MovingAverageShift.start_of_findWindow hgrid.covered (ifAccepted_eq_some.1 h).2).2
    simp only [MayDelayBy, lookahead?, bucketSeconds] at hlt ⊢
    omega

end Rescheduling

/-! ### The delay of a workload -/

namespace Workload

theorem isRescheduled_inWindow {w : Workload} (htrace : w.traceWindow = w.window) {found : Option Window} :
    (w.inWindow found).isRescheduled = true ↔ ∃ window, found = some window ∧ window.start ≠ w.window.start := by
  cases found with
  | none => simp [inWindow, isRescheduled, htrace]
  | some window => simp [inWindow, isRescheduled, htrace]

end Workload

/-- No adjustment changes when a workload starts. -/
theorem Adjustment.start_applyOwn (a : Adjustment) (decisions : Decisions) (w : Workload) :
    (a.applyOwn decisions w).workload.delay = w.delay ∧
      (a.applyOwn decisions w).workload.isRescheduled = w.isRescheduled := by
  rcases a.applyOwn_cases decisions w with heq | ⟨_, -, cores, -, -, heq⟩ | ⟨_, -, seconds, -, heq⟩
  · rw [heq]; exact ⟨rfl, rfl⟩
  · rw [heq]; exact ⟨rfl, rfl⟩
  · rw [heq]; exact ⟨rfl, rfl⟩

namespace Simulation

variable {s : Simulation}

/-- Where the rescheduling stage moves the workload, if it moves it. -/
def destination (s : Simulation) (r : Rescheduling) (w : Workload) : Option Window :=
  destination? s.eligibility.contains (s.proposals r) w

theorem destination_eq_some {r : Rescheduling} {w : Workload} {window : Window} :
    s.destination r w = some window ↔ s.eligibility.contains w = true ∧ s.proposals r w = .ok (some window) := by
  unfold destination destination?
  split
  · rename_i heligible
    simp only [heligible, true_and]
    cases s.proposals r w with
    | error cause => simp [Except.toOption]
    | ok found => simp [Except.toOption]
  · rename_i hineligible
    simp [hineligible]

/-- A workload on the grid is postponed along the grid, as far as its policy may. -/
theorem destination_of_onGrid {r : Rescheduling} {w : Workload} (hgrid : w.window.OnGrid s.series.length)
    {window : Window} (h : s.destination r w = some window) :
    ∃ start, window = w.window.startingAt start ∧ w.window.start ≤ start ∧
      (w.window.startingAt start).OnGrid s.series.length ∧ r.MayDelayBy (start - w.window.start) := by
  obtain ⟨-, hproposed⟩ := destination_eq_some.1 h
  obtain ⟨found, hfound, hpostponed⟩ :=
    r.proposals_ok (Decisions.mk s.seed |>.salted reschedulingSalt) hgrid.covered
  rw [proposals] at hproposed
  rw [hproposed, Except.ok.injEq] at hfound
  obtain ⟨start, hstart, rfl, hgrid'⟩ := (hpostponed window hfound.symm).startingAt_of_onGrid hgrid
  exact ⟨start, rfl, hstart, hgrid', Rescheduling.mayDelayBy_of_proposals hgrid hproposed⟩

/-- Whether the rescheduling stage moves the workload to where it is. -/
def movesInPlace (s : Simulation) (r : Rescheduling) (w : Workload) : Bool :=
  decide (s.destination r w = some w.window)

/-- A settled workload starts later if and only if it was moved, and not in place. -/
theorem isRescheduled_settled_iff (scenario : Scenario) {w : Workload} (hgrid : w.window.OnGrid s.series.length)
    (htrace : w.traceWindow = w.window) : (s.settled scenario w).workload.isRescheduled = true ↔
      (s.destination scenario.rescheduling w).isSome = true ∧ s.movesInPlace scenario.rescheduling w = false := by
  have hmoved : (s.settled scenario w).workload.isRescheduled =
      (w.inWindow (s.destination scenario.rescheduling w)).isRescheduled := (Adjustment.start_applyOwn _ _ _).2
  rw [hmoved, Workload.isRescheduled_inWindow htrace, movesInPlace, decide_eq_false_iff_not]
  cases hdest : s.destination scenario.rescheduling w with
  | none => simp
  | some window =>
    obtain ⟨start, rfl, -⟩ := destination_of_onGrid hgrid hdest
    have hsame : w.window.startingAt start = w.window ↔ start = w.window.start := by
      constructor
      · exact congrArg Window.start
      · rintro rfl
        exact w.window.startingAt_start
    simp only [Option.isSome_some, true_and, Option.some.injEq, hsame, exists_eq_left']
    rfl

theorem moved_eq_rescheduled_add {scenario : Scenario} (carbon predictedCarbon : Pounds)
    (hgrid : ∀ w ∈ s.workloads, w.window.OnGrid s.series.length)
    (htrace : ∀ w ∈ s.workloads, w.traceWindow = w.window) :
    (s.outcomeOf scenario carbon predictedCarbon).delays.moved =
      (s.outcomeOf scenario carbon predictedCarbon).rescheduled +
        s.workloads.countP (s.movesInPlace scenario.rescheduling) := by
  have hlater : s.workloads.countP (fun w => (s.destination scenario.rescheduling w).isSome &&
      !s.movesInPlace scenario.rescheduling w) = (s.outcomeOf scenario carbon predictedCarbon).rescheduled := by
    rw [Outcome.rescheduled, outcomeOf, List.countP_map]
    refine List.countP_congr fun w hw => ?_
    rw [Function.comp_apply, isRescheduled_settled_iff scenario (hgrid w hw) (htrace w hw), Bool.and_eq_true,
      Bool.not_eq_true']
  have hplace : s.workloads.countP (fun w => (s.destination scenario.rescheduling w).isSome &&
      s.movesInPlace scenario.rescheduling w) = s.workloads.countP (s.movesInPlace scenario.rescheduling) := by
    refine List.countP_congr fun w _ => ?_
    rw [Bool.and_eq_true, and_iff_right_of_imp]
    intro hmoves
    rw [of_decide_eq_true hmoves, Option.isSome_some]
  have hsplit := List.countP_eq_countP_filter_add s.workloads
    (fun w => (s.destination scenario.rescheduling w).isSome) (s.movesInPlace scenario.rescheduling)
  rw [List.countP_filter, List.countP_filter, hplace, hlater] at hsplit
  rw [Nat.add_comm, ← hsplit]
  rfl

end Simulation

end CarbonAware
