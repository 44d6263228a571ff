import CarbonAware.Simulation.Run
import CarbonAware.Proofs.Stages

/-!
# What a run leaves of every workload

A scenario settles every workload by itself (`Simulation.settled`).  A run succeeds if and only if the scenario and
the eligibility are valid, the proposals for the eligible workloads succeed, and the series covers all settled
workloads (`Simulation.run_ok_iff`); its outcome then consists of the settled workloads and counts over them
(`Simulation.run_eq_ok`).
-/

namespace CarbonAware

theorem Scenario.validate_ok_iff {scenario : Scenario} : scenario.validate = .ok () ↔
    scenario.rescheduling.validate = .ok () ∧ scenario.adjustment.validate = .ok () := by
  rw [validate, check_eq_ok, mapError_eq_ok]

namespace Outcome

theorem addEmissions_eq_ok {series : CarbonSeries} {totals totals' : Pounds × Pounds} {w : Workload} :
    addEmissions series totals w = .ok totals' ↔ ∃ carbon predicted, w.carbon series .observed = .ok carbon ∧
      w.carbon series .forecast = .ok predicted ∧ totals' = (totals.1 + carbon, totals.2 + predicted) := by
  constructor
  · intro h
    obtain ⟨carbon, hcarbon, hrest⟩ := bind_eq_ok.1 h
    obtain ⟨predicted, hpredicted, hsum⟩ := bind_eq_ok.1 hrest
    cases hsum
    exact ⟨carbon, predicted, mapError_eq_ok.1 hcarbon, mapError_eq_ok.1 hpredicted, rfl⟩
  · rintro ⟨carbon, predicted, hcarbon, hpredicted, rfl⟩
    rw [addEmissions, hcarbon, hpredicted]
    rfl

theorem addEmissions_ok_iff {series : CarbonSeries} (totals : Pounds × Pounds) (w : Workload) :
    (∃ totals', addEmissions series totals w = .ok totals') ↔ w.window.Covered series.length := by
  constructor
  · rintro ⟨totals', h⟩
    obtain ⟨carbon, hcarbon, -⟩ := bind_eq_ok.1 h
    obtain ⟨rate, hrate, -⟩ := map_eq_ok.1 (mapError_eq_ok.1 hcarbon)
    exact Workload.averageRate_ok_iff.1 ⟨rate, hrate⟩
  · intro h
    have hcarbon (kind : SeriesKind) : w.carbon series kind = .ok _ :=
      map_eq_ok.2 ⟨_, Workload.averageRate_eq h kind, rfl⟩
    rw [addEmissions, hcarbon, hcarbon]
    exact ⟨_, rfl⟩

theorem aggregate_ok_iff {scenario : String} {series : CarbonSeries} {workloads : List Workload} {delays : Delays}
    {adjusted : Nat} : (∃ o, aggregate scenario series workloads delays adjusted = .ok o) ↔
      ∀ w ∈ workloads, w.window.Covered series.length := by
  rw [← foldlM_ok_iff addEmissions_ok_iff workloads (Quantity.zero, Quantity.zero)]
  constructor
  · rintro ⟨o, h⟩
    obtain ⟨totals, htotals, -⟩ := bind_eq_ok.1 h
    exact ⟨totals, htotals⟩
  · rintro ⟨totals, htotals⟩
    exact ⟨_, bind_eq_ok.2 ⟨totals, htotals, rfl⟩⟩

end Outcome

namespace Simulation

variable (s : Simulation)

/-! ### What becomes of one workload -/

/-- What a rescheduling policy proposes in the run. -/
def proposals (r : Rescheduling) : WindowSearch :=
  r.proposals s.series (r.runs s.series) (Decisions.mk s.seed |>.salted reschedulingSalt)

/-- The workload after the rescheduling stage. -/
def rescheduled (r : Rescheduling) (w : Workload) : Workload :=
  w.inWindow (destination? s.eligibility.contains (s.proposals r) w)

/-- The workload after the adjustment stage. -/
def adjusted (a : Adjustment) (w : Workload) : Adjusted :=
  a.applyOwn (Decisions.mk s.seed |>.salted adjustmentSalt) w

/-- The workload as the scenario leaves it. -/
def settled (scenario : Scenario) (w : Workload) : Adjusted :=
  s.adjusted scenario.adjustment (s.rescheduled scenario.rescheduling w)

/-- The proposals for the workload succeed, and the series covers it in the end. -/
structure Settles (scenario : Scenario) (w : Workload) : Prop where
  proposed : s.eligibility.contains w = true → ∃ found, s.proposals scenario.rescheduling w = .ok found
  covered : (s.settled scenario w).workload.window.Covered s.series.length

/-- The outcome of a run whose workloads all settle, with the given emissions. -/
def outcomeOf (scenario : Scenario) (carbon predictedCarbon : Pounds) : Outcome where
  scenario := scenario.name
  carbon := carbon
  predictedCarbon := predictedCarbon
  cost := .total (s.workloads.map fun w => (s.settled scenario w).workload.cost)
  waste := .total (s.workloads.map fun w => (s.settled scenario w).workload.waste)
  delays := tally s.eligibility.contains (s.proposals scenario.rescheduling) s.workloads
  adjusted := s.workloads.countP fun w => (s.settled scenario w).changed
  workloads := s.workloads.map fun w => (s.settled scenario w).workload

variable {s : Simulation} {scenario : Scenario}

theorem reschedule_stage {r : Rescheduling}
    (h : ∀ w ∈ s.workloads, s.eligibility.contains w = true → ∃ found, s.proposals r w = .ok found) :
    s.reschedule r =
      (s.workloads.map (s.rescheduled r), .ok (tally s.eligibility.contains (s.proposals r) s.workloads)) :=
  reschedule_eq h

/-- A valid run without a failing proposal totals the settled workloads. -/
private theorem run_eq_aggregate (hscenario : scenario.validate = .ok ())
    (heligibility : s.eligibility.validate = .ok ())
    (h : ∀ w ∈ s.workloads, s.eligibility.contains w = true →
      ∃ found, s.proposals scenario.rescheduling w = .ok found) :
    s.run scenario = Outcome.aggregate scenario.name s.series
      (s.workloads.map fun w => (s.settled scenario w).workload)
      (tally s.eligibility.contains (s.proposals scenario.rescheduling) s.workloads)
      (s.workloads.countP fun w => (s.settled scenario w).changed) := by
  have hsettled : s.adjust scenario.adjustment (s.workloads.map (s.rescheduled scenario.rescheduling)) =
      s.workloads.map (s.settled scenario) := List.map_map
  rw [run, hscenario, heligibility, reschedule_stage h]
  change Outcome.aggregate _ _ _ _ _ = _
  rw [hsettled, List.map_map, List.countP_map]
  rfl

/-! ### Runs that succeed -/

/-- What has to hold for a run to succeed. -/
theorem run_ok_iff : (∃ o, s.run scenario = .ok o) ↔
    scenario.validate = .ok () ∧ s.eligibility.validate = .ok () ∧ ∀ w ∈ s.workloads, s.Settles scenario w := by
  constructor
  · rintro ⟨o, h⟩
    obtain ⟨hscenario, hrest⟩ := check_eq_ok.1 h
    obtain ⟨heligibility, hrest⟩ := check_eq_ok.1 hrest
    obtain ⟨delays, hdelays, -⟩ := bind_eq_ok.1 hrest
    rw [mapError_eq_ok] at hdelays
    have hproposed := (reschedule_ok_iff s.workloads).1 ⟨delays, hdelays⟩
    refine ⟨hscenario, heligibility, fun w hw => ⟨hproposed w hw, ?_⟩⟩
    rw [run_eq_aggregate hscenario heligibility hproposed] at h
    have hcovered := Outcome.aggregate_ok_iff.1 ⟨o, h⟩
    exact hcovered _ (List.mem_map_of_mem hw)
  · rintro ⟨hscenario, heligibility, h⟩
    rw [run_eq_aggregate hscenario heligibility fun w hw => (h w hw).proposed, Outcome.aggregate_ok_iff]
    intro w hw
    obtain ⟨w', hw', rfl⟩ := List.mem_map.1 hw
    exact (h w' hw').covered

/-- The outcome of a run consists of the settled workloads, and of counts and totals over them. -/
theorem run_eq_ok {o : Outcome} (h : s.run scenario = .ok o) :
    o = s.outcomeOf scenario o.carbon o.predictedCarbon := by
  obtain ⟨hscenario, heligibility, hsettles⟩ := run_ok_iff.1 ⟨o, h⟩
  rw [run_eq_aggregate hscenario heligibility fun w hw => (hsettles w hw).proposed] at h
  obtain ⟨totals, -, houtcome⟩ := bind_eq_ok.1 h
  cases houtcome
  simp only [outcomeOf, List.map_map, Function.comp_def]

/-- The emissions of a run are those of the settled workloads, added up in order. -/
theorem emissions_of_run {o : Outcome} (h : s.run scenario = .ok o) :
    (s.workloads.map fun w => (s.settled scenario w).workload).foldlM (Outcome.addEmissions s.series)
      (.zero, .zero) = .ok (o.carbon, o.predictedCarbon) := by
  obtain ⟨hscenario, heligibility, hsettles⟩ := run_ok_iff.1 ⟨o, h⟩
  rw [run_eq_aggregate hscenario heligibility fun w hw => (hsettles w hw).proposed] at h
  obtain ⟨totals, htotals, houtcome⟩ := bind_eq_ok.1 h
  cases houtcome
  exact htotals

/-- A workload that the series covers stays where it is or, if it is eligible, is postponed within the series. -/
theorem rescheduled_cases (s : Simulation) (r : Rescheduling) {w : Workload} (h : w.window.Covered s.series.length) :
    s.rescheduled r w = w ∨ s.eligibility.contains w = true ∧
      ∃ window, w.window.Postponed s.series.length window ∧ s.rescheduled r w = { w with window } := by
  unfold rescheduled destination?
  split
  · rename_i heligible
    obtain ⟨found, hfound, hpostponed⟩ := r.proposals_ok (Decisions.mk s.seed |>.salted reschedulingSalt) h
    rw [proposals, hfound]
    cases found with
    | none => exact .inl rfl
    | some window => exact .inr ⟨heligible, window, hpostponed window rfl, rfl⟩
  · exact .inl rfl

/-- A workload on the grid is at most moved along the grid, and only if it is eligible. -/
theorem rescheduled_of_onGrid (s : Simulation) (r : Rescheduling) {w : Workload}
    (h : w.window.OnGrid s.series.length) :
    ∃ start, w.window.start ≤ start ∧ s.rescheduled r w = w.startingAt start ∧
      (w.startingAt start).window.OnGrid s.series.length ∧
      (s.eligibility.contains w = false → start = w.window.start) := by
  rcases s.rescheduled_cases r h.covered with heq | ⟨heligible, window, hpostponed, heq⟩
  · have hself : w.startingAt w.window.start = w := by rw [Workload.startingAt, Window.startingAt_start]
    exact ⟨w.window.start, le_rfl, by rw [heq, hself], by rw [hself]; exact h, fun _ => rfl⟩
  · obtain ⟨start, hstart, rfl, hgrid⟩ := hpostponed.startingAt_of_onGrid h
    refine ⟨start, hstart, heq, hgrid, fun hineligible => ?_⟩
    rw [heligible] at hineligible
    cases hineligible

theorem settles_of_covered (s : Simulation) (scenario : Scenario) {w : Workload}
    (h : w.window.Covered s.series.length) : s.Settles scenario w := by
  have hrescheduled : (s.rescheduled scenario.rescheduling w).window.Covered s.series.length := by
    rcases s.rescheduled_cases scenario.rescheduling h with heq | ⟨-, window, hpostponed, heq⟩
    · rw [heq]; exact h
    · rw [heq]; exact hpostponed.covered
  constructor
  · intro _
    obtain ⟨found, hfound, -⟩ :=
      scenario.rescheduling.proposals_ok (Decisions.mk s.seed |>.salted reschedulingSalt) h
    exact ⟨found, hfound⟩
  · unfold settled adjusted
    rcases scenario.adjustment.applyOwn_cases (Decisions.mk s.seed |>.salted adjustmentSalt)
      (s.rescheduled scenario.rescheduling w) with heq | ⟨p, -, cores, -, -, heq⟩ | ⟨p, -, seconds, -, heq⟩
    · rw [heq]; exact hrescheduled
    · rw [heq]; exact hrescheduled
    · rw [heq]; exact hrescheduled.truncated seconds

/-- A valid run over workloads that the series covers succeeds. -/
theorem run_ok_of_covered (hscenario : scenario.validate = .ok ()) (heligibility : s.eligibility.validate = .ok ())
    (h : ∀ w ∈ s.workloads, w.window.Covered s.series.length) : ∃ o, s.run scenario = .ok o :=
  run_ok_iff.2 ⟨hscenario, heligibility, fun w hw => s.settles_of_covered scenario (h w hw)⟩

/-! ### A small simulation -/

/-- A series whose rates are lower for three buckets. -/
def dippingSeries : CarbonSeries :=
  ⟨.ofValues #[900, 900, 300, 300, 300, 900], .ofValues #[900, 900, 300, 300, 300, 900], rfl, by decide, by decide⟩

/-- A machine of eight cores that is mostly idle. -/
def idleMachine (id : UInt32) (start length : Nat) : Workload where
  id := id
  window := .ofBuckets start length
  traceWindow := .ofBuckets start length
  runtime := length * bucketSeconds
  cores := 8
  ramMegabytes := 32000
  utilization := ⟨0.0125, 0.2, 0.15⟩

/-- Two idle machines, of which the second runs too briefly to be moved. -/
def twoMachines : Simulation := ⟨dippingSeries, [idleMachine 1 0 2, idleMachine 2 1 1], ⟨600, 86100⟩, 7⟩

theorem twoMachines_onGrid : ∀ w ∈ twoMachines.workloads, w.window.OnGrid twoMachines.series.length := by
  intro w hw
  rcases List.mem_pair.1 hw with rfl | rfl
  · exact Window.onGrid_ofBuckets (by decide)
  · exact Window.onGrid_ofBuckets (by decide)

end Simulation

end CarbonAware
