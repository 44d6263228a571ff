import CarbonAware.Proofs.Outcomes

/-!
# The two stages of a scenario do not interfere

On the grid a scenario leaves of a workload what its adjustment policy alone leaves, moved to where its rescheduling
policy alone moves the workload (`Simulation.settled_of_onGrid`).  So the outcome of the scenario is put together from
the outcomes of its two halves (`Simulation.run_factors`).
-/

namespace CarbonAware

/-- The workload placed as in `moved` and sized as in `sized`. -/
def Workload.combined (w moved sized : Workload) : Workload :=
  { w with
    window := sized.window.startingAt moved.window.start
    cores := sized.cores
    utilization := sized.utilization }

/-- An outcome over the workloads that takes the placing from `moved` and the sizing from `sized`. -/
structure Outcome.Factors (workloads : List Workload) (both moved sized : Outcome) : Prop where
  length_moved : moved.workloads.length = workloads.length
  length_sized : sized.workloads.length = workloads.length
  workloads : both.workloads = List.zipWith3 Workload.combined workloads moved.workloads sized.workloads
  delays : both.delays = moved.delays
  adjusted : both.adjusted = sized.adjusted
  cost : both.cost = sized.cost
  waste : both.waste = sized.waste

private theorem zipWith3_map {α β γ δ : Type} (f : α → β → γ → δ) (g : α → β) (h : α → γ) (l : List α) :
    List.zipWith3 f l (l.map g) (l.map h) = l.map fun a => f a (g a) (h a) := by
  induction l with
  | nil => rfl
  | cons a l ih => rw [List.map_cons, List.map_cons, List.zipWith3, ih, List.map_cons]

/-- An adjustment changes nothing but the window and the sizing. -/
private theorem Adjustment.applyOwn_combined (a : Adjustment) (decisions : Decisions) (w moved : Workload) :
    w.combined moved (a.applyOwn decisions w).workload =
      (a.applyOwn decisions w).workload.startingAt moved.window.start := by
  rcases a.applyOwn_cases decisions w with heq | ⟨p, -, cores, -, -, heq⟩ | ⟨p, -, seconds, -, heq⟩
  · rw [heq]; rfl
  · rw [heq]; rfl
  · rw [heq]; rfl

namespace Simulation

variable {s : Simulation}

private theorem rescheduled_none (w : Workload) : s.rescheduled .none w = w := by
  unfold rescheduled destination?
  split <;> rfl

/-- On the grid, a scenario leaves what its adjustment policy alone leaves, moved along the grid. -/
theorem settled_of_onGrid (scenario : Scenario) {w : Workload} (h : w.window.OnGrid s.series.length) :
    s.settled scenario w =
      ⟨(s.adjusted scenario.adjustment w).workload.startingAt (s.rescheduled scenario.rescheduling w).window.start,
        (s.adjusted scenario.adjustment w).changed⟩ := by
  obtain ⟨start, -, hmoved, hgrid, -⟩ := s.rescheduled_of_onGrid scenario.rescheduling h
  rw [settled, hmoved, adjusted, Adjustment.applyOwn_startingAt s.series.length_le h hgrid]
  rfl

private theorem settled_combined (r : Rescheduling) (a : Adjustment) {w : Workload}
    (h : w.window.OnGrid s.series.length) :
    (s.settled ⟨r, a⟩ w).workload =
      w.combined (s.settled ⟨r, .none⟩ w).workload (s.settled ⟨.none, a⟩ w).workload := by
  have hmoved : (s.settled ⟨r, .none⟩ w).workload = s.rescheduled r w := rfl
  have hsized : (s.settled ⟨.none, a⟩ w).workload = (s.adjusted a w).workload := by
    rw [settled, rescheduled_none]
  rw [hmoved, hsized, settled_of_onGrid ⟨r, a⟩ h, adjusted, a.applyOwn_combined]

/-- A scenario sizes a workload on the grid as its adjustment policy alone does. -/
private theorem settled_sized (r : Rescheduling) (a : Adjustment) {w : Workload}
    (h : w.window.OnGrid s.series.length) :
    (s.settled ⟨r, a⟩ w).changed = (s.settled ⟨.none, a⟩ w).changed ∧
      (s.settled ⟨r, a⟩ w).workload.cost = (s.settled ⟨.none, a⟩ w).workload.cost ∧
      (s.settled ⟨r, a⟩ w).workload.waste = (s.settled ⟨.none, a⟩ w).workload.waste := by
  have hsized : s.settled ⟨.none, a⟩ w = s.adjusted a w := by rw [settled, rescheduled_none]
  rw [hsized, settled_of_onGrid ⟨r, a⟩ h, Workload.cost_startingAt, Workload.waste_startingAt]
  exact ⟨rfl, rfl, rfl⟩

private theorem factors_of_run {r : Rescheduling} {a : Adjustment} {both moved sized : Outcome}
    (hgrid : ∀ w ∈ s.workloads, w.window.OnGrid s.series.length) (hboth : s.run ⟨r, a⟩ = .ok both)
    (hmoved : s.run ⟨r, .none⟩ = .ok moved) (hsized : s.run ⟨.none, a⟩ = .ok sized) :
    both.Factors s.workloads moved sized := by
  rw [run_eq_ok hboth, run_eq_ok hmoved, run_eq_ok hsized]
  constructor
  · exact List.length_map _
  · exact List.length_map _
  · simp only [outcomeOf]
    rw [zipWith3_map]
    exact List.map_congr_left fun w hw => settled_combined r a (hgrid w hw)
  · rfl
  · exact List.countP_congr fun w hw => by rw [(settled_sized r a (hgrid w hw)).1]
  · exact congrArg Quantity.total (List.map_congr_left fun w hw => (settled_sized r a (hgrid w hw)).2.1)
  · exact congrArg Quantity.total (List.map_congr_left fun w hw => (settled_sized r a (hgrid w hw)).2.2)

/--
A scenario of two valid policies factorises.  Over workloads on the grid, the scenario and its two halves succeed, and
the outcome of the scenario takes the starts and the delays from the rescheduling half, and everything else that a
policy changes, the cost and the waste from the adjustment half.
-/
theorem run_factors (s : Simulation) (r : Rescheduling) (a : Adjustment)
    (heligibility : s.eligibility.validate = .ok ()) (hr : r.validate = .ok ()) (ha : a.validate = .ok ())
    (hgrid : ∀ w ∈ s.workloads, w.window.OnGrid s.series.length) :
    ∃ both moved sized, s.run ⟨r, a⟩ = .ok both ∧ s.run ⟨r, .none⟩ = .ok moved ∧ s.run ⟨.none, a⟩ = .ok sized ∧
      both.Factors s.workloads moved sized := by
  have hok (r : Rescheduling) (a : Adjustment) (hr : r.validate = .ok ()) (ha : a.validate = .ok ()) :
      ∃ o, s.run ⟨r, a⟩ = .ok o :=
    run_ok_of_covered (Scenario.validate_ok_iff.2 ⟨hr, ha⟩) heligibility fun w hw => (hgrid w hw).covered
  obtain ⟨both, hboth⟩ := hok r a hr ha
  obtain ⟨moved, hmoved⟩ := hok r .none hr rfl
  obtain ⟨sized, hsized⟩ := hok .none a rfl ha
  exact ⟨both, moved, sized, hboth, hmoved, hsized, factors_of_run hgrid hboth hmoved hsized⟩

theorem run_factors_twoMachines : ∃ both moved sized,
    twoMachines.run ⟨.movingAverage default, .shutdown default⟩ = .ok both ∧
    twoMachines.run ⟨.movingAverage default, .none⟩ = .ok moved ∧
    twoMachines.run ⟨.none, .shutdown default⟩ = .ok sized ∧ both.Factors twoMachines.workloads moved sized :=
  run_factors twoMachines (.movingAverage default) (.shutdown default) (by decide) (by decide) (by decide)
    twoMachines_onGrid

end Simulation

end CarbonAware
