import CarbonAware.Proofs.Outcomes
import CarbonAware.Proofs.Shutdowns

/-!
# What counts as a change

An adjustment says whether it changed the workload.  It never does so by proposing the workload itself: a core
reduction allots fewer cores, and a shutdown replaces the mean by the peak, which are different numbers if their ratio
above the idle floor exceeds ten (`Adjustment.agrees_proposal`).  So the count of an outcome is the number of workloads
that differ before and after the adjustment stage (`Simulation.changed_iff_differs`).
-/

namespace CarbonAware

/-! ### Workloads that agree -/

namespace Utilization

/-- None of the statistics is `NaN`. -/
structure IsNumber (u : Utilization) : Prop where
  average : u.average.isNaN = false
  maximum : u.maximum.isNaN = false
  p95 : u.p95.isNaN = false

/-- Whether the statistics compare as equal, so that zeros of either sign agree, and `NaN` with nothing. -/
def agrees (u v : Utilization) : Bool := u.average == v.average && u.maximum == v.maximum && u.p95 == v.p95

theorem agrees_self {u : Utilization} (h : u.IsNumber) : u.agrees u = true := by
  simp only [agrees, Numeral.beq_self h.average, Numeral.beq_self h.maximum, Numeral.beq_self h.p95, Bool.and_self]

end Utilization

namespace Workload

/-- Whether all fields are equal, where the statistics compare as floating-point numbers do. -/
def agrees (w v : Workload) : Bool :=
  decide (w.id = v.id ∧ w.window = v.window ∧ w.traceWindow = v.traceWindow ∧ w.runtime = v.runtime ∧
    w.cores = v.cores ∧ w.ramMegabytes = v.ramMegabytes) && w.utilization.agrees v.utilization

theorem agrees_self {w : Workload} (h : w.utilization.IsNumber) : w.agrees w = true := by
  simp only [agrees, Utilization.agrees_self h, and_self, decide_true, Bool.and_true]

end Workload

/-! ### Adjustments that change nothing -/

namespace Adjustment

theorem agrees_proposal {a : Adjustment} {w proposal : Workload} (h : a.proposal? w = some proposal) :
    proposal.agrees w = false := by
  rw [Bool.eq_false_iff]
  intro hagrees
  simp only [Workload.agrees, Utilization.agrees, Bool.and_eq_true, decide_eq_true_eq] at hagrees
  obtain ⟨⟨-, -, -, -, hcores, -⟩, ⟨haverage, -⟩, -⟩ := hagrees
  cases a with
  | none => cases h
  | coreReduction p =>
    obtain ⟨cores, -, hfewer, rfl⟩ := CoreReduction.proposal?_eq_some h
    exact UInt32.lt_irrefl _ (hcores ▸ hfewer)
  | shutdown p =>
    obtain ⟨hratio, rfl⟩ := Shutdown.proposal?_eq_some_iff.1 h
    exact Numeral.not_lt_div_sub (by decide) (by rw [Shutdown.value_minPeakRatio]; norm_num) haverage hratio

theorem changed_iff_agrees (a : Adjustment) {w : Workload} (g : Generator) (h : w.utilization.IsNumber) :
    (a.apply w g).1.changed = true ↔ (a.apply w g).1.workload.agrees w = false := by
  constructor
  · exact fun hchanged => agrees_proposal (proposal?_of_changed hchanged)
  · intro hdiffers
    by_contra hunchanged
    rw [Bool.not_eq_true] at hunchanged
    rw [apply_of_unchanged hunchanged, Workload.agrees_self h] at hdiffers
    cases hdiffers

theorem changed_iff_ne (a : Adjustment) {w : Workload} (g : Generator) (h : w.utilization.IsNumber) :
    (a.apply w g).1.changed = true ↔ (a.apply w g).1.workload ≠ w := by
  constructor
  · intro hchanged heq
    rw [changed_iff_agrees a g h, heq, Workload.agrees_self h] at hchanged
    cases hchanged
  · intro hne
    by_contra hunchanged
    rw [Bool.not_eq_true] at hunchanged
    exact hne (by rw [apply_of_unchanged hunchanged])

end Adjustment

namespace Simulation

variable {s : Simulation} {scenario : Scenario} {o : Outcome}

theorem utilization_rescheduled (s : Simulation) (r : Rescheduling) (w : Workload) :
    (s.rescheduled r w).utilization = w.utilization := by
  unfold rescheduled
  cases destination? s.eligibility.contains (s.proposals r) w <;> rfl

theorem reschedule_of_run (h : s.run scenario = .ok o) :
    (s.reschedule scenario.rescheduling).1 = s.workloads.map (s.rescheduled scenario.rescheduling) := by
  obtain ⟨-, -, hsettles⟩ := run_ok_iff.1 ⟨o, h⟩
  rw [reschedule_stage fun w hw => (hsettles w hw).proposed]

/--
An adjustment says that it changed a workload if and only if the workload is another one afterwards, zeros of either
sign taken as one or not.  So a run counts the workloads that its adjustment stage changed.
-/
theorem changed_iff_differs :
    (∀ (a : Adjustment) (w : Workload) (g : Generator), w.utilization.IsNumber →
      ((a.apply w g).1.changed = true ↔ (a.apply w g).1.workload.agrees w = false) ∧
      ((a.apply w g).1.changed = true ↔ (a.apply w g).1.workload ≠ w)) ∧
    ∀ (s : Simulation) (scenario : Scenario) (o : Outcome), s.run scenario = .ok o →
      (∀ w ∈ s.workloads, w.utilization.IsNumber) →
      (s.reschedule scenario.rescheduling).1.length = o.workloads.length ∧
      o.adjusted = ((s.reschedule scenario.rescheduling).1.zip o.workloads).countP fun (before, after) =>
        !after.agrees before := by
  refine ⟨fun a w g h => ⟨a.changed_iff_agrees g h, a.changed_iff_ne g h⟩, fun s scenario o ho hnumbers => ?_⟩
  have hworkloads : o.workloads = s.workloads.map fun w => (s.settled scenario w).workload := by rw [run_eq_ok ho]; rfl
  have hcount : o.adjusted = s.workloads.countP fun w => (s.settled scenario w).changed := by rw [run_eq_ok ho]; rfl
  rw [reschedule_of_run ho, hworkloads, hcount, List.zip_map', List.countP_map]
  refine ⟨by rw [List.length_map, List.length_map], List.countP_congr fun w hw => ?_⟩
  have hnumber : (s.rescheduled scenario.rescheduling w).utilization.IsNumber := by
    rw [utilization_rescheduled]
    exact hnumbers w hw
  rw [Function.comp_apply, Bool.not_eq_true']
  exact scenario.adjustment.changed_iff_agrees _ hnumber

theorem changed_iff_differs_twoMachines :
    let scenario : Scenario := ⟨.threshold default, .shutdown default⟩
    let w := idleMachine 1 0 288
    w.utilization.IsNumber ∧
      ((Adjustment.shutdown default).apply w ⟨1, 2, 3, 4⟩).1.workload.agrees w = false ∧
      (∀ w ∈ twoMachines.workloads, w.utilization.IsNumber) ∧
      ∃ o, twoMachines.run scenario = .ok o ∧
        ((twoMachines.reschedule scenario.rescheduling).1.zip o.workloads).countP
          (fun (before, after) => !after.agrees before) = 2 := by
  intro scenario w
  obtain ⟨hflag, hcount⟩ := changed_iff_differs
  have hnumber : w.utilization.IsNumber := ⟨by decide, by decide, by decide⟩
  have hnumbers : ∀ w ∈ twoMachines.workloads, w.utilization.IsNumber := by
    intro w hw
    rcases List.mem_pair.1 hw with rfl | rfl
    · exact hnumber
    · exact hnumber
  have htwo : (twoMachines.run scenario).toOption.map (·.adjusted) = some 2 := by decide +kernel
  obtain ⟨o, ho, hadjusted⟩ := toOption_map_eq_some.1 htwo
  refine ⟨hnumber, (hflag (.shutdown default) w ⟨1, 2, 3, 4⟩ hnumber).1.1 (by decide +kernel), hnumbers, o, ho, ?_⟩
  rw [← (hcount twoMachines scenario o ho hnumbers).2, hadjusted]

end Simulation

end CarbonAware
