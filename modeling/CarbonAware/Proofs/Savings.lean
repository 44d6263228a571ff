import CarbonAware.Proofs.Means
import CarbonAware.Proofs.Shutdowns

/-!
# No scenario is more expensive than the baseline

An adjustment policy saves with every workload that it adjusts, and a rescheduling policy leaves cost and waste alone
(`Simulation.saves_settled`).  Totals stay in range however many amounts there are, because an amount is too small to
change the greatest of them, and they grow with the amounts (`Quantity.total_le`).  So no scenario costs or wastes more
than the baseline (`Simulation.run_saves`).
-/

namespace CarbonAware

open Numeral (nearest nearest_mono spacing spacing_eq roundEven_eq abs_nearest Within)

/-! ### Totals -/

namespace Quantity

variable {u : Measure}

/-- A number that is too small for the last digit of a total. -/
private theorem nearest_total : nearest (2 ^ 200 + 2 ^ 131) = 2 ^ 200 := by
  have hspacing : spacing (2 ^ 200 + 2 ^ 131) = 148 := by
    refine spacing_eq (by norm_num) (by norm_num) ?_ (.inl ?_) <;> norm_num [abs_of_pos]
  have hround : Numeral.roundEven ((2 ^ 200 + 2 ^ 131) / 2 ^ (148 : ℤ)) = 2 ^ 52 := by
    refine roundEven_eq ?_ fun _ => by norm_num
    norm_num [abs_of_pos]
  rw [nearest, hspacing, hround]
  norm_num

/-- An amount is small enough to leave a total of `2 ^ 200` as it is. -/
private theorem within_add_amount {total amount : Float} (ht : Within 200 total) (ha : Within 131 amount) :
    Numeral.value (total + amount) = nearest (Numeral.value total + Numeral.value amount) ∧
      Within 200 (total + amount) := by
  obtain ⟨hsum, wsum⟩ := Numeral.within_add ht (ha.mono (by norm_num)) (by norm_num)
  refine ⟨hsum, wsum.isFinite, ?_⟩
  have htotal := ht.abs_le
  have hamount := ha.abs_le
  have habs : |Numeral.value total + Numeral.value amount| ≤ 2 ^ 200 + 2 ^ 131 :=
    le_trans (abs_add_le _ _) (by linarith)
  rw [hsum, abs_nearest, ← nearest_total]
  exact nearest_mono habs

section Amounts

variable {α : Type} {f g : α → Quantity u} {l : List α} (h : ∀ a ∈ l, Within 131 (f a).value ∧
  Within 131 (g a).value ∧ Numeral.value (f a).value ≤ Numeral.value (g a).value)

include h

private theorem foldl_add_le (low high : Quantity u) (hlow : Within 200 low.value) (hhigh : Within 200 high.value)
    (hle : Numeral.value low.value ≤ Numeral.value high.value) :
    (l.map f).foldl (· + ·) low ≤ (l.map g).foldl (· + ·) high := by
  -- for any two totals in order, which stay so with each amount
  induction l generalizing low high with
  | nil => exact (le_iff hlow.isFinite hhigh.isFinite).2 hle
  | cons a l ih =>
    obtain ⟨hf, hg, hfg⟩ := h a List.mem_cons_self
    obtain ⟨hlow_add, wlow_add⟩ := within_add_amount hlow hf
    obtain ⟨hhigh_add, whigh_add⟩ := within_add_amount hhigh hg
    refine ih (fun b hb => h b (List.mem_cons_of_mem _ hb)) (low + f a) (high + g a) wlow_add whigh_add ?_
    change Numeral.value (low.value + (f a).value) ≤ Numeral.value (high.value + (g a).value)
    rw [hlow_add, hhigh_add]
    exact nearest_mono (add_le_add hle hfg)

/-- Lower amounts have a lower total. -/
theorem total_le : total (l.map f) ≤ total (l.map g) := by
  have hstart : Within 200 (-0.0) := by
    refine ⟨by decide, ?_⟩
    rw [Numeral.value_neg, Numeral.value_zero]
    norm_num
  exact foldl_add_le h ⟨-0.0⟩ ⟨-0.0⟩ hstart hstart (le_refl _)

end Amounts

end Quantity

/-! ### One workload -/

namespace Workload

variable {series : CarbonSeries} {w : Workload}

theorem saves_self (hw : w.Loaded series) : w.Saves w := by
  obtain ⟨hfirst, hlast⟩ := hw.duration_bounds
  have hduration : |w.window.duration| ≤ 2 ^ 64 := by rw [abs_of_nonneg hfirst]; omega
  have haverage := (within_of_isFraction hw.average).mono (show 0 ≤ 32 by norm_num)
  exact ⟨(cost_eq hduration).2.mono (by norm_num), (waste_eq hduration haverage).2, le_refl _, le_refl _⟩

end Workload

namespace Adjustment

variable {series : CarbonSeries} {a : Adjustment} {w w' : Workload}

/-- What a valid policy proposes saves. -/
theorem saves_proposal (ha : a.validate = .ok ()) (hw : w.Loaded series) (h : a.proposal? w = some w') :
    w.Saves w' := by
  cases a with
  | none => cases h
  | coreReduction p =>
    obtain ⟨cores, hmem, hfewer, rfl⟩ := CoreReduction.proposal?_eq_some h
    exact CoreReduction.saves_reduced hw (CoreReduction.one_le_of_mem ha hmem) hfewer
  | shutdown p => exact Shutdown.saves_shutdown hw ha h

theorem saves_applyOwn (ha : a.validate = .ok ()) (hw : w.Loaded series) (decisions : Decisions) :
    w.Saves (a.applyOwn decisions w).workload := by
  cases hchanged : (a.applyOwn decisions w).changed with
  | false =>
    rw [applyOwn, apply_of_unchanged hchanged]
    exact Workload.saves_self hw
  | true => exact saves_proposal ha hw (proposal?_of_changed hchanged)

end Adjustment

/-! ### A scenario and the baseline -/

namespace Simulation

variable {s : Simulation} {scenario : Scenario} {w : Workload}

/-- The rescheduling policy has no part in cost and waste. -/
private theorem amounts_settled (scenario : Scenario) (h : w.window.OnGrid s.series.length) :
    (s.settled scenario w).workload.cost = (s.adjusted scenario.adjustment w).workload.cost ∧
      (s.settled scenario w).workload.waste = (s.adjusted scenario.adjustment w).workload.waste := by
  rw [settled_of_onGrid scenario h, Workload.cost_startingAt, Workload.waste_startingAt]
  exact ⟨rfl, rfl⟩

theorem saves_settled (hscenario : scenario.validate = .ok ()) (hw : w.Loaded s.series) :
    w.Saves (s.settled scenario w).workload := by
  obtain ⟨hcost, hwaste⟩ := amounts_settled scenario hw.onGrid
  have hsaves := Adjustment.saves_applyOwn (Scenario.validate_ok_iff.1 hscenario).2 hw
    (Decisions.mk s.seed |>.salted adjustmentSalt)
  rw [← adjusted] at hsaves
  constructor
  · rw [hcost]; exact hsaves.within_cost
  · rw [hwaste]; exact hsaves.within_waste
  · rw [hcost]; exact hsaves.cost_le
  · rw [hwaste]; exact hsaves.waste_le

/-- Without an adjustment policy, the totals are those of the workloads as they are. -/
private theorem totals_of_run {o : Outcome} (h : s.run scenario = .ok o) (hnone : scenario.adjustment = .none)
    (hgrid : ∀ w ∈ s.workloads, w.window.OnGrid s.series.length) :
    o.cost = .total (s.workloads.map (·.cost)) ∧ o.waste = .total (s.workloads.map (·.waste)) := by
  have hadjusted (w : Workload) : (s.adjusted scenario.adjustment w).workload = w := by rw [hnone]; rfl
  rw [run_eq_ok h]
  constructor <;> refine congrArg Quantity.total (List.map_congr_left fun w hw => ?_)
  · rw [(amounts_settled scenario (hgrid w hw)).1, hadjusted]
  · rw [(amounts_settled scenario (hgrid w hw)).2, hadjusted]

/--
No scenario costs or wastes more than the baseline.  Over workloads as they are loaded, a valid scenario and the
baseline succeed, the cost and the waste of the scenario are at most those of the baseline, and without an adjustment
policy they are the same.
-/
theorem run_saves (s : Simulation) (scenario : Scenario) (hscenario : scenario.validate = .ok ())
    (heligibility : s.eligibility.validate = .ok ()) (hloaded : ∀ w ∈ s.workloads, w.Loaded s.series) :
    ∃ o baseline, s.run scenario = .ok o ∧ s.run .baseline = .ok baseline ∧
      o.cost ≤ baseline.cost ∧ o.waste ≤ baseline.waste ∧
      (scenario.adjustment = .none → o.cost = baseline.cost ∧ o.waste = baseline.waste) := by
  have hgrid (w : Workload) (hw : w ∈ s.workloads) : w.window.OnGrid s.series.length := (hloaded w hw).onGrid
  have hok (scenario : Scenario) (h : scenario.validate = .ok ()) : ∃ o, s.run scenario = .ok o :=
    run_ok_of_covered h heligibility fun w hw => (hgrid w hw).covered
  obtain ⟨o, ho⟩ := hok scenario hscenario
  obtain ⟨baseline, hbaseline⟩ := hok .baseline rfl
  obtain ⟨hcost, hwaste⟩ := totals_of_run hbaseline rfl hgrid
  refine ⟨o, baseline, ho, hbaseline, ?_, ?_, fun hnone => ?_⟩
  · rw [hcost, run_eq_ok ho]
    refine Quantity.total_le fun w hw => ?_
    have hsaves := saves_settled hscenario (hloaded w hw)
    exact ⟨hsaves.within_cost, (Workload.saves_self (hloaded w hw)).within_cost, hsaves.cost_le⟩
  · rw [hwaste, run_eq_ok ho]
    refine Quantity.total_le fun w hw => ?_
    have hsaves := saves_settled hscenario (hloaded w hw)
    exact ⟨hsaves.within_waste, (Workload.saves_self (hloaded w hw)).within_waste, hsaves.waste_le⟩
  · obtain ⟨hcost', hwaste'⟩ := totals_of_run ho hnone hgrid
    exact ⟨hcost'.trans hcost.symm, hwaste'.trans hwaste.symm⟩

theorem run_saves_twoMachines : ∃ o baseline,
    twoMachines.run ⟨.movingAverage default, .shutdown default⟩ = .ok o ∧
    twoMachines.run .baseline = .ok baseline ∧ o.cost ≤ baseline.cost ∧ o.waste ≤ baseline.waste ∧
    ((⟨.movingAverage default, .shutdown default⟩ : Scenario).adjustment = .none →
      o.cost = baseline.cost ∧ o.waste = baseline.waste) :=
  run_saves twoMachines ⟨.movingAverage default, .shutdown default⟩ (by decide) (by decide) fun w hw => by
    have hgrid := twoMachines_onGrid w hw
    rcases List.mem_pair.1 hw with rfl | rfl
    · exact ⟨hgrid, by decide, rfl, by decide, ⟨by decide, by decide⟩, ⟨by decide, by decide⟩, ⟨by decide, by decide⟩⟩
    · exact ⟨hgrid, by decide, rfl, by decide, ⟨by decide, by decide⟩, ⟨by decide, by decide⟩, ⟨by decide, by decide⟩⟩

end Simulation

end CarbonAware
