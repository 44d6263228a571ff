import CarbonAware.Proofs.Horizon
import CarbonAware.Proofs.Outcomes

/-!
# Runs decide by the forecast in sight

The observed rates enter a run only when its emissions are totalled: under a series with the same forecast, every
workload settles as before (`Simulation.settled_under`).  And of the forecast, a search for a window uses no more than
is in sight of the workload (`Simulation.decided_by_forecast_in_sight`).
-/

namespace CarbonAware

namespace Outcome

variable {a b : CarbonSeries}

/-- The predicted emissions do not hang on the observed rates, nor on the emissions so far. -/
private theorem predicted_congr (hforecast : ∀ w : Workload, w.carbon a .forecast = w.carbon b .forecast)
    {ws : List Workload} {totals totals' final final' : Pounds × Pounds} (hstart : totals.2 = totals'.2)
    (ha : ws.foldlM (addEmissions a) totals = .ok final) (hb : ws.foldlM (addEmissions b) totals' = .ok final') :
    final.2 = final'.2 := by
  induction ws generalizing totals totals' with
  | nil =>
    cases ha
    cases hb
    exact hstart
  | cons w rest ih =>
    rw [List.foldlM_cons] at ha hb
    obtain ⟨next, hnext, ha⟩ := bind_eq_ok.1 ha
    obtain ⟨next', hnext', hb⟩ := bind_eq_ok.1 hb
    obtain ⟨_, predicted, -, hpredicted, rfl⟩ := addEmissions_eq_ok.1 hnext
    obtain ⟨_, predicted', -, hpredicted', rfl⟩ := addEmissions_eq_ok.1 hnext'
    rw [hforecast w, hpredicted', Except.ok.injEq] at hpredicted
    exact ih (by rw [hstart, hpredicted]) ha hb

end Outcome

namespace Simulation

/-- The same simulation under another series. -/
def under (s : Simulation) (series : CarbonSeries) : Simulation := { s with series }

section Under

variable {s : Simulation} {other : CarbonSeries} (h : other.values .forecast = s.series.values .forecast)
include h

theorem proposals_under (r : Rescheduling) : (s.under other).proposals r = s.proposals r := by
  have hsame (range : BucketRange) : other.SameForecast s.series range :=
    CarbonSeries.sameForecast_of_values_eq h range
  have hsearch (w : Workload) : r.search other w = r.search s.series w := by
    cases r with
    | none => rfl
    | threshold p => exact p.findWindow_congr (hsame (w.inSight p.lookahead))
    | movingAverage p => exact p.findWindow_congr (hsame (w.inSight p.lookahead))
  funext w
  rw [proposals, proposals, Rescheduling.proposals_eq, Rescheduling.proposals_eq]
  simp only [under, hsearch]

theorem settled_under (scenario : Scenario) (w : Workload) :
    (s.under other).settled scenario w = s.settled scenario w := by
  rw [settled, settled, rescheduled, rescheduled, proposals_under h]
  rfl

theorem settles_under_iff {scenario : Scenario} {w : Workload} :
    (s.under other).Settles scenario w ↔ s.Settles scenario w := by
  have hlength : other.length = s.series.length := (CarbonSeries.sameForecast_of_values_eq h ⟨0, 0⟩).length_eq
  have hcovered (window : Window) : window.Covered (s.under other).series.length ↔ window.Covered s.series.length := by
    rw [← hlength]
    rfl
  constructor
  · intro hsettles
    constructor
    · rw [← proposals_under h]
      exact hsettles.proposed
    · rw [← hcovered, ← settled_under h]
      exact hsettles.covered
  · intro hsettles
    constructor
    · rw [proposals_under h]
      exact hsettles.proposed
    · rw [hcovered, settled_under h]
      exact hsettles.covered

theorem run_under_ok_iff {scenario : Scenario} :
    (∃ o, s.run scenario = .ok o) ↔ ∃ o', (s.under other).run scenario = .ok o' := by
  rw [run_ok_iff, run_ok_iff]
  simp only [settles_under_iff h]
  rfl

private theorem outcomeOf_under (scenario : Scenario) (carbon predictedCarbon : Pounds) :
    (s.under other).outcomeOf scenario carbon predictedCarbon = s.outcomeOf scenario carbon predictedCarbon := by
  simp only [outcomeOf, settled_under h, proposals_under h]
  rfl

private theorem predictedCarbon_under {scenario : Scenario} {o o' : Outcome} (ho : s.run scenario = .ok o)
    (ho' : (s.under other).run scenario = .ok o') : o'.predictedCarbon = o.predictedCarbon := by
  have hforecast (w : Workload) : w.carbon other .forecast = w.carbon s.series .forecast := by
    have hrate := (CarbonSeries.sameForecast_of_values_eq h w.window.buckets).averageRate_eq (Nat.le_refl _)
      (Nat.le_refl _)
    rw [Workload.carbon, Workload.carbon, hrate]
  have hemissions' := emissions_of_run ho'
  simp only [settled_under h] at hemissions'
  exact Outcome.predicted_congr hforecast rfl hemissions' (emissions_of_run ho)

private theorem outcome_under {scenario : Scenario} {o o' : Outcome} (ho : s.run scenario = .ok o)
    (ho' : (s.under other).run scenario = .ok o') : o' = { o with carbon := o'.carbon } := by
  have heq' := run_eq_ok ho'
  rw [outcomeOf_under h, predictedCarbon_under h ho ho'] at heq'
  have heq := run_eq_ok ho
  calc o' = s.outcomeOf scenario o'.carbon o.predictedCarbon := heq'
    _ = { s.outcomeOf scenario o.carbon o.predictedCarbon with carbon := o'.carbon } := rfl
    _ = { o with carbon := o'.carbon } := by rw [← heq]

end Under

/--
Runs over series with the same forecast either all fail or all succeed, and then their outcomes differ at most in the
observed emissions.  And on two series whose forecasts are the same in sight of a workload, both policies find the same
window for it.
-/
theorem decided_by_forecast_in_sight :
    (∀ (s : Simulation) (scenario : Scenario) (other : CarbonSeries),
      other.values .forecast = s.series.values .forecast →
        ((∃ o, s.run scenario = .ok o) ↔ ∃ o', (s.under other).run scenario = .ok o') ∧
        ∀ o o', s.run scenario = .ok o → (s.under other).run scenario = .ok o' →
          o' = { o with carbon := o'.carbon }) ∧
    ∀ (a b : CarbonSeries) (w : Workload),
      (∀ p : ThresholdShift, a.SameForecast b (w.inSight p.lookahead) →
        p.findWindow a (LowCarbonRun.all a p.rateThreshold) w =
          p.findWindow b (LowCarbonRun.all b p.rateThreshold) w) ∧
      ∀ p : MovingAverageShift, a.SameForecast b (w.inSight p.lookahead) → p.findWindow a w = p.findWindow b w := by
  refine ⟨fun s scenario other h => ⟨run_under_ok_iff h, fun o o' => outcome_under h⟩, fun a b w => ⟨?_, ?_⟩⟩
  · exact fun p h => p.findWindow_congr h
  · exact fun p h => p.findWindow_congr h

/-- A dip in a steady forecast, which ends with the given rate. -/
def dipThen (last : UInt32) : CarbonSeries :=
  ⟨.ofValues #[900, 900, 300, 900, 900, 900, 900, last], .ofValues #[900, 900, 300, 900, 900, 900, 900, last], rfl,
    Nat.succ_pos _, show 8 ≤ maxBuckets by decide⟩

/-- The forecast of `dippingSeries`, under other rates. -/
def cleanSeries : CarbonSeries :=
  ⟨.ofValues #[500, 400, 300, 200, 100, 0], dippingSeries.forecast, rfl, by decide, by decide⟩

theorem decided_by_forecast_in_sight_dip :
    let scenario : Scenario := ⟨.threshold default, .shutdown default⟩
    let threshold : ThresholdShift := { (default : ThresholdShift) with lookahead := 5 }
    let movingAverage : MovingAverageShift := { (default : MovingAverageShift) with lookahead := 5 }
    let w := idleMachine 1 0 1
    (∃ o o', twoMachines.run scenario = .ok o ∧ (twoMachines.under cleanSeries).run scenario = .ok o' ∧
      o' = { o with carbon := o'.carbon }) ∧
    (dipThen 100).values .forecast ≠ (dipThen 900).values .forecast ∧
    (dipThen 100).SameForecast (dipThen 900) (w.inSight 5) ∧
    threshold.findWindow (dipThen 100) (LowCarbonRun.all (dipThen 100) threshold.rateThreshold) w =
      threshold.findWindow (dipThen 900) (LowCarbonRun.all (dipThen 900) threshold.rateThreshold) w ∧
    movingAverage.findWindow (dipThen 100) w = movingAverage.findWindow (dipThen 900) w := by
  intro scenario threshold movingAverage w
  obtain ⟨hruns, hwindows⟩ := decided_by_forecast_in_sight
  obtain ⟨hok, hagree⟩ := hruns twoMachines scenario cleanSeries rfl
  obtain ⟨o, ho⟩ : ∃ o, twoMachines.run scenario = .ok o :=
    run_ok_of_covered (by decide) (by decide) fun w hw => (twoMachines_onGrid w hw).covered
  obtain ⟨o', ho'⟩ := hok.1 ⟨o, ho⟩
  have hsame : (dipThen 100).SameForecast (dipThen 900) (w.inSight 5) := by
    refine ⟨rfl, fun bucket _ hbucket => ?_⟩
    have hlt : bucket < 6 := hbucket
    interval_cases bucket <;> rfl
  exact ⟨⟨o, o', ho, ho', hagree o o' ho ho'⟩, by decide, hsame, (hwindows _ _ w).1 threshold hsame,
    (hwindows _ _ w).2 movingAverage hsame⟩

end Simulation

end CarbonAware
