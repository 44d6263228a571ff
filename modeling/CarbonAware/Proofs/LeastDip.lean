import CarbonAware.Proofs.Means
import CarbonAware.Proofs.Outcomes

/-!
# The moving average finds the first dip

The search tries the later starts in order, up to the bound that the horizon and the end of the series set.  At each of
them the window and its two neighbours lie within the series, so that no mean is missing; the search finds the least
start whose mean is a local minimum below the target (`MovingAverageShift.findWindow_least_dip`).
-/

namespace CarbonAware

/-- The first of successive numbers that passes a test is the least one that does. -/
theorem find?_range'_eq_some_iff_isLeast {start length i : Nat} {test : Nat → Bool} :
    (List.range' start length).find? test = some i ↔ IsLeast {j | j ∈ List.range' start length ∧ test j = true} i := by
  rw [find?_eq_some_iff_first (·) List.pairwise_lt_range', ← and_assoc]
  exact and_congr_right fun _ => ⟨fun h j hj => h j hj.1 hj.2, fun h j hj htest => h ⟨hj, htest⟩⟩

/-- The mean forecast over as many buckets as the workload has, from `start` on. -/
def Workload.meanFrom (w : Workload) (series : CarbonSeries) (start : Nat) : Moer :=
  series.meanOver .forecast ⟨start, start + w.window.buckets.length⟩

namespace MovingAverageShift

/--
A start after the workload's own whose mean is no higher than at the neighbouring starts.  The later neighbour ends
before the horizon and before the series does.
-/
structure IsLocalMinimum (p : MovingAverageShift) (series : CarbonSeries) (w : Workload) (start : Nat) : Prop where
  later : w.window.buckets.start + 1 ≤ start
  within : start + w.window.buckets.length + 1 < min (forecastHorizon w.window.buckets.start p.lookahead) series.length
  le_before : w.meanFrom series start ≤ w.meanFrom series (start - 1)
  le_after : w.meanFrom series start ≤ w.meanFrom series (start + 1)

/-- A local minimum that lies below the present mean by more than the margin. -/
structure IsDipAt (p : MovingAverageShift) (series : CarbonSeries) (w : Workload) (start : Nat) : Prop
    extends p.IsLocalMinimum series w start where
  below : ∃ current, w.averageRate series .forecast = .ok current ∧
    w.meanFrom series start < current - p.confidence

variable {p : MovingAverageShift} {series : CarbonSeries} {w : Workload}

/-- The starts that the search tries and takes are the dips. -/
private theorem mem_tried_iff (h : w.window.Covered series.length) (hlength : 0 < w.window.buckets.length)
    {start : Nat} : (start ∈ p.triedStarts series w ∧
      isForecastDip series w.window.buckets.length (p.target series w) start = true) ↔ p.IsDipAt series w start := by
  have hcurrent := Workload.averageRate_eq_meanOver h hlength .forecast
  simp only [triedStarts, mem_starts, isForecastDip, decide_eq_true_eq]
  constructor
  · rintro ⟨⟨hlater, hwithin⟩, hbelow, hbefore, hafter⟩
    exact ⟨⟨hlater, hwithin, hbefore, hafter⟩, _, hcurrent, hbelow⟩
  · rintro ⟨⟨hlater, hwithin, hbefore, hafter⟩, current, hcurrent', hbelow⟩
    rw [hcurrent, Except.ok.injEq] at hcurrent'
    subst hcurrent'
    exact ⟨⟨hlater, hwithin⟩, hbelow, hbefore, hafter⟩

/-- The search finds the least dip. -/
theorem findWindow_eq_some_iff (h : w.window.Covered series.length) (hlength : 0 < w.window.buckets.length)
    {window : Window} : p.findWindow series w = .ok (some window) ↔
      ∃ start, IsLeast {start | p.IsDipAt series w start} start ∧
        window = .ofBuckets start w.window.buckets.length := by
  have hdips : {start | start ∈ p.triedStarts series w ∧
      isForecastDip series w.window.buckets.length (p.target series w) start = true} =
        {start | p.IsDipAt series w start} := Set.ext fun start => mem_tried_iff h hlength
  rw [p.findWindow_eq h hlength, Except.ok.injEq, Option.map_eq_some_iff, ← hdips]
  exact exists_congr fun start => and_congr find?_range'_eq_some_iff_isLeast eq_comm

/-- Where the search tries a start, its window and the two next to it lie within the series. -/
theorem average_of_mem_triedStarts (hlength : 0 < w.window.buckets.length) {start near : Nat}
    (hstart : start ∈ p.triedStarts series w) (hafter : near ≤ start + 1) :
    near + w.window.buckets.length ≤ series.length ∧
      series.average .forecast ⟨near, near + w.window.buckets.length⟩ = .ok (w.meanFrom series near) := by
  obtain ⟨hlater, hwithin⟩ := mem_starts.1 hstart
  have hstop : near + w.window.buckets.length ≤ series.length := by omega
  exact ⟨hstop, series.average_eq_meanOver .forecast (Nat.lt_add_of_pos_right hlength) hstop⟩

/--
For a workload of at least one bucket within the series the search succeeds, and finds the least dip if there is one.
Wherever it tries a start, the means at the start and its neighbours are over buckets of the series.
-/
theorem findWindow_least_dip (p : MovingAverageShift) (series : CarbonSeries) (w : Workload)
    (hlength : 0 < w.window.buckets.length) (hstop : w.window.buckets.stop ≤ series.length) :
    (∃ found, p.findWindow series w = .ok found ∧
      (∀ window, found = some window ↔ ∃ start, IsLeast {start | p.IsDipAt series w start} start ∧
        window = .ofBuckets start w.window.buckets.length) ∧
      (found = none ↔ ∀ start, ¬ p.IsDipAt series w start)) ∧
    ∀ start ∈ starts w.window.buckets (min (forecastHorizon w.window.buckets.start p.lookahead) series.length),
      ∀ near, start - 1 ≤ near → near ≤ start + 1 →
        near + w.window.buckets.length ≤ series.length ∧
        series.average .forecast ⟨near, near + w.window.buckets.length⟩ = .ok (w.meanFrom series near) := by
  have hcovered : w.window.Covered series.length := fun _ => hstop
  obtain ⟨found, hfound, -⟩ := p.findWindow_ok hcovered
  have hwindow (window : Window) : found = some window ↔ ∃ start, IsLeast {start | p.IsDipAt series w start} start ∧
      window = .ofBuckets start w.window.buckets.length := by
    rw [← findWindow_eq_some_iff hcovered hlength, hfound, Except.ok.injEq]
  refine ⟨⟨found, hfound, hwindow, ?_⟩, fun start hstart near _ hafter =>
    average_of_mem_triedStarts hlength hstart hafter⟩
  rw [Option.eq_none_iff_forall_ne_some]
  constructor
  · intro hnone start hdip
    exact hnone _ ((hwindow _).2 ⟨_, isLeast_csInf ⟨start, hdip⟩, rfl⟩)
  · intro hnone window hsome
    obtain ⟨start, hleast, -⟩ := (hwindow window).1 hsome
    exact hnone start hleast.1

/-- A series whose mean over two buckets dips twice, the second time deeper. -/
def twoDips : CarbonSeries where
  observed := .ofValues #[900, 900, 800, 600, 600, 800, 800, 100, 500, 100, 900, 900, 900]
  forecast := .ofValues #[900, 900, 800, 600, 600, 800, 800, 100, 500, 100, 900, 900, 900]
  same_size := rfl
  size_pos := by decide
  size_le := by decide

theorem findWindow_least_dip_twoDips :
    let p : MovingAverageShift := ⟨.always, ⟨50.0⟩, Numeral.maxUInt64⟩
    let w := Simulation.idleMachine 1 0 2
    0 < w.window.buckets.length ∧ w.window.buckets.stop ≤ twoDips.length ∧
      p.findWindow twoDips w = .ok (some (.ofBuckets 3 2)) ∧
      IsLeast {start | p.IsDipAt twoDips w start} 3 := by
  intro p w
  have hlength : 0 < w.window.buckets.length := by decide
  have hstop : w.window.buckets.stop ≤ twoDips.length := by decide
  obtain ⟨⟨found, hfound, hwindow, -⟩, -⟩ := findWindow_least_dip p twoDips w hlength hstop
  have hthree : p.findWindow twoDips w = .ok (some (.ofBuckets 3 2)) := by decide +kernel
  rw [hfound, Except.ok.injEq] at hthree
  obtain ⟨start, hleast, hstart⟩ := (hwindow _).1 hthree
  have hstart := congrArg Window.start hstart
  simp only [Window.ofBuckets, bucketSeconds] at hstart
  obtain rfl : start = 3 := by omega
  exact ⟨hlength, hstop, by rw [hfound, hthree], hleast⟩

end MovingAverageShift

end CarbonAware
