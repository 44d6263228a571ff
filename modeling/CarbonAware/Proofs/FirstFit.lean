import CarbonAware.Proofs.ClosedRuns
import CarbonAware.Proofs.Means
import CarbonAware.Proofs.Outcomes

/-!
# The threshold policy finds the first run that fits

The search for a low-carbon run halves the list of runs, stops at the first one beyond the horizon and skips those that
are too short or not low enough.  None of this loses a run: of all low-carbon runs that a workload fits into
(`ThresholdShift.Fits`) the search finds the one that starts first, if there is any
(`ThresholdShift.findWindow_first_fit`).
-/

namespace CarbonAware

namespace ThresholdShift

/-- A low-carbon run that the policy would move the workload into. -/
structure Fits (p : ThresholdShift) (series : CarbonSeries) (w : Workload) (range : BucketRange) : Prop where
  closed : LowCarbonRun.IsClosed series p.rateThreshold range
  not_before : w.window.buckets.start ≤ range.start
  within : range.stop ≤ forecastHorizon w.window.buckets.start p.lookahead
  long_enough : w.window.buckets.length ≤ range.length
  lower : ∃ mean current, series.average .forecast range = .ok mean ∧
    w.averageRate series .forecast = .ok current ∧ mean < current

/-- The run that the workload fits into and that starts before all others. -/
structure FitsFirst (p : ThresholdShift) (series : CarbonSeries) (w : Workload) (range : BucketRange) : Prop where
  fits : p.Fits series w range
  first : ∀ other, p.Fits series w other → range.start ≤ other.start

variable {p : ThresholdShift} {series : CarbonSeries} {w : Workload}

/-- The runs that the search tries and takes are those that the workload fits into. -/
private theorem mem_tried_iff {current : Moer} (hcurrent : w.averageRate series .forecast = .ok current)
    (run : LowCarbonRun) :
    (run ∈ (LowCarbonRun.startingFrom (LowCarbonRun.all series p.rateThreshold) w.window.buckets.start).filter
        (fun run => decide (run.buckets.stop ≤ forecastHorizon w.window.buckets.start p.lookahead)) ∧
      decide (w.window.buckets.length ≤ run.length ∧ ¬ current ≤ run.average) = true) ↔
    p.Fits series w run.buckets ∧ run.average = series.meanOver .forecast run.buckets := by
  rw [LowCarbonRun.startingFrom_all]
  simp only [List.mem_filter, decide_eq_true_eq, Quantity.not_le, LowCarbonRun.mem_all_iff]
  constructor
  · rintro ⟨⟨⟨⟨hclosed, haverage⟩, hstart⟩, hwithin⟩, hlength, hlower⟩
    exact ⟨⟨hclosed, hstart, hwithin, hlength, _, current, hclosed.average_eq, hcurrent, haverage ▸ hlower⟩, haverage⟩
  · rintro ⟨⟨hclosed, hstart, hwithin, hlength, mean, current', hmean, hcurrent', hlower⟩, haverage⟩
    rw [hclosed.average_eq, Except.ok.injEq] at hmean
    rw [hcurrent, Except.ok.injEq] at hcurrent'
    exact ⟨⟨⟨⟨hclosed, haverage⟩, hstart⟩, hwithin⟩, hlength, by rw [haverage, hmean, hcurrent']; exact hlower⟩

/-- The search through the runs finds the one that the workload fits into first. -/
private theorem firstFit_eq_some_iff {current : Moer} (hcurrent : w.averageRate series .forecast = .ok current)
    {run : LowCarbonRun} :
    firstFit (forecastHorizon w.window.buckets.start p.lookahead) w.window.buckets.length current
      (LowCarbonRun.startingFrom (LowCarbonRun.all series p.rateThreshold) w.window.buckets.start) = some run ↔
    p.FitsFirst series w run.buckets ∧ run.average = series.meanOver .forecast run.buckets := by
  have hordered := (LowCarbonRun.all_pairwise series p.rateThreshold).filter
    fun run => decide (w.window.buckets.start ≤ run.buckets.start)
  rw [← LowCarbonRun.startingFrom_all] at hordered
  rw [firstFit_startingFrom, find?_eq_some_iff_first (·.buckets.start) (hordered.filter _), ← and_assoc,
    mem_tried_iff hcurrent]
  constructor
  · rintro ⟨⟨hfits, haverage⟩, hfirst⟩
    refine ⟨⟨hfits, fun other hother => ?_⟩, haverage⟩
    have htried := (mem_tried_iff hcurrent ⟨other, series.meanOver .forecast other⟩).2 ⟨hother, rfl⟩
    exact hfirst _ htried.1 htried.2
  · rintro ⟨⟨hfits, hfirst⟩, haverage⟩
    refine ⟨⟨hfits, haverage⟩, fun other hother htest => ?_⟩
    exact hfirst _ ((mem_tried_iff hcurrent other).1 ⟨hother, htest⟩).1

/-- The window found is the start of the first run that the workload fits into. -/
theorem findWindow_eq_some_iff {window : Window} :
    p.findWindow series (LowCarbonRun.all series p.rateThreshold) w = .ok (some window) ↔
      ∃ range, p.FitsFirst series w range ∧ window = .ofBuckets range.start w.window.buckets.length := by
  rw [findWindow, map_eq_ok]
  constructor
  · rintro ⟨current, hcurrent, hfound⟩
    obtain ⟨run, hrun, rfl⟩ := Option.map_eq_some_iff.1 hfound
    exact ⟨run.buckets, ((firstFit_eq_some_iff hcurrent).1 hrun).1, rfl⟩
  · rintro ⟨range, hfirst, rfl⟩
    obtain ⟨mean, current, -, hcurrent, -⟩ := hfirst.fits.lower
    refine ⟨current, hcurrent, Option.map_eq_some_iff.2 ⟨⟨range, series.meanOver .forecast range⟩, ?_, rfl⟩⟩
    exact (firstFit_eq_some_iff hcurrent).2 ⟨hfirst, rfl⟩

/-- If a workload fits into any run, it fits into a first one. -/
theorem exists_fitsFirst {range : BucketRange} (h : p.Fits series w range) : ∃ first, p.FitsFirst series w first := by
  obtain ⟨⟨first, hfits, hstart⟩, hleast⟩ :=
    isLeast_csInf (s := {start | ∃ range, p.Fits series w range ∧ range.start = start}) ⟨_, range, h, rfl⟩
  exact ⟨first, hfits, fun other hother => hstart ▸ hleast ⟨other, hother, rfl⟩⟩

/-- A workload placed at the start of a run that is long enough stays within it. -/
theorem Fits.buckets_ofBuckets {range : BucketRange} (h : p.Fits series w range) {window : Window}
    (hwindow : window = .ofBuckets range.start w.window.buckets.length) :
    window.buckets.start = range.start ∧ window.buckets.stop ≤ range.stop := by
  have hlong := h.long_enough
  have hlt := h.closed.start_lt_stop
  rw [hwindow, Window.buckets_ofBuckets]
  refine ⟨rfl, ?_⟩
  simp only [BucketRange.length] at hlong ⊢
  omega

/--
For a workload within the series the search succeeds.  It finds the first buckets of the run that starts first among
all low-carbon runs that the workload fits into, and nothing if it fits into none.  So the forecast is below the
threshold in every bucket of the window found, and the window ends by the horizon.
-/
theorem findWindow_first_fit (p : ThresholdShift) (series : CarbonSeries) (w : Workload)
    (h : w.window.buckets.stop ≤ series.length) :
    ∃ found, p.findWindow series (LowCarbonRun.all series p.rateThreshold) w = .ok found ∧
      (∀ window, found = some window ↔
        ∃ range, p.FitsFirst series w range ∧ window = .ofBuckets range.start w.window.buckets.length) ∧
      (found = none ↔ ∀ range, ¬ p.Fits series w range) ∧
      ∀ window, found = some window →
        window.buckets.stop ≤ forecastHorizon w.window.buckets.start p.lookahead ∧
        ∀ bucket, window.buckets.start ≤ bucket → bucket < window.buckets.stop →
          LowCarbonRun.IsLow series p.rateThreshold bucket := by
  have hcovered : w.window.Covered series.length := fun _ => h
  obtain ⟨found, hfound, -⟩ := p.findWindow_ok hcovered
  have hwindow (window : Window) : found = some window ↔
      ∃ range, p.FitsFirst series w range ∧ window = .ofBuckets range.start w.window.buckets.length := by
    rw [← findWindow_eq_some_iff, hfound, Except.ok.injEq]
  refine ⟨found, hfound, hwindow, ?_, fun window hsome => ?_⟩
  · rw [Option.eq_none_iff_forall_ne_some]
    constructor
    · intro hnone range hfits
      obtain ⟨first, hfirst⟩ := exists_fitsFirst hfits
      exact hnone _ ((hwindow _).2 ⟨first, hfirst, rfl⟩)
    · intro hunfit window hsome
      obtain ⟨range, hfirst, -⟩ := (hwindow window).1 hsome
      exact hunfit range hfirst.fits
  · obtain ⟨range, ⟨hfits, -⟩, heq⟩ := (hwindow window).1 hsome
    obtain ⟨hstart, hstop⟩ := hfits.buckets_ofBuckets heq
    refine ⟨le_trans hstop hfits.within, fun bucket hle hlt => hfits.closed.low bucket ?_ ?_⟩
    · omega
    · omega

/-- A series with a run of one bucket and a run of three. -/
def shortRunFirst : CarbonSeries where
  observed := .ofValues #[900, 700, 900, 900, 700, 700, 700, 900, 900]
  forecast := .ofValues #[900, 700, 900, 900, 700, 700, 700, 900, 900]
  same_size := rfl
  size_pos := by decide
  size_le := by decide

/-- The first run is too short for two buckets, and the horizon is as far as bucket numbers go. -/
theorem findWindow_first_fit_shortRunFirst :
    let p : ThresholdShift := ⟨.always, 800, Numeral.maxUInt64⟩
    let w := Simulation.idleMachine 1 1 2
    w.window.buckets.stop ≤ shortRunFirst.length ∧
      p.findWindow shortRunFirst (LowCarbonRun.all shortRunFirst p.rateThreshold) w = .ok (some (.ofBuckets 4 2)) ∧
      ∃ range, p.FitsFirst shortRunFirst w range ∧ range.start = 4 := by
  intro p w
  have hstop : w.window.buckets.stop ≤ shortRunFirst.length := by decide
  obtain ⟨found, hfound, hwindow, -, -⟩ := findWindow_first_fit p shortRunFirst w hstop
  have hfour : p.findWindow shortRunFirst (LowCarbonRun.all shortRunFirst p.rateThreshold) w =
      .ok (some (.ofBuckets 4 2)) := by decide +kernel
  rw [hfound, Except.ok.injEq] at hfour
  obtain ⟨range, hfirst, hstart⟩ := (hwindow _).1 hfour
  refine ⟨hstop, by rw [hfound, hfour], range, hfirst, ?_⟩
  have hstart := congrArg Window.start hstart
  simp only [Window.ofBuckets, bucketSeconds] at hstart
  omega

end ThresholdShift

end CarbonAware
