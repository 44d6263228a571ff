import CarbonAware.Proofs.FirstFit
import CarbonAware.Proofs.LeastDip
import CarbonAware.Proofs.Postponements

/-!
# What a move does to the mean forecast

A threshold policy compares a workload with the whole low-carbon run, but moves it to the first buckets of the run.  So
the mean forecast of a moved workload lies below the threshold, and below its former mean where the first buckets are no
worse than the run as a whole (`Rescheduling.threshold_lowers`); a run that starts badly may make it worse
(`Rescheduling.threshold_raises_peakInside`).

The moving average compares the windows themselves.  With any margin that is a number, a valid policy moves a workload
only to a lower mean forecast; a margin of `NaN` is valid too, and then every local minimum is taken
(`Rescheduling.movingAverage_lowers`).
-/

namespace CarbonAware

open Numeral (value)

/-! ### Margins -/

namespace Numeral

variable {x a margin : Float}

/-- The difference of two numbers that are not negative is no larger than one of them. -/
private theorem inRange_sub (ha : a.isFinite = true) (hmargin : margin.isFinite = true) (hpos : 0 ≤ value a)
    (hnonneg : 0 ≤ value margin) : InRange (value a - value margin) := by
  rcases le_total (value margin) (value a) with hle | hle
  · refine (inRange_value ha).of_abs_le ?_
    rw [abs_of_nonneg (by linarith), abs_of_nonneg hpos]
    linarith
  · refine (inRange_value hmargin).of_abs_le ?_
    rw [abs_of_nonpos (by linarith), abs_of_nonneg hnonneg]
    linarith

/-- What lies below a number less a margin that is not negative lies below the number. -/
private theorem lt_of_lt_sub (hx : x.isFinite = true) (ha : a.isFinite = true) (hpos : 0 ≤ value a)
    (hnan : margin.isNaN = false) (hmargin : ¬ totalCompare margin 0.0 = .lt)
    (h : totalCompare x (a - margin) = .lt) : value x < value a := by
  by_cases hfinite : margin.isFinite = true
  · have hnonneg : 0 ≤ value margin := by
      rwa [totalCompare_eq hfinite (by decide), compare_lt_iff_lt, value_zero, not_lt] at hmargin
    obtain ⟨hdiff, hvalue⟩ := rounds_sub ha hfinite (inRange_sub ha hfinite hpos hnonneg)
    rw [totalCompare_eq hx hdiff, compare_lt_iff_lt, hvalue] at h
    exact lt_of_lt_of_le h (nearest_le (isDyadic_value a) (by linarith))
  · obtain ⟨s, hinfinite⟩ := unpack_infinity hfinite hnan
    cases s with
    | negative => exact absurd (totalCompare_negative hinfinite (by decide)) hmargin
    | positive => exact absurd h (not_totalCompare_lt_negative hx (unpack_sub_infinity ha hinfinite))

end Numeral

namespace Workload

/-- The mean forecast of a workload that was moved to start at another bucket. -/
private theorem averageRate_moved {w moved : Workload} {series : CarbonSeries} {start : Nat}
    (hwindow : moved.window = .ofBuckets start w.window.buckets.length) (hlength : 0 < w.window.buckets.length)
    (hstop : start + w.window.buckets.length ≤ series.length) :
    moved.averageRate series .forecast = .ok (w.meanFrom series start) := by
  have hbuckets : moved.window.buckets = ⟨start, start + w.window.buckets.length⟩ := by
    rw [hwindow, Window.buckets_ofBuckets]
  have hcovered : moved.window.Covered series.length := by
    rw [Window.Covered, hbuckets]
    exact fun _ => hstop
  have hpos : 0 < moved.window.buckets.length := by
    rw [hbuckets]
    simpa only [BucketRange.length, Nat.add_sub_cancel_left] using hlength
  rw [averageRate_eq_meanOver hcovered hpos, hbuckets, meanFrom]

private theorem isFinite_meanFrom {w : Workload} (series : CarbonSeries) (hlength : 0 < w.window.buckets.length)
    (start : Nat) : (w.meanFrom series start).value.isFinite = true :=
  series.isFinite_meanOver .forecast (Nat.lt_add_of_pos_right hlength)

/-- The mean rate of a workload of at least one bucket is a finite number, and not negative. -/
private theorem averageRate_finite {w : Workload} {series : CarbonSeries} {kind : SeriesKind} {rate : Moer}
    (h : w.averageRate series kind = .ok rate) (hlength : 0 < w.window.buckets.length) :
    rate.value.isFinite = true ∧ 0 ≤ value rate.value := by
  have hlt : w.window.buckets.start < w.window.buckets.stop := by
    rw [BucketRange.length] at hlength
    omega
  rw [averageRate_eq_meanOver (averageRate_ok_iff.1 ⟨rate, h⟩) hlength, Except.ok.injEq] at h
  rw [← h]
  exact ⟨series.isFinite_meanOver kind hlt, series.meanOver_nonneg kind hlt⟩

end Workload

/-! ### Moves into low-carbon runs -/

namespace ThresholdShift

variable {p : ThresholdShift} {series : CarbonSeries} {w : Workload}

/-- Only workloads of at least one bucket fit into a low-carbon run. -/
theorem Fits.length_pos {range : BucketRange} (h : p.Fits series w range) : 0 < w.window.buckets.length := by
  obtain ⟨mean, current, hmean, hcurrent, hlower⟩ := h.lower
  by_contra hzero
  have hempty : w.window.buckets.isEmpty := by
    simp only [BucketRange.length] at hzero
    simp only [BucketRange.isEmpty, decide_eq_true_eq]
    omega
  rw [Workload.averageRate, CarbonSeries.averageOrZero, if_pos hempty, Except.ok.injEq] at hcurrent
  rw [h.closed.average_eq, Except.ok.injEq] at hmean
  -- the mean over the run is not negative
  have hnonneg := series.meanOver_nonneg .forecast h.closed.start_lt_stop
  have hfinite := series.isFinite_meanOver .forecast h.closed.start_lt_stop
  rw [hmean] at hnonneg hfinite
  rw [← hcurrent, Quantity.lt_iff hfinite (by decide)] at hlower
  have hzero : value (Quantity.zero : Moer).value = 0 := Numeral.value_zero
  rw [hzero] at hlower
  exact absurd hlower (not_lt_of_ge hnonneg)

/-- A workload moved to the first buckets of a low-carbon run, and its mean forecast before and after the move. -/
structure MovedInto (p : ThresholdShift) (series : CarbonSeries) (w moved : Workload) (range : BucketRange)
    (old new mean : Moer) : Prop where
  fits : p.Fits series w range
  window_eq : moved.window = .ofBuckets range.start w.window.buckets.length
  old_eq : w.averageRate series .forecast = .ok old
  new_eq : moved.averageRate series .forecast = .ok new
  /-- The mean over the whole run. -/
  mean_eq : series.average .forecast range = .ok mean
  mean_lt : mean < old
  new_lt : new < ⟨p.rateThreshold.toFloat⟩
  new_eq_of_filled : w.window.buckets.length = range.length → new = mean

private theorem movedInto_of_fits (moved : Workload) {range : BucketRange} (h : p.Fits series w range)
    (hwindow : moved.window = .ofBuckets range.start w.window.buckets.length) :
    ∃ old new mean, p.MovedInto series w moved range old new mean := by
  obtain ⟨mean, old, hmean, hold, hlower⟩ := h.lower
  have hlt := h.closed.start_lt_stop
  have hclosed := h.closed.stop_lt_length
  have hpos := h.length_pos
  have hlong : range.start + w.window.buckets.length ≤ range.stop := by
    have := h.long_enough
    simp only [BucketRange.length] at this ⊢
    omega
  have hnew : moved.averageRate series .forecast = .ok (w.meanFrom series range.start) :=
    Workload.averageRate_moved hwindow hpos (by omega)
  refine ⟨old, _, mean, h, hwindow, hold, hnew, hmean, hlower, ?_, fun hfilled => ?_⟩
  · refine series.meanOver_lt (Nat.lt_add_of_pos_right hpos) fun bucket hle hstop => h.closed.low bucket hle ?_
    exact Nat.lt_of_lt_of_le hstop hlong
  · have hstop : range.start + w.window.buckets.length = range.stop := by
      rw [hfilled, BucketRange.length]
      omega
    rw [h.closed.average_eq, Except.ok.injEq] at hmean
    rw [Workload.meanFrom, hstop, hmean]

/-- The mean falls if it was not below the threshold, or if the first buckets are no worse than the run. -/
private theorem MovedInto.lowers {moved : Workload} {range : BucketRange} {old new mean : Moer}
    (h : p.MovedInto series w moved range old new mean) (hcase : ⟨p.rateThreshold.toFloat⟩ ≤ old ∨ new ≤ mean) :
    new < old := by
  have hpos := h.fits.length_pos
  have hold := (Workload.averageRate_finite h.old_eq hpos).1
  have hnew := (Workload.averageRate_finite h.new_eq (by
    rw [h.window_eq, Window.buckets_ofBuckets]
    simpa only [BucketRange.length, Nat.add_sub_cancel_left] using hpos)).1
  rw [Quantity.lt_iff hnew hold]
  rcases hcase with hhigh | hfront
  · have hthreshold := (Numeral.within_word32 p.rateThreshold).isFinite
    have hlt := (Quantity.lt_iff hnew hthreshold).1 h.new_lt
    exact lt_of_lt_of_le hlt ((Quantity.le_iff hthreshold hold).1 hhigh)
  · have hmean : mean.value.isFinite = true := by
      have heq := h.mean_eq
      rw [h.fits.closed.average_eq, Except.ok.injEq] at heq
      rw [← heq]
      exact series.isFinite_meanOver .forecast h.fits.closed.start_lt_stop
    exact lt_of_le_of_lt ((Quantity.le_iff hnew hmean).1 hfront) ((Quantity.lt_iff hmean hold).1 h.mean_lt)

end ThresholdShift

namespace Rescheduling

/--
A threshold policy moves workloads only to the first buckets of low-carbon runs whose mean forecast is below the
workload's own, and the forecast after the move is below the threshold on average.  It is lower than before if it was
not below the threshold then, or if the first buckets of the run are no worse than the whole run on average, as when the
workload fills the run.
-/
theorem threshold_lowers (p : ThresholdShift) (series : CarbonSeries) (decisions : Decisions)
    (selected : Workload → Bool) (ws : List Workload) :
    List.Forall₂ (fun w moved => moved.window ≠ w.window → ∃ range old new mean,
        p.MovedInto series w moved range old new mean ∧
        (⟨p.rateThreshold.toFloat⟩ ≤ old ∨ new ≤ mean → new < old))
      ws ((threshold p).apply series decisions selected ws).1 := by
  refine (forall₂_reschedule .none ws).imp fun w moved hmoved hne => ?_
  rcases hmoved with rfl | ⟨window, hproposed, rfl⟩
  · exact absurd rfl hne
  · obtain ⟨range, hfirst, rfl⟩ := ThresholdShift.findWindow_eq_some_iff.1 (ifAccepted_eq_some.1 hproposed).2
    obtain ⟨old, new, mean, hmoved⟩ := ThresholdShift.movedInto_of_fits
      { w with window := .ofBuckets range.start w.window.buckets.length } hfirst.fits rfl
    exact ⟨range, old, new, mean, hmoved, hmoved.lowers⟩

/-- Two buckets at the threshold on average are moved to a lower forecast. -/
theorem threshold_lowers_shortRunFirst :
    let p : ThresholdShift := ⟨.always, 800, Numeral.maxUInt64⟩
    let w := Simulation.idleMachine 1 1 2
    let moved := { w with window := .ofBuckets 4 2 }
    ((threshold p).apply ThresholdShift.shortRunFirst ⟨0⟩ (fun _ => true) [w]).1 = [moved] ∧
      moved.window ≠ w.window ∧ ∃ range old new mean,
        p.MovedInto ThresholdShift.shortRunFirst w moved range old new mean ∧ new < old := by
  intro p w moved
  have hmoved : ((threshold p).apply ThresholdShift.shortRunFirst ⟨0⟩ (fun _ => true) [w]).1 = [moved] := by
    decide +kernel
  have hne : moved.window ≠ w.window := by decide
  have hlower := threshold_lowers p ThresholdShift.shortRunFirst ⟨0⟩ (fun _ => true) [w]
  rw [hmoved] at hlower
  cases hlower with
  | cons hfirst _ =>
    obtain ⟨range, old, new, mean, hinto, hlower⟩ := hfirst hne
    have hold : w.averageRate ThresholdShift.shortRunFirst .forecast = .ok ⟨800.0⟩ := by decide +kernel
    rw [hinto.old_eq, Except.ok.injEq] at hold
    have hhigh : (⟨p.rateThreshold.toFloat⟩ : Moer) ≤ old := by
      rw [hold]
      decide
    exact ⟨hmoved, hne, range, old, new, mean, hinto, hlower (.inl hhigh)⟩

/-- A series with a low-carbon run that has its highest rate in the middle. -/
def peakInside : CarbonSeries where
  observed := .ofValues #[300, 300, 900, 0, 700, 0, 900]
  forecast := .ofValues #[300, 300, 900, 0, 700, 0, 900]
  same_size := rfl
  size_pos := by decide
  size_le := by decide

/-- Two buckets are moved into a run that is better on average, and get a worse forecast than before. -/
theorem threshold_raises_peakInside :
    let p : ThresholdShift := default
    let w := Simulation.idleMachine 1 0 2
    let moved := { w with window := .ofBuckets 3 2 }
    p.validate = .ok () ∧ w.window.OnGrid peakInside.length ∧
      ((threshold p).apply peakInside ⟨0⟩ (fun _ => true) [w]).1 = [moved] ∧ moved.window ≠ w.window ∧
      ∃ old new, w.averageRate peakInside .forecast = .ok old ∧ moved.averageRate peakInside .forecast = .ok new ∧
        old < new := by
  intro p w moved
  refine ⟨rfl, Window.onGrid_ofBuckets (by decide), by decide +kernel, by decide, ⟨300.0⟩, ⟨350.0⟩, ?_, ?_, by decide⟩
  · decide +kernel
  · decide +kernel

end Rescheduling

/-! ### Moves to dips of the moving average -/

namespace MovingAverageShift

variable {p : MovingAverageShift} {series : CarbonSeries} {w : Workload}

theorem validate_ok_iff : p.validate = .ok () ↔ p.lookahead ≠ 0 ∧ ¬ p.confidence < .zero := by
  unfold validate
  split
  · rename_i hzero
    simp [hzero]
  · rename_i hpos
    split
    · rename_i hnegative
      simp [hnegative]
    · rename_i hmargin
      simp [hpos, hmargin]

/-- A window is found only for workloads of at least one bucket within the series. -/
private theorem covered_of_findWindow {window : Window} (h : p.findWindow series w = .ok (some window)) :
    w.window.Covered series.length ∧ 0 < w.window.buckets.length := by
  rw [findWindow] at h
  split at h
  · cases h
  · rename_i hlength
    obtain ⟨current, hcurrent, -⟩ := bind_eq_ok.1 h
    exact ⟨Workload.averageRate_ok_iff.1 ⟨current, hcurrent⟩, Nat.pos_of_ne_zero hlength⟩

/-- With a margin that is a number and not negative, a dip is lower than the present mean. -/
private theorem lt_of_isDipAt {start : Nat} (hlength : 0 < w.window.buckets.length) (hvalid : p.validate = .ok ())
    (hnan : p.confidence.value.isNaN = false) (h : p.IsDipAt series w start) :
    ∃ old, w.averageRate series .forecast = .ok old ∧ w.meanFrom series start < old := by
  obtain ⟨old, hold, hbelow⟩ := h.below
  obtain ⟨hfinite, hnonneg⟩ := Workload.averageRate_finite hold hlength
  have hmean := Workload.isFinite_meanFrom series hlength start
  refine ⟨old, hold, (Quantity.lt_iff hmean hfinite).2 ?_⟩
  exact Numeral.lt_of_lt_sub hmean hfinite hnonneg hnan (validate_ok_iff.1 hvalid).2 hbelow

/-- With a margin of `NaN`, every local minimum is a dip. -/
private theorem isDipAt_iff_of_isNaN {start : Nat} (hcovered : w.window.Covered series.length)
    (hlength : 0 < w.window.buckets.length) (hnan : p.confidence.value.isNaN = true) :
    p.IsDipAt series w start ↔ p.IsLocalMinimum series w start := by
  refine ⟨fun h => h.toIsLocalMinimum, fun h => ⟨h, _, Workload.averageRate_eq_meanOver hcovered hlength _, ?_⟩⟩
  -- the target is a `NaN` too, and every mean is below it
  exact Numeral.totalCompare_of_isNaN (Workload.isFinite_meanFrom series hlength start) (Numeral.isNaN_sub _ hnan)

end MovingAverageShift

namespace Rescheduling

/--
A valid moving average with a margin that is a number moves workloads only to a lower mean forecast.  The margin may
also be `NaN`; then the present mean does not count, and the search finds the least local minimum.
-/
theorem movingAverage_lowers (p : MovingAverageShift) (hvalid : p.validate = .ok ()) (series : CarbonSeries)
    (decisions : Decisions) (selected : Workload → Bool) :
    (p.confidence.value.isNaN = false → ∀ ws,
      List.Forall₂ (fun w moved => moved.window ≠ w.window → ∃ old new, w.averageRate series .forecast = .ok old ∧
          moved.averageRate series .forecast = .ok new ∧ new < old)
        ws ((movingAverage p).apply series decisions selected ws).1) ∧
    (p.confidence.value.isNaN = true → ∀ w : Workload, w.window.Covered series.length →
      0 < w.window.buckets.length → ∀ window, p.findWindow series w = .ok (some window) ↔
        ∃ start, IsLeast {start | p.IsLocalMinimum series w start} start ∧
          window = .ofBuckets start w.window.buckets.length) := by
  constructor
  · intro hnan ws
    refine (forall₂_reschedule .none ws).imp fun w moved hmoved hne => ?_
    rcases hmoved with rfl | ⟨window, hproposed, rfl⟩
    · exact absurd rfl hne
    · have hfound := (ifAccepted_eq_some.1 hproposed).2
      obtain ⟨hcovered, hlength⟩ := MovingAverageShift.covered_of_findWindow hfound
      obtain ⟨start, hleast, rfl⟩ := (MovingAverageShift.findWindow_eq_some_iff hcovered hlength).1 hfound
      have hdip : p.IsDipAt series w start := hleast.1
      obtain ⟨old, hold, hlower⟩ := MovingAverageShift.lt_of_isDipAt hlength hvalid hnan hdip
      have hwithin := hdip.within
      exact ⟨old, _, hold, Workload.averageRate_moved rfl hlength (by omega), hlower⟩
  · intro hnan w hcovered hlength window
    rw [MovingAverageShift.findWindow_eq_some_iff hcovered hlength]
    simp only [MovingAverageShift.isDipAt_iff_of_isNaN hcovered hlength hnan]

theorem movingAverage_lowers_dippingSeries :
    let p : MovingAverageShift := default
    let w := Simulation.idleMachine 1 0 2
    let moved := { w with window := .ofBuckets 2 2 }
    p.validate = .ok () ∧ p.confidence.value.isNaN = false ∧
      ((movingAverage p).apply Simulation.dippingSeries ⟨0⟩ (fun _ => true) [w]).1 = [moved] ∧
      moved.window ≠ w.window ∧ ∃ old new, w.averageRate Simulation.dippingSeries .forecast = .ok old ∧
        moved.averageRate Simulation.dippingSeries .forecast = .ok new ∧ new < old := by
  intro p w moved
  have hvalid : p.validate = .ok () := by decide
  have hnan : p.confidence.value.isNaN = false := by decide
  have hmoved : ((movingAverage p).apply Simulation.dippingSeries ⟨0⟩ (fun _ => true) [w]).1 = [moved] := by
    decide +kernel
  have hne : moved.window ≠ w.window := by decide
  have hlower := (movingAverage_lowers p hvalid Simulation.dippingSeries ⟨0⟩ fun _ => true).1 hnan [w]
  rw [hmoved] at hlower
  cases hlower with
  | cons hfirst _ => exact ⟨hvalid, hnan, hmoved, hne, hfirst hne⟩

/-- A series that is never again as low as in its first bucket. -/
def lowestFirst : CarbonSeries where
  observed := .ofValues #[100, 900, 500, 600, 700, 900]
  forecast := .ofValues #[100, 900, 500, 600, 700, 900]
  same_size := rfl
  size_pos := by decide
  size_le := by decide

/-- With a margin of `NaN`, which is valid, a workload is moved from the lowest rate to a higher one. -/
theorem movingAverage_raises_lowestFirst :
    let p : MovingAverageShift := ⟨.always, ⟨0.0 / 0.0⟩, 288⟩
    let w := Simulation.idleMachine 1 0 1
    let moved := { w with window := .ofBuckets 2 1 }
    p.validate = .ok () ∧ w.window.OnGrid lowestFirst.length ∧
      ((movingAverage p).apply lowestFirst ⟨0⟩ (fun _ => true) [w]).1 = [moved] ∧ moved.window ≠ w.window ∧
      ∃ old new, w.averageRate lowestFirst .forecast = .ok old ∧ moved.averageRate lowestFirst .forecast = .ok new ∧
        old < new := by
  intro p w moved
  refine ⟨by decide, Window.onGrid_ofBuckets (by decide), by decide +kernel, by decide, ⟨100.0⟩, ⟨500.0⟩, ?_, ?_,
    by decide⟩
  · decide +kernel
  · decide +kernel

end Rescheduling

end CarbonAware
