import CarbonAware.Proofs.ClosedRuns
import CarbonAware.Proofs.Searches

/-!
# How far the searches see

A search reads the forecast of the workload's own buckets, of the one before them and of those up to its horizon
(`Workload.inSight`).  On two series whose forecasts are the same there, both searches find the same window
(`ThresholdShift.findWindow_congr`, `MovingAverageShift.findWindow_congr`).
-/

namespace CarbonAware

namespace CarbonSeries

/-- Two series of one length with the same forecast for every bucket of the range. -/
structure SameForecast (a b : CarbonSeries) (range : BucketRange) : Prop where
  length_eq : a.length = b.length
  rate_eq : ∀ bucket, range.start ≤ bucket → bucket < range.stop →
    (a.values .forecast)[bucket]? = (b.values .forecast)[bucket]?

variable {a b : CarbonSeries} {seen : BucketRange}

theorem SameForecast.symm (h : a.SameForecast b seen) : b.SameForecast a seen :=
  ⟨h.length_eq.symm, fun bucket hstart hstop => (h.rate_eq bucket hstart hstop).symm⟩

theorem sameForecast_of_values_eq (h : a.values .forecast = b.values .forecast) (range : BucketRange) :
    a.SameForecast b range where
  length_eq := by
    have ha : (a.values .forecast).length = a.length := a.size_track .forecast
    have hb : (b.values .forecast).length = b.length := b.size_track .forecast
    rw [← ha, ← hb, h]
  rate_eq := fun bucket _ _ => by rw [h]

namespace SameForecast

variable (h : a.SameForecast b seen)
include h

theorem meanOver_eq {range : BucketRange} (hstart : seen.start ≤ range.start) (hstop : range.stop ≤ seen.stop) :
    a.meanOver .forecast range = b.meanOver .forecast range := by
  have hvalues : ((a.values .forecast).take range.stop).drop range.start =
      ((b.values .forecast).take range.stop).drop range.start := by
    apply List.ext_getElem?
    intro i
    rw [List.getElem?_drop, List.getElem?_drop, List.getElem?_take, List.getElem?_take]
    split
    · exact h.rate_eq _ (by omega) (by omega)
    · rfl
  rw [meanOver, meanOver, sumOver, sumOver, hvalues]

theorem average_eq {range : BucketRange} (hstart : seen.start ≤ range.start) (hstop : range.stop ≤ seen.stop) :
    a.average .forecast range = b.average .forecast range := by
  by_cases hrange : range.start < range.stop ∧ range.stop ≤ a.length
  · have hstop' : range.stop ≤ b.length := h.length_eq ▸ hrange.2
    rw [a.average_eq_meanOver .forecast hrange.1 hrange.2, b.average_eq_meanOver .forecast hrange.1 hstop',
      h.meanOver_eq hstart hstop]
  · have hrange' : ¬ (range.start < range.stop ∧ range.stop ≤ b.length) := h.length_eq ▸ hrange
    rw [average, average, dif_neg hrange, dif_neg hrange', h.length_eq]

theorem averageRate_eq {w : Workload} (hstart : seen.start ≤ w.window.buckets.start)
    (hstop : w.window.buckets.stop ≤ seen.stop) : w.averageRate a .forecast = w.averageRate b .forecast := by
  rw [Workload.averageRate, Workload.averageRate, averageOrZero, averageOrZero, h.average_eq hstart hstop]

end SameForecast

end CarbonSeries

/-- What a search that looks ahead by `lookahead` buckets may read of the forecast. -/
def Workload.inSight (w : Workload) (lookahead : Nat) : BucketRange :=
  ⟨w.window.buckets.start - 1, max w.window.buckets.stop (w.window.buckets.start + lookahead + 1)⟩

variable {a b : CarbonSeries} {seen : BucketRange}

/-! ### The search for a low-carbon run -/

namespace LowCarbonRun

variable {threshold : UInt32}

/-- A closed run is known from its buckets, the one before it and the one after it. -/
private theorem IsClosed.of_sameForecast (h : a.SameForecast b seen) {range : BucketRange}
    (hstart : seen.start ≤ range.start - 1) (hstop : range.stop < seen.stop) (hclosed : IsClosed a threshold range) :
    IsClosed b threshold range where
  start_lt_stop := hclosed.start_lt_stop
  stop_lt_length := h.length_eq ▸ hclosed.stop_lt_length
  low := by
    intro bucket hle hlt
    obtain ⟨rate, hrate, hlow⟩ := hclosed.low bucket hle hlt
    exact ⟨rate, by rw [← h.rate_eq bucket (by omega) (by omega), hrate], hlow⟩
  high_stop := by
    have hlt := hclosed.start_lt_stop
    obtain ⟨rate, hrate, hhigh⟩ := hclosed.high_stop
    exact ⟨rate, by rw [← h.rate_eq _ (by omega) hstop, hrate], hhigh⟩
  high_before := by
    have hlt := hclosed.start_lt_stop
    refine hclosed.high_before.imp_right fun ⟨rate, hrate, hhigh⟩ => ?_
    exact ⟨rate, by rw [← h.rate_eq _ hstart (by omega), hrate], hhigh⟩

private theorem mem_all_of_sameForecast (h : a.SameForecast b seen) {run : LowCarbonRun}
    (hstart : seen.start ≤ run.buckets.start - 1) (hstop : run.buckets.stop < seen.stop)
    (hrun : run ∈ (all a threshold).toList) : run ∈ (all b threshold).toList := by
  obtain ⟨hclosed, haverage⟩ := mem_all_iff.1 hrun
  have hmean : a.meanOver .forecast run.buckets = b.meanOver .forecast run.buckets :=
    h.meanOver_eq (by omega) (by omega)
  exact mem_all_iff.2 ⟨hclosed.of_sameForecast h hstart hstop, haverage.trans hmean⟩

/-- Lists of runs in order are equal if they consist of the same runs. -/
private theorem eq_of_ordered {runs runs' : List LowCarbonRun}
    (h : runs.Pairwise fun left right => left.buckets.start < right.buckets.start)
    (h' : runs'.Pairwise fun left right => left.buckets.start < right.buckets.start)
    (hmem : ∀ run, run ∈ runs ↔ run ∈ runs') : runs = runs' := by
  have : Std.Antisymm fun left right : LowCarbonRun => left.buckets.start < right.buckets.start :=
    ⟨fun _ _ hlt hgt => absurd hgt (Nat.lt_asymm hlt)⟩
  have : Std.Irrefl fun left right : LowCarbonRun => left.buckets.start < right.buckets.start :=
    ⟨fun _ => Nat.lt_irrefl _⟩
  exact h.eq_of_mem_iff h' hmem

/-- The runs from a bucket on that end by the horizon are the same on both series. -/
theorem startingFrom_all_congr (h : a.SameForecast b seen) (threshold : UInt32) {bucket horizon : Nat}
    (hstart : seen.start ≤ bucket - 1) (hstop : horizon < seen.stop) :
    (startingFrom (all a threshold) bucket).filter (fun run => decide (run.buckets.stop ≤ horizon)) =
      (startingFrom (all b threshold) bucket).filter fun run => decide (run.buckets.stop ≤ horizon) := by
  rw [startingFrom_all, startingFrom_all]
  refine eq_of_ordered (((all_pairwise a threshold).filter _).filter _)
    (((all_pairwise b threshold).filter _).filter _) fun run => ?_
  simp only [List.mem_filter, decide_eq_true_eq]
  constructor
  · rintro ⟨⟨hrun, hbucket⟩, hhorizon⟩
    exact ⟨⟨mem_all_of_sameForecast h (by omega) (by omega) hrun, hbucket⟩, hhorizon⟩
  · rintro ⟨⟨hrun, hbucket⟩, hhorizon⟩
    exact ⟨⟨mem_all_of_sameForecast h.symm (by omega) (by omega) hrun, hbucket⟩, hhorizon⟩

end LowCarbonRun

theorem forecastHorizon_le (start lookahead : Nat) : forecastHorizon start lookahead ≤ start + lookahead :=
  Nat.min_le_left _ _

theorem ThresholdShift.findWindow_congr (p : ThresholdShift) {w : Workload}
    (h : a.SameForecast b (w.inSight p.lookahead)) :
    p.findWindow a (LowCarbonRun.all a p.rateThreshold) w =
      p.findWindow b (LowCarbonRun.all b p.rateThreshold) w := by
  have hhorizon : forecastHorizon w.window.buckets.start p.lookahead < (w.inSight p.lookahead).stop := by
    have := forecastHorizon_le w.window.buckets.start p.lookahead
    simp only [Workload.inSight]
    omega
  have hruns := LowCarbonRun.startingFrom_all_congr h p.rateThreshold (Nat.le_refl _) hhorizon
  have hrate : w.averageRate a .forecast = w.averageRate b .forecast :=
    h.averageRate_eq (Nat.sub_le _ _) (Nat.le_max_left _ _)
  simp only [findWindow, firstFit_startingFrom, hrate, hruns]

theorem MovingAverageShift.findWindow_congr (p : MovingAverageShift) {w : Workload}
    (h : a.SameForecast b (w.inSight p.lookahead)) : p.findWindow a w = p.findWindow b w := by
  have hrate : w.averageRate a .forecast = w.averageRate b .forecast :=
    h.averageRate_eq (Nat.sub_le _ _) (Nat.le_max_left _ _)
  have hhorizon := forecastHorizon_le w.window.buckets.start p.lookahead
  rw [findWindow, findWindow, hrate, h.length_eq]
  split
  · rfl
  · refine bind_congr fun current => ?_
    -- the latest start that is tried leaves room for one more bucket before the horizon
    have hmeans : ∀ start ∈ starts w.window.buckets
        (min (forecastHorizon w.window.buckets.start p.lookahead) b.length),
        ∀ near, start - 1 ≤ near → near ≤ start + 1 →
          a.average .forecast ⟨near, near + w.window.buckets.length⟩ =
            b.average .forecast ⟨near, near + w.window.buckets.length⟩ := by
      intro start hstart near hbefore hafter
      obtain ⟨hlater, hbound⟩ := mem_starts.1 hstart
      refine h.average_eq ?_ ?_
      · simp only [Workload.inSight]; omega
      · simp only [Workload.inSight]; omega
    simp only [firstDip_congr hmeans]

end CarbonAware
