import CarbonAware.Proofs.LowCarbonRuns

/-!
# The runs found are the closed maximal runs

A scan of the forecast carries the run that is open before the next bucket (`LowCarbonRun.Tracks`), and reports a run
where one closes (`LowCarbonRun.mem_scan_iff`).  So the runs found in a series are exactly the maximal ranges of low
buckets that end within it, each with the mean of its forecast (`LowCarbonRun.all_closed_runs`).  The search by halving
cuts their list where the runs begin to start at the wanted bucket or later (`LowCarbonRun.startingFrom_closed_runs`).
-/

namespace CarbonAware

namespace LowCarbonRun

/-- The forecast of the bucket is below the threshold. -/
def IsLow (series : CarbonSeries) (threshold : UInt32) (bucket : Nat) : Prop :=
  ∃ rate, (series.values .forecast)[bucket]? = some rate ∧ rate < threshold

/-- The forecast of the bucket is at the threshold or above. -/
def IsHigh (series : CarbonSeries) (threshold : UInt32) (bucket : Nat) : Prop :=
  ∃ rate, (series.values .forecast)[bucket]? = some rate ∧ threshold ≤ rate

/-- A maximal run of low buckets that ends before the series does. -/
structure IsClosed (series : CarbonSeries) (threshold : UInt32) (range : BucketRange) : Prop where
  start_lt_stop : range.start < range.stop
  stop_lt_length : range.stop < series.length
  low : ∀ bucket, range.start ≤ bucket → bucket < range.stop → IsLow series threshold bucket
  high_stop : IsHigh series threshold range.stop
  high_before : range.start = 0 ∨ IsHigh series threshold (range.start - 1)

/-- A run of low buckets up to the bucket `index`, of which no more is known, with its sum. -/
structure IsOpen (series : CarbonSeries) (threshold : UInt32) (index : Nat) (run : OpenRun) : Prop where
  start_lt : run.start < index
  low : ∀ bucket, run.start ≤ bucket → bucket < index → IsLow series threshold bucket
  high_before : run.start = 0 ∨ IsHigh series threshold (run.start - 1)
  sum_eq : run.sum = series.sumOver .forecast ⟨run.start, index⟩

/-- What a scan knows before the bucket `index`: its open run or, if there is none, that no low bucket precedes. -/
def Tracks (series : CarbonSeries) (threshold : UInt32) (index : Nat) : Option OpenRun → Prop
  | none => index = 0 ∨ IsHigh series threshold (index - 1)
  | some run => IsOpen series threshold index run

variable {series : CarbonSeries} {threshold : UInt32}

theorem IsHigh.not_isLow {bucket : Nat} (h : IsHigh series threshold bucket) : ¬ IsLow series threshold bucket := by
  obtain ⟨rate, hrate, hle⟩ := h
  rintro ⟨rate', hrate', hlt⟩
  rw [hrate, Option.some.injEq] at hrate'
  rw [← hrate'] at hlt
  exact absurd hlt (UInt32.not_lt.2 hle)

theorem IsClosed.average_eq {range : BucketRange} (h : IsClosed series threshold range) :
    series.average .forecast range = .ok (series.meanOver .forecast range) :=
  series.average_eq_meanOver .forecast h.start_lt_stop (Nat.le_of_lt h.stop_lt_length)

/-! ### Reading one more bucket -/

section Step

variable {index : Nat} {value : UInt32} (hvalue : (series.values .forecast)[index]? = some value)
include hvalue

/-- A low bucket after no run opens one. -/
private theorem isOpen_start (hlow : value < threshold) (h : Tracks series threshold index none) :
    IsOpen series threshold (index + 1) ⟨index, value.toUInt64⟩ where
  start_lt := Nat.lt_succ_self index
  low := by
    intro bucket hle hlt
    obtain rfl : bucket = index := by simp only at hle; omega
    exact ⟨value, hvalue, hlow⟩
  high_before := h
  sum_eq := by
    have hnone : series.sumOver .forecast ⟨index, index⟩ = 0 := by simp [CarbonSeries.sumOver]
    rw [series.sumOver_succ .forecast (Nat.le_refl index) hvalue, hnone, UInt64.zero_add]

/-- A low bucket after a run belongs to it. -/
private theorem IsOpen.extend {run : OpenRun} (hlow : value < threshold) (h : IsOpen series threshold index run) :
    IsOpen series threshold (index + 1) ⟨run.start, run.sum + value.toUInt64⟩ where
  start_lt := Nat.lt_succ_of_lt h.start_lt
  low := by
    intro bucket hle hlt
    rcases Nat.lt_succ_iff_lt_or_eq.1 hlt with hlt | rfl
    · exact h.low bucket hle hlt
    · exact ⟨value, hvalue, hlow⟩
  high_before := h.high_before
  sum_eq := by rw [series.sumOver_succ .forecast (Nat.le_of_lt h.start_lt) hvalue, h.sum_eq]

end Step

/-! ### Where runs close -/

private theorem IsClosed.stop_ne_of_low {range : BucketRange} (h : IsClosed series threshold range) {index : Nat}
    (hlow : IsLow series threshold index) : range.stop ≠ index := by
  rintro rfl
  exact h.high_stop.not_isLow hlow

/-- Without an open run, no run closes. -/
private theorem IsClosed.stop_ne_of_tracks_none {range : BucketRange} (h : IsClosed series threshold range)
    {index : Nat} (htracks : Tracks series threshold index none) : range.stop ≠ index := by
  rintro rfl
  have hlt := h.start_lt_stop
  rcases htracks with hzero | hhigh
  · omega
  · exact hhigh.not_isLow (h.low _ (by omega) (by omega))

/-- Before a high bucket, the open run closes. -/
private theorem IsOpen.isClosed {run : OpenRun} {index : Nat} (h : IsOpen series threshold index run)
    (hhigh : IsHigh series threshold index) : IsClosed series threshold ⟨run.start, index⟩ where
  start_lt_stop := h.start_lt
  stop_lt_length := by
    obtain ⟨rate, hrate, -⟩ := hhigh
    have hlength : (series.values .forecast).length = series.length := series.size_track .forecast
    have := (List.getElem?_eq_some_iff.1 hrate).1
    show index < series.length
    omega
  low := h.low
  high_stop := hhigh
  high_before := h.high_before

/-- Where the open run closes, no other does. -/
private theorem IsOpen.start_eq {run : OpenRun} {range : BucketRange} (h : IsOpen series threshold range.stop run)
    (hclosed : IsClosed series threshold range) : range.start = run.start := by
  have hrun := h.start_lt
  have hrange := hclosed.start_lt_stop
  -- of two runs with one end, the longer one contains the high bucket before the shorter one
  rcases Nat.lt_trichotomy range.start run.start with hlt | heq | hlt
  · rcases h.high_before with hzero | hhigh
    · omega
    · exact absurd (hclosed.low _ (by omega) (by omega)) hhigh.not_isLow
  · exact heq
  · rcases hclosed.high_before with hzero | hhigh
    · omega
    · exact absurd (h.low _ (by omega) (by omega)) hhigh.not_isLow

private theorem IsOpen.close_eq {run : OpenRun} {index : Nat} (h : IsOpen series threshold index run) :
    close run index = ⟨⟨run.start, index⟩, series.meanOver .forecast ⟨run.start, index⟩⟩ := by
  rw [close, h.sum_eq]
  rfl

/-! ### The runs of a scan -/

/-- A scan from the bucket `index` on finds the runs that close there or later, with their means. -/
theorem mem_scan_iff {index : Nat} {current : Option OpenRun} {values : List UInt32}
    (htracks : Tracks series threshold index current) (hvalues : (series.values .forecast).drop index = values)
    {run : LowCarbonRun} : run ∈ scan threshold index current values ↔
      IsClosed series threshold run.buckets ∧ index ≤ run.buckets.stop ∧
        run.average = series.meanOver .forecast run.buckets := by
  induction values generalizing index current with
  | nil =>
    have hscan : scan threshold index current [] = [] := by cases current <;> rfl
    rw [hscan]
    refine ⟨fun h => absurd h List.not_mem_nil, ?_⟩
    rintro ⟨hclosed, hle, -⟩
    have hlength : (series.values .forecast).length = series.length := series.size_track .forecast
    have hend := List.drop_eq_nil_iff.1 hvalues
    have hstop := hclosed.stop_lt_length
    omega
  | cons value rest ih =>
    have hvalue : (series.values .forecast)[index]? = some value := by
      rw [← List.head?_drop, hvalues, List.head?_cons]
    have hrest : (series.values .forecast).drop (index + 1) = rest := by
      rw [← List.tail_drop, hvalues, List.tail_cons]
    -- where no run ends before this bucket, all that is left is found by the rest of the scan
    have hlater (hne : IsClosed series threshold run.buckets → run.buckets.stop ≠ index) :
        (IsClosed series threshold run.buckets ∧ index + 1 ≤ run.buckets.stop ∧
          run.average = series.meanOver .forecast run.buckets) ↔
        (IsClosed series threshold run.buckets ∧ index ≤ run.buckets.stop ∧
          run.average = series.meanOver .forecast run.buckets) := by
      refine and_congr_right fun hclosed => and_congr_left fun _ => ?_
      have := hne hclosed
      omega
    by_cases hlow : value < threshold
    · have hne (hclosed : IsClosed series threshold run.buckets) : run.buckets.stop ≠ index :=
        hclosed.stop_ne_of_low ⟨value, hvalue, hlow⟩
      cases current with
      | none =>
        have hopen : Tracks series threshold (index + 1) (some ⟨index, value.toUInt64⟩) :=
          isOpen_start hvalue hlow htracks
        rw [scan, if_pos hlow, ih hopen hrest, hlater hne]
      | some openRun =>
        have hopen : Tracks series threshold (index + 1) (some ⟨openRun.start, openRun.sum + value.toUInt64⟩) :=
          IsOpen.extend hvalue hlow htracks
        rw [scan, if_pos hlow, ih hopen hrest, hlater hne]
    · have hhigh : IsHigh series threshold index := ⟨value, hvalue, UInt32.not_lt.1 hlow⟩
      have hnone : Tracks series threshold (index + 1) none := .inr hhigh
      cases current with
      | none =>
        rw [scan, if_neg hlow, ih hnone hrest, hlater fun hclosed => hclosed.stop_ne_of_tracks_none htracks]
      | some openRun =>
        have hopen : IsOpen series threshold index openRun := htracks
        rw [scan, if_neg hlow, List.mem_cons, ih hnone hrest, hopen.close_eq]
        constructor
        · rintro (rfl | ⟨hclosed, hle, haverage⟩)
          · exact ⟨hopen.isClosed hhigh, Nat.le_refl index, rfl⟩
          · exact ⟨hclosed, by omega, haverage⟩
        · rintro ⟨hclosed, hle, haverage⟩
          rcases Nat.lt_or_eq_of_le hle with hlt | rfl
          · exact .inr ⟨hclosed, hlt, haverage⟩
          · left
            rw [← hopen.start_eq hclosed, ← haverage]

/-- The runs of a series are its closed maximal runs, each with the mean of its forecast. -/
theorem mem_all_iff {run : LowCarbonRun} : run ∈ (all series threshold).toList ↔
    IsClosed series threshold run.buckets ∧ run.average = series.meanOver .forecast run.buckets := by
  have hstart : Tracks series threshold 0 none := .inl rfl
  rw [all, List.toList_toArray, mem_scan_iff hstart List.drop_zero]
  simp only [Nat.zero_le, true_and]

/--
The runs found are exactly the maximal ranges of low buckets that a high bucket ends.  Each is found once, they are in
order and do not touch, and the mean that comes with a run is the average of the series over its range.
-/
theorem all_closed_runs (series : CarbonSeries) (threshold : UInt32) :
    (∀ range : BucketRange,
      (∃ run ∈ (all series threshold).toList, run.buckets = range) ↔ IsClosed series threshold range) ∧
    ((all series threshold).toList.map (·.buckets)).Nodup ∧
    ((all series threshold).toList.Pairwise fun left right => left.buckets.stop < right.buckets.start) ∧
    ∀ run ∈ (all series threshold).toList, series.average .forecast run.buckets = .ok run.average := by
  refine ⟨fun range => ?_, ?_, all_separated series threshold, fun run hrun => ?_⟩
  · constructor
    · rintro ⟨run, hrun, rfl⟩
      exact (mem_all_iff.1 hrun).1
    · intro hclosed
      exact ⟨⟨range, series.meanOver .forecast range⟩, mem_all_iff.2 ⟨hclosed, rfl⟩, rfl⟩
  · -- runs with different starts are different ranges
    refine (all_pairwise series threshold).map _ fun left right hlt heq => ?_
    rw [heq] at hlt
    exact Nat.lt_irrefl _ hlt
  · obtain ⟨hclosed, haverage⟩ := mem_all_iff.1 hrun
    rw [haverage]
    exact hclosed.average_eq

-- the run that is open at the end is not found
example (series : CarbonSeries) (h : series.values .forecast = [900, 100, 300, 900, 100]) :
    (all series 800).toList.map (·.buckets) = [⟨1, 3⟩] := by
  rw [all, h]
  decide

/-! ### The runs from a bucket on -/

/-- The runs that the search by halving cuts off start too early. -/
private theorem exists_earlier (series : CarbonSeries) (threshold : UInt32) (bucket : Nat) :
    ∃ earlier, (all series threshold).toList = earlier ++ startingFrom (all series threshold) bucket ∧
      ∀ run ∈ earlier, run.buckets.start < bucket := by
  obtain ⟨n, hn⟩ : ∃ n, startingFrom (all series threshold) bucket = (all series threshold).toList.drop n := ⟨_, rfl⟩
  have hsplit := List.take_append_drop n (all series threshold).toList
  rw [← hn] at hsplit
  refine ⟨_, hsplit.symm, fun run hrun => Nat.lt_of_not_le fun hle => ?_⟩
  -- a run cut off that starts late enough would also be found, and so start before itself
  have hfound : run ∈ startingFrom (all series threshold) bucket := by
    rw [startingFrom_all, List.mem_filter, decide_eq_true_eq]
    exact ⟨List.mem_of_mem_take hrun, hle⟩
  have hordered := all_pairwise series threshold
  rw [← hsplit, List.pairwise_append] at hordered
  exact Nat.lt_irrefl _ (hordered.2.2 run hrun run hfound)

/--
The search by halving finds what a pass over all runs finds: those that start at the bucket or later, in order.  It cuts
off an initial part of the runs, all of which start before the bucket.  In terms of the series, what is found are the
maximal ranges of low buckets that a high bucket ends and that start at the bucket or later.
-/
theorem startingFrom_closed_runs (series : CarbonSeries) (threshold : UInt32) (bucket : Nat) :
    startingFrom (all series threshold) bucket =
      (all series threshold).toList.filter (fun run => decide (bucket ≤ run.buckets.start)) ∧
    (∃ earlier, (all series threshold).toList = earlier ++ startingFrom (all series threshold) bucket ∧
      ∀ run ∈ earlier, run.buckets.start < bucket) ∧
    ∀ range : BucketRange, (∃ run ∈ startingFrom (all series threshold) bucket, run.buckets = range) ↔
      IsClosed series threshold range ∧ bucket ≤ range.start := by
  refine ⟨startingFrom_all series threshold bucket, exists_earlier series threshold bucket, fun range => ?_⟩
  simp only [startingFrom_all, List.mem_filter, decide_eq_true_eq, mem_all_iff]
  constructor
  · rintro ⟨run, ⟨⟨hclosed, -⟩, hle⟩, rfl⟩
    exact ⟨hclosed, hle⟩
  · rintro ⟨hclosed, hle⟩
    exact ⟨⟨range, series.meanOver .forecast range⟩, ⟨⟨hclosed, rfl⟩, hle⟩, rfl⟩

end LowCarbonRun

end CarbonAware
