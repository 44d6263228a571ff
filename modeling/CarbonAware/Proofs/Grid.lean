import Mathlib
import CarbonAware.Workload.Basic

/-!
# Windows on the grid, and averages over them

Seconds within the buckets of a series are far below the greatest 64-bit number, so that nothing wraps around there
(`Window.floor_eq`, `Window.truncated_eq`, `Window.OnGrid.duration_eq`).  A window on the grid is the window of its
buckets (`Window.OnGrid.eq_ofBuckets`), and it may be moved along the grid before or after it is cut short
(`Window.OnGrid.truncated_startingAt`).  The average over a window is defined exactly if its buckets lie within the
series (`Workload.averageRate_ok_iff`), and then it is the mean of the values there
(`CarbonSeries.average_eq_meanOver`).
-/

namespace CarbonAware

namespace Window

/-- Both ends are bucket boundaries, and the window lies within a series of `length` buckets. -/
structure OnGrid (length : Nat) (w : Window) : Prop where
  aligned : w.isAligned = true
  start_nonneg : 0 ≤ w.start
  start_le_stop : w.start ≤ w.stop
  stop_le : w.stop ≤ bucketSeconds * length

/-- The buckets of the window, if it has any, lie within a series of `length` buckets. -/
def Covered (length : Nat) (w : Window) : Prop := w.buckets.start < w.buckets.stop → w.buckets.stop ≤ length

/-- The window of the same duration that starts at `start`. -/
def startingAt (w : Window) (start : Int) : Window := ⟨start, start + (w.stop - w.start)⟩

theorem isAligned_iff {w : Window} :
    w.isAligned = true ↔ w.start % bucketSeconds = 0 ∧ w.stop % bucketSeconds = 0 := by
  simp [isAligned]

/-! ### Where nothing wraps around -/

theorem floor_eq {seconds : Int} (h : -2 ^ 63 ≤ seconds / bucketSeconds * bucketSeconds) (h' : seconds < 2 ^ 63) :
    floor seconds = seconds / bucketSeconds * bucketSeconds :=
  Numeral.wrapInt64_of_mem h (by unfold bucketSeconds; omega)

theorem duration_eq {w : Window} (h : -2 ^ 63 ≤ w.stop - w.start) (h' : w.stop - w.start < 2 ^ 63) :
    w.duration = w.stop - w.start :=
  Numeral.wrapInt64_of_mem h h'

theorem truncated_eq {w : Window} {seconds : Int}
    (h : -2 ^ 63 ≤ (w.start + seconds) / bucketSeconds * bucketSeconds) (h' : w.start + seconds < 2 ^ 63) :
    w.truncated seconds = ⟨w.start, min ((w.start + seconds) / bucketSeconds * bucketSeconds) w.stop⟩ := by
  have hsum : Numeral.wrapInt64 (w.start + seconds) = w.start + seconds :=
    Numeral.wrapInt64_of_mem (by unfold bucketSeconds at h; omega) h'
  rw [truncated, hsum, floor_eq h h']

theorem aligned_eq {start stop : Int} (h0 : 0 ≤ start) (hle : start ≤ stop) (h : stop < 2 ^ 63) :
    aligned start stop = ⟨start / bucketSeconds * bucketSeconds, stop / bucketSeconds * bucketSeconds⟩ := by
  have hstart : floor start = start / bucketSeconds * bucketSeconds :=
    floor_eq (by unfold bucketSeconds; omega) (by omega)
  have hstop : floor stop = stop / bucketSeconds * bucketSeconds := floor_eq (by unfold bucketSeconds; omega) h
  rw [aligned, hstart, hstop]

theorem duration_aligned {start stop : Int} (h0 : 0 ≤ start) (hle : start ≤ stop) (h : stop < 2 ^ 63) :
    (aligned start stop).duration = stop / bucketSeconds * bucketSeconds - start / bucketSeconds * bucketSeconds := by
  rw [aligned_eq h0 hle h]
  unfold bucketSeconds
  exact duration_eq (by dsimp only; omega) (by dsimp only; omega)

private theorem toInt_toInt64_ofNat {n : Nat} (h : n ≤ maxBuckets) : (UInt64.ofNat n).toInt64.toInt = n := by
  unfold maxBuckets at h
  have hmod : n % 2 ^ 64 = n := Nat.mod_eq_of_lt (by omega)
  change (BitVec.ofNat 64 n).toInt = n
  rw [BitVec.toInt_eq_toNat_of_lt, BitVec.toNat_ofNat, hmod]
  rw [BitVec.toNat_ofNat, hmod]
  omega

/-- Words that count buckets of a series stand for the window of these buckets. -/
theorem ofBucketWords_eq {start length : Nat} (h : start + length ≤ maxBuckets) :
    ofBucketWords (.ofNat start) (.ofNat length) = ofBuckets start length := by
  have hstart := toInt_toInt64_ofNat (n := start) (by omega)
  have hlength := toInt_toInt64_ofNat (n := length) (by omega)
  unfold maxBuckets at h
  simp only [ofBucketWords, ofBuckets, hstart, hlength, bucketSeconds]
  rw [Numeral.wrapInt64_of_mem (by omega) (by omega), Numeral.wrapInt64_of_mem (by omega) (by omega)]

/-! ### Windows of buckets -/

theorem bucketOf_mono {a b : Int} (h : a ≤ b) : bucketOf a ≤ bucketOf b := by
  unfold bucketOf bucketSeconds; omega

theorem bucketOf_mul (bucket : Nat) : bucketOf (bucket * bucketSeconds) = bucket := by
  unfold bucketOf bucketSeconds; omega

theorem buckets_ofBuckets (start length : Nat) :
    (ofBuckets start length).buckets = ⟨start, start + length⟩ := by
  have hstop : bucketOf ((start + length : Int) * bucketSeconds) = start + length := by
    exact_mod_cast bucketOf_mul (start + length)
  simp only [buckets, ofBuckets, bucketOf_mul, hstop, BucketRange.mk.injEq, true_and]
  omega

theorem onGrid_ofBuckets {n start length : Nat} (h : start + length ≤ n) : (ofBuckets start length).OnGrid n := by
  constructor
  · rw [isAligned_iff]; simp only [ofBuckets, bucketSeconds]; omega
  · simp only [ofBuckets, bucketSeconds]; omega
  · simp only [ofBuckets, bucketSeconds]; omega
  · simp only [ofBuckets, bucketSeconds]; omega

/-- Seconds from the epoch on make a window on the grid, if the buckets that they lie in are those of the series. -/
theorem onGrid_aligned {n : Nat} {start stop : Int} (h0 : 0 ≤ start) (hle : start ≤ stop) (h : stop < 2 ^ 63)
    (hn : (aligned start stop).buckets.stop ≤ n) : (aligned start stop).OnGrid n := by
  rw [aligned_eq h0 hle h] at hn ⊢
  simp only [buckets, bucketOf, bucketSeconds] at hn
  constructor
  · rw [isAligned_iff]; simp only [bucketSeconds]; omega
  · simp only [bucketSeconds]; omega
  · simp only [bucketSeconds]; omega
  · simp only [bucketSeconds]; omega

/-- A window on the grid is the window of its buckets. -/
theorem OnGrid.eq_ofBuckets {n : Nat} {w : Window} (h : w.OnGrid n) :
    ∃ start length : Nat, start + length ≤ n ∧ w = ofBuckets start length := by
  obtain ⟨ha, h0, hle, hn⟩ := h
  rw [isAligned_iff] at ha
  unfold bucketSeconds at ha hn
  refine ⟨(w.start / 300).toNat, ((w.stop - w.start) / 300).toNat, by omega, ?_⟩
  rcases w with ⟨start, stop⟩
  simp only [ofBuckets, bucketSeconds, Window.mk.injEq]
  simp only at ha h0 hle
  omega

/-- The ends of a window on the grid of a series are far from the ends of all seconds. -/
theorem OnGrid.bounds {n : Nat} {w : Window} (h : w.OnGrid n) (hn : n ≤ maxBuckets) :
    0 ≤ w.start ∧ w.start ≤ w.stop ∧ w.stop ≤ 300 * 2 ^ 54 := by
  obtain ⟨-, h0, hle, hstop⟩ := h
  unfold maxBuckets at hn
  unfold bucketSeconds at hstop
  omega

theorem OnGrid.duration_eq {n : Nat} {w : Window} (h : w.OnGrid n) (hn : n ≤ maxBuckets) :
    w.duration = w.stop - w.start := by
  have hbounds := h.bounds hn
  exact Window.duration_eq (by omega) (by omega)

theorem OnGrid.covered {n : Nat} {w : Window} (h : w.OnGrid n) : w.Covered n := by
  obtain ⟨start, length, hn, rfl⟩ := h.eq_ofBuckets
  rw [Covered, buckets_ofBuckets]
  exact fun _ => hn

/-! ### Moving a window and cutting it short -/

theorem duration_startingAt (w : Window) (start : Int) : (w.startingAt start).duration = w.duration := by
  simp only [startingAt, duration, add_sub_cancel_left]

theorem startingAt_start (w : Window) : w.startingAt w.start = w := by
  rcases w with ⟨start, stop⟩
  simp only [startingAt, Window.mk.injEq, true_and]
  omega

theorem truncated_stop_le (w : Window) (seconds : Int) : (w.truncated seconds).stop ≤ w.stop := by
  simp only [truncated]; omega

section Cut

variable {n : Nat} {w : Window} (h : w.OnGrid n) (hn : n ≤ maxBuckets) {seconds : Int} (hseconds : |seconds| ≤ 2 ^ 60)

include h hn hseconds

/-- A window on the grid is cut at the last bucket boundary before the given number of seconds have passed. -/
theorem OnGrid.truncated_eq :
    w.truncated seconds = ⟨w.start, min ((w.start + seconds) / bucketSeconds * bucketSeconds) w.stop⟩ := by
  have hbounds := h.bounds hn
  rw [abs_le] at hseconds
  exact Window.truncated_eq (by unfold bucketSeconds; omega) (by omega)

theorem OnGrid.truncated_isAligned : (w.truncated seconds).isAligned = true := by
  have haligned := isAligned_iff.1 h.aligned
  rw [h.truncated_eq hn hseconds, isAligned_iff]
  unfold bucketSeconds at haligned ⊢
  dsimp only
  omega

/-- A cut window lasts no longer than before, and no longer than it was cut to. -/
theorem OnGrid.duration_truncated :
    (w.truncated seconds).duration ≤ w.duration ∧ (w.truncated seconds).duration ≤ seconds := by
  have hbounds := h.bounds hn
  have habs := abs_le.1 hseconds
  have hcut : (w.truncated seconds).duration =
      min ((w.start + seconds) / bucketSeconds * bucketSeconds) w.stop - w.start := by
    rw [h.truncated_eq hn hseconds]
    unfold bucketSeconds
    exact Window.duration_eq (by dsimp only; omega) (by dsimp only; omega)
  rw [h.duration_eq hn, hcut]
  unfold bucketSeconds
  omega

/-- Cutting a window to a number of seconds commutes with moving it along the grid. -/
theorem OnGrid.truncated_startingAt {start : Int} (hmoved : (w.startingAt start).OnGrid n) :
    (w.startingAt start).truncated seconds = (w.truncated seconds).startingAt start := by
  have hw := (isAligned_iff.1 h.aligned).1
  have hstart := (isAligned_iff.1 hmoved.aligned).1
  rw [h.truncated_eq hn hseconds, hmoved.truncated_eq hn hseconds]
  simp only [startingAt, Window.mk.injEq, true_and] at hstart ⊢
  unfold bucketSeconds at hw hstart ⊢
  omega

end Cut

theorem Covered.truncated {n : Nat} {w : Window} (h : w.Covered n) (seconds : Int) :
    (w.truncated seconds).Covered n := by
  have hmono := bucketOf_mono (truncated_stop_le w seconds)
  unfold Covered at h ⊢
  simp only [buckets, Window.truncated] at h hmono ⊢
  omega

end Window

/-! ### Averages -/

namespace CarbonSeries

/-- The sum of the values over a range, in words. -/
def sumOver (s : CarbonSeries) (kind : SeriesKind) (range : BucketRange) : UInt64 :=
  ((((s.values kind).take range.stop).drop range.start).map UInt32.toUInt64).sum

/-- The mean of the values over a range. -/
def meanOver (s : CarbonSeries) (kind : SeriesKind) (range : BucketRange) : Moer :=
  ⟨(s.sumOver kind range).toFloat / Float.ofNat range.length⟩

/-- A range with one more bucket has a sum that is greater by the value there. -/
theorem sumOver_succ (s : CarbonSeries) (kind : SeriesKind) {start stop : Nat} (h : start ≤ stop) {value : UInt32}
    (hvalue : (s.values kind)[stop]? = some value) :
    s.sumOver kind ⟨start, stop + 1⟩ = s.sumOver kind ⟨start, stop⟩ + value.toUInt64 := by
  have hstop : stop < (s.values kind).length := (List.getElem?_eq_some_iff.1 hvalue).1
  have hstart : start ≤ ((s.values kind).take stop).length := by rw [List.length_take]; omega
  simp only [sumOver]
  rw [List.take_add_one, hvalue, List.drop_append_of_le_length hstart, List.map_append, List.sum_append]
  simp

private theorem getElem?_runningSums (total : UInt64) (values : List UInt32) {i : Nat} (h : i ≤ values.length) :
    (runningSums total values)[i]? = some (total + ((values.take i).map UInt32.toUInt64).sum) := by
  induction values generalizing total i with
  | nil =>
    obtain rfl : i = 0 := by simpa using h
    simp [runningSums]
  | cons value rest ih =>
    cases i with
    | zero => simp [runningSums]
    | succ i =>
      rw [runningSums, List.getElem?_cons_succ, ih _ (by simpa using h), List.take_succ_cons, List.map_cons,
        List.sum_cons, ← UInt64.add_assoc]

/-- Entry `i` of the running sums is the sum of the first `i` values. -/
theorem getElem_sums (s : CarbonSeries) (kind : SeriesKind) {i : Nat} (h : i ≤ s.length)
    (hi : i < (s.track kind).sums.size) :
    (s.track kind).sums[i] = (((s.values kind).take i).map UInt32.toUInt64).sum := by
  have hlen : (s.values kind).length = s.length := s.size_track kind
  have hget := getElem?_runningSums 0 (s.values kind) (i := i) (by omega)
  rw [UInt64.zero_add] at hget
  apply Option.some.inj
  rw [← hget, ← Array.getElem?_eq_getElem, (s.track kind).sums_eq, List.getElem?_toArray]
  rfl

/-- The average over a range within the series is the mean of its values. -/
theorem average_eq_meanOver (s : CarbonSeries) (kind : SeriesKind) {range : BucketRange}
    (h : range.start < range.stop) (hstop : range.stop ≤ s.length) :
    s.average kind range = .ok (s.meanOver kind range) := by
  have hsplit : ((s.values kind).take range.stop).map UInt32.toUInt64 =
      ((s.values kind).take range.start).map UInt32.toUInt64 ++
        (((s.values kind).take range.stop).drop range.start).map UInt32.toUInt64 := by
    rw [← List.map_append]
    congr 1
    conv_lhs => rw [← List.take_append_drop range.start ((s.values kind).take range.stop)]
    rw [List.take_take, Nat.min_eq_left (Nat.le_of_lt h)]
  rw [average, dif_pos ⟨h, hstop⟩]
  simp only [meanOver, sumOver]
  rw [getElem_sums s kind hstop, getElem_sums s kind (by omega), hsplit, List.sum_append, add_sub_cancel_left]

end CarbonSeries

namespace Workload

/-- The mean rate over the run window of a workload that the series covers. -/
theorem averageRate_eq {w : Workload} {series : CarbonSeries} (h : w.window.Covered series.length)
    (kind : SeriesKind) : w.averageRate series kind =
      .ok (if w.window.buckets.isEmpty then .zero else series.meanOver kind w.window.buckets) := by
  unfold averageRate CarbonSeries.averageOrZero
  split
  · rfl
  · rename_i hempty
    have hlt : w.window.buckets.start < w.window.buckets.stop := by simpa [BucketRange.isEmpty] using hempty
    exact series.average_eq_meanOver kind hlt (h hlt)

/-- The mean rate of a workload of at least one bucket that the series covers. -/
theorem averageRate_eq_meanOver {w : Workload} {series : CarbonSeries} (h : w.window.Covered series.length)
    (hlength : 0 < w.window.buckets.length) (kind : SeriesKind) :
    w.averageRate series kind = .ok (series.meanOver kind w.window.buckets) := by
  have hempty : ¬ w.window.buckets.isEmpty := by
    simp only [BucketRange.length] at hlength
    simp only [BucketRange.isEmpty, decide_eq_true_eq]
    omega
  rw [averageRate_eq h, if_neg hempty]

/-- A workload that the series does not cover has no mean rate. -/
theorem averageRate_of_not_covered {w : Workload} {series : CarbonSeries} (h : ¬ w.window.Covered series.length)
    (kind : SeriesKind) : w.averageRate series kind = .error (.invalidRange w.window.buckets series.length) := by
  unfold Window.Covered at h
  rw [Classical.not_imp] at h
  have hempty : ¬ w.window.buckets.isEmpty := by simpa [BucketRange.isEmpty] using h.1
  rw [averageRate, CarbonSeries.averageOrZero, if_neg hempty, CarbonSeries.average, dif_neg fun hrange => h.2 hrange.2]

theorem averageRate_ok_iff {w : Workload} {series : CarbonSeries} {kind : SeriesKind} :
    (∃ rate, w.averageRate series kind = .ok rate) ↔ w.window.Covered series.length := by
  constructor
  · rintro ⟨rate, hrate⟩
    by_contra h
    rw [averageRate_of_not_covered h] at hrate
    cases hrate
  · exact fun h => ⟨_, averageRate_eq h kind⟩

end Workload

end CarbonAware
