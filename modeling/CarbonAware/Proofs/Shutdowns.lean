import CarbonAware.Proofs.Amounts

/-!
# A shutdown saves

A shutdown shortens the run and takes its peak as the new mean (`Shutdown.saves_shutdown`).  If the peak is no lower
than the mean, a smaller part of a lower cost is wasted.  A trace may also say that the peak is lower than the mean.
Then both are below the idle floor, and the peak ten times as far as the mean (`Shutdown.ratio_of_lt`), so that the
window is cut to less than a tenth of its duration; this outweighs the larger part of the cost that is wasted, and the
rounding errors of the computation with it (`Shutdown.share_bound`).
-/

namespace CarbonAware

open Numeral (value nearest nearest_mono nearest_nonneg nearest_nonpos nearest_neg le_nearest nearest_le
  nearest_of_isDyadic Within within_sub within_mul IsDyadic isDyadic_one isDyadic_value isDyadic_nearest
  isDyadic_two_zpow two_zpow_pos roundoff normal_of_le nearest_le_mul mul_le_nearest abs_nearest_sub_sub_le multiple_of_half_le)

namespace Shutdown

/-! ### Utilisation below the idle floor -/

section Shares

variable {idle average maximum : ℚ}

/-- A number below one leaves at least `2 ^ -53`. -/
private theorem roundoff_le_one_sub (h : IsDyadic idle) (hone : idle < 1) : roundoff ≤ 1 - idle := by
  unfold roundoff
  rcases le_or_gt (1 / 2) idle with hhalf | hhalf
  · obtain ⟨n, rfl⟩ := multiple_of_half_le h hhalf
    have hn : (n : ℚ) < 2 ^ 53 := by linarith
    have hn' : (n : ℚ) + 1 ≤ 2 ^ 53 := by
      have : n < 2 ^ 53 := by exact_mod_cast hn
      exact_mod_cast (show n + 1 ≤ 2 ^ 53 by omega)
    linarith
  · linarith

/-- From a half on, differences are exact. -/
private theorem nearest_sub_of_half_le {p q : ℚ} (hp : IsDyadic p) (hq : IsDyadic q) (hp' : 1 / 2 ≤ p) (hle : p ≤ q)
    (hq' : q ≤ 1) : nearest (q - p) = q - p := by
  obtain ⟨n, rfl⟩ := multiple_of_half_le hp hp'
  obtain ⟨n', rfl⟩ := multiple_of_half_le hq (le_trans hp' hle)
  refine nearest_of_isDyadic ⟨n' - n, -53, ?_, by norm_num, ?_⟩
  · have hn : (1 : ℚ) / 2 * 2 ^ 53 ≤ n := by linarith
    have hn' : (n' : ℚ) ≤ 2 ^ 53 := by linarith
    have hle' : (n : ℚ) ≤ n' := by linarith
    have h0 : (0 : ℤ) ≤ n := by
      have : (0 : ℚ) ≤ n := le_trans (by norm_num) hn
      exact_mod_cast this
    have h1 : n ≤ n' := by exact_mod_cast hle'
    have h2 : n' ≤ 2 ^ 53 := by exact_mod_cast hn'
    rw [abs_of_nonneg (by omega)]
    omega
  · rw [zpow_neg]
    push_cast
    norm_num
    ring

/-- The rounded difference of two numbers, between its two bounds. -/
private theorem nearest_sub_bounds {p q : ℚ} (hp : IsDyadic p) (hq : IsDyadic q) (hle : p ≤ q) :
    (q - p) * (1 - roundoff) ≤ nearest (q - p) ∧ nearest (q - p) ≤ (q - p) * (1 + roundoff) := by
  have herror := abs_le.1 (abs_nearest_sub_sub_le hq hp)
  rw [abs_of_nonneg (sub_nonneg.2 hle)] at herror
  constructor <;> linarith [herror.1, herror.2]

/--
The exact inequality behind a shutdown below the idle floor, with what it leaves over for rounding errors: the peak
does not waste less than its share of the work takes, by a margin that grows with the room above the idle floor.
-/
private theorem share_margin {a x t k : ℚ} (ha : 0 ≤ a) (ht : t ≤ 1) (hk : 0 ≤ k) (hx : 0 ≤ x)
    (hgap : k * a ≤ t - x - a) : a * t * (1 + x * k) ≤ (t - x) * (x + a) := by
  have hidentity : (t - x) * (x + a) = a * t + x * (t - x - a) := by ring
  have hat : a * t ≤ a := mul_le_of_le_one_right ha ht
  have hmargin : x * (k * (a * t)) ≤ x * (t - x - a) := by
    refine mul_le_mul_of_nonneg_left (le_trans ?_ hgap) hx
    exact mul_le_mul_of_nonneg_left hat hk
  rw [hidentity]
  linarith

/-- The margin absorbs the errors of the differences, and those of four roundings upward and two downward. -/
private theorem share_of_margin {a x t k A T M V : ℚ} {i : ℕ} (hproduct : 0 ≤ a * t)
    (hmargin : a * t * (1 + x * k) ≤ (t - x) * (x + a)) (hwork : A * T ≤ a * t * (1 + roundoff) ^ i)
    (hwaste : (t - x) * (x + a) * (1 - roundoff) ^ i ≤ M * V)
    (hslack : (1 + roundoff) ^ (i + 4) ≤ (1 + x * k) * (1 - roundoff) ^ (i + 2)) :
    A * T * (1 + roundoff) ^ 4 ≤ M * V * (1 - roundoff) ^ 2 := by
  have hlow : 0 ≤ 1 - roundoff := by unfold roundoff; norm_num
  have hhigh : 0 ≤ 1 + roundoff := by unfold roundoff; norm_num
  calc A * T * (1 + roundoff) ^ 4
      ≤ a * t * (1 + roundoff) ^ i * (1 + roundoff) ^ 4 := mul_le_mul_of_nonneg_right hwork (pow_nonneg hhigh _)
    _ = a * t * (1 + roundoff) ^ (i + 4) := by rw [mul_assoc, ← pow_add]
    _ ≤ a * t * ((1 + x * k) * (1 - roundoff) ^ (i + 2)) := mul_le_mul_of_nonneg_left hslack hproduct
    _ = a * t * (1 + x * k) * (1 - roundoff) ^ i * (1 - roundoff) ^ 2 := by ring
    _ ≤ (t - x) * (x + a) * (1 - roundoff) ^ i * (1 - roundoff) ^ 2 := by gcongr
    _ ≤ M * V * (1 - roundoff) ^ 2 := mul_le_mul_of_nonneg_right hwaste (pow_nonneg hlow _)

section Bound

variable (hidle : IsDyadic idle) (haverage : IsDyadic average) (hmaximum : IsDyadic maximum) (hnonneg : 0 ≤ maximum)
  (hlt : maximum < average) (hbelow : average < idle) (hone : idle < 1)
  (hratio : 10 * nearest (idle - average) < nearest (idle - maximum))

include hidle haverage hmaximum hnonneg hlt hbelow hone hratio

/-- From a half on the differences to the mean are exact, but the room above the idle floor may be one roundoff. -/
private theorem share_bound_of_half_le (hhalf : 1 / 2 ≤ average) :
    nearest (idle - average) * nearest (1 - maximum) * (1 + roundoff) ^ 4 ≤
      nearest (idle - maximum) * nearest (1 - average) * (1 - roundoff) ^ 2 := by
  have hu : roundoff = 1 / 2 ^ 53 := rfl
  obtain ⟨hmLow, hmHigh⟩ := nearest_sub_bounds hmaximum hidle (by linarith)
  obtain ⟨-, htHigh⟩ := nearest_sub_bounds hmaximum isDyadic_one (by linarith)
  have ha : 0 < idle - average := by linarith
  rw [nearest_sub_of_half_le haverage hidle hhalf (le_of_lt hbelow) (le_of_lt hone)] at hratio ⊢
  rw [nearest_sub_of_half_le haverage isDyadic_one hhalf (by linarith) (le_refl _)]
  have hgap : (9 - 10 * roundoff) * (idle - average) ≤ (1 - maximum) - (1 - idle) - (idle - average) := by
    rw [hu] at hmHigh ⊢
    nlinarith
  have hmargin := share_margin (le_of_lt ha) (by linarith) (by rw [hu]; norm_num) (by linarith) hgap
  refine share_of_margin (i := 1) (mul_nonneg (le_of_lt ha) (by linarith)) hmargin ?work ?waste ?slack
  case work =>
    rw [pow_one, mul_assoc]
    exact mul_le_mul_of_nonneg_left htHigh (le_of_lt ha)
  case waste =>
    have hwaste := mul_le_mul_of_nonneg_right hmLow (show 0 ≤ 1 - average by linarith)
    calc _ = (idle - maximum) * (1 - roundoff) * (1 - average) := by ring
      _ ≤ _ := hwaste
  case slack =>
    have hnumbers : (1 + roundoff) ^ 5 ≤ (1 + roundoff * (9 - 10 * roundoff)) * (1 - roundoff) ^ 3 := by
      rw [hu]
      norm_num
    refine le_trans hnumbers (mul_le_mul_of_nonneg_right ?_ (by rw [hu]; norm_num))
    have hroom := roundoff_le_one_sub hidle hone
    have := mul_le_mul_of_nonneg_right hroom (show (0 : ℚ) ≤ 9 - 10 * roundoff by rw [hu]; norm_num)
    linarith

/-- Below a half every difference is rounded, but the room above the idle floor is wide. -/
private theorem share_bound_of_lt_half (hhalf : average < 1 / 2) :
    nearest (idle - average) * nearest (1 - maximum) * (1 + roundoff) ^ 4 ≤
      nearest (idle - maximum) * nearest (1 - average) * (1 - roundoff) ^ 2 := by
  have hu : roundoff = 1 / 2 ^ 53 := rfl
  obtain ⟨haLow, haHigh⟩ := nearest_sub_bounds haverage hidle (le_of_lt hbelow)
  obtain ⟨hmLow, hmHigh⟩ := nearest_sub_bounds hmaximum hidle (by linarith)
  obtain ⟨-, htHigh⟩ := nearest_sub_bounds hmaximum isDyadic_one (by linarith)
  obtain ⟨hvLow, -⟩ := nearest_sub_bounds haverage isDyadic_one (by linarith)
  have ha : 0 < idle - average := by linarith
  have hgap : 8 * (idle - average) ≤ (1 - maximum) - (1 - idle) - (idle - average) := by
    rw [hu] at hmHigh haLow
    nlinarith
  have hmargin := share_margin (le_of_lt ha) (by linarith) (by norm_num) (by linarith) hgap
  refine share_of_margin (i := 2) (mul_nonneg (le_of_lt ha) (by linarith)) hmargin ?work ?waste ?slack
  case work =>
    have hT : 0 ≤ nearest (1 - maximum) := nearest_nonneg (by linarith)
    have hhigh : 0 ≤ (idle - average) * (1 + roundoff) := mul_nonneg (le_of_lt ha) (by rw [hu]; norm_num)
    calc _ ≤ (idle - average) * (1 + roundoff) * ((1 - maximum) * (1 + roundoff)) := mul_le_mul haHigh htHigh hT hhigh
      _ = _ := by ring
  case waste =>
    have hlow : 0 ≤ (1 - average) * (1 - roundoff) := mul_nonneg (by linarith) (by rw [hu]; norm_num)
    calc _ = (idle - maximum) * (1 - roundoff) * ((1 - average) * (1 - roundoff)) := by ring
      _ ≤ _ := mul_le_mul hmLow hvLow hlow (nearest_nonneg (by linarith))
  case slack =>
    have hnumbers : (1 + roundoff) ^ 6 ≤ 3 * (1 - roundoff) ^ 4 := by
      rw [hu]
      norm_num
    refine le_trans hnumbers (mul_le_mul_of_nonneg_right ?_ (by rw [hu]; norm_num))
    -- the peak is ten times as far below the idle floor as the mean, so the floor is at most three quarters
    linarith

/-- What a shutdown below the idle floor wastes, with room for the rounding of the costs. -/
private theorem share_bound : nearest (idle - average) * nearest (1 - maximum) * (1 + roundoff) ^ 4 ≤
    nearest (idle - maximum) * nearest (1 - average) * (1 - roundoff) ^ 2 := by
  rcases le_or_gt (1 / 2) average with hhalf | hhalf
  · exact share_bound_of_half_le hidle haverage hmaximum hnonneg hlt hbelow hone hratio hhalf
  · exact share_bound_of_lt_half hidle haverage hmaximum hnonneg hlt hbelow hone hratio hhalf

end Bound

end Shares

section Costs

variable {price busyAverage busyMaximum : ℚ} {duration duration' : ℤ}

/-- The seconds that a share of the duration is computed to. -/
private def shareSeconds (busyAverage busyMaximum : ℚ) (duration : ℤ) : ℚ :=
  nearest (nearest (busyAverage / busyMaximum) * nearest duration)

private theorem nearest_of_lt_least {q : ℚ} {e : ℤ} (he : -1074 ≤ e) (h : q < 2 ^ e) : nearest q ≤ 2 ^ e :=
  nearest_le (isDyadic_two_zpow he) (le_of_lt h)

/-- The computed seconds exceed the share by two roundings at most, if they come to a second at all. -/
private theorem shareSeconds_le (hduration : 0 ≤ duration)
    (hbound : duration ≤ 2 ^ 63) (hone : 1 ≤ shareSeconds busyAverage busyMaximum duration) :
    shareSeconds busyAverage busyMaximum duration ≤
      busyAverage / busyMaximum * nearest duration * (1 + roundoff) ^ 2 := by
  have hu : roundoff = 1 / 2 ^ 53 := rfl
  have hnonneg : (0 : ℚ) ≤ nearest duration := nearest_nonneg (by exact_mod_cast hduration)
  have hupper : nearest (duration : ℚ) ≤ 2 ^ (63 : ℤ) :=
    nearest_le (isDyadic_two_zpow (by norm_num)) (by exact_mod_cast hbound)
  have hsmall (e : ℤ) (he : e < 0) : (2 : ℚ) ^ e < 1 := zpow_lt_one_of_neg₀ (by norm_num) he
  -- below the normal numbers, a rounding could be far off in proportion
  have hproduct : (2 : ℚ) ^ (-1022 : ℤ) ≤ nearest (busyAverage / busyMaximum) * nearest duration := by
    by_contra hlt
    have := nearest_of_lt_least (by norm_num) (not_le.1 hlt)
    exact absurd (le_trans hone this) (not_le_of_gt (hsmall _ (by norm_num)))
  have hquotient : (2 : ℚ) ^ (-1022 : ℤ) ≤ busyAverage / busyMaximum := by
    by_contra hlt
    have hle := nearest_of_lt_least (by norm_num) (not_le.1 hlt)
    have hbound : nearest (busyAverage / busyMaximum) * nearest duration ≤ 2 ^ (-959 : ℤ) := by
      calc _ ≤ (2 : ℚ) ^ (-1022 : ℤ) * 2 ^ (63 : ℤ) := mul_le_mul hle hupper hnonneg (le_of_lt (two_zpow_pos _))
        _ = 2 ^ (-959 : ℤ) := (zpow_add₀ (by norm_num) _ _).symm
    have := nearest_le (isDyadic_two_zpow (by norm_num)) hbound
    exact absurd (le_trans hone this) (not_le_of_gt (hsmall _ (by norm_num)))
  calc shareSeconds busyAverage busyMaximum duration
      ≤ nearest (busyAverage / busyMaximum) * nearest duration * (1 + roundoff) := nearest_le_mul hproduct
    _ ≤ busyAverage / busyMaximum * (1 + roundoff) * nearest duration * (1 + roundoff) := by
      have := nearest_le_mul hquotient
      have hroundoff : 0 ≤ 1 + roundoff := by rw [hu]; norm_num
      gcongr
    _ = _ := by ring

/-- The cost of a duration, before it is rounded for the last time. -/
private def costValue (price : ℚ) (duration : ℤ) : ℚ := nearest (price * nearest (nearest duration / 3600))

/-- The cost of what a shutdown leaves is at most the share of the cost, but for four roundings. -/
private theorem cost_shortened_le (hprice : 1 / 32 ≤ price) (hduration : 0 ≤ duration) (hbound : duration ≤ 2 ^ 63)
    (hone : 1 ≤ duration') (hle : duration' ≤ shareSeconds busyAverage busyMaximum duration) :
    costValue price duration' ≤
      price * (busyAverage / busyMaximum * nearest duration / 3600) * (1 + roundoff) ^ 4 := by
  have hu : roundoff = 1 / 2 ^ 53 := rfl
  have hroundoff : 0 ≤ 1 + roundoff := by rw [hu]; norm_num
  have hone' : (1 : ℚ) ≤ duration' := by exact_mod_cast hone
  obtain ⟨S, hS⟩ : ∃ S, S = shareSeconds busyAverage busyMaximum duration := ⟨_, rfl⟩
  rw [← hS] at hle
  have hSone : 1 ≤ S := le_trans hone' hle
  have hshort : S ≤ busyAverage / busyMaximum * nearest duration * (1 + roundoff) ^ 2 := by
    rw [hS]
    exact shareSeconds_le hduration hbound (by rw [← hS]; exact hSone)
  have hseconds : nearest (duration' : ℚ) ≤ S := nearest_le (by rw [hS]; exact isDyadic_nearest _) hle
  have hhours : nearest (nearest (duration' : ℚ) / 3600) ≤ S / 3600 * (1 + roundoff) :=
    le_trans (nearest_mono (div_le_div_of_nonneg_right hseconds (by norm_num)))
      (nearest_le_mul (normal_of_le (by rw [div_le_div_iff₀ (by norm_num) (by norm_num)]; linarith)))
  have hpositive : 0 ≤ price := by linarith
  calc costValue price duration'
      ≤ nearest (price * (S / 3600 * (1 + roundoff))) := nearest_mono (mul_le_mul_of_nonneg_left hhours hpositive)
    _ ≤ price * (S / 3600 * (1 + roundoff)) * (1 + roundoff) := by
      refine nearest_le_mul (normal_of_le ?_)
      rw [hu]
      nlinarith
    _ ≤ price * (busyAverage / busyMaximum * nearest duration * (1 + roundoff) ^ 2 / 3600 * (1 + roundoff)) *
        (1 + roundoff) := by gcongr
    _ = _ := by ring

/-- The cost of the whole duration, but for two roundings. -/
private theorem le_cost (hprice : 1 / 32 ≤ price) (hone : 1 ≤ duration) :
    price * (nearest duration / 3600) * (1 - roundoff) ^ 2 ≤ costValue price duration := by
  have hu : roundoff = 1 / 2 ^ 53 := rfl
  have hseconds : (1 : ℚ) ≤ nearest duration :=
    le_nearest isDyadic_one (by exact_mod_cast hone)
  have hhours := mul_le_nearest (normal_of_le (q := nearest (duration : ℚ) / 3600) (by
    rw [div_le_div_iff₀ (by norm_num) (by norm_num)]
    linarith))
  have hroundoff : 0 ≤ 1 - roundoff := by rw [hu]; norm_num
  have hpositive : 0 ≤ price := by linarith
  have hleast : 1 / 2 ^ 60 ≤ price * nearest (nearest (duration : ℚ) / 3600) := by
    have : (1 : ℚ) / 3600 * (1 - roundoff) ≤ nearest (nearest (duration : ℚ) / 3600) :=
      le_trans (mul_le_mul_of_nonneg_right (div_le_div_of_nonneg_right hseconds (by norm_num)) hroundoff) hhours
    rw [hu] at this
    nlinarith
  calc price * (nearest duration / 3600) * (1 - roundoff) ^ 2
      = price * (nearest duration / 3600 * (1 - roundoff)) * (1 - roundoff) := by ring
    _ ≤ price * nearest (nearest duration / 3600) * (1 - roundoff) := by gcongr
    _ ≤ costValue price duration := mul_le_nearest (normal_of_le hleast)

end Costs

/-! ### The workload after a shutdown -/

section Shutdowns

variable {series : CarbonSeries} {p : Shutdown} {w : Workload}

private theorem idleFloor_bounds (hp : p.validate = .ok ()) :
    Within 0 p.idleFloor ∧ 0 ≤ value p.idleFloor ∧ value p.idleFloor < 1 := by
  unfold validate at hp
  split at hp
  · rename_i hfloor
    have hfraction : Workload.IsFraction p.idleFloor := ⟨hfloor.1, Numeral.float_le_of_lt hfloor.2⟩
    have hwithin := Workload.within_of_isFraction hfraction
    have hlt := (Numeral.lt_iff hwithin.isFinite (by decide)).1 hfloor.2
    rw [Numeral.value_one] at hlt
    exact ⟨hwithin, (Workload.fraction_bounds hfraction).1, hlt⟩
  · cases hp

/-- A ratio above the least one, of a peak below the mean: both are below the idle floor. -/
private theorem ratio_of_lt (hw : w.Loaded series) (hp : p.validate = .ok ())
    (hpeak : value w.utilization.maximum < value w.utilization.average)
    (h : minPeakRatio < (w.utilization.maximum - p.idleFloor) / (w.utilization.average - p.idleFloor)) :
    value w.utilization.average < value p.idleFloor ∧
      10 * nearest (value p.idleFloor - value w.utilization.average) <
        nearest (value p.idleFloor - value w.utilization.maximum) := by
  obtain ⟨widle, hidle, hidle'⟩ := idleFloor_bounds hp
  have waverage := Workload.within_of_isFraction hw.average
  have wmaximum := Workload.within_of_isFraction hw.maximum
  obtain ⟨hA, wA⟩ := within_sub waverage widle (by norm_num)
  obtain ⟨hM, wM⟩ := within_sub wmaximum widle (by norm_num)
  have hle : value (w.utilization.maximum - p.idleFloor) ≤ value (w.utilization.average - p.idleFloor) := by
    rw [hA, hM]
    exact nearest_mono (by linarith)
  rcases lt_trichotomy (value (w.utilization.average - p.idleFloor)) 0 with hneg | hzero | hpos
  · have hratio := Numeral.lt_of_lt_div (by decide) wM.isFinite wA.isFinite (ne_of_lt hneg) h
    rw [value_minPeakRatio, lt_div_iff_of_neg hneg, hA, hM] at hratio
    rw [hA] at hneg
    constructor
    · by_contra hge
      exact absurd (nearest_nonneg (by linarith)) (not_le_of_gt hneg)
    · rw [← neg_sub, nearest_neg, ← neg_sub (value w.utilization.maximum), nearest_neg]
      linarith
  · -- the mean is at the idle floor, and the quotient is no number or negative
    exfalso
    have hexact : value w.utilization.average = value p.idleFloor := by
      have := abs_nearest_sub_sub_le (isDyadic_value w.utilization.average) (isDyadic_value p.idleFloor)
      rw [← hA, hzero, zero_sub, abs_neg, roundoff] at this
      have habs := abs_nonneg (value w.utilization.average - value p.idleFloor)
      have : |value w.utilization.average - value p.idleFloor| = 0 := by linarith
      exact sub_eq_zero.1 (abs_eq_zero.1 this)
    have hne : value p.idleFloor ≠ 0 := by
      have := (Workload.fraction_bounds hw.maximum).1
      linarith
    have hsame := Numeral.eq_of_value_eq waverage.isFinite widle.isFinite hne hexact
    rw [hsame] at h
    rw [hzero] at hle
    exact Numeral.not_lt_div_zero wM.isFinite hle (Numeral.unpack_sub_self widle.isFinite hne) h
  · exfalso
    have hratio := Numeral.lt_of_lt_div (by decide) wM.isFinite wA.isFinite (ne_of_gt hpos) h
    rw [value_minPeakRatio, lt_div_iff₀ hpos] at hratio
    linarith

private theorem duration_atPeak (hw : w.Loaded series)
    (hratio : minPeakRatio < (w.utilization.maximum - p.idleFloor) / (w.utilization.average - p.idleFloor)) :
    (atPeak w (secondsLeft p w)).window.duration ≤ w.window.duration ∧
      (atPeak w (secondsLeft p w)).window.duration ≤ secondsLeft p w :=
  hw.onGrid.duration_truncated series.length_le (abs_secondsLeft_le hratio)

/-- A difference of two numbers keeps its sign. -/
private theorem nearest_sub_pos {p q : ℚ} (hp : IsDyadic p) (hq : IsDyadic q) (h : p < q) : 0 < nearest (q - p) := by
  have hbound := (nearest_sub_bounds hp hq (le_of_lt h)).1
  have hroundoff : 0 < 1 - roundoff := by unfold roundoff; norm_num
  exact lt_of_lt_of_le (mul_pos (sub_pos.2 h) hroundoff) hbound

theorem clampToUnit_of_isFraction {x : Float} (h : Workload.IsFraction x) : clampToUnit x = x := by
  obtain ⟨hlo, hhi⟩ := Workload.fraction_bounds h
  exact clampToUnit_eq (Workload.within_of_isFraction h).isFinite hlo hhi

section BelowIdle

variable (hw : w.Loaded series) (hp : p.validate = .ok ())
  (hpeak : value w.utilization.maximum < value w.utilization.average)
  (hbelow : value w.utilization.average < value p.idleFloor)

include hw hp hpeak hbelow

/-- Below the idle floor both differences are negative, so that their ratio is that of their amounts. -/
private theorem share_eq :
    Workload.IsFraction ((w.utilization.average - p.idleFloor) / (w.utilization.maximum - p.idleFloor)) ∧
      value ((w.utilization.average - p.idleFloor) / (w.utilization.maximum - p.idleFloor)) =
        nearest (nearest (value p.idleFloor - value w.utilization.average) /
          nearest (value p.idleFloor - value w.utilization.maximum)) := by
  obtain ⟨widle, -, -⟩ := idleFloor_bounds hp
  obtain ⟨hA, wA⟩ := within_sub (Workload.within_of_isFraction hw.average) widle (by norm_num)
  obtain ⟨hM, wM⟩ := within_sub (Workload.within_of_isFraction hw.maximum) widle (by norm_num)
  rw [← neg_sub, nearest_neg] at hA hM
  have hApos := nearest_sub_pos (isDyadic_value w.utilization.average) (isDyadic_value p.idleFloor) hbelow
  have hle : nearest (value p.idleFloor - value w.utilization.average) ≤
      nearest (value p.idleFloor - value w.utilization.maximum) := nearest_mono (by linarith)
  have hMpos := lt_of_lt_of_le hApos hle
  have hshare := (div_le_one hMpos).2 hle
  have hnonneg := le_of_lt (div_pos hApos hMpos)
  have hquotient := neg_div_neg_eq (nearest (value p.idleFloor - value w.utilization.average))
    (nearest (value p.idleFloor - value w.utilization.maximum))
  rw [← hA, ← hM] at hquotient
  obtain ⟨hfinite, hvalue⟩ := Numeral.rounds_div wA.isFinite wM.isFinite (by rw [hM]; linarith) (by
    rw [hquotient]
    exact Numeral.inRange_of_le_two_pow (k := 0) (by norm_num) (by rw [abs_of_nonneg hnonneg]; simpa using hshare))
  rw [hquotient] at hvalue
  refine ⟨?_, hvalue⟩
  rw [Workload.IsFraction, Numeral.le_iff (by decide) hfinite, Numeral.le_iff hfinite (by decide), hvalue,
    Numeral.value_zero, Numeral.value_one]
  exact ⟨nearest_nonneg hnonneg, nearest_le isDyadic_one hshare⟩

/-- Below the idle floor, what is left is no longer than the computed share of the duration. -/
private theorem secondsLeft_le :
    (secondsLeft p w : ℚ) ≤ shareSeconds (nearest (value p.idleFloor - value w.utilization.average))
      (nearest (value p.idleFloor - value w.utilization.maximum)) w.window.duration := by
  obtain ⟨hfraction, hshare⟩ := share_eq hw hp hpeak hbelow
  obtain ⟨hfirst, hlast⟩ := hw.duration_bounds
  obtain ⟨hduration, wduration⟩ := Numeral.within_ofInt (n := w.window.duration) (k := 63) (by norm_num) (by
    rw [abs_of_nonneg hfirst]
    exact hlast)
  obtain ⟨hseconds, wseconds⟩ := within_mul (Workload.within_of_isFraction hfraction) wduration (by norm_num)
  rw [hshare, hduration] at hseconds
  change _ = shareSeconds _ _ _ at hseconds
  have hnonneg : 0 ≤ shareSeconds (nearest (value p.idleFloor - value w.utilization.average))
      (nearest (value p.idleFloor - value w.utilization.maximum)) w.window.duration := by
    refine nearest_nonneg (mul_nonneg ?_ (nearest_nonneg (by exact_mod_cast hfirst)))
    exact hshare ▸ (Workload.fraction_bounds hfraction).1
  rw [secondsLeft, clampToUnit_of_isFraction hfraction, hw.traceWindow, Numeral.truncate_eq wseconds.isFinite,
    hseconds, Numeral.integerPart_of_nonneg hnonneg]
  have hfloor := Int.floor_nonneg.2 hnonneg
  have hmin : Numeral.minInt64 ≤ 0 := by decide
  refine le_trans ?_ (Int.floor_le _)
  exact_mod_cast (by omega : max _ (min _ _) ≤ _)

end BelowIdle

/-- Below the idle floor, what is left of the cost is wasted to a larger part, and yet less is wasted. -/
private theorem waste_shortened_le {price duration cost cost' A M T V : ℚ} (hrate : 0 ≤ price * (duration / 3600))
    (hM : 0 < M) (hT : 0 ≤ T) (hV : 0 ≤ V) (hshort : cost' ≤ price * (A / M * duration / 3600) * (1 + roundoff) ^ 4)
    (hwhole : price * (duration / 3600) * (1 - roundoff) ^ 2 ≤ cost)
    (hshare : A * T * (1 + roundoff) ^ 4 ≤ M * V * (1 - roundoff) ^ 2) : cost' * T ≤ cost * V := by
  calc cost' * T
      ≤ price * (A / M * duration / 3600) * (1 + roundoff) ^ 4 * T := mul_le_mul_of_nonneg_right hshort hT
    _ = price * (duration / 3600) / M * (A * T * (1 + roundoff) ^ 4) := by ring
    _ ≤ price * (duration / 3600) / M * (M * V * (1 - roundoff) ^ 2) :=
        mul_le_mul_of_nonneg_left hshare (div_nonneg hrate (le_of_lt hM))
    _ = price * (duration / 3600) * (1 - roundoff) ^ 2 * V := by field_simp
    _ ≤ cost * V := mul_le_mul_of_nonneg_right hwhole hV

/-- A workload that is cut to nothing costs nothing. -/
private theorem cost_nonpos {w : Workload} (h : |w.window.duration| ≤ 2 ^ 64) (hprice : 0 ≤ value w.price.value)
    (hnone : w.window.duration ≤ 0) : value w.cost.value ≤ 0 := by
  have hcast : (w.window.duration : ℚ) ≤ 0 := by exact_mod_cast hnone
  have hours : w.hoursValue ≤ 0 := nearest_nonpos (div_nonpos_of_nonpos_of_nonneg (nearest_nonpos hcast) (by norm_num))
  rw [(Workload.cost_eq h).1]
  exact nearest_nonpos (mul_nonpos_of_nonneg_of_nonpos hprice hours)

/-- A peak below the mean: the rest of the workload wastes a larger part of a cost that is lower by more. -/
private theorem waste_below_idle (hw : w.Loaded series) (hp : p.validate = .ok ())
    (hratio : minPeakRatio < (w.utilization.maximum - p.idleFloor) / (w.utilization.average - p.idleFloor))
    (hpeak : value w.utilization.maximum < value w.utilization.average)
    (hduration' : |(atPeak w (secondsLeft p w)).window.duration| ≤ 2 ^ 64) :
    value (atPeak w (secondsLeft p w)).cost.value * (atPeak w (secondsLeft p w)).idleValue ≤
      value w.cost.value * w.idleValue := by
  obtain ⟨hle, hseconds⟩ := duration_atPeak hw hratio
  obtain ⟨hfirst, hlast⟩ := hw.duration_bounds
  have hduration : |w.window.duration| ≤ 2 ^ 64 := by rw [abs_of_nonneg hfirst]; omega
  have hprice := Workload.price_ge hw.one_le_cores
  have hprice' : 0 ≤ value w.price.value := le_trans (by norm_num) hprice
  have hidle : 0 ≤ w.idleValue := Workload.idleValue_nonneg rfl hw.average
  have hidle' : 0 ≤ (atPeak w (secondsLeft p w)).idleValue := Workload.idleValue_nonneg rfl hw.maximum
  rcases le_or_gt (atPeak w (secondsLeft p w)).window.duration 0 with hnone | hsome
  · have hfree := cost_nonpos hduration' hprice' hnone
    have hnonneg := Workload.cost_nonneg hduration hfirst hw.one_le_cores
    exact le_trans (mul_nonpos_of_nonpos_of_nonneg hfree hidle') (mul_nonneg hnonneg hidle)
  · obtain ⟨hbelow, hten⟩ := ratio_of_lt hw hp hpeak hratio
    obtain ⟨-, -, hone⟩ := idleFloor_bounds hp
    have hshare := share_bound (isDyadic_value _) (isDyadic_value _) (isDyadic_value _)
      (Workload.fraction_bounds hw.maximum).1 hpeak hbelow hone hten
    have hApos := nearest_sub_pos (isDyadic_value w.utilization.average) (isDyadic_value p.idleFloor) hbelow
    have hMpos : 0 < nearest (value p.idleFloor - value w.utilization.maximum) := by linarith
    have hleft := secondsLeft_le hw hp hpeak hbelow
    have hshort := cost_shortened_le hprice hfirst hlast hsome (le_trans (by exact_mod_cast hseconds) hleft)
    have hwhole := le_cost hprice (show 1 ≤ w.window.duration by omega)
    have hrate : 0 ≤ value w.price.value * (nearest w.window.duration / 3600) :=
      mul_nonneg hprice' (div_nonneg (nearest_nonneg (by exact_mod_cast hfirst)) (by norm_num))
    rw [(Workload.cost_eq hduration).1, (Workload.cost_eq hduration').1]
    exact waste_shortened_le hrate hMpos hidle' hidle hshort hwhole hshare

/-- A shutdown saves, whatever the workload's peak and mean are. -/
theorem saves_shutdown (hw : w.Loaded series) (hp : p.validate = .ok ()) {w' : Workload}
    (h : p.proposal? w = some w') : w.Saves w' := by
  obtain ⟨hratio, rfl⟩ := proposal?_eq_some_iff.1 h
  have hle := (duration_atPeak hw hratio).1
  obtain ⟨hfirst, hlast⟩ := hw.duration_bounds
  have hduration : |w.window.duration| ≤ 2 ^ 64 := by rw [abs_of_nonneg hfirst]; omega
  have hduration' : |(atPeak w (secondsLeft p w)).window.duration| ≤ 2 ^ 64 :=
    le_trans (Window.abs_duration_le _) (by norm_num)
  have hprice := Workload.price_ge hw.one_le_cores
  have haverage := Workload.within_of_isFraction hw.maximum
  refine Workload.saves_of_le hw hduration' (haverage.mono (by norm_num)) (le_trans (by norm_num) hprice) (le_refl _)
    hle fun hcost => ?_
  rcases le_or_gt (value w.utilization.average) (value w.utilization.maximum) with hpeak | hpeak
  · -- the peak leaves a smaller part idle
    have hidle' : 0 ≤ (atPeak w (secondsLeft p w)).idleValue := Workload.idleValue_nonneg rfl hw.maximum
    have hnonneg := Workload.cost_nonneg hduration hfirst hw.one_le_cores
    rw [mul_comm, mul_comm (value w.cost.value)]
    exact Workload.mul_le_of_nonneg hidle' (nearest_mono (sub_le_sub_left hpeak 1)) hcost hnonneg
  · exact waste_below_idle hw hp hratio hpeak hduration'

end Shutdowns

end Shutdown

end CarbonAware
