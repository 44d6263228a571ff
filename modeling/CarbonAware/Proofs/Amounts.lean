import CarbonAware.Proofs.Factorisation
import CarbonAware.Proofs.Reading
import CarbonAware.Proofs.Numeral.Bounds

/-!
# The cost and the waste of a workload

The price, the cost and the waste are computed without leaving the range of the numbers (`Machine.price_eq`,
`Workload.cost_eq`, `Workload.waste_eq`).  A change `Saves` if it costs and wastes no more.  A lower price, a shorter
window and a smaller part that is wasted save (`Workload.saves_of_le`), so fewer cores save
(`CoreReduction.saves_reduced`).
-/

namespace CarbonAware

open Numeral (value nearest nearest_mono nearest_nonneg le_nearest nearest_le Within within_add within_sub within_mul
  within_div within_neg within_word32 within_literal within_ofInt isDyadic_one isDyadic_value)

/-! ### The price -/

namespace Machine

/-- The hourly price as a rational number. -/
def priceValue (cores ram : ℚ) : ℚ :=
  nearest (nearest (-nearest (38 / 10 ^ 4) + nearest (nearest (468 / 10 ^ 4) * cores)) +
    nearest (nearest (nearest (17 / 10 ^ 4) * ram) / 1000))

theorem price_eq (cores ram : UInt32) :
    value (price cores ram).value = priceValue cores.toNat ram.toNat ∧ Within 34 (price cores ram).value := by
  obtain ⟨hbase, wbase⟩ := within_literal (m := 38) (k := 4) (j := 0) (by norm_num) (by norm_num) (by norm_num)
  obtain ⟨hcore, wcore⟩ := within_literal (m := 468) (k := 4) (j := 0) (by norm_num) (by norm_num) (by norm_num)
  obtain ⟨hram, wram⟩ := within_literal (m := 17) (k := 4) (j := 0) (by norm_num) (by norm_num) (by norm_num)
  obtain ⟨hneg, wneg⟩ := within_neg wbase
  obtain ⟨hcores, wcores⟩ := within_mul wcore (within_word32 cores) (by norm_num)
  obtain ⟨hfirst, wfirst⟩ := within_add (wneg.mono (by norm_num)) wcores (by norm_num)
  obtain ⟨hmegabytes, wmegabytes⟩ := within_mul wram (within_word32 ram) (by norm_num)
  have hthousand : value 1000.0 = 1000 := Numeral.value_literal (n := 1000) (by norm_num) (by norm_num)
  obtain ⟨hsecond, wsecond⟩ :=
    within_div (y := 1000.0) wmegabytes (by decide) (by rw [hthousand]; norm_num) (by norm_num)
  obtain ⟨hsum, wsum⟩ := within_add wfirst (wsecond.mono (by norm_num)) (by norm_num)
  refine ⟨?_, wsum⟩
  refine hsum.trans ?_
  rw [hfirst, hsecond, hneg, hcores, hmegabytes, hbase, hcore, hram, hthousand, Numeral.value_word32,
    Numeral.value_word32]
  rfl

/-- Fewer cores are no more expensive. -/
theorem priceValue_mono {cores cores' : ℚ} (h : cores ≤ cores') (ram : ℚ) :
    priceValue cores ram ≤ priceValue cores' ram := by
  have hcore : (0 : ℚ) ≤ nearest (468 / 10 ^ 4) := nearest_nonneg (by norm_num)
  unfold priceValue
  have hproduct := nearest_mono (mul_le_mul_of_nonneg_left h hcore)
  have hfirst := nearest_mono (add_le_add_right hproduct (-nearest (38 / 10 ^ 4)))
  exact nearest_mono (add_le_add_left hfirst _)

/-- One core costs more than three cents. -/
theorem priceValue_ge {cores ram : ℚ} (hcores : 1 ≤ cores) (hram : 0 ≤ ram) :
    1 / 32 ≤ priceValue cores ram := by
  -- each rounded number is compared with a dyadic one near it
  have hcore : (11 / 256 : ℚ) ≤ nearest (468 / 10 ^ 4) :=
    le_nearest ⟨11, -8, by norm_num, by norm_num, by norm_num⟩ (by norm_num)
  have hbase : nearest (38 / 10 ^ 4) ≤ (1 / 256 : ℚ) :=
    nearest_le ⟨1, -8, by norm_num, by norm_num, by norm_num⟩ (by norm_num)
  have hmemory : (0 : ℚ) ≤ nearest (nearest (nearest (17 / 10 ^ 4) * ram) / 1000) := by
    have := mul_nonneg (nearest_nonneg (q := 17 / 10 ^ 4) (by norm_num)) hram
    exact nearest_nonneg (div_nonneg (nearest_nonneg this) (by norm_num))
  have hproduct : (11 / 256 : ℚ) ≤ nearest (nearest (468 / 10 ^ 4) * cores) := by
    refine le_nearest ⟨11, -8, by norm_num, by norm_num, by norm_num⟩ (le_trans hcore ?_)
    exact le_mul_of_one_le_right (le_trans (by norm_num) hcore) hcores
  have hfirst : (1 / 32 : ℚ) ≤ nearest (-nearest (38 / 10 ^ 4) + nearest (nearest (468 / 10 ^ 4) * cores)) :=
    le_nearest ⟨1, -5, by norm_num, by norm_num, by norm_num⟩ (by linarith)
  exact le_nearest ⟨1, -5, by norm_num, by norm_num, by norm_num⟩ (by linarith)

end Machine

/-! ### The cost and the waste of one workload -/

namespace Workload

/-- The hours of the run window as a rational number. -/
def hoursValue (w : Workload) : ℚ := nearest (nearest w.window.duration / 3600)

theorem hours_eq {w : Workload} (h : |w.window.duration| ≤ 2 ^ 64) :
    value w.window.hours.value = w.hoursValue ∧ Within 64 w.window.hours.value := by
  obtain ⟨hseconds, wseconds⟩ := within_ofInt (k := 64) (by norm_num) h
  have hhour : value 3600.0 = 3600 := Numeral.value_literal (n := 3600) (by norm_num) (by norm_num)
  obtain ⟨hhours, whours⟩ := within_div (y := 3600.0) wseconds (by decide) (by rw [hhour]; norm_num) (by norm_num)
  exact ⟨hhours.trans (by rw [hseconds, hhour]; rfl), whours⟩

theorem cost_eq {w : Workload} (h : |w.window.duration| ≤ 2 ^ 64) :
    value w.cost.value = nearest (value w.price.value * w.hoursValue) ∧ Within 98 w.cost.value := by
  obtain ⟨hhours, whours⟩ := hours_eq h
  obtain ⟨hcost, wcost⟩ := within_mul (Machine.price_eq w.cores w.ramMegabytes).2 whours (by norm_num)
  exact ⟨hcost.trans (by rw [hhours]; rfl), wcost⟩

/-- The idle part of the capacity as a rational number. -/
def idleValue (w : Workload) : ℚ := nearest (1 - value w.utilization.average)

theorem waste_eq {w : Workload} (h : |w.window.duration| ≤ 2 ^ 64) (ha : Within 32 w.utilization.average) :
    value w.waste.value = nearest (value w.cost.value * w.idleValue) ∧ Within 131 w.waste.value := by
  have wone : Within 32 1.0 := ⟨by decide, by rw [Numeral.value_one]; norm_num⟩
  obtain ⟨hidle, widle⟩ := within_sub wone ha (by norm_num)
  obtain ⟨hwaste, wwaste⟩ := within_mul (cost_eq h).2 widle (by norm_num)
  refine ⟨hwaste.trans ?_, wwaste⟩
  rw [hidle, Numeral.value_one]
  rfl

/-- The changed workload costs and wastes no more, and neither amount is out of range. -/
structure Saves (w w' : Workload) : Prop where
  within_cost : Within 131 w'.cost.value
  within_waste : Within 131 w'.waste.value
  cost_le : value w'.cost.value ≤ value w.cost.value
  waste_le : value w'.waste.value ≤ value w.waste.value

section Comparison

variable {series : CarbonSeries} {w w' : Workload}

theorem price_ge (h : 1 ≤ w.cores) : 1 / 32 ≤ value w.price.value := by
  rw [price, (Machine.price_eq _ _).1]
  have hcores : (1 : ℚ) ≤ w.cores.toNat := by exact_mod_cast UInt32.le_iff_toNat_le.1 h
  exact Machine.priceValue_ge hcores (by positivity)

private theorem isFinite_of_isFraction {x : Float} (h : IsFraction x) : x.isFinite = true :=
  Numeral.isFinite_of_le_of_le (by decide) (by decide) h.1 h.2

theorem fraction_bounds {x : Float} (h : IsFraction x) : 0 ≤ value x ∧ value x ≤ 1 := by
  have hx := isFinite_of_isFraction h
  have hlo := (Numeral.le_iff (by decide) hx).1 h.1
  have hhi := (Numeral.le_iff hx (by decide)).1 h.2
  rw [Numeral.value_zero] at hlo
  rw [Numeral.value_one] at hhi
  exact ⟨hlo, hhi⟩

theorem within_of_isFraction {x : Float} (h : IsFraction x) : Within 0 x := by
  obtain ⟨hlo, hhi⟩ := fraction_bounds h
  exact ⟨isFinite_of_isFraction h, by rw [abs_of_nonneg hlo]; exact_mod_cast hhi⟩

theorem Loaded.duration_bounds (h : w.Loaded series) : 0 ≤ w.window.duration ∧ w.window.duration ≤ 2 ^ 63 := by
  have hbounds := h.onGrid.bounds series.length_le
  rw [h.onGrid.duration_eq series.length_le]
  omega

theorem hoursValue_mono (h : w'.window.duration ≤ w.window.duration) : w'.hoursValue ≤ w.hoursValue := by
  have hcast : (w'.window.duration : ℚ) ≤ w.window.duration := by exact_mod_cast h
  exact nearest_mono (div_le_div_of_nonneg_right (nearest_mono hcast) (by norm_num))

theorem hoursValue_nonneg (h : 0 ≤ w.window.duration) : 0 ≤ w.hoursValue :=
  nearest_nonneg (div_nonneg (nearest_nonneg (by exact_mod_cast h)) (by norm_num))

/-- A product with a nonnegative factor grows with the other factors. -/
theorem mul_le_of_nonneg {a a' b b' : ℚ} (ha' : 0 ≤ a') (ha : a' ≤ a) (hb : b' ≤ b) (hnonneg : 0 ≤ b) :
    a' * b' ≤ a * b := by
  -- a negative factor makes the product negative, however large the other one is
  rcases le_total 0 b' with h | h
  · exact mul_le_mul ha hb h (le_trans ha' ha)
  · exact le_trans (mul_nonpos_of_nonneg_of_nonpos ha' h) (mul_nonneg (le_trans ha' ha) hnonneg)

/-- A change that saves: no higher a price, no longer a window, and no more of the cost wasted. -/
theorem saves_of_le (hw : w.Loaded series) (hduration : |w'.window.duration| ≤ 2 ^ 64)
    (haverage : Within 32 w'.utilization.average) (hnonneg : 0 ≤ value w'.price.value)
    (hprice : value w'.price.value ≤ value w.price.value) (hle : w'.window.duration ≤ w.window.duration)
    (hwaste : value w'.cost.value ≤ value w.cost.value →
      value w'.cost.value * w'.idleValue ≤ value w.cost.value * w.idleValue) : w.Saves w' := by
  obtain ⟨hfirst, hlast⟩ := hw.duration_bounds
  have hduration' : |w.window.duration| ≤ 2 ^ 64 := by rw [abs_of_nonneg hfirst]; omega
  obtain ⟨hcost, wcost⟩ := cost_eq hduration
  obtain ⟨hcost', -⟩ := cost_eq hduration'
  obtain ⟨hwaste₁, wwaste⟩ := waste_eq hduration haverage
  obtain ⟨hwaste₂, -⟩ := waste_eq hduration' ((within_of_isFraction hw.average).mono (by norm_num))
  have hcost_le : value w'.cost.value ≤ value w.cost.value := by
    rw [hcost, hcost']
    exact nearest_mono (mul_le_of_nonneg hnonneg hprice (hoursValue_mono hle) (hoursValue_nonneg hfirst))
  refine ⟨wcost.mono (by norm_num), wwaste, hcost_le, ?_⟩
  rw [hwaste₁, hwaste₂]
  exact nearest_mono (hwaste hcost_le)

theorem cost_nonneg (hduration : |w.window.duration| ≤ 2 ^ 64) (hnonneg : 0 ≤ w.window.duration)
    (hcores : 1 ≤ w.cores) : 0 ≤ value w.cost.value := by
  rw [(cost_eq hduration).1]
  exact nearest_nonneg (mul_nonneg (le_trans (by norm_num) (price_ge hcores)) (hoursValue_nonneg hnonneg))

theorem idleValue_nonneg {u : Utilization} (hu : w.utilization = u) (h : IsFraction u.average) :
    0 ≤ w.idleValue := by
  subst hu
  exact nearest_nonneg (sub_nonneg.2 (fraction_bounds h).2)

end Comparison

end Workload

/-! ### Core reduction -/

namespace CoreReduction

/-- A utilisation scaled from `n` cores to `cores`. -/
theorem within_scaled {k : ℕ} {x : Float} (hx : Within k x) (hk : k + 32 ≤ 1023) (n : UInt32) {cores : UInt32}
    (hcores : 1 ≤ cores) :
    value (x * (n.toFloat / cores.toFloat)) = nearest (value x * nearest (n.toNat / cores.toNat)) ∧
      Within (k + 32) (x * (n.toFloat / cores.toFloat)) := by
  have hone : (1 : ℚ) ≤ cores.toNat := by exact_mod_cast UInt32.le_iff_toNat_le.1 hcores
  obtain ⟨hratio, wratio⟩ := within_div (within_word32 n) (within_word32 cores).isFinite
    (by rw [Numeral.value_word32]; exact hone) (by norm_num)
  rw [Numeral.value_word32, Numeral.value_word32] at hratio
  rw [← hratio]
  exact within_mul hx wratio hk

/-- There are no fewer cores before a reduction than after it. -/
theorem one_le_ratio {n cores : UInt32} (hcores : 1 ≤ cores) (hle : cores ≤ n) :
    (1 : ℚ) ≤ n.toNat / cores.toNat := by
  have hone : (1 : ℚ) ≤ cores.toNat := by exact_mod_cast UInt32.le_iff_toNat_le.1 hcores
  rw [le_div_iff₀ (by linarith), one_mul]
  exact_mod_cast UInt32.le_iff_toNat_le.1 hle

/-- Fewer cores raise the mean utilisation. -/
theorem average_utilizationOn {w : Workload} (havg : Workload.IsFraction w.utilization.average) {cores : UInt32}
    (hcores : 1 ≤ cores) (hfewer : cores < w.cores) :
    value w.utilization.average ≤ value (utilizationOn w cores).average ∧
      Within 32 (utilizationOn w cores).average := by
  obtain ⟨haverage, waverage⟩ := within_scaled (Workload.within_of_isFraction havg) (by norm_num) w.cores hcores
  refine ⟨?_, waverage⟩
  change _ ≤ value (w.utilization.average * (w.cores.toFloat / cores.toFloat))
  rw [haverage]
  have hge := le_nearest isDyadic_one (one_le_ratio hcores (UInt32.le_of_lt hfewer))
  exact le_nearest (isDyadic_value _) (le_mul_of_one_le_right (Workload.fraction_bounds havg).1 hge)

/-- A workload on fewer cores costs and wastes no more. -/
theorem saves_reduced {series : CarbonSeries} {w : Workload} (hw : w.Loaded series) {cores : UInt32}
    (hcores : 1 ≤ cores) (hfewer : cores < w.cores) : w.Saves { w with cores, utilization := utilizationOn w cores } := by
  obtain ⟨haverage, waverage⟩ := average_utilizationOn hw.average hcores hfewer
  obtain ⟨hfirst, hlast⟩ := hw.duration_bounds
  have hduration : |w.window.duration| ≤ 2 ^ 64 := by rw [abs_of_nonneg hfirst]; omega
  have hlt : (cores.toNat : ℚ) ≤ w.cores.toNat := by exact_mod_cast le_of_lt (UInt32.lt_iff_toNat_lt.1 hfewer)
  refine Workload.saves_of_le hw hduration waverage ?_ ?_ (le_refl _) fun hcost => ?_
  · have hprice := @Workload.price_ge { w with cores, utilization := utilizationOn w cores } hcores
    exact le_trans (by norm_num) hprice
  · simp only [Workload.price, (Machine.price_eq _ _).1]
    exact Machine.priceValue_mono hlt _
  · have hidle : Workload.idleValue { w with cores, utilization := utilizationOn w cores } ≤ w.idleValue :=
      nearest_mono (sub_le_sub_left haverage 1)
    exact Workload.mul_le_of_nonneg (Workload.cost_nonneg hduration hfirst hcores) hcost hidle
      (Workload.idleValue_nonneg rfl hw.average)

end CoreReduction

end CarbonAware
