import CarbonAware.Proofs.Grid
import CarbonAware.Proofs.Numeral.Bounds

/-!
# Means of a series, and their order

Quantities are totally ordered, `NaN` among them (`Quantity.not_le`), and finite ones by their values
(`Quantity.le_iff`, `Quantity.lt_iff`).  The mean over at least one bucket is a finite number that is not negative,
however long the range is (`CarbonSeries.isFinite_meanOver`, `CarbonSeries.meanOver_nonneg`), and where all buckets lie
below a rate, so does their mean, rounded as it is (`CarbonSeries.meanOver_lt`).
-/

namespace CarbonAware

/-! ### The order of quantities -/

namespace Quantity

variable {u : Measure} {a b : Quantity u}

theorem not_le : ¬ a ≤ b ↔ b < a := by
  change ¬ (Numeral.totalCompare a.value b.value).isLE = true ↔ Numeral.totalCompare b.value a.value = .lt
  rw [← Numeral.totalCompare_swap a.value b.value, Ordering.isLE_iff_ne_gt, not_not, Ordering.swap_eq_lt]

theorem le_iff (ha : a.value.isFinite = true) (hb : b.value.isFinite = true) :
    a ≤ b ↔ Numeral.value a.value ≤ Numeral.value b.value := by
  change (Numeral.totalCompare a.value b.value).isLE = true ↔ _
  rw [Numeral.totalCompare_eq ha hb, Ordering.isLE_iff_ne_gt, compare_gt_iff_gt, not_lt]

theorem lt_iff (ha : a.value.isFinite = true) (hb : b.value.isFinite = true) :
    a < b ↔ Numeral.value a.value < Numeral.value b.value := by
  rw [← not_le, le_iff hb ha, Rat.not_le]

end Quantity

/-! ### Quotients by a count -/

namespace Numeral

section Quotient

variable {x : Float} {n : ℕ}

/-- The quotient by a count is a number that is not negative, and not above any bound on the exact quotient. -/
private theorem div_natFloat (hx : Within 64 x) (hpos : 0 ≤ value x) (hn : 0 < n) :
    (x / Float.ofNat n).isFinite = true ∧ 0 ≤ value (x / Float.ofNat n) ∧
      ∀ bound, IsDyadic bound → 0 ≤ bound → value x ≤ bound * nearest n → value (x / Float.ofNat n) ≤ bound := by
  by_cases hrange : InRange n
  · obtain ⟨hfinite, hcount⟩ := rounds_natFloat hrange
    have hone : 1 ≤ value (Float.ofNat n) := by
      rw [hcount]
      exact le_nearest isDyadic_one (by exact_mod_cast hn)
    obtain ⟨hquotient, wquotient⟩ := within_div hx hfinite hone (by norm_num)
    refine ⟨wquotient.isFinite, ?_, fun bound hbound _ hle => ?_⟩
    · rw [hquotient]
      exact nearest_nonneg (div_nonneg hpos (by linarith))
    · rw [hquotient]
      refine nearest_le hbound ?_
      rw [div_le_iff₀ (by linarith), hcount]
      exact hle
  · -- the count is infinite as a number, so nothing is left of the quotient
    obtain ⟨s, hzero⟩ := unpack_div_by_infinity hx.isFinite (unpack_natFloat_infinity hrange)
    rw [value_of_zero hzero]
    exact ⟨isFinite_of_zero hzero, le_rfl, fun _ _ hbound _ => hbound⟩

end Quotient

/-- The sum of `n` numbers up to `t`, divided by `n`, exceeds `t` by no more than a half, roundings included. -/
private theorem nearest_mul_le {n t : ℕ} (hn : 0 < n) (ht : t < 2 ^ 32) :
    nearest (n * t : ℕ) ≤ (t + 1 / 2) * nearest n := by
  have hn' : (1 : ℚ) ≤ n := by exact_mod_cast hn
  have hleast : (2 : ℚ) ^ (-1022 : ℤ) ≤ 1 := by
    rw [← zpow_zero 2]
    exact zpow_le_zpow_right₀ (by norm_num) (by norm_num)
  rcases Nat.eq_zero_or_pos t with rfl | hpos
  · rw [Nat.mul_zero, Nat.cast_zero, nearest_zero]
    exact mul_nonneg (by norm_num) (nearest_nonneg (by linarith))
  · have ht' : (1 : ℚ) ≤ t := by exact_mod_cast hpos
    have hlt : (t : ℚ) ≤ 2 ^ 32 := by exact_mod_cast le_of_lt ht
    have hexact : (t : ℚ) * (1 + roundoff) ≤ (t + 1 / 2) * (1 - roundoff) := by
      unfold roundoff
      linarith
    have hproduct : (1 : ℚ) ≤ (n * t : ℕ) := by exact_mod_cast Nat.mul_pos hn hpos
    calc nearest (n * t : ℕ) ≤ (n * t : ℕ) * (1 + roundoff) := nearest_le_mul (le_trans hleast hproduct)
      _ = n * (t * (1 + roundoff)) := by push_cast; ring
      _ ≤ n * ((t + 1 / 2) * (1 - roundoff)) := mul_le_mul_of_nonneg_left hexact (by linarith)
      _ = (t + 1 / 2) * (n * (1 - roundoff)) := by ring
      _ ≤ (t + 1 / 2) * nearest n :=
        mul_le_mul_of_nonneg_left (mul_le_nearest (le_trans hleast hn')) (by linarith)

end Numeral

/-! ### Means -/

namespace CarbonSeries

open Numeral (nearest value Within)

variable (s : CarbonSeries) (kind : SeriesKind) {range : BucketRange}

/-- The sum over a range as a number. -/
private theorem within_sumOver (range : BucketRange) : value (s.sumOver kind range).toFloat =
    nearest (s.sumOver kind range).toNat ∧ Within 64 (s.sumOver kind range).toFloat := by
  have hrounds := Numeral.rounds_word64 (s.sumOver kind range)
  refine ⟨hrounds.value_eq, hrounds.within ?_⟩
  rw [abs_of_nonneg (by positivity)]
  exact_mod_cast le_of_lt (s.sumOver kind range).toNat_lt

private theorem sumOver_nonneg (range : BucketRange) : 0 ≤ value (s.sumOver kind range).toFloat := by
  rw [(s.within_sumOver kind range).1]
  exact Numeral.nearest_nonneg (by positivity)

private theorem length_pos (h : range.start < range.stop) : 0 < range.length := Nat.sub_pos_of_lt h

theorem isFinite_meanOver (h : range.start < range.stop) : (s.meanOver kind range).value.isFinite = true :=
  (Numeral.div_natFloat (s.within_sumOver kind range).2 (s.sumOver_nonneg kind range) (length_pos h)).1

theorem meanOver_nonneg (h : range.start < range.stop) : 0 ≤ value (s.meanOver kind range).value :=
  (Numeral.div_natFloat (s.within_sumOver kind range).2 (s.sumOver_nonneg kind range) (length_pos h)).2.1

private theorem toNat_sum_le {rates : List UInt32} {bound : ℕ} (h : ∀ rate ∈ rates, rate.toNat ≤ bound) :
    (rates.map UInt32.toUInt64).sum.toNat ≤ rates.length * bound := by
  induction rates with
  | nil => exact Nat.zero_le _
  | cons rate rest ih =>
    rw [List.forall_mem_cons] at h
    have hrest := ih h.2
    rw [List.map_cons, List.sum_cons, UInt64.toNat_add, UInt32.toNat_toUInt64, List.length_cons, Nat.add_one_mul]
    have hmod := Nat.mod_le (rate.toNat + (rest.map UInt32.toUInt64).sum.toNat) (2 ^ 64)
    omega

variable {kind}

/-- The sum of rates below a threshold, also where it does not fit into a word. -/
private theorem toNat_sumOver_le {threshold : UInt32} (hlow : ∀ bucket, range.start ≤ bucket → bucket < range.stop →
    ∃ rate, (s.values kind)[bucket]? = some rate ∧ rate < threshold) :
    (s.sumOver kind range).toNat ≤ range.length * (threshold.toNat - 1) := by
  have hrates : ∀ rate ∈ ((s.values kind).take range.stop).drop range.start, rate.toNat ≤ threshold.toNat - 1 := by
    intro rate hrate
    obtain ⟨i, hi, rfl⟩ := List.getElem_of_mem hrate
    rw [List.length_drop, List.length_take] at hi
    obtain ⟨rate, hget, hlt⟩ := hlow (range.start + i) (Nat.le_add_right _ _) (by omega)
    rw [List.getElem?_eq_some_iff] at hget
    obtain ⟨hindex, rfl⟩ := hget
    rw [List.getElem_drop, List.getElem_take]
    have := UInt32.lt_iff_toNat_lt.1 hlt
    omega
  refine le_trans (toNat_sum_le hrates) (Nat.mul_le_mul_right _ ?_)
  rw [List.length_drop, List.length_take, BucketRange.length]
  omega

/-- Where every rate is below a threshold, so is their mean. -/
theorem meanOver_lt {threshold : UInt32} (h : range.start < range.stop)
    (hlow : ∀ bucket, range.start ≤ bucket → bucket < range.stop →
      ∃ rate, (s.values kind)[bucket]? = some rate ∧ rate < threshold) :
    s.meanOver kind range < ⟨threshold.toFloat⟩ := by
  have hpos : 0 < threshold.toNat := by
    obtain ⟨rate, -, hlt⟩ := hlow range.start le_rfl h
    have := UInt32.lt_iff_toNat_lt.1 hlt
    omega
  obtain ⟨t, ht⟩ : ∃ t, threshold.toNat = t + 1 := ⟨threshold.toNat - 1, by omega⟩
  have htop : t < 2 ^ 32 := by
    have := threshold.toNat_lt
    omega
  have hdyadic : Numeral.IsDyadic (t + 1 / 2) := by
    refine ⟨2 * t + 1, -1, ?_, by norm_num, by push_cast; ring⟩
    rw [abs_of_nonneg (by positivity)]
    omega
  have hsum : value (s.sumOver kind range).toFloat ≤ (t + 1 / 2) * nearest range.length := by
    rw [(s.within_sumOver kind range).1]
    refine le_trans (Numeral.nearest_mono ?_) (Numeral.nearest_mul_le (length_pos h) htop)
    have hle := s.toNat_sumOver_le hlow
    rw [ht, Nat.add_sub_cancel] at hle
    exact_mod_cast hle
  have hmean : value (s.meanOver kind range).value ≤ t + 1 / 2 :=
    (Numeral.div_natFloat (s.within_sumOver kind range).2 (s.sumOver_nonneg kind range) (length_pos h)).2.2
      _ hdyadic (by positivity) hsum
  refine (Quantity.lt_iff (s.isFinite_meanOver kind h) (Numeral.within_word32 threshold).isFinite).2 ?_
  change value (s.meanOver kind range).value < value threshold.toFloat
  rw [Numeral.value_word32, ht]
  push_cast
  linarith

end CarbonSeries

end CarbonAware
