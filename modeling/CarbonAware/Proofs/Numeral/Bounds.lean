import CarbonAware.Proofs.Numeral.Conversions

/-!
# Bounds on computed numbers

Numbers `Within` a power of two stay finite under arithmetic, and what is computed of them is the `nearest` to the
exact result (`within_add`, `within_sub`, `within_mul`, `within_div`).  The rounding is off by at most the
`roundoff` in proportion (`nearest_le_mul`, `mul_le_nearest`), for differences of numbers even without a lower bound
(`abs_nearest_sub_sub_le`).  Below the normal numbers half of the least positive number is added to this
(`abs_nearest_sub_le_add`).
-/

namespace CarbonAware.Numeral

/-! ### Bounded numbers -/

/-- A finite number that is no greater than `2 ^ k`. -/
structure Within (k : ℕ) (x : Float) : Prop where
  isFinite : x.isFinite = true
  abs_le : |value x| ≤ 2 ^ k

theorem Within.mono {j k : ℕ} (h : j ≤ k) {x : Float} (hx : Within j x) : Within k x :=
  ⟨hx.isFinite, le_trans hx.abs_le (pow_le_pow_right₀ (by norm_num) h)⟩

private theorem isDyadic_two_pow (k : ℕ) : IsDyadic (2 ^ k) := by
  have := isDyadic_two_zpow (e := k) (by omega)
  rwa [zpow_natCast] at this

theorem inRange_of_le_two_pow {q : ℚ} {k : ℕ} (hk : k ≤ 1023) (h : |q| ≤ 2 ^ k) : InRange q := by
  refine inRange_of_abs_le (le_trans h ?_)
  rw [← zpow_natCast]
  exact zpow_le_zpow_right₀ (by norm_num) (by omega)

theorem Rounds.within {z : Float} {q : ℚ} {k : ℕ} (hz : Rounds z q) (h : |q| ≤ 2 ^ k) : Within k z := by
  refine ⟨hz.isFinite, ?_⟩
  rw [hz.value_eq, abs_nearest]
  exact nearest_le (isDyadic_two_pow k) h

section Operations

variable {j k : ℕ} {x y : Float}

theorem within_add (hx : Within k x) (hy : Within k y) (hk : k < 1023) :
    value (x + y) = nearest (value x + value y) ∧ Within (k + 1) (x + y) := by
  have hsum : |value x + value y| ≤ 2 ^ (k + 1) := by
    have := abs_add_le (value x) (value y)
    have := hx.abs_le
    have := hy.abs_le
    rw [pow_succ]
    linarith
  have hrounds := rounds_add hx.isFinite hy.isFinite (inRange_of_le_two_pow hk hsum)
  exact ⟨hrounds.value_eq, hrounds.within hsum⟩

theorem within_sub (hx : Within k x) (hy : Within k y) (hk : k < 1023) :
    value (x - y) = nearest (value x - value y) ∧ Within (k + 1) (x - y) := by
  have hdiff : |value x - value y| ≤ 2 ^ (k + 1) := by
    have := abs_sub (value x) (value y)
    have := hx.abs_le
    have := hy.abs_le
    rw [pow_succ]
    linarith
  have hrounds := rounds_sub hx.isFinite hy.isFinite (inRange_of_le_two_pow hk hdiff)
  exact ⟨hrounds.value_eq, hrounds.within hdiff⟩

theorem within_mul (hx : Within j x) (hy : Within k y) (hk : j + k ≤ 1023) :
    value (x * y) = nearest (value x * value y) ∧ Within (j + k) (x * y) := by
  have hprod : |value x * value y| ≤ 2 ^ (j + k) := by
    rw [abs_mul, pow_add]
    exact mul_le_mul hx.abs_le hy.abs_le (abs_nonneg _) (by positivity)
  have hrounds := rounds_mul hx.isFinite hy.isFinite (inRange_of_le_two_pow hk hprod)
  exact ⟨hrounds.value_eq, hrounds.within hprod⟩

/-- Division by a number that is not below one. -/
theorem within_div (hx : Within k x) (hy : y.isFinite = true) (hone : 1 ≤ value y) (hk : k ≤ 1023) :
    value (x / y) = nearest (value x / value y) ∧ Within k (x / y) := by
  have hquotient : |value x / value y| ≤ 2 ^ k := by
    rw [abs_div, abs_of_pos (by linarith : 0 < value y)]
    exact le_trans (div_le_self (abs_nonneg _) hone) hx.abs_le
  have hrounds := rounds_div hx.isFinite hy (by linarith) (inRange_of_le_two_pow hk hquotient)
  exact ⟨hrounds.value_eq, hrounds.within hquotient⟩

end Operations

theorem within_neg {k : ℕ} {x : Float} (hx : Within k x) : value (-x) = -value x ∧ Within k (-x) :=
  ⟨value_neg x, isFinite_neg hx.isFinite, by rw [value_neg, abs_neg]; exact hx.abs_le⟩

theorem within_word32 (n : UInt32) : Within 32 n.toFloat := by
  refine ⟨(rounds_word32 n).isFinite, ?_⟩
  rw [value_word32, abs_of_nonneg (by positivity)]
  exact_mod_cast le_of_lt n.toNat_lt

theorem within_literal {m k : ℕ} (hk : 0 < k) {j : ℕ} (hj : j ≤ 1023) (h : (m : ℚ) / 10 ^ k ≤ 2 ^ j) :
    value (OfScientific.ofScientific m true k) = nearest (m / 10 ^ k) ∧
      Within j (OfScientific.ofScientific m true k) := by
  have habs : |(m : ℚ) / 10 ^ k| ≤ 2 ^ j := by rwa [abs_of_nonneg (by positivity)]
  have hrounds := rounds_literal hk (inRange_of_le_two_pow hj habs)
  exact ⟨hrounds.value_eq, hrounds.within habs⟩

theorem within_ofInt {n : ℤ} {k : ℕ} (hk : k ≤ 1023) (h : |n| ≤ 2 ^ k) :
    value (Float.ofInt n) = nearest n ∧ Within k (Float.ofInt n) := by
  have habs : |(n : ℚ)| ≤ 2 ^ k := by exact_mod_cast h
  have hrounds := rounds_intFloat (inRange_of_le_two_pow hk habs)
  exact ⟨hrounds.value_eq, hrounds.within habs⟩

/-- Cutting off a bounded number, within limits around zero, gives a bounded integer. -/
theorem abs_truncate_le {k : ℕ} {x : Float} (hx : Within k x) {lo hi : ℤ} (hlo : lo ≤ 0) (hhi : 0 ≤ hi) :
    |truncate lo hi x| ≤ 2 ^ k := by
  obtain ⟨hge, hle⟩ := abs_le.1 hx.abs_le
  have hupper : integerPart (value x) ≤ 2 ^ k := by
    have := integerPart_mono (q := ((2 ^ k : ℤ) : ℚ)) (by exact_mod_cast hle)
    rwa [integerPart_intCast] at this
  have hlower : -2 ^ k ≤ integerPart (value x) := by
    have := integerPart_mono (p := ((-2 ^ k : ℤ) : ℚ)) (by exact_mod_cast hge)
    rwa [integerPart_intCast] at this
  rw [truncate_eq hx.isFinite, abs_le]
  omega

/-! ### The relative error -/

/-- The greatest relative error of a rounding. -/
def roundoff : ℚ := 1 / 2 ^ 53

/-- The error of any rounding; below the normal numbers it is half of the least positive one. -/
theorem abs_nearest_sub_le_add (q : ℚ) : |nearest q - q| ≤ |q| * roundoff + 2 ^ (-1075 : ℤ) := by
  have hhalf : (2 : ℚ) ^ (-1074 : ℤ) / 2 = 2 ^ (-1075 : ℤ) := by
    rw [div_eq_iff (by norm_num), ← zpow_add_one₀ (by norm_num)]
    norm_num
  have hpos := two_zpow_pos (-1075)
  rcases le_or_gt (2 ^ (-1022 : ℤ)) |q| with hlarge | hsmall
  · have herror := abs_nearest_sub_le hlarge
    unfold roundoff
    linarith
  · have hproduct : 0 ≤ |q| * roundoff := mul_nonneg (abs_nonneg _) (by unfold roundoff; norm_num)
    by_cases hq : q = 0
    · rw [hq, nearest_zero, sub_zero, abs_zero, zero_mul, zero_add]
      exact le_of_lt hpos
    have hspacing : spacing q ≤ -1074 :=
      spacing_le hq (le_refl _) (lt_trans hsmall (zpow_lt_zpow_right₀ (by norm_num) (by norm_num)))
    have hstep : (2 : ℚ) ^ spacing q ≤ 2 ^ (-1074 : ℤ) := zpow_le_zpow_right₀ (by norm_num) hspacing
    have herror := abs_nearest_sub_le_spacing q
    linarith

theorem nearest_bounds {q : ℚ} (h : 0 ≤ q) :
    q * (1 - roundoff) - 2 ^ (-1075 : ℤ) ≤ nearest q ∧ nearest q ≤ q * (1 + roundoff) + 2 ^ (-1075 : ℤ) := by
  have herror := abs_le.1 (abs_nearest_sub_le_add q)
  rw [abs_of_nonneg h] at herror
  constructor <;> linarith [herror.1, herror.2]

/-- Far above the least normal number. -/
theorem normal_of_le {q : ℚ} (h : 1 / 2 ^ 60 ≤ q) : 2 ^ (-1022 : ℤ) ≤ q := by
  refine le_trans ?_ h
  have : (2 : ℚ) ^ (-1022 : ℤ) ≤ 2 ^ (-60 : ℤ) := zpow_le_zpow_right₀ (by norm_num) (by norm_num)
  refine le_trans this (le_of_eq ?_)
  norm_num

theorem nearest_le_mul {q : ℚ} (h : 2 ^ (-1022 : ℤ) ≤ q) : nearest q ≤ q * (1 + roundoff) := by
  have hpos : 0 < q := lt_of_lt_of_le (two_zpow_pos _) h
  have herror := abs_nearest_sub_le (q := q) (by rwa [abs_of_pos hpos])
  rw [abs_of_pos hpos] at herror
  have := (abs_le.1 herror).2
  unfold roundoff
  linarith

theorem mul_le_nearest {q : ℚ} (h : 2 ^ (-1022 : ℤ) ≤ q) : q * (1 - roundoff) ≤ nearest q := by
  have hpos : 0 < q := lt_of_lt_of_le (two_zpow_pos _) h
  have herror := abs_nearest_sub_le (q := q) (by rwa [abs_of_pos hpos])
  rw [abs_of_pos hpos] at herror
  have := (abs_le.1 herror).1
  unfold roundoff
  linarith

/-- A number as a multiple of the least positive one. -/
private theorem multiple_of_isDyadic {q : ℚ} (h : IsDyadic q) : ∃ n : ℤ, q = n * 2 ^ (-1074 : ℤ) := by
  obtain ⟨m, e, -, he, rfl⟩ := h
  obtain ⟨k, rfl⟩ := Int.le.dest he
  refine ⟨m * 2 ^ k, ?_⟩
  rw [zpow_add₀ (by norm_num), zpow_natCast, mul_comm (2 ^ (-1074 : ℤ) : ℚ), Int.cast_mul, Int.cast_pow,
    Int.cast_ofNat, mul_assoc]

/-- A small difference of numbers is exact, and a larger one has the error of all roundings. -/
theorem abs_nearest_sub_sub_le {p q : ℚ} (hp : IsDyadic p) (hq : IsDyadic q) :
    |nearest (p - q) - (p - q)| ≤ |p - q| * roundoff := by
  rcases le_or_gt (2 ^ (-1022 : ℤ)) |p - q| with hlarge | hsmall
  · have := abs_nearest_sub_le hlarge
    unfold roundoff
    rwa [mul_one_div]
  · obtain ⟨n, rfl⟩ := multiple_of_isDyadic hp
    obtain ⟨n', rfl⟩ := multiple_of_isDyadic hq
    have hdyadic : IsDyadic (n * 2 ^ (-1074 : ℤ) - n' * 2 ^ (-1074 : ℤ)) := by
      refine ⟨n - n', -1074, ?_, le_refl _, by rw [Int.cast_sub, sub_mul]⟩
      rw [← sub_mul, abs_mul, abs_of_pos (two_zpow_pos _)] at hsmall
      have hsplit : (2 : ℚ) ^ (-1022 : ℤ) = 2 ^ 52 * 2 ^ (-1074 : ℤ) := by
        rw [← zpow_natCast, ← zpow_add₀ (by norm_num)]
        norm_num
      rw [hsplit] at hsmall
      have hlt : |((n - n' : ℤ) : ℚ)| < 2 ^ 52 := by
        push_cast
        exact lt_of_mul_lt_mul_right hsmall (le_of_lt (two_zpow_pos _))
      have hcast : |n - n'| < 2 ^ 52 := by exact_mod_cast hlt
      omega
    rw [nearest_of_isDyadic hdyadic, sub_self, abs_zero]
    exact mul_nonneg (abs_nonneg _) (by unfold roundoff; norm_num)

/-- A number from a half on is a multiple of `2 ^ -53`. -/
theorem multiple_of_half_le {q : ℚ} (h : IsDyadic q) (hq : 1 / 2 ≤ q) : ∃ n : ℤ, q = n * (1 / 2 ^ 53) := by
  have hspacing : -53 ≤ spacing q := by
    have hlog : -1 ≤ Int.log 2 |q| := by
      rw [abs_of_nonneg (by linarith), ← Int.zpow_le_iff_le_log (by norm_num) (by linarith)]
      norm_num
      linarith
    unfold spacing
    omega
  obtain ⟨k, hk⟩ := Int.le.dest hspacing
  refine ⟨roundEven (q / 2 ^ spacing q) * 2 ^ k, ?_⟩
  have hself := nearest_of_isDyadic h
  unfold nearest at hself
  have hsplit : (2 : ℚ) ^ spacing q = 2 ^ k * (1 / 2 ^ 53) := by
    rw [← hk, zpow_add₀ (by norm_num), zpow_natCast, mul_comm]
    norm_num
  rw [hsplit] at hself
  rw [hsplit]
  push_cast
  rw [mul_assoc]
  exact hself.symm

end CarbonAware.Numeral
