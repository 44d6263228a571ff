import Mathlib

/-!
# Rounding to binary precision

`roundEven` is the nearest integer, a half going to the even neighbour, and `nearest` the nearest number of 53
significant binary digits that is a multiple of `2 ^ -1074`.  Key facts: `nearest` keeps such numbers (`IsDyadic`) as
they are, is monotone (`nearest_mono`), and is off by at most one part in `2 ^ 53` (`abs_nearest_sub_le`).
-/

namespace CarbonAware.Numeral

/-! ### The nearest integer -/

/-- The nearest integer, a half going to the even neighbour. -/
def roundEven (q : ℚ) : ℤ :=
  if q - ⌊q⌋ < 1 / 2 then ⌊q⌋ else if 1 / 2 < q - ⌊q⌋ then ⌊q⌋ + 1 else ⌊q⌋ + ⌊q⌋ % 2

private theorem roundEven_near (q : ℚ) :
    |q - roundEven q| ≤ 1 / 2 ∧ (|q - roundEven q| = 1 / 2 → roundEven q % 2 = 0) := by
  have hlo := Int.floor_le q
  have hhi := Int.lt_floor_add_one q
  unfold roundEven
  split
  · rw [abs_of_nonneg (by linarith)]
    exact ⟨by linarith, fun h => by linarith⟩
  · split
    · push_cast
      rw [abs_of_nonpos (by linarith)]
      exact ⟨by linarith, fun h => by linarith⟩
    · have hhalf : q - ⌊q⌋ = 1 / 2 := by linarith
      rcases Int.emod_two_eq_zero_or_one ⌊q⌋ with h | h
      · rw [h, add_zero, hhalf, abs_of_pos (by norm_num)]
        exact ⟨le_refl _, fun _ => h⟩
      · rw [h]
        push_cast
        rw [abs_of_nonpos (by linarith)]
        exact ⟨by linarith, fun _ => by omega⟩

theorem abs_sub_roundEven_le (q : ℚ) : |q - roundEven q| ≤ 1 / 2 := (roundEven_near q).1

/-- The integer within a half is the nearest one; of two of them it is the even one. -/
theorem roundEven_eq {q : ℚ} {n : ℤ} (h : |q - n| ≤ 1 / 2) (heven : |q - n| = 1 / 2 → n % 2 = 0) :
    roundEven q = n := by
  obtain ⟨hk, hkeven⟩ := roundEven_near q
  by_contra hne
  have hone : (1 : ℚ) ≤ |(roundEven q : ℚ) - n| := by
    have : 1 ≤ |roundEven q - n| := Int.one_le_abs (sub_ne_zero.2 hne)
    exact_mod_cast this
  have htriangle : |(roundEven q : ℚ) - n| ≤ |q - n| + |q - roundEven q| := by
    have := abs_sub_le (roundEven q : ℚ) q n
    rw [abs_sub_comm (roundEven q : ℚ) q] at this
    linarith
  have hn := heven (by linarith)
  have hr := hkeven (by linarith)
  have hdist : |roundEven q - n| = 1 := by
    have : |(roundEven q : ℚ) - n| = 1 := by linarith
    exact_mod_cast this
  -- of two neighbours, one is odd
  rcases abs_cases (roundEven q - n) with ⟨habs, -⟩ | ⟨habs, -⟩ <;> omega

theorem roundEven_intCast (n : ℤ) : roundEven n = n :=
  roundEven_eq (by simp) (fun h => by simp at h)

theorem roundEven_neg (q : ℚ) : roundEven (-q) = -roundEven q := by
  obtain ⟨h, heven⟩ := roundEven_near q
  have habs : |-q - ((-roundEven q : ℤ) : ℚ)| = |q - roundEven q| := by
    push_cast
    rw [← abs_neg]
    congr 1
    ring
  refine roundEven_eq (by rw [habs]; exact h) fun hhalf => ?_
  have := heven (habs ▸ hhalf)
  omega

theorem roundEven_mono {p q : ℚ} (h : p ≤ q) : roundEven p ≤ roundEven q := by
  obtain ⟨hp, hpeven⟩ := roundEven_near p
  obtain ⟨hq, hqeven⟩ := roundEven_near q
  by_contra hlt
  have hcast : (roundEven q : ℚ) + 1 ≤ roundEven p := by exact_mod_cast Int.not_le.1 hlt
  have hp' := abs_le.1 hp
  have hq' := abs_le.1 hq
  -- the two are one number half way between two integers, and both of these are even
  have hpe := hpeven (by rw [abs_of_nonpos (by linarith)]; linarith)
  have hqe := hqeven (by rw [abs_of_nonneg (by linarith)]; linarith)
  have hnext : roundEven q + 1 = roundEven p := by
    have : (roundEven q : ℚ) + 1 = roundEven p := by linarith
    exact_mod_cast this
  omega

/-! ### The spacing of the numbers -/

/-- The exponent of the spacing of the numbers of 53 binary digits around `q`. -/
def spacing (q : ℚ) : ℤ := max (Int.log 2 |q| - 52) (-1074)

/-- The nearest number of 53 binary digits. -/
def nearest (q : ℚ) : ℚ := roundEven (q / 2 ^ spacing q) * 2 ^ spacing q

/-- A number of 53 binary digits that is a multiple of `2 ^ -1074`. -/
def IsDyadic (q : ℚ) : Prop := ∃ m e : ℤ, |m| ≤ 2 ^ 53 ∧ -1074 ≤ e ∧ q = m * 2 ^ e

theorem two_zpow_pos (e : ℤ) : (0 : ℚ) < 2 ^ e := zpow_pos (by norm_num) e

private theorem two_zpow_add (d e : ℤ) : (2 : ℚ) ^ (d + e) = 2 ^ d * 2 ^ e := zpow_add₀ (by norm_num) d e

/-- The spacing is small enough for 53 digits. -/
theorem abs_lt_spacing (q : ℚ) : |q| < 2 ^ (spacing q + 53) := by
  have hlog : |q| < 2 ^ (Int.log 2 |q| + 1) := by exact_mod_cast Int.lt_zpow_succ_log_self (b := 2) (by norm_num) |q|
  have hle : Int.log 2 |q| + 1 ≤ spacing q + 53 := by unfold spacing; omega
  exact lt_of_lt_of_le hlog (zpow_le_zpow_right₀ (by norm_num) hle)

/-- The spacing is no smaller than 53 digits need, unless it is the least of all. -/
theorem spacing_le_abs {q : ℚ} (hq : q ≠ 0) : 2 ^ (spacing q + 52) ≤ |q| ∨ spacing q = -1074 := by
  rcases le_total (Int.log 2 |q| - 52) (-1074) with h | h
  · exact .inr (max_eq_right h)
  · left
    have hlog : (2 : ℚ) ^ Int.log 2 |q| ≤ |q| := by
      exact_mod_cast Int.zpow_log_le_self (b := 2) (by norm_num) (abs_pos.2 hq)
    have hspacing : spacing q + 52 = Int.log 2 |q| := by unfold spacing; omega
    rw [hspacing]
    exact hlog

theorem spacing_ge (q : ℚ) : -1074 ≤ spacing q := le_max_right _ _

/-- A bound of 53 digits on the number bounds the spacing. -/
theorem spacing_le {q : ℚ} (hq : q ≠ 0) {e : ℤ} (he : -1074 ≤ e) (h : |q| < 2 ^ (e + 53)) : spacing q ≤ e := by
  rcases spacing_le_abs hq with hle | hleast
  · have hlt := lt_of_le_of_lt hle h
    have := (zpow_lt_zpow_iff_right₀ (by norm_num : (1 : ℚ) < 2)).1 hlt
    omega
  · omega

theorem spacing_eq {q : ℚ} (hq : q ≠ 0) {e : ℤ} (he : -1074 ≤ e) (hhi : |q| < 2 ^ (e + 53))
    (hlo : 2 ^ (e + 52) ≤ |q| ∨ e = -1074) : spacing q = e := by
  refine le_antisymm (spacing_le hq he hhi) ?_
  rcases hlo with hlo | rfl
  · have hlt := lt_of_le_of_lt hlo (abs_lt_spacing q)
    have := (zpow_lt_zpow_iff_right₀ (by norm_num : (1 : ℚ) < 2)).1 hlt
    omega
  · exact spacing_ge q

theorem spacing_neg (q : ℚ) : spacing (-q) = spacing q := by rw [spacing, spacing, abs_neg]

theorem nearest_neg (q : ℚ) : nearest (-q) = -nearest q := by
  rw [nearest, nearest, spacing_neg, neg_div, roundEven_neg]
  push_cast
  ring

theorem nearest_zero : nearest 0 = 0 := by
  have := roundEven_intCast 0
  rw [Int.cast_zero] at this
  rw [nearest, zero_div, this, Int.cast_zero, zero_mul]

/-- A number of 53 digits is a multiple of its spacing. -/
private theorem IsDyadic.multiple {q : ℚ} (h : IsDyadic q) (hq : q ≠ 0) : ∃ n : ℤ, q = n * 2 ^ spacing q := by
  obtain ⟨m, e, hm, he, rfl⟩ := h
  have habs : |(m : ℚ) * 2 ^ e| = |(m : ℚ)| * 2 ^ e := by rw [abs_mul, abs_of_pos (two_zpow_pos e)]
  -- the spacing is at most `e`, but for the greatest mantissa, which is even
  rcases lt_or_eq_of_le hm with hlt | heq
  · have hbound : |(m : ℚ) * 2 ^ e| < 2 ^ (e + 53) := by
      have hcast : |(m : ℚ)| < 2 ^ (53 : ℤ) := by exact_mod_cast hlt
      rw [habs, add_comm, two_zpow_add]
      exact mul_lt_mul_of_pos_right hcast (two_zpow_pos e)
    obtain ⟨k, hk⟩ := Int.le.dest (spacing_le hq he hbound)
    refine ⟨m * 2 ^ k, ?_⟩
    conv_lhs => rw [← hk, two_zpow_add]
    push_cast
    rw [zpow_natCast]
    ring
  · have hfull : |(m : ℚ) * 2 ^ e| = 2 ^ (e + 53) := by
      have hcast : |(m : ℚ)| = 2 ^ (53 : ℤ) := by exact_mod_cast heq
      rw [habs, add_comm, two_zpow_add, hcast]
    have hspacing : spacing (m * 2 ^ e) = e + 1 := by
      refine spacing_eq hq (by omega) ?_ (.inl ?_)
      · rw [hfull]; exact zpow_lt_zpow_right₀ (by norm_num) (by omega)
      · rw [hfull]; exact zpow_le_zpow_right₀ (by norm_num) (by omega)
    obtain ⟨n, rfl⟩ : ∃ n : ℤ, m = n * 2 := by
      rcases abs_cases m with ⟨habs, -⟩ | ⟨habs, -⟩
      · exact ⟨2 ^ 52, by omega⟩
      · exact ⟨-2 ^ 52, by omega⟩
    refine ⟨n, ?_⟩
    rw [hspacing, two_zpow_add]
    push_cast
    ring

theorem nearest_of_isDyadic {q : ℚ} (h : IsDyadic q) : nearest q = q := by
  by_cases hq : q = 0
  · rw [hq, nearest_zero]
  obtain ⟨n, hn⟩ := h.multiple hq
  have hquotient : q / 2 ^ spacing q = n := by
    rw [div_eq_iff (ne_of_gt (two_zpow_pos _))]
    exact hn
  rw [nearest, hquotient, roundEven_intCast, ← hn]

theorem isDyadic_zero : IsDyadic 0 := ⟨0, 0, by norm_num, by norm_num, by norm_num⟩

theorem isDyadic_one : IsDyadic 1 := ⟨1, 0, by norm_num, by norm_num, by norm_num⟩

/-- The multiple of the spacing has at most 53 digits, but for a carry. -/
theorem abs_roundEven_le (q : ℚ) : |roundEven (q / 2 ^ spacing q)| ≤ 2 ^ 53 := by
  have hpos := two_zpow_pos (spacing q)
  have hlt : |q / 2 ^ spacing q| < ((2 ^ 53 : ℤ) : ℚ) := by
    rw [abs_div, abs_of_pos hpos, div_lt_iff₀ hpos]
    have := abs_lt_spacing q
    rw [add_comm, two_zpow_add] at this
    exact_mod_cast this
  have hbounds := abs_lt.1 hlt
  have hhi := roundEven_mono (le_of_lt hbounds.2)
  have hlo := roundEven_mono (le_of_lt hbounds.1)
  rw [roundEven_intCast] at hhi
  rw [roundEven_neg, roundEven_intCast] at hlo
  exact abs_le.2 ⟨hlo, hhi⟩

theorem isDyadic_nearest (q : ℚ) : IsDyadic (nearest q) :=
  ⟨roundEven (q / 2 ^ spacing q), spacing q, abs_roundEven_le q, spacing_ge q, rfl⟩

theorem isDyadic_two_zpow {e : ℤ} (he : -1074 ≤ e) : IsDyadic (2 ^ e) :=
  ⟨1, e, by norm_num, he, by norm_num⟩

theorem isDyadic_intCast {n : ℤ} (h : |n| ≤ 2 ^ 53) : IsDyadic n := ⟨n, 0, h, by norm_num, by norm_num⟩

/-- Scaling by a power of two moves the point. -/
theorem IsDyadic.scale {q : ℚ} (h : IsDyadic q) (k : ℕ) : IsDyadic (q * 2 ^ k) := by
  obtain ⟨m, e, hm, he, rfl⟩ := h
  refine ⟨m, e + k, hm, by omega, ?_⟩
  rw [two_zpow_add, zpow_natCast]
  ring

/-! ### Order and error -/

theorem nearest_nonneg {q : ℚ} (h : 0 ≤ q) : 0 ≤ nearest q := by
  have hpos := two_zpow_pos (spacing q)
  have hround : 0 ≤ roundEven (q / 2 ^ spacing q) := by
    have := roundEven_mono (div_nonneg h (le_of_lt hpos))
    rwa [← Int.cast_zero, roundEven_intCast] at this
  rw [nearest]
  exact mul_nonneg (by exact_mod_cast hround) (le_of_lt hpos)

/-- A bound of full precision on a number bounds its rounding. -/
private theorem nearest_le_two_zpow (q : ℚ) : nearest q ≤ 2 ^ (spacing q + 53) := by
  have hle : (roundEven (q / 2 ^ spacing q) : ℚ) ≤ 2 ^ (53 : ℤ) := by
    exact_mod_cast (abs_le.1 (abs_roundEven_le q)).2
  rw [nearest, add_comm, two_zpow_add]
  exact mul_le_mul_of_nonneg_right hle (le_of_lt (two_zpow_pos _))

/-- A number of 53 digits is rounded to a multiple of as many. -/
theorem le_roundEven {q : ℚ} (hq : 2 ^ (spacing q + 52) ≤ q) : 2 ^ 52 ≤ roundEven (q / 2 ^ spacing q) := by
  have hle : ((2 ^ 52 : ℤ) : ℚ) ≤ q / 2 ^ spacing q := by
    rw [le_div_iff₀ (two_zpow_pos _)]
    rw [add_comm, two_zpow_add] at hq
    exact_mod_cast hq
  have hround := roundEven_mono hle
  rwa [roundEven_intCast] at hround

private theorem two_zpow_le_nearest {q : ℚ} (hq : 2 ^ (spacing q + 52) ≤ q) : 2 ^ (spacing q + 52) ≤ nearest q := by
  have hcast : (2 : ℚ) ^ (52 : ℤ) ≤ roundEven (q / 2 ^ spacing q) := by exact_mod_cast le_roundEven hq
  rw [nearest, add_comm, two_zpow_add]
  exact mul_le_mul_of_nonneg_right hcast (le_of_lt (two_zpow_pos _))

private theorem nearest_mono_nonneg {p q : ℚ} (hp : 0 ≤ p) (h : p ≤ q) : nearest p ≤ nearest q := by
  have hq := le_trans hp h
  rcases eq_or_lt_of_le hp with rfl | hpos
  · rw [nearest_zero]; exact nearest_nonneg hq
  have hspacing : spacing p ≤ spacing q := by
    refine spacing_le (ne_of_gt hpos) (spacing_ge q) (lt_of_le_of_lt ?_ (abs_lt_spacing q))
    rwa [abs_of_nonneg hp, abs_of_nonneg hq]
  rcases lt_or_eq_of_le hspacing with hlt | heq
  · -- a power of two lies between the two
    have hlow : 2 ^ (spacing q + 52) ≤ q := by
      rcases spacing_le_abs (ne_of_gt (lt_of_lt_of_le hpos h)) with hle | hleast
      · rwa [abs_of_nonneg hq] at hle
      · have := spacing_ge p
        omega
    calc nearest p ≤ 2 ^ (spacing p + 53) := nearest_le_two_zpow p
      _ ≤ 2 ^ (spacing q + 52) := zpow_le_zpow_right₀ (by norm_num) (by omega)
      _ ≤ nearest q := two_zpow_le_nearest hlow
  · have hpos := two_zpow_pos (spacing q)
    have hround : roundEven (p / 2 ^ spacing q) ≤ roundEven (q / 2 ^ spacing q) :=
      roundEven_mono (div_le_div_of_nonneg_right h (le_of_lt hpos))
    rw [nearest, nearest, heq]
    exact mul_le_mul_of_nonneg_right (by exact_mod_cast hround) (le_of_lt hpos)

theorem nearest_mono {p q : ℚ} (h : p ≤ q) : nearest p ≤ nearest q := by
  rcases le_total 0 p with hp | hp
  · exact nearest_mono_nonneg hp h
  · rcases le_total 0 q with hq | hq
    · have hneg := nearest_nonneg (neg_nonneg.2 hp)
      rw [nearest_neg] at hneg
      exact le_trans (neg_nonneg.1 hneg) (nearest_nonneg hq)
    · have := nearest_mono_nonneg (neg_nonneg.2 hq) (neg_le_neg h)
      rw [nearest_neg, nearest_neg] at this
      exact neg_le_neg_iff.1 this

theorem le_nearest {p q : ℚ} (hp : IsDyadic p) (h : p ≤ q) : p ≤ nearest q := by
  have := nearest_mono h
  rwa [nearest_of_isDyadic hp] at this

theorem nearest_le {p q : ℚ} (hq : IsDyadic q) (h : p ≤ q) : nearest p ≤ q := by
  have := nearest_mono h
  rwa [nearest_of_isDyadic hq] at this

theorem nearest_nonpos {q : ℚ} (h : q ≤ 0) : nearest q ≤ 0 := nearest_le isDyadic_zero h

theorem abs_nearest (q : ℚ) : |nearest q| = nearest |q| := by
  rcases le_total 0 q with hq | hq
  · rw [abs_of_nonneg hq, abs_of_nonneg (nearest_nonneg hq)]
  · have hneg := nearest_nonneg (neg_nonneg.2 hq)
    rw [nearest_neg] at hneg
    rw [abs_of_nonpos hq, nearest_neg, abs_of_nonpos (neg_nonneg.1 hneg)]

/-- The error is at most half the spacing. -/
theorem abs_nearest_sub_le_spacing (q : ℚ) : |nearest q - q| ≤ 2 ^ spacing q / 2 := by
  have hpos := two_zpow_pos (spacing q)
  have hscaled : nearest q - q = (roundEven (q / 2 ^ spacing q) - q / 2 ^ spacing q) * 2 ^ spacing q := by
    rw [nearest, sub_mul, div_mul_cancel₀ _ (ne_of_gt hpos)]
  rw [hscaled, abs_mul, abs_of_pos hpos, abs_sub_comm]
  calc _ ≤ 1 / 2 * 2 ^ spacing q := mul_le_mul_of_nonneg_right (abs_sub_roundEven_le _) (le_of_lt hpos)
    _ = 2 ^ spacing q / 2 := by ring

/-- Numbers that are not too small are rounded to within one part in `2 ^ 53`. -/
theorem abs_nearest_sub_le {q : ℚ} (h : 2 ^ (-1022 : ℤ) ≤ |q|) : |nearest q - q| ≤ |q| / 2 ^ 53 := by
  have hne : q ≠ 0 := by
    rintro rfl
    rw [abs_zero] at h
    exact absurd h (not_le_of_gt (two_zpow_pos _))
  have hlow : 2 ^ (spacing q + 52) ≤ |q| := by
    rcases spacing_le_abs hne with hle | hleast
    · exact hle
    · rw [hleast]; exact h
  have hsplit : (2 : ℚ) ^ (spacing q + 52) = 2 ^ spacing q * 2 ^ 52 := by
    rw [two_zpow_add]; norm_num
  rw [hsplit] at hlow
  refine le_trans (abs_nearest_sub_le_spacing q) ?_
  rw [le_div_iff₀ (by norm_num)]
  linarith

end CarbonAware.Numeral
