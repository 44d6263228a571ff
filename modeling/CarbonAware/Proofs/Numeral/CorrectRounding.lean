import CarbonAware.Proofs.Numeral.FloatValue

/-!
# Correct rounding

The rounding of an exact result drops binary digits one by one, and an extended mantissa keeps enough of the dropped
ones (`Tracks`) to decide it (`roundedMantissa_eq`).  Key facts: a number given by enough digits is rounded to its
`nearest` (`roundWithAccuracy_roundsTo`, `round_roundsTo`), and what is rounded to a number in range can be stored
(`RoundsTo.rounds`).
-/

namespace CarbonAware.Numeral

open Float.Model (UnpackedFloat Format totalExponent)
open Float.Model.UnpackedFloat (Sign Accuracy ExtendedMantissa roundWithAccuracy shiftToExponent shiftToTargetExponent
  decreaseExponent accuracyOfFraction)

/-! ### Dropping digits -/

/-- The digits kept and the two digits that stand for those dropped describe the number `x`. -/
def Tracks (em : ExtendedMantissa) (x : ℚ) : Prop :=
  ∃ r : ℚ, 0 ≤ r ∧ r < 1 / 2 ∧ (em.stickyBit = true ↔ r ≠ 0) ∧
    x = em.mantissa + (if em.roundBit then 1 / 2 else 0) + r

private theorem tracks_shiftRightOne {em : ExtendedMantissa} {x : ℚ} (h : Tracks em x) :
    Tracks em.shiftRightOne (x / 2) := by
  obtain ⟨r, hr, hlt, hsticky, rfl⟩ := h
  have hmod : (em.mantissa : ℚ) = 2 * (em.mantissa / 2 : ℕ) + (em.mantissa % 2 : ℕ) := by
    exact_mod_cast (Nat.div_add_mod em.mantissa 2).symm
  refine ⟨(if em.roundBit then 1 / 4 else 0) + r / 2, ?_, ?_, ?_, ?_⟩
  · split <;> linarith
  · split <;> linarith
  · simp only [ExtendedMantissa.shiftRightOne, Bool.or_eq_true, hsticky]
    cases em.roundBit
    · simp
    · simp only [true_or, if_true, true_iff]
      linarith
  · simp only [ExtendedMantissa.shiftRightOne, hmod, bne_iff_ne]
    rcases Nat.mod_two_eq_zero_or_one em.mantissa with h2 | h2 <;> rw [h2] <;> cases em.roundBit <;>
      simp <;> ring

theorem tracks_shiftRight {em : ExtendedMantissa} {x : ℚ} (h : Tracks em x) (k : ℕ) :
    Tracks (em >>> k) (x / 2 ^ k) := by
  change Tracks (k.repeat ExtendedMantissa.shiftRightOne em) _
  induction k with
  | zero => simpa [Nat.repeat] using h
  | succ k ih =>
    rw [pow_succ, ← div_div]
    exact tracks_shiftRightOne ih

theorem mantissa_eq_floor {em : ExtendedMantissa} {x : ℚ} (h : Tracks em x) : (em.mantissa : ℤ) = ⌊x⌋ := by
  obtain ⟨r, hr, hlt, -, rfl⟩ := h
  symm
  rw [Int.floor_eq_iff]
  push_cast
  constructor <;> split <;> linarith

/-- The two digits that are kept decide the rounding. -/
private theorem roundedMantissa_eq {em : ExtendedMantissa} {x : ℚ} (h : Tracks em x) :
    (em.roundedMantissa : ℤ) = roundEven x := by
  obtain ⟨r, hr, hlt, hsticky, rfl⟩ := h
  -- below a half, at a half and above it; the last two digits tell which
  rcases em with ⟨m, _ | _, _ | _⟩
  all_goals simp only [Bool.false_eq_true, if_false, if_true, add_zero, false_iff, true_iff, not_not] at hsticky ⊢
  · subst hsticky
    rw [add_zero]
    exact (roundEven_intCast m).symm
  · symm
    change roundEven _ = ((m : ℕ) : ℤ)
    refine roundEven_eq ?_ fun h => ?_ <;> rw [Int.cast_natCast, add_sub_cancel_left] at *
    · rw [abs_of_nonneg hr]; exact le_of_lt hlt
    · rw [abs_of_nonneg hr] at h; linarith
  · subst hsticky
    symm
    change roundEven _ = ((m + m % 2 : ℕ) : ℤ)
    -- half way, so the even neighbour is taken
    refine roundEven_eq ?_ fun _ => by omega
    rw [abs_le]
    rcases Nat.mod_two_eq_zero_or_one m with h2 | h2 <;> rw [h2] <;> push_cast <;> constructor <;> linarith
  · have hpos : 0 < r := lt_of_le_of_ne hr (Ne.symm hsticky)
    symm
    change roundEven _ = ((m + 1 : ℕ) : ℤ)
    refine roundEven_eq ?_ fun h => ?_
    · push_cast
      rw [abs_le]
      constructor <;> linarith
    · push_cast at h
      rw [abs_of_nonpos (by linarith)] at h
      linarith

theorem tracks_exact (m : ℕ) : Tracks (ExtendedMantissa.ofMantissaAndAccuracy m .exact) m :=
  ⟨0, le_refl _, by norm_num, by simp [ExtendedMantissa.ofMantissaAndAccuracy],
    by simp [ExtendedMantissa.ofMantissaAndAccuracy]⟩

/-- The accuracy of a quotient describes it. -/
theorem tracks_quotient (n : ℕ) {d : ℕ} (hd : 0 < d) :
    Tracks (ExtendedMantissa.ofMantissaAndAccuracy (n / d) (accuracyOfFraction (n % d) d)) ((n : ℚ) / d) := by
  have hpos : (0 : ℚ) < d := by exact_mod_cast hd
  have hlt : ((n % d : ℕ) : ℚ) < d := by exact_mod_cast Nat.mod_lt n hd
  have hdiv : (n : ℚ) / d = (n / d : ℕ) + ((n % d : ℕ) : ℚ) / d := by
    rw [div_eq_iff (ne_of_gt hpos), add_mul, div_mul_cancel₀ _ (ne_of_gt hpos)]
    exact_mod_cast (Nat.div_add_mod' n d).symm
  rw [hdiv]
  unfold accuracyOfFraction
  split
  · rename_i h0
    rw [h0, Nat.cast_zero, zero_div, add_zero]
    exact tracks_exact _
  · rename_i h0
    have hmod : (0 : ℚ) < (n % d : ℕ) := by exact_mod_cast Nat.pos_of_ne_zero h0
    rcases lt_trichotomy (2 * (n % d)) d with h | h | h
    · have hcast : 2 * ((n % d : ℕ) : ℚ) < d := by exact_mod_cast h
      rw [Nat.compare_eq_lt.2 h]
      refine ⟨((n % d : ℕ) : ℚ) / d, by positivity, by rw [div_lt_iff₀ hpos]; linarith, ?_, ?_⟩
      · simp only [ExtendedMantissa.ofMantissaAndAccuracy, true_iff]
        exact ne_of_gt (div_pos hmod hpos)
      · simp [ExtendedMantissa.ofMantissaAndAccuracy]
    · have hcast : 2 * ((n % d : ℕ) : ℚ) = d := by exact_mod_cast h
      rw [Nat.compare_eq_eq.2 h]
      refine ⟨0, le_refl _, by norm_num, by simp [ExtendedMantissa.ofMantissaAndAccuracy], ?_⟩
      simp only [ExtendedMantissa.ofMantissaAndAccuracy, if_true]
      rw [← hcast]
      field_simp
      ring
    · have hcast : (d : ℚ) < 2 * ((n % d : ℕ) : ℚ) := by exact_mod_cast h
      rw [Nat.compare_eq_gt.2 h]
      refine ⟨((n % d : ℕ) : ℚ) / d - 1 / 2, ?_, ?_, ?_, ?_⟩
      · rw [sub_nonneg, div_le_div_iff₀ (by norm_num) hpos]; linarith
      · rw [sub_lt_iff_lt_add, div_lt_iff₀ hpos]; linarith
      · simp only [ExtendedMantissa.ofMantissaAndAccuracy, true_iff]
        refine ne_of_gt ?_
        rw [sub_pos, div_lt_div_iff₀ (by norm_num) hpos]; linarith
      · simp only [ExtendedMantissa.ofMantissaAndAccuracy, if_true]
        ring

/-! ### Rounding an unpacked number -/

theorem targetExponent_eq (m : ℕ) (e : ℤ) :
    Format.targetExponent .binary64 (totalExponent m e) = max ((m.log2 : ℤ) + 1 + e - 53) (-1074) := rfl

/-- What rounding `s` times the nonnegative number `q` gives. -/
def RoundsTo (u : UnpackedFloat) (s : Sign) (q : ℚ) : Prop :=
  (nearest q = 0 ∧ u = .zero s) ∨
    ∃ (m : ℕ) (e : ℤ) (h : 0 < m), m < 2 ^ 53 ∧ -1074 ≤ e ∧ (2 ^ 52 ≤ m ∨ e = -1074) ∧ nearest q = m * 2 ^ e ∧
      u = .finite s m e h

/-- The exponent that the rounding aims at is that of the spacing. -/
private theorem spacing_eq_targetExponent {m : ℕ} {e : ℤ} {x : ℚ} (hlo : m ≤ x) (hhi : x < m + 1) (hx : x ≠ 0)
    (hfine : e ≤ Format.targetExponent .binary64 (totalExponent m e)) :
    spacing (x * 2 ^ e) = Format.targetExponent .binary64 (totalExponent m e) := by
  rw [targetExponent_eq] at hfine ⊢
  have hpos := two_zpow_pos e
  have hnonneg : 0 ≤ x := le_trans (by positivity) hlo
  have habs : |x * 2 ^ e| = x * 2 ^ e := abs_of_nonneg (mul_nonneg hnonneg (le_of_lt hpos))
  have hne : x * 2 ^ e ≠ 0 := mul_ne_zero hx (ne_of_gt hpos)
  have hupper : x < 2 ^ ((m.log2 : ℤ) + 1) := by
    have hm : (m : ℚ) + 1 ≤ 2 ^ ((m.log2 : ℤ) + 1) := by
      have := Nat.lt_log2_self (n := m)
      exact_mod_cast this
    linarith
  refine spacing_eq hne (le_max_right _ _) ?_ ?_
  · rw [habs]
    calc x * 2 ^ e < 2 ^ ((m.log2 : ℤ) + 1) * 2 ^ e := mul_lt_mul_of_pos_right hupper hpos
      _ = 2 ^ ((m.log2 : ℤ) + 1 + e) := (zpow_add₀ (by norm_num) _ _).symm
      _ ≤ _ := zpow_le_zpow_right₀ (by norm_num) (by omega)
  · rcases le_total ((m.log2 : ℤ) + 1 + e - 53) (-1074) with h | h
    · exact .inr (max_eq_right h)
    · left
      rw [max_eq_left h, habs]
      have hm : m ≠ 0 := by
        rintro rfl
        rw [Nat.log2_zero] at hfine h
        omega
      have hlower : (2 : ℚ) ^ (m.log2 : ℤ) ≤ x := by
        refine le_trans ?_ hlo
        exact_mod_cast Nat.log2_self_le hm
      calc (2 : ℚ) ^ ((m.log2 : ℤ) + 1 + e - 53 + 52) = 2 ^ (m.log2 : ℤ) * 2 ^ e := by
            rw [← zpow_add₀ (by norm_num)]
            congr 1
            omega
        _ ≤ x * 2 ^ e := mul_le_mul_of_nonneg_right hlower (le_of_lt hpos)

private theorem shiftToExponent_of_le {m : ℕ} {e : ℤ} {acc : Accuracy} {t : ℤ} (h : e ≤ t) :
    shiftToExponent m e acc t = (ExtendedMantissa.ofMantissaAndAccuracy m acc >>> (t - e).toNat, t) := by
  have hexponent : e + (t - e).toNat = t := by omega
  rw [shiftToExponent, hexponent]

private theorem shiftToExponent_of_ge {m : ℕ} {e : ℤ} {acc : Accuracy} {t : ℤ} (h : t ≤ e) :
    shiftToExponent m e acc t = (ExtendedMantissa.ofMantissaAndAccuracy m acc, e) := by
  have hzero : (t - e).toNat = 0 := by omega
  rw [shiftToExponent, hzero, Int.natCast_zero, add_zero]
  rfl

/-- The second shift of a rounded mantissa, which is needed only if the rounding has carried into a new digit. -/
private theorem shift_rounded {n : ℕ} {t : ℤ} (hn : n ≤ 2 ^ 53) (ht : -1074 ≤ t) :
    shiftToTargetExponent .binary64 n t .exact =
      if n = 2 ^ 53 then (ExtendedMantissa.ofMantissaAndAccuracy n .exact >>> 1, t + 1)
      else (ExtendedMantissa.ofMantissaAndAccuracy n .exact, t) := by
  unfold shiftToTargetExponent
  simp only [targetExponent_eq]
  split
  · rename_i hmax
    have hlog : n.log2 = 53 := by rw [hmax]; exact Nat.log2_two_pow
    rw [hlog, shiftToExponent_of_le (by omega), max_eq_left (by omega)]
    congr 2 <;> omega
  · rename_i hmax
    have hlog : n.log2 ≤ 52 := by
      rcases Nat.eq_zero_or_pos n with rfl | hpos
      · simp
      · exact Nat.lt_succ_iff.1 ((Nat.log2_lt (by omega)).2 (by omega))
    exact shiftToExponent_of_ge (by omega)

/-- The last step of rounding, for a mantissa already rounded. -/
private theorem roundsTo_of_rounded {n : ℕ} {t : ℤ} {q : ℚ} (s : Sign) (hn : n ≤ 2 ^ 53) (ht : -1074 ≤ t)
    (hfull : 2 ^ 52 ≤ n ∨ t = -1074) (hq : nearest q = n * 2 ^ t) :
    RoundsTo (if h : (shiftToTargetExponent .binary64 n t .exact).1.mantissa = 0 then .zero s
      else .finite s _ (shiftToTargetExponent .binary64 n t .exact).2 (Nat.pos_of_ne_zero h)) s q := by
  by_cases hcarry : n = 2 ^ 53
  · subst hcarry
    right
    refine ⟨2 ^ 52, t + 1, by norm_num, by norm_num, by omega, .inl (le_refl _), ?_, ?_⟩
    · rw [hq, zpow_add₀ (by norm_num)]
      push_cast
      ring
    · simp only [shift_rounded hn ht, if_true]
      rfl
  · simp only [shift_rounded hn ht, if_neg hcarry]
    by_cases hzero : n = 0
    · exact .inl ⟨by rw [hq, hzero]; simp, dif_pos hzero⟩
    · exact .inr ⟨n, t, Nat.pos_of_ne_zero hzero, by omega, ht, hfull, hq, dif_neg hzero⟩

/-- The digits before the last two are the integer part. -/
private theorem bounds_of_tracks {m : ℕ} {acc : Accuracy} {x : ℚ}
    (hx : Tracks (ExtendedMantissa.ofMantissaAndAccuracy m acc) x) : (m : ℚ) ≤ x ∧ x < m + 1 := by
  have hfloor := mantissa_eq_floor hx
  have hmantissa : (ExtendedMantissa.ofMantissaAndAccuracy m acc).mantissa = m := by
    cases acc with
    | exact => rfl
    | inexact c => cases c <;> rfl
  rw [hmantissa] at hfloor
  exact ⟨by exact_mod_cast hfloor ▸ Int.floor_le x, by exact_mod_cast hfloor ▸ Int.lt_floor_add_one x⟩

/-- Digits dropped down to an exponent leave a multiple of its power. -/
private theorem tracks_shift {em : ExtendedMantissa} {x : ℚ} (h : Tracks em x) {e t : ℤ} (het : e ≤ t) :
    Tracks (em >>> (t - e).toNat) (x * 2 ^ e / 2 ^ t) := by
  have hshift : x * 2 ^ e / 2 ^ t = x / 2 ^ (t - e).toNat := by
    rw [← zpow_natCast, Int.toNat_of_nonneg (by omega), zpow_sub₀ (by norm_num)]
    have := ne_of_gt (two_zpow_pos t)
    have := ne_of_gt (two_zpow_pos e)
    field_simp
  rw [hshift]
  exact tracks_shiftRight h _

/-- The rounded mantissa of a positive number has its place among the stored ones, or is the next power of two. -/
private theorem rounded_bounds {q : ℚ} (hq : 0 < q) {n : ℕ} (hn : (n : ℤ) = roundEven (q / 2 ^ spacing q)) :
    n ≤ 2 ^ 53 ∧ (2 ^ 52 ≤ n ∨ spacing q = -1074) := by
  constructor
  · have hle := (abs_le.1 (abs_roundEven_le q)).2
    rw [← hn] at hle
    exact_mod_cast hle
  · rcases spacing_le_abs (ne_of_gt hq) with hbound | hleast
    · have hle := le_roundEven (abs_of_pos hq ▸ hbound)
      rw [← hn] at hle
      exact .inl (by exact_mod_cast hle)
    · exact .inr hleast

/-- Rounding a number known to within its last digit, given by enough digits. -/
theorem roundWithAccuracy_roundsTo {m : ℕ} {e : ℤ} {acc : Accuracy} {x : ℚ} (s : Sign)
    (hx : Tracks (ExtendedMantissa.ofMantissaAndAccuracy m acc) x)
    (hfine : e ≤ Format.targetExponent .binary64 (totalExponent m e)) :
    RoundsTo (roundWithAccuracy .binary64 s m e acc) s (x * 2 ^ e) := by
  obtain ⟨hlo, hhi⟩ := bounds_of_tracks hx
  obtain ⟨t, ht⟩ : ∃ t, t = Format.targetExponent .binary64 (totalExponent m e) := ⟨_, rfl⟩
  obtain ⟨q, hq⟩ : ∃ q, q = x * 2 ^ e := ⟨_, rfl⟩
  obtain ⟨n, hn⟩ : ∃ n, n = (ExtendedMantissa.ofMantissaAndAccuracy m acc >>> (t - e).toNat).roundedMantissa :=
    ⟨_, rfl⟩
  have hge : -1074 ≤ t := by rw [ht, targetExponent_eq]; exact le_max_right _ _
  have hround : (n : ℤ) = roundEven (q / 2 ^ t) := by
    rw [hn, hq]
    exact roundedMantissa_eq (tracks_shift hx (ht ▸ hfine))
  unfold roundWithAccuracy
  rw [shiftToTargetExponent, ← ht, shiftToExponent_of_le (ht ▸ hfine)]
  simp only
  rw [← hn, ← hq]
  by_cases hzero : x = 0
  · have hq0 : q = 0 := by rw [hq, hzero, zero_mul]
    rw [hq0, zero_div, ← Int.cast_zero, roundEven_intCast] at hround
    obtain rfl : n = 0 := by omega
    -- too small to have a spacing of its own
    have hleast : t = -1074 := by
      have hm : m = 0 := by
        have : (m : ℚ) ≤ 0 := hzero ▸ hlo
        exact Nat.le_zero.1 (by exact_mod_cast this)
      rw [← ht] at hfine
      rw [targetExponent_eq, hm, Nat.log2_zero] at ht
      omega
    exact roundsTo_of_rounded s (by norm_num) hge (.inr hleast) (by rw [hq0, nearest_zero]; simp)
  have hspacing : spacing q = t := by rw [hq, ht]; exact spacing_eq_targetExponent hlo hhi hzero hfine
  have hpos : 0 < q := by
    rw [hq]
    exact mul_pos (lt_of_le_of_ne (le_trans (by positivity) hlo) (Ne.symm hzero)) (two_zpow_pos e)
  rw [← hspacing] at hround hge ⊢
  obtain ⟨hle, hfull⟩ := rounded_bounds hpos hround
  refine roundsTo_of_rounded s hle hge hfull ?_
  rw [nearest, ← hround]
  norm_cast

theorem shiftLeft_scaled (m : ℕ) (e : ℤ) (k : ℕ) :
    ((m <<< k : ℕ) : ℚ) * 2 ^ (e - k) = m * 2 ^ e := by
  rw [Nat.shiftLeft_eq, zpow_sub₀ (by norm_num), zpow_natCast]
  push_cast
  field_simp

/-- Rounding an exact number, given by any number of digits. -/
theorem round_roundsTo (s : Sign) {m : ℕ} (hm : 0 < m) (e : ℤ) :
    RoundsTo (UnpackedFloat.round .binary64 s m e) s (m * 2 ^ e) := by
  obtain ⟨k, hk⟩ : ∃ k, k = (e - Format.targetExponent .binary64 (totalExponent m e)).toNat := ⟨_, rfl⟩
  have hlog : (m <<< k).log2 = m.log2 + k := by
    rw [Nat.log2_eq_iff (by rw [Nat.shiftLeft_eq]; positivity), Nat.shiftLeft_eq, pow_add, add_right_comm, pow_add]
    exact ⟨Nat.mul_le_mul_right _ (Nat.log2_self_le (by omega)),
      Nat.mul_lt_mul_of_pos_right Nat.lt_log2_self (by positivity)⟩
  unfold UnpackedFloat.round decreaseExponent
  simp only
  rw [← hk, ← shiftLeft_scaled m e k]
  refine roundWithAccuracy_roundsTo s (tracks_exact _) ?_
  rw [targetExponent_eq] at hk ⊢
  rw [hlog]
  omega

/-! ### Packed results -/

/-- A computed number is finite and the nearest to the exact one. -/
structure Rounds (z : Float) (q : ℚ) : Prop where
  isFinite : z.isFinite = true
  value_eq : value z = nearest q

theorem rounds_self {x : Float} (h : x.isFinite = true) : Rounds x (value x) := ⟨h, (nearest_value x).symm⟩

/-- The exact number is rounded to one in range. -/
def InRange (q : ℚ) : Prop := |nearest q| < 2 ^ (1024 : ℤ)

theorem inRange_of_abs_le {q : ℚ} (h : |q| ≤ 2 ^ (1023 : ℤ)) : InRange q := by
  unfold InRange
  rw [abs_nearest]
  exact lt_of_le_of_lt (nearest_le (isDyadic_two_zpow (by norm_num)) h)
    (zpow_lt_zpow_right₀ (by norm_num) (by norm_num))

theorem InRange.of_abs_le {p q : ℚ} (hq : InRange q) (h : |p| ≤ |q|) : InRange p := by
  rw [InRange, abs_nearest] at hq ⊢
  exact lt_of_le_of_lt (nearest_mono h) hq

theorem InRange.neg {q : ℚ} (h : InRange q) : InRange (-q) := by
  rw [InRange, nearest_neg, abs_neg]
  exact h

theorem inRange_value {x : Float} (h : x.isFinite = true) : InRange (value x) := by
  rw [InRange, nearest_value]
  rcases finite_cases h with ⟨s, hx⟩ | ⟨s, m, e, hm, hx⟩
  · rw [value_of_zero hx, abs_zero]; exact two_zpow_pos _
  · rw [value_of_finite hx, abs_apply]
    have hlt : (m : ℚ) < 2 ^ (53 : ℤ) := by exact_mod_cast hm.lt
    calc (m : ℚ) * 2 ^ e < 2 ^ (53 : ℤ) * 2 ^ e := mul_lt_mul_of_pos_right hlt (two_zpow_pos e)
      _ = 2 ^ (53 + e) := (zpow_add₀ (by norm_num) _ _).symm
      _ ≤ 2 ^ (1024 : ℤ) := zpow_le_zpow_right₀ (by norm_num) (by have := hm.exponent_le; omega)

/-- The sign applied to a number. -/
def signed : Sign → ℚ → ℚ
  | .negative, q => -q
  | .positive, q => q

theorem nearest_signed (s : Sign) (q : ℚ) : nearest (signed s q) = signed s (nearest q) := by
  cases s
  · exact nearest_neg q
  · rfl

theorem apply_eq_signed (s : Sign) (m : ℕ) (e : ℤ) : (s.apply m : ℚ) * 2 ^ e = signed s (m * 2 ^ e) := by
  cases s <;> simp [Sign.apply, signed]

theorem signed_mul (s s' : Sign) (p q : ℚ) : signed (s * s') (p * q) = signed s p * signed s' q := by
  cases s <;> cases s'
  · exact (neg_mul_neg p q).symm
  · exact (neg_mul p q).symm
  · exact (mul_neg p q).symm
  · rfl

theorem signed_div (s s' : Sign) (p q : ℚ) : signed (s / s') (p / q) = signed s p / signed s' q := by
  cases s <;> cases s'
  · exact (neg_div_neg_eq p q).symm
  · exact (neg_div q p).symm
  · exact (div_neg p).symm
  · rfl

theorem inRange_signed {s : Sign} {q : ℚ} : InRange (signed s q) ↔ InRange q := by
  cases s
  · refine ⟨fun h => ?_, InRange.neg⟩
    have := InRange.neg h
    rwa [signed, neg_neg] at this
  · exact Iff.rfl

theorem unpack_pack_zero (s : Sign) : (Float.Model.pack (.zero s)).unpack = .zero s := by
  cases s <;> rfl

theorem rounds_zero (s : Sign) : Rounds (.ofModel (.pack (.zero s))) 0 :=
  ⟨isFinite_of_zero (unpack_pack_zero s), (value_of_zero (unpack_pack_zero s)).trans nearest_zero.symm⟩

/-- A number rounded to one in range can be stored. -/
theorem RoundsTo.rounds {u : UnpackedFloat} {s : Sign} {q : ℚ} (h : RoundsTo u s q) (hq : InRange q) :
    Rounds (.ofModel (.pack u)) (signed s q) := by
  rcases h with ⟨hzero, rfl⟩ | ⟨m, e, hpos, hlt, hge, hfull, hnearest, rfl⟩
  · refine ⟨isFinite_of_zero (unpack_pack_zero s), (value_of_zero (unpack_pack_zero s)).trans ?_⟩
    rw [nearest_signed, hzero]
    cases s <;> simp [signed]
  · have hle : e ≤ 971 := by
      rcases hfull with hfull | hleast
      · have hm : (2 : ℚ) ^ (52 : ℤ) ≤ m := by exact_mod_cast hfull
        have hbound : (2 : ℚ) ^ (52 + e) < 2 ^ (1024 : ℤ) := by
          rw [InRange, hnearest, abs_of_nonneg (mul_nonneg (by positivity) (le_of_lt (two_zpow_pos e)))] at hq
          refine lt_of_le_of_lt ?_ hq
          rw [zpow_add₀ (by norm_num)]
          exact mul_le_mul_of_nonneg_right hm (le_of_lt (two_zpow_pos e))
        have := (zpow_lt_zpow_iff_right₀ (by norm_num : (1 : ℚ) < 2)).1 hbound
        omega
      · omega
    have hunpack := unpack_pack (s := s) ⟨hpos, hlt, hge, hle, hfull⟩
    refine ⟨isFinite_of_finite hunpack, (value_of_finite hunpack).trans ?_⟩
    rw [nearest_signed, hnearest, apply_eq_signed]

/-- A number rounded to one out of range is stored as an infinity. -/
theorem RoundsTo.unpack_infinity {u : UnpackedFloat} {s : Sign} {q : ℚ} (h : RoundsTo u s q) (hq : ¬ InRange q) :
    (Float.Model.pack u).unpack = .infinity s := by
  rcases h with ⟨hzero, -⟩ | ⟨m, e, hpos, hlt, -, -, hnearest, rfl⟩
  · refine absurd ?_ hq
    rw [InRange, hzero, abs_zero]
    exact two_zpow_pos _
  · have he : 972 ≤ e := by
      by_contra hsmall
      refine hq ?_
      have hm : (m : ℚ) < 2 ^ (53 : ℤ) := by exact_mod_cast hlt
      rw [InRange, hnearest, abs_of_nonneg (mul_nonneg (by positivity) (le_of_lt (two_zpow_pos e)))]
      calc (m : ℚ) * 2 ^ e < 2 ^ (53 : ℤ) * 2 ^ e := mul_lt_mul_of_pos_right hm (two_zpow_pos e)
        _ = 2 ^ (53 + e) := (zpow_add₀ (by norm_num) _ _).symm
        _ ≤ 2 ^ (1024 : ℤ) := zpow_le_zpow_right₀ (by norm_num) (by omega)
    have hpack : Float.Model.pack (.finite s m e hpos) = Float.Model.pack (.infinity s) := by
      have hlarge : 2 ^ Format.exponentBits .binary64 ≤
          (e + (Format.exponentBias .binary64 : ℕ) + (Format.mantissaBitsWithoutImplicit .binary64 : ℕ)).toNat + 1 := by
        change 2048 ≤ (e + (1023 : ℕ) + (52 : ℕ)).toNat + 1
        omega
      unfold Float.Model.pack
      congr 2
      simp only [UnpackedFloat.pack, if_pos hlarge]
    rw [hpack]
    cases s <;> rfl

end CarbonAware.Numeral
