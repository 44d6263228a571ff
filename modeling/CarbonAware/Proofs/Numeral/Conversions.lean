import CarbonAware.Numeral.Read
import CarbonAware.Proofs.Numeral.Arithmetic

/-!
# Integers, decimals and floating-point numbers

Decimals are read correctly: the number of `m * 10 ^ e` is the nearest to it (`rounds_ofDecimal`), and integers of 53
binary digits keep their value (`rounds_natFloat`).  In the other direction `truncate` and the conversions to words
cut a number off toward zero, within the bounds of the type (`truncate_eq`, `toNat_toUInt32`, `toNat_toUInt64`).
-/

namespace CarbonAware.Numeral

open Float.Model (UnpackedFloat)
open Float.Model.UnpackedFloat (Sign ExtendedMantissa)

/-! ### Integers -/

theorem inRange_natCast {n : ℕ} (h : n ≤ 2 ^ 64) : InRange n := by
  refine inRange_of_abs_le ?_
  rw [abs_of_nonneg (by positivity)]
  have hle : (n : ℚ) ≤ 2 ^ (64 : ℤ) := by exact_mod_cast h
  exact le_trans hle (zpow_le_zpow_right₀ (by norm_num) (by norm_num))

theorem rounds_word32 (n : UInt32) : Rounds n.toFloat n.toNat :=
  rounds_ofInt n.toNat (inRange_natCast (le_trans (le_of_lt n.toNat_lt) (by norm_num)))

theorem rounds_word64 (n : UInt64) : Rounds n.toFloat n.toNat :=
  rounds_ofInt n.toNat (inRange_natCast (le_of_lt n.toNat_lt))

theorem nearest_natCast {n : ℕ} (h : n ≤ 2 ^ 53) : nearest n = n := by
  have := isDyadic_intCast (n := n) (by rw [Nat.abs_cast]; exact_mod_cast h)
  exact nearest_of_isDyadic (by exact_mod_cast this)

/-- All 32-bit words are numbers of their own. -/
theorem value_word32 (n : UInt32) : value n.toFloat = n.toNat := by
  rw [(rounds_word32 n).value_eq, nearest_natCast (le_trans (le_of_lt n.toNat_lt) (by norm_num))]

/-! ### Decimals -/

/-- Half of the least positive number is rounded to zero, which is even. -/
theorem nearest_eq_zero {q : ℚ} (h : |q| ≤ 2 ^ (-1075 : ℤ)) : nearest q = 0 := by
  by_cases hq : q = 0
  · rw [hq, nearest_zero]
  have hspacing : spacing q = -1074 := by
    refine spacing_eq hq (le_refl _) (lt_of_le_of_lt h ?_) (.inr rfl)
    exact zpow_lt_zpow_right₀ (by norm_num) (by norm_num)
  have hround : roundEven (q / 2 ^ (-1074 : ℤ)) = 0 := by
    refine roundEven_eq ?_ fun _ => rfl
    rw [Int.cast_zero, sub_zero, abs_div, abs_of_pos (two_zpow_pos _), div_le_iff₀ (two_zpow_pos _)]
    have hhalf : (2 : ℚ) ^ (-1075 : ℤ) = 1 / 2 * 2 ^ (-1074 : ℤ) := by
      rw [show (-1075 : ℤ) = -1 + -1074 by norm_num, zpow_add₀ (by norm_num)]
      norm_num
    rwa [← hhalf]
  rw [nearest, hspacing, hround, Int.cast_zero, zero_mul]

/-- Whether a number is the power of ten, as a fraction of natural numbers. -/
private def isPowerOfTen (x : Float) (e : ℕ) : Bool :=
  match x.toModel.unpack with
  | .finite .positive m k _ => m * 2 ^ k.toNat == 10 ^ e * 2 ^ (-k).toNat
  | _ => false

private theorem value_of_isPowerOfTen {x : Float} {e : ℕ} (h : isPowerOfTen x e = true) :
    x.isFinite = true ∧ value x = 10 ^ e := by
  unfold isPowerOfTen at h
  split at h
  · rename_i m k hm hx
    refine ⟨isFinite_of_finite hx, ?_⟩
    rw [value_of_finite hx, Sign.apply]
    have hcast : (m : ℚ) * 2 ^ k.toNat = 10 ^ e * 2 ^ (-k).toNat := by exact_mod_cast beq_iff_eq.1 h
    have hk : (2 : ℚ) ^ k * 2 ^ (-k).toNat = 2 ^ k.toNat := by
      rw [← zpow_natCast, ← zpow_natCast, ← zpow_add₀ (by norm_num)]
      congr 1
      omega
    have hpos : (2 : ℚ) ^ (-k).toNat ≠ 0 := by positivity
    refine mul_right_cancel₀ hpos ?_
    rw [mul_assoc, hk, ← hcast]
    norm_cast
  · cases h

private theorem isPowerOfTen_table : ∀ e : Fin Float.exactlyRepresentablePowersOfTen.size,
    isPowerOfTen Float.exactlyRepresentablePowersOfTen[e] e = true := by
  decide +kernel

/-- The table of the powers of ten is exact. -/
private theorem value_table {e : ℕ} (h : e < Float.exactlyRepresentablePowersOfTen.size) :
    (Float.exactlyRepresentablePowersOfTen[e]).isFinite = true ∧
      value Float.exactlyRepresentablePowersOfTen[e] = 10 ^ e :=
  value_of_isPowerOfTen (isPowerOfTen_table ⟨e, h⟩)

private theorem rounds_ofScientific_table {m e : ℕ} {negative : Bool} (h : m < 2 ^ 53 ∧ e ≤ 22)
    (hrange : InRange (m * 10 ^ (if negative then -(e : ℤ) else e))) :
    Rounds (Float.ofScientific m negative e) (m * 10 ^ (if negative then -(e : ℤ) else e)) := by
  have hword : m.toUInt64.toNat = m := Nat.mod_eq_of_lt (lt_trans h.1 (by norm_num))
  obtain ⟨hmantissa, hvalue⟩ := rounds_word64 m.toUInt64
  rw [hword, nearest_natCast (le_of_lt h.1)] at hvalue
  obtain ⟨hpower, htable⟩ := value_table (e := e) (by simp [Float.exactlyRepresentablePowersOfTen]; omega)
  unfold Float.ofScientific
  rw [dif_pos h]
  cases negative
  · simp only [Bool.false_eq_true, if_false, zpow_natCast] at hrange ⊢
    rw [← hvalue, ← htable] at hrange ⊢
    exact rounds_mul hmantissa hpower hrange
  · simp only [if_true, zpow_neg, zpow_natCast, ← div_eq_mul_inv] at hrange ⊢
    rw [← hvalue, ← htable] at hrange ⊢
    refine rounds_div hmantissa hpower ?_ hrange
    rw [htable]
    positivity

private theorem ten_zpow_pos (e : ℤ) : (0 : ℚ) < 10 ^ e := zpow_pos (by norm_num) e

/-- A power of ten above the range of the numbers. -/
private theorem not_inRange_of_large {m : ℕ} (hm : m ≠ 0) {e : ℤ} (he : 2048 < e) : ¬ InRange (m * 10 ^ e) := by
  intro h
  have hone : (1 : ℚ) ≤ m := by exact_mod_cast Nat.pos_of_ne_zero hm
  have hlarge : (2 : ℚ) ^ (1024 : ℤ) ≤ m * 10 ^ e := by
    calc (2 : ℚ) ^ (1024 : ℤ) ≤ 2 ^ e := zpow_le_zpow_right₀ (by norm_num) (by omega)
      _ ≤ 10 ^ e := zpow_le_zpow_left₀ (by omega) (by norm_num) (by norm_num)
      _ ≤ m * 10 ^ e := le_mul_of_one_le_left (le_of_lt (ten_zpow_pos e)) hone
  have hnearest := le_nearest (isDyadic_two_zpow (by norm_num)) hlarge
  rw [InRange, abs_of_nonneg (le_trans (le_of_lt (two_zpow_pos _)) hnearest)] at h
  exact absurd h (not_lt_of_ge hnearest)

/-- A power of ten below the range of the numbers. -/
private theorem nearest_of_small {m : ℕ} {e : ℤ} (he : e < -(2048 + (m.log2 : ℤ))) : nearest (m * 10 ^ e) = 0 := by
  refine nearest_eq_zero ?_
  rw [abs_of_nonneg (mul_nonneg (by positivity) (le_of_lt (ten_zpow_pos e)))]
  have hm : (m : ℚ) ≤ 2 ^ ((m.log2 : ℤ) + 1) := by exact_mod_cast le_of_lt (Nat.lt_log2_self (n := m))
  have he' : (10 : ℚ) ^ e ≤ 2 ^ e := by
    rw [← neg_neg e, zpow_neg, zpow_neg 2]
    exact inv_anti₀ (two_zpow_pos _) (zpow_le_zpow_left₀ (by omega) (by norm_num) (by norm_num))
  calc (m : ℚ) * 10 ^ e ≤ 2 ^ ((m.log2 : ℤ) + 1) * 2 ^ e :=
        mul_le_mul hm he' (le_of_lt (ten_zpow_pos e)) (le_of_lt (two_zpow_pos _))
    _ = 2 ^ ((m.log2 : ℤ) + 1 + e) := (zpow_add₀ (by norm_num) _ _).symm
    _ ≤ 2 ^ (-1075 : ℤ) := zpow_le_zpow_right₀ (by norm_num) (by omega)

/-- The exact computation, for mantissas of any size. -/
private theorem rounds_model (m : ℕ) {e : ℤ} (hrange : InRange (m * 10 ^ e)) :
    Rounds (.ofModel (.ofScientific m e)) (m * 10 ^ e) := by
  unfold Float.Model.ofScientific UnpackedFloat.ofScientific
  split
  · rename_i hm
    rw [hm, Nat.cast_zero, zero_mul]
    exact rounds_zero _
  rename_i hm
  -- exponents so far out that the power of ten is not computed
  split
  · rename_i he
    exact absurd hrange (not_inRange_of_large hm (by simpa using he))
  split
  · rename_i he
    obtain ⟨hfinite, hvalue⟩ := rounds_zero .positive
    exact ⟨hfinite, by rw [hvalue, nearest_zero, nearest_of_small (by simpa using he)]⟩
  split
  · rename_i he
    have hpow : (m : ℚ) * (10 : ℚ) ^ e = ((m <<< 53 : ℕ) * 2 ^ (-53 : ℤ)) * ((10 ^ e.toNat : ℕ) * 2 ^ (0 : ℤ)) := by
      obtain ⟨k, rfl⟩ := Int.eq_ofNat_of_zero_le he
      rw [Nat.shiftLeft_eq]
      push_cast
      norm_num
      ring
    rw [hpow] at hrange ⊢
    -- the mantissa is moved up by 53 digits, so the product has enough of them
    have hround := @mul_roundsTo .positive (m <<< 53) (10 ^ e.toNat) (-53) 0 (.inl (by
      rw [Nat.shiftLeft_eq]
      have := Nat.pos_of_ne_zero hm
      have := Nat.pow_pos (n := e.toNat) (show 0 < 10 by norm_num)
      nlinarith))
    exact hround.rounds hrange
  · rename_i he
    have hpow : (m : ℚ) * (10 : ℚ) ^ e = (m * 2 ^ (0 : ℤ)) / ((10 ^ (-e).toNat : ℕ) * 2 ^ (0 : ℤ)) := by
      obtain ⟨k, hk⟩ := Int.eq_ofNat_of_zero_le (show 0 ≤ -e by omega)
      rw [hk, ← neg_neg e, hk]
      push_cast
      simp [div_eq_mul_inv]
    rw [hpow] at hrange ⊢
    have hpos : 0 < 10 ^ (-e).toNat := Nat.pow_pos (by norm_num)
    exact (div_roundsTo .positive (Nat.pos_of_ne_zero hm) hpos 0 0).rounds hrange

/-- Decimals are read correctly. -/
theorem rounds_ofDecimal {m : ℕ} {e : ℤ} (h : InRange (m * 10 ^ e)) : Rounds (ofDecimal m e) (m * 10 ^ e) := by
  have he : (if decide (e < 0) = true then -(e.natAbs : ℤ) else e.natAbs) = e := by
    split
    · rename_i hneg
      have := of_decide_eq_true hneg
      omega
    · rename_i hnonneg
      have := not_lt.1 (fun h => hnonneg (decide_eq_true h))
      omega
  unfold ofDecimal
  by_cases hsmall : m < 2 ^ 53 ∧ e.natAbs ≤ 22
  · have := @rounds_ofScientific_table m e.natAbs (decide (e < 0)) hsmall
    rw [he] at this
    exact this h
  · unfold Float.ofScientific
    rw [dif_neg hsmall]
    have hexponent : (if decide (e < 0) = true then Int.negOfNat e.natAbs else Int.ofNat e.natAbs) = e := by
      rw [Int.negOfNat_eq]
      exact he
    simp only [hexponent]
    exact rounds_model m h

/-- A number written with decimal places. -/
theorem rounds_literal {m k : ℕ} (hk : 0 < k) (h : InRange (m / 10 ^ k)) :
    Rounds (OfScientific.ofScientific m true k) (m / 10 ^ k) := by
  have hquotient : (m : ℚ) / 10 ^ k = m * 10 ^ (-k : ℤ) := by
    rw [zpow_neg, zpow_natCast, div_eq_mul_inv]
  have hliteral : ofDecimal m (-k) = (OfScientific.ofScientific m true k : Float) := by
    change Float.ofScientific m (decide ((-k : ℤ) < 0)) (-k : ℤ).natAbs = Float.ofScientific m true k
    rw [decide_eq_true (by omega), Int.natAbs_neg, Int.natAbs_natCast]
  rw [hquotient] at h ⊢
  rw [← hliteral]
  exact rounds_ofDecimal h

/-- A number with one decimal place, which is zero. -/
theorem value_literal {m n : ℕ} (hm : m = n * 10) (hn : n ≤ 2 ^ 53) :
    value (OfScientific.ofScientific m true 1) = n := by
  have hquotient : (m : ℚ) / 10 ^ 1 = n := by rw [hm]; push_cast; ring
  have hround := rounds_literal (m := m) (k := 1) (by norm_num)
  rw [hquotient] at hround
  rw [(hround (inRange_natCast (le_trans hn (by norm_num)))).value_eq, nearest_natCast hn]

theorem value_zero : value 0.0 = 0 := by
  rw [value_literal (n := 0) (by norm_num) (by norm_num), Nat.cast_zero]

theorem value_one : value 1.0 = 1 := by
  rw [value_literal (n := 1) (by norm_num) (by norm_num), Nat.cast_one]

theorem rounds_natFloat {n : ℕ} (h : InRange n) : Rounds (Float.ofNat n) n := by
  have hdecimal : ofDecimal n 0 = Float.ofNat n := rfl
  have := rounds_ofDecimal (m := n) (e := 0) (by simpa using h)
  rwa [zpow_zero, mul_one, hdecimal] at this

/-- A word becomes the same number as the natural number that it stands for. -/
theorem word64_eq_natFloat (n : UInt64) : n.toFloat = Float.ofNat n.toNat := by
  obtain ⟨hword, hvalue⟩ := rounds_word64 n
  obtain ⟨hnat, hvalue'⟩ := rounds_natFloat (inRange_natCast (le_of_lt n.toNat_lt))
  by_cases hzero : n = 0
  · rw [hzero]
    rfl
  · have hpos : 0 < n.toNat := by
      rw [Nat.pos_iff_ne_zero, ne_eq, ← UInt64.toNat_zero, UInt64.toNat_inj]
      exact hzero
    have hone : 1 ≤ value (Float.ofNat n.toNat) := by
      rw [hvalue']
      exact le_nearest isDyadic_one (by exact_mod_cast hpos)
    exact eq_of_value_eq hword hnat (by linarith) (hvalue.trans hvalue'.symm)

/-- Beyond the range, the exact computation gives infinity. -/
private theorem unpack_model_infinity {m : ℕ} (hrange : ¬ InRange m) :
    (Float.Model.ofScientific m 0).unpack = .infinity .positive := by
  have hm : m ≠ 0 := by
    rintro rfl
    exact hrange (inRange_natCast (by norm_num))
  have hscaled : (m : ℚ) = ((m <<< 53 : ℕ) * 2 ^ (-53 : ℤ)) * ((10 ^ (0 : ℤ).toNat : ℕ) * 2 ^ (0 : ℤ)) := by
    rw [Nat.shiftLeft_eq]
    push_cast
    norm_num
    ring
  have hround := @mul_roundsTo .positive (m <<< 53) (10 ^ (0 : ℤ).toNat) (-53) 0 (.inl (by
    rw [Nat.shiftLeft_eq]
    have := Nat.pos_of_ne_zero hm
    norm_num
    omega))
  rw [← hscaled] at hround
  unfold Float.Model.ofScientific UnpackedFloat.ofScientific
  rw [dif_neg hm, if_neg (by simp), if_neg (by simp), if_pos le_rfl]
  exact hround.unpack_infinity hrange

/-- A natural number beyond the range becomes infinity. -/
theorem unpack_natFloat_infinity {n : ℕ} (h : ¬ InRange n) :
    (Float.ofNat n).toModel.unpack = .infinity .positive := by
  have hlarge : 2 ^ 64 < n := Nat.not_le.1 fun hle => h (inRange_natCast hle)
  have hmodel : Float.ofNat n = .ofModel (.ofScientific n 0) := by
    change Float.ofScientific n false 0 = _
    unfold Float.ofScientific
    rw [dif_neg (by omega)]
    rfl
  rw [hmodel]
  exact unpack_model_infinity h

theorem rounds_intFloat {n : ℤ} (h : InRange n) : Rounds (Float.ofInt n) n := by
  cases n with
  | ofNat n => exact rounds_natFloat h
  | negSucc n =>
    have hneg : ((Int.negSucc n : ℤ) : ℚ) = -((n + 1 : ℕ) : ℚ) := by push_cast [Int.negSucc_eq]; ring
    rw [hneg] at h ⊢
    obtain ⟨hfinite, hvalue⟩ := rounds_natFloat (n := n + 1) (by simpa using h.neg)
    exact ⟨isFinite_neg hfinite, by rw [nearest_neg, ← hvalue]; exact value_neg _⟩

/-! ### Cutting off -/

/-- The integer part of a number, its fraction cut off. -/
def integerPart (q : ℚ) : ℤ := if 0 ≤ q then ⌊q⌋ else ⌈q⌉

theorem integerPart_of_nonneg {q : ℚ} (h : 0 ≤ q) : integerPart q = ⌊q⌋ := if_pos h

theorem integerPart_intCast (n : ℤ) : integerPart n = n := by
  unfold integerPart
  split <;> simp

theorem integerPart_neg (q : ℚ) : integerPart (-q) = -integerPart q := by
  unfold integerPart
  rcases lt_trichotomy q 0 with h | rfl | h
  · rw [if_pos (by linarith), if_neg (by linarith), Int.floor_neg]
  · simp
  · rw [if_neg (by linarith), if_pos (le_of_lt h), Int.ceil_neg]

theorem integerPart_mono {p q : ℚ} (h : p ≤ q) : integerPart p ≤ integerPart q := by
  unfold integerPart
  split
  · rename_i hp
    rw [if_pos (le_trans hp h)]
    exact Int.floor_le_floor h
  · rename_i hp
    split
    · rename_i hq
      exact le_trans (Int.ceil_le.2 (by push_cast; linarith)) (Int.floor_nonneg.2 hq)
    · exact Int.ceil_le_ceil h

private theorem roundToInt_eq (s : Sign) (m : ℕ) (e : ℤ) :
    UnpackedFloat.roundToInt s m e = integerPart (s.apply m * 2 ^ e) := by
  obtain ⟨em, hem, htracks⟩ : ∃ em : ExtendedMantissa, UnpackedFloat.roundToInt s m e = s.apply em.mantissa ∧
      Tracks em (m * 2 ^ e) := by
    refine ⟨_, rfl, ?_⟩
    have htracks := tracks_shiftRight (tracks_exact (m <<< (e - 0).toNat)) (0 - (e - (e - 0).toNat)).toNat
    have hvalue : ((m <<< (e - 0).toNat : ℕ) : ℚ) / 2 ^ (0 - (e - ((e - 0).toNat : ℤ))).toNat = m * 2 ^ e := by
      have he : e = (e - 0).toNat - ((0 - (e - ((e - 0).toNat : ℤ))).toNat : ℤ) := by omega
      conv_rhs => rw [he]
      rw [Nat.shiftLeft_eq, zpow_sub₀ (by norm_num), zpow_natCast, zpow_natCast]
      push_cast
      ring
    rwa [hvalue] at htracks
  have hnonneg : (0 : ℚ) ≤ m * 2 ^ e := mul_nonneg (by positivity) (le_of_lt (two_zpow_pos e))
  rw [hem, apply_eq_signed, mantissa_eq_floor htracks, ← integerPart_of_nonneg hnonneg]
  cases s
  · exact (integerPart_neg _).symm
  · rfl

theorem toInt_eq {x : Float} (h : x.isFinite = true) (lo hi : ℤ) :
    x.toModel.unpack.toInt lo hi = integerPart (value x) := by
  rcases finite_cases h with ⟨s, hx⟩ | ⟨s, m, e, hm, hx⟩
  · rw [value_of_zero hx, hx]
    rfl
  · rw [value_of_finite hx, hx]
    exact roundToInt_eq s m e

theorem truncate_eq {x : Float} (h : x.isFinite = true) (lo hi : ℤ) :
    truncate lo hi x = max lo (min (integerPart (value x)) hi) := by
  rw [truncate, toInt_eq h]

theorem truncate_mono {x y : Float} (hx : x.isFinite = true) (hy : y.isFinite = true) (h : x ≤ y) (lo hi : ℤ) :
    truncate lo hi x ≤ truncate lo hi y := by
  rw [truncate_eq hx, truncate_eq hy]
  have := integerPart_mono ((le_iff hx hy).1 h)
  omega

private theorem toNat_ofNatClamp32 (n : ℕ) : (UInt32.ofNatClamp n).toNat = min n (2 ^ 32 - 1) := by
  unfold UInt32.ofNatClamp
  split
  · rename_i h
    rw [UInt32.toNat_ofNatLT]
    change n < 2 ^ 32 at h
    omega
  · rename_i h
    change ¬ n < 2 ^ 32 at h
    change 2 ^ 32 - 1 = _
    omega

private theorem toNat_ofNatClamp64 (n : ℕ) : (UInt64.ofNatClamp n).toNat = min n (2 ^ 64 - 1) := by
  unfold UInt64.ofNatClamp
  split
  · rename_i h
    rw [UInt64.toNat_ofNatLT]
    change n < 2 ^ 64 at h
    omega
  · rename_i h
    change ¬ n < 2 ^ 64 at h
    change 2 ^ 64 - 1 = _
    omega

theorem toNat_toUInt32 {x : Float} (h : x.isFinite = true) :
    x.toUInt32.toNat = min (integerPart (value x)).toNat (2 ^ 32 - 1) := by
  change (UInt32.ofNatClamp (x.toModel.unpack.toInt 0 (UInt32.size - 1)).toNat).toNat = _
  rw [toInt_eq h]
  exact toNat_ofNatClamp32 _

/-- Infinity becomes the greatest word. -/
theorem toNat_toUInt32_infinity {x : Float} (h : x.toModel.unpack = .infinity .positive) :
    x.toUInt32.toNat = 2 ^ 32 - 1 := by
  change (x.toModel.unpack.toUInt32).toNat = _
  rw [h]
  decide

/-- Cutting off does not lose the first one. -/
theorem one_le_toUInt32 {x : Float} (h : 1.0 ≤ x) : 1 ≤ x.toUInt32 := by
  rw [UInt32.le_iff_toNat_le]
  change 1 ≤ x.toUInt32.toNat
  rcases isFinite_of_le (by decide) h with hx | hx
  · have hvalue := (le_iff (by decide) hx).1 h
    rw [value_one] at hvalue
    have hfloor : 1 ≤ ⌊value x⌋ := Int.le_floor.2 (by exact_mod_cast hvalue)
    rw [toNat_toUInt32 hx, integerPart_of_nonneg (le_trans (by norm_num) hvalue)]
    omega
  · rw [toNat_toUInt32_infinity hx]
    norm_num

theorem toNat_toUInt64 {x : Float} (h : x.isFinite = true) :
    x.toUInt64.toNat = min (integerPart (value x)).toNat (2 ^ 64 - 1) := by
  change (UInt64.ofNatClamp (x.toModel.unpack.toInt 0 (UInt64.size - 1)).toNat).toNat = _
  rw [toInt_eq h]
  exact toNat_ofNatClamp64 _

end CarbonAware.Numeral
