import CarbonAware.Proofs.Numeral.CorrectRounding

/-!
# Arithmetic of floating-point numbers

Sums, differences, products and quotients are rounded correctly: where the exact result is in range, the computed one
is finite and its value is the `nearest` of the exact one (`rounds_add`, `rounds_sub`, `rounds_mul`, `rounds_div`).
Beyond the range, and for quotients by zero, comparisons still tell what the exact numbers are like (`lt_of_lt_div`,
`not_lt_div_zero`).
-/

namespace CarbonAware.Numeral

open Float.Model (UnpackedFloat Format totalExponent)
open Float.Model.UnpackedFloat (Sign roundWithAccuracy decreaseExponent divCore)

/-! ### Products and quotients -/

private theorem fine_of_le {m : ℕ} {e : ℤ} (h : 2 ^ 52 ≤ m ∨ e ≤ -1074) :
    e ≤ Format.targetExponent .binary64 (totalExponent m e) := by
  rw [targetExponent_eq]
  rcases h with h | h
  · have : 52 ≤ m.log2 := (Nat.le_log2 (by omega)).2 h
    omega
  · omega

/-- The product of two mantissas, which has enough digits, or is a multiple of a small enough power. -/
theorem mul_roundsTo (s : Sign) {m m' : ℕ} {e e' : ℤ} (h : 2 ^ 52 ≤ m * m' ∨ e + e' ≤ -1074) :
    RoundsTo (roundWithAccuracy .binary64 s (m * m') (e + e') .exact) s ((m * 2 ^ e) * (m' * 2 ^ e')) := by
  have hprod : ((m : ℚ) * 2 ^ e) * (m' * 2 ^ e') = (m * m' : ℕ) * 2 ^ (e + e') := by
    rw [zpow_add₀ (by norm_num)]
    push_cast
    ring
  rw [hprod]
  exact roundWithAccuracy_roundsTo s (tracks_exact _) (fine_of_le h)

theorem rounds_mul {x y : Float} (hx : x.isFinite = true) (hy : y.isFinite = true)
    (h : InRange (value x * value y)) : Rounds (x * y) (value x * value y) := by
  change Rounds (.ofModel (.pack (UnpackedFloat.mul .binary64 x.toModel.unpack y.toModel.unpack))) _
  rcases finite_cases hx with ⟨s, hx⟩ | ⟨s, m, e, hm, hx⟩ <;>
    rcases finite_cases hy with ⟨s', hy⟩ | ⟨s', m', e', hm', hy⟩
  · rw [value_of_zero hx, zero_mul, hx, hy]; exact rounds_zero _
  · rw [value_of_zero hx, zero_mul, hx, hy]; exact rounds_zero _
  · rw [value_of_zero hy, mul_zero, hx, hy]; exact rounds_zero _
  · rw [value_of_finite hx, value_of_finite hy, apply_eq_signed, apply_eq_signed, ← signed_mul] at h ⊢
    rw [hx, hy]
    refine (mul_roundsTo (s * s') ?_).rounds (inRange_signed.1 h)
    -- a product of two stored mantissas has enough digits, unless both are below the normal numbers
    rcases hm.full with hfull | hleast
    · exact .inl (le_trans hfull (Nat.le_mul_of_pos_right m hm'.pos))
    · rcases hm'.full with hfull' | hleast'
      · exact .inl (le_trans hfull' (Nat.le_mul_of_pos_left m' hm.pos))
      · exact .inr (by omega)

/-- The quotient of two mantissas is computed with enough digits. -/
theorem div_roundsTo (s : Sign) {m m' : ℕ} (hm : 0 < m) (hm' : 0 < m') (e e' : ℤ) :
    RoundsTo (roundWithAccuracy .binary64 s (divCore .binary64 m e m' e').1 (divCore .binary64 m e m' e').2.1
      (divCore .binary64 m e m' e').2.2) s ((m * 2 ^ e) / (m' * 2 ^ e')) := by
  obtain ⟨t, ht⟩ : ∃ t, t = min (e - e')
      (Format.targetExponent .binary64 (totalExponent m e - totalExponent m' e')) := ⟨_, rfl⟩
  obtain ⟨k, hk⟩ : ∃ k, k = (e - e' - t).toNat := ⟨_, rfl⟩
  unfold divCore
  simp only
  rw [← ht, ← hk]
  have htarget : Format.targetExponent .binary64 (totalExponent m e - totalExponent m' e') =
      max ((m.log2 : ℤ) + 1 + e - (m'.log2 + 1 + e') - 53) (-1074) := rfl
  rw [htarget] at ht
  have hquotient : ((m : ℚ) * 2 ^ e) / (m' * 2 ^ e') = ((m <<< k : ℕ) : ℚ) / m' * 2 ^ t := by
    have he : e = e' + (k + t) := by omega
    have hne := ne_of_gt (two_zpow_pos e')
    have hne' : (m' : ℚ) ≠ 0 := by exact_mod_cast ne_of_gt hm'
    rw [Nat.shiftLeft_eq, he, zpow_add₀ (by norm_num), zpow_add₀ (by norm_num), zpow_natCast]
    push_cast
    field_simp
  rw [hquotient]
  refine roundWithAccuracy_roundsTo s (tracks_quotient _ hm') (fine_of_le ?_)
  rcases le_or_gt t (-1074) with hsmall | hlarge
  · exact .inr hsmall
  · left
    have hdigits : 52 + (m'.log2 + 1) ≤ m.log2 + k := by omega
    rw [Nat.le_div_iff_mul_le hm', Nat.shiftLeft_eq]
    calc 2 ^ 52 * m' ≤ 2 ^ 52 * 2 ^ (m'.log2 + 1) := Nat.mul_le_mul_left _ (le_of_lt Nat.lt_log2_self)
      _ = 2 ^ (52 + (m'.log2 + 1)) := (pow_add 2 52 _).symm
      _ ≤ 2 ^ (m.log2 + k) := Nat.pow_le_pow_right (by norm_num) hdigits
      _ = 2 ^ m.log2 * 2 ^ k := pow_add 2 _ _
      _ ≤ m * 2 ^ k := Nat.mul_le_mul_right _ (Nat.log2_self_le (by omega))

theorem rounds_div {x y : Float} (hx : x.isFinite = true) (hy : y.isFinite = true) (hne : value y ≠ 0)
    (h : InRange (value x / value y)) : Rounds (x / y) (value x / value y) := by
  change Rounds (.ofModel (.pack (UnpackedFloat.div .binary64 x.toModel.unpack y.toModel.unpack))) _
  rcases finite_cases hy with ⟨s', hy⟩ | ⟨s', m', e', hm', hy⟩
  · exact absurd (value_of_zero hy) hne
  rcases finite_cases hx with ⟨s, hx⟩ | ⟨s, m, e, hm, hx⟩
  · rw [value_of_zero hx, zero_div, hx, hy]; exact rounds_zero _
  · rw [value_of_finite hx, value_of_finite hy, apply_eq_signed, apply_eq_signed, ← signed_div] at h ⊢
    rw [hx, hy]
    exact (div_roundsTo (s / s') hm.pos hm'.pos e e').rounds (inRange_signed.1 h)

/-- A quotient out of range is stored as an infinity. -/
private theorem unpack_div_infinity {x y : Float} (hx : x.isFinite = true) (hy : y.isFinite = true)
    (hne : value y ≠ 0) (h : ¬ InRange (value x / value y)) : ∃ s q, 0 ≤ q ∧ ¬ InRange q ∧ value x / value y = signed s q ∧
      (x / y).toModel.unpack = .infinity s := by
  rcases finite_cases hy with ⟨s', hy'⟩ | ⟨s', m', e', hm', hy'⟩
  · exact absurd (value_of_zero hy') hne
  rcases finite_cases hx with ⟨s, hx'⟩ | ⟨s, m, e, hm, hx'⟩
  · refine absurd ?_ h
    rw [value_of_zero hx', zero_div, InRange, nearest_zero, abs_zero]
    exact two_zpow_pos _
  have hquotient : value x / value y = signed (s / s') ((m * 2 ^ e) / (m' * 2 ^ e')) := by
    rw [value_of_finite hx', value_of_finite hy', apply_eq_signed, apply_eq_signed, signed_div]
  have hrange : ¬ InRange ((m * 2 ^ e) / (m' * 2 ^ e') : ℚ) := by
    rw [hquotient] at h
    exact fun hin => h (inRange_signed.2 hin)
  refine ⟨s / s', _, by positivity, hrange, hquotient, ?_⟩
  change (Float.Model.pack (UnpackedFloat.div .binary64 x.toModel.unpack y.toModel.unpack)).unpack = _
  rw [hx', hy']
  exact (div_roundsTo (s / s') hm.pos hm'.pos e e').unpack_infinity hrange

/-- What exceeds a quotient of computed numbers exceeds the exact quotient, also beyond the range of the numbers. -/
theorem lt_of_lt_div {c x y : Float} (hc : c.isFinite = true) (hx : x.isFinite = true) (hy : y.isFinite = true)
    (hne : value y ≠ 0) (h : c < x / y) : value c < value x / value y := by
  by_cases hrange : InRange (value x / value y)
  · obtain ⟨hfinite, hvalue⟩ := rounds_div hx hy hne hrange
    rw [lt_iff hc hfinite, hvalue] at h
    by_contra hle
    exact absurd h (not_lt_of_ge (nearest_le (isDyadic_value c) (not_lt.1 hle)))
  obtain ⟨s, q, hnonneg, hq, hquotient, hunpack⟩ := unpack_div_infinity hx hy hne hrange
  rw [lt_iff_compare, hunpack] at h
  rw [hquotient]
  cases s with
  | negative =>
    rcases finite_cases hc with ⟨s₀, hc⟩ | ⟨s₀, m₀, e₀, hm₀, hc⟩ <;> rw [hc] at h <;> cases s₀ <;> cases h
  | positive =>
    -- no number in range is as large as the quotient
    by_contra hle
    refine hq ?_
    have hupper := nearest_le (isDyadic_value c) (not_lt.1 hle)
    have hbound := inRange_value hc
    rw [InRange, nearest_value] at hbound
    rw [InRange, abs_of_nonneg (nearest_nonneg hnonneg)]
    exact lt_of_le_of_lt hupper (lt_of_le_of_lt (le_abs_self _) hbound)

/-- Nothing finite is below the quotient of a number by positive zero, unless the number is positive. -/
theorem not_lt_div_zero {c x y : Float} (hx : x.isFinite = true) (hnonpos : value x ≤ 0)
    (hy : y.toModel.unpack = .zero .positive) : ¬ c < x / y := by
  have hunpack : (x / y).toModel.unpack = .notANumber ∨ (x / y).toModel.unpack = .infinity .negative := by
    change (Float.Model.pack (UnpackedFloat.div .binary64 x.toModel.unpack y.toModel.unpack)).unpack = _ ∨
      (Float.Model.pack (UnpackedFloat.div .binary64 x.toModel.unpack y.toModel.unpack)).unpack = _
    rcases finite_cases hx with ⟨s, hx'⟩ | ⟨s, m, e, hm, hx'⟩
    · left
      have hdiv : UnpackedFloat.div .binary64 (.zero s) (.zero .positive) = .notANumber := rfl
      rw [hx', hy, hdiv]
      rfl
    · right
      rw [value_of_finite hx', apply_eq_signed] at hnonpos
      cases s with
      | negative =>
        have hdiv : UnpackedFloat.div .binary64 (.finite .negative m e hm.pos) (.zero .positive) =
            .infinity .negative := rfl
        rw [hx', hy, hdiv]
        rfl
      | positive =>
        have : (0 : ℚ) < m * 2 ^ e := mul_pos (by exact_mod_cast hm.pos) (two_zpow_pos e)
        exact absurd hnonpos (not_le_of_gt this)
  rw [lt_iff_compare]
  -- nothing is below either of the two results
  rcases hunpack with hunpack | hunpack <;> rw [hunpack] <;>
    rcases c.toModel.unpack with s | _ | s | ⟨s, m, e, hm⟩ <;> try cases s
  all_goals exact fun h => nomatch h

/-- Nothing is left of a finite number divided by an infinity. -/
theorem unpack_div_by_infinity {x y : Float} {s : Sign} (hx : x.isFinite = true)
    (hy : y.toModel.unpack = .infinity s) : ∃ s', (x / y).toModel.unpack = .zero s' := by
  change ∃ s', (Float.Model.pack (UnpackedFloat.div .binary64 x.toModel.unpack y.toModel.unpack)).unpack = .zero s'
  rcases finite_cases hx with ⟨s₀, hx⟩ | ⟨s₀, m, e, hm, hx⟩ <;> rw [hx, hy] <;> exact ⟨_, unpack_pack_zero _⟩

private theorem not_lt_notANumber {c x : Float} (hx : x.toModel.unpack = .notANumber) : ¬ c < x := by
  rw [lt_iff_compare, hx]
  rcases c.toModel.unpack with s | _ | s | ⟨s, m, e, hm⟩ <;> try cases s
  all_goals exact fun h => nomatch h

private theorem unpack_div_notANumber {x y : Float}
    (h : UnpackedFloat.div .binary64 x.toModel.unpack y.toModel.unpack = .notANumber) :
    (x / y).toModel.unpack = .notANumber := by
  change (Float.Model.pack (UnpackedFloat.div .binary64 x.toModel.unpack y.toModel.unpack)).unpack = _
  rw [h]
  rfl

section Reciprocals

variable {c x y : Float}

/-- What a quotient that exceeds a number divides: the divisor is finite, and the dividend is not zero. -/
private theorem operands_of_lt_div (hc : c.isFinite = true) (hnonneg : 0 ≤ value c) (h : c < x / y) :
    y.isFinite = true ∧ ((∃ s, x.toModel.unpack = .infinity s) ∨ x.isFinite = true ∧ value x ≠ 0) := by
  have hnumber (hdiv : UnpackedFloat.div .binary64 x.toModel.unpack y.toModel.unpack = .notANumber) : False :=
    not_lt_notANumber (unpack_div_notANumber hdiv) h
  have hlt (hfinite : (x / y).isFinite = true) : 0 < value (x / y) :=
    lt_of_le_of_lt hnonneg ((lt_iff hc hfinite).1 h)
  have hxnan : x.isNaN = false := by
    by_contra hnan
    rw [Bool.not_eq_false] at hnan
    exact hnumber (by rw [unpack_notANumber hnan]; cases y.toModel.unpack <;> rfl)
  have hynan : y.isNaN = false := by
    by_contra hnan
    rw [Bool.not_eq_false] at hnan
    exact hnumber (by rw [unpack_notANumber hnan]; cases x.toModel.unpack <;> rfl)
  have hy : y.isFinite = true := by
    by_contra hinfinite
    obtain ⟨s', hy⟩ := unpack_infinity hinfinite hynan
    by_cases hx : x.isFinite = true
    · obtain ⟨s, hquotient⟩ := unpack_div_by_infinity hx hy
      have := hlt (isFinite_of_zero hquotient)
      rw [value_of_zero hquotient] at this
      exact lt_irrefl 0 this
    · obtain ⟨s, hx⟩ := unpack_infinity hx hxnan
      exact hnumber (by rw [hx, hy]; rfl)
  refine ⟨hy, ?_⟩
  by_cases hx : x.isFinite = true
  · refine .inr ⟨hx, fun hzero => ?_⟩
    by_cases hyzero : value y = 0
    · obtain ⟨s, hx⟩ := unpack_zero_of_value hx hzero
      obtain ⟨s', hy⟩ := unpack_zero_of_value hy hyzero
      exact hnumber (by rw [hx, hy]; rfl)
    · have hrounds := rounds_div hx hy hyzero
      rw [hzero, zero_div] at hrounds
      obtain ⟨hfinite, hvalue⟩ := hrounds (by rw [InRange, nearest_zero, abs_zero]; exact two_zpow_pos _)
      have := hlt hfinite
      rw [hvalue, nearest_zero] at this
      exact lt_irrefl 0 this
  · exact .inl (unpack_infinity hx hxnan)

/-- The reciprocal of a quotient that exceeds a number is finite, and at most the reciprocal of the number. -/
theorem div_of_lt_div (hc : c.isFinite = true) (hone : 1 ≤ value c) (h : c < x / y) :
    (y / x).isFinite = true ∧ 0 ≤ value (y / x) ∧
      ∀ bound, IsDyadic bound → 1 ≤ bound * value c → value (y / x) ≤ bound := by
  have hcpos : 0 < value c := by linarith
  obtain ⟨hy, ⟨s, hx⟩ | ⟨hx, hxne⟩⟩ := operands_of_lt_div hc (le_of_lt hcpos) h
  · obtain ⟨s', hquotient⟩ := unpack_div_by_infinity hy hx
    rw [value_of_zero hquotient]
    refine ⟨isFinite_of_zero hquotient, le_refl _, fun bound _ hbound => ?_⟩
    exact le_of_lt (pos_of_mul_pos_left (by linarith) (le_of_lt hcpos))
  · have hquotient : 0 ≤ value y / value x ∧ value y / value x ≤ 1 / value c := by
      by_cases hyne : value y = 0
      · rw [hyne, zero_div]
        exact ⟨le_refl _, by positivity⟩
      · have hlt := lt_of_lt_div hc hx hy hyne h
        have hpos := lt_trans hcpos hlt
        rw [← one_div_div (value x)]
        exact ⟨le_of_lt (one_div_pos.2 hpos), one_div_le_one_div_of_le hcpos (le_of_lt hlt)⟩
    have hrange : InRange (value y / value x) := by
      refine inRange_of_abs_le ?_
      rw [abs_of_nonneg hquotient.1]
      refine le_trans hquotient.2 (le_trans ((div_le_one hcpos).2 hone) ?_)
      exact one_le_zpow₀ (by norm_num) (by norm_num)
    obtain ⟨hfinite, hvalue⟩ := rounds_div hy hx hxne hrange
    rw [hvalue]
    refine ⟨hfinite, nearest_nonneg hquotient.1, fun bound hbound hle => ?_⟩
    exact nearest_le hbound (le_trans hquotient.2 ((div_le_iff₀ hcpos).2 hle))

/-- The quotient of a number and itself is one, if it is a number at all. -/
theorem not_lt_div_self (hc : c.isFinite = true) (hone : 1 ≤ value c) : ¬ c < x / x := by
  intro h
  obtain ⟨hfinite, -, hbound⟩ := div_of_lt_div hc hone h
  have hle := hbound 1 isDyadic_one (by linarith)
  have hlt := (lt_iff hc hfinite).1 h
  linarith

/-- Subtracting from either zero gives the same number, or a zero again. -/
private theorem sub_of_zeros {s s' : Sign} {z : Float} (hx : x.toModel.unpack = .zero s)
    (hy : y.toModel.unpack = .zero s') : x - z = y - z ∨ ∃ t, (x - z).toModel.unpack = .zero t := by
  have hsub (u : UnpackedFloat) : UnpackedFloat.sub .binary64 (.zero s) u = UnpackedFloat.sub .binary64 (.zero s') u ∨
      ∃ t, UnpackedFloat.sub .binary64 (.zero s) u = .zero t := by
    cases u with
    | zero t => cases s <;> cases t <;> exact .inr ⟨_, rfl⟩
    | _ => exact .inl rfl
  rw [← hx, ← hy] at hsub
  rcases hsub z.toModel.unpack with heq | ⟨t, hzero⟩
  · exact .inl (congrArg (fun u => Float.ofModel (.pack u)) heq)
  · refine .inr ⟨t, ?_⟩
    change (Float.Model.pack (UnpackedFloat.sub .binary64 x.toModel.unpack z.toModel.unpack)).unpack = _
    rw [hzero]
    exact unpack_pack_zero t

/-- The differences of one number from two that compare as equal have a quotient of one, or none. -/
theorem not_lt_div_sub {z : Float} (hc : c.isFinite = true) (hone : 1 ≤ value c) (hxy : (x == y) = true) :
    ¬ c < (x - z) / (y - z) := by
  rcases eq_or_zero_of_beq hxy with rfl | ⟨s, s', hx, hy⟩
  · exact not_lt_div_self hc hone
  rcases sub_of_zeros hx hy with heq | ⟨t, hzero⟩
  · rw [heq]
    exact not_lt_div_self hc hone
  · intro h
    obtain ⟨-, ⟨s, hinfinity⟩ | ⟨-, hne⟩⟩ := operands_of_lt_div hc (by linarith) h
    · rw [hzero] at hinfinity
      cases hinfinity
    · exact hne (value_of_zero hzero)

end Reciprocals

/-- The difference of a nonzero number and itself is positive zero. -/
theorem unpack_sub_self {x : Float} (hx : x.isFinite = true) (hne : value x ≠ 0) :
    (x - x).toModel.unpack = .zero .positive := by
  change (Float.Model.pack (UnpackedFloat.sub .binary64 x.toModel.unpack x.toModel.unpack)).unpack = _
  rcases finite_cases hx with ⟨s, hx'⟩ | ⟨s, m, e, hm, hx'⟩
  · exact absurd (value_of_zero hx') hne
  · have hsub : UnpackedFloat.sub .binary64 (.finite s m e hm.pos) (.finite s m e hm.pos) = .zero .positive := by
      simp only [UnpackedFloat.sub, Int.sub_self]
      rfl
    rw [hx', hsub]
    rfl

private theorem toNat_scaled {n : ℤ} (h : 0 ≤ n) (e : ℤ) : (n.toNat : ℚ) * 2 ^ e = n * 2 ^ e := by
  have hcast : ((n.toNat : ℤ) : ℚ) = n := by rw [Int.toNat_of_nonneg h]
  rw [← hcast, Int.cast_natCast]

private theorem normalize_rounds {n : ℤ} {e : ℤ} (h : InRange (n * 2 ^ e)) :
    Rounds (.ofModel (.pack (UnpackedFloat.normalize .binary64 n e .positive))) (n * 2 ^ e) := by
  unfold UnpackedFloat.normalize
  rcases lt_trichotomy n 0 with hn | rfl | hn
  · rw [compare_lt_iff_lt.2 hn]
    have hsigned : (n : ℚ) * 2 ^ e = signed .negative ((-n).toNat * 2 ^ e) := by
      rw [toNat_scaled (by omega), Int.cast_neg, neg_mul, signed, neg_neg]
    rw [hsigned] at h ⊢
    exact (round_roundsTo .negative (by omega) e).rounds (inRange_signed.1 h)
  · rw [compare_eq_iff_eq.2 rfl, Int.cast_zero, zero_mul]
    exact rounds_zero _
  · rw [compare_gt_iff_gt.2 hn]
    have hsigned : (n : ℚ) * 2 ^ e = signed .positive (n.toNat * 2 ^ e) := by
      rw [toNat_scaled (le_of_lt hn), signed]
    rw [hsigned] at h ⊢
    exact (round_roundsTo .positive (by omega) e).rounds (inRange_signed.1 h)

/-- A mantissa brought to a smaller exponent. -/
private theorem decreaseExponent_value (s : Sign) (m : ℕ) {e t : ℤ} (h : t ≤ e) :
    (s.apply (decreaseExponent m e t).1 : ℚ) * 2 ^ t = s.apply m * 2 ^ e := by
  have ht : t = e - (e - t).toNat := by omega
  rw [apply_eq_signed, apply_eq_signed, ← shiftLeft_scaled m e (e - t).toNat, ← ht]
  rfl

theorem rounds_add {x y : Float} (hx : x.isFinite = true) (hy : y.isFinite = true)
    (h : InRange (value x + value y)) : Rounds (x + y) (value x + value y) := by
  change Rounds (.ofModel (.pack (UnpackedFloat.add .binary64 x.toModel.unpack y.toModel.unpack))) _
  rcases finite_cases hx with ⟨s, hx'⟩ | ⟨s, m, e, hm, hx'⟩ <;>
    rcases finite_cases hy with ⟨s', hy'⟩ | ⟨s', m', e', hm', hy'⟩
  · rw [value_of_zero hx', value_of_zero hy', zero_add, hx', hy']
    cases s <;> cases s' <;> exact rounds_zero _
  · have hself : UnpackedFloat.add .binary64 x.toModel.unpack y.toModel.unpack = y.toModel.unpack := by
      rw [hx', hy']
      rfl
    rw [value_of_zero hx', zero_add, hself, pack_unpack]
    exact rounds_self hy
  · have hself : UnpackedFloat.add .binary64 x.toModel.unpack y.toModel.unpack = x.toModel.unpack := by
      rw [hx', hy']
      rfl
    rw [value_of_zero hy', add_zero, hself, pack_unpack]
    exact rounds_self hx
  · have hsum : value x + value y = ((s.apply (decreaseExponent m e (min e e')).1 +
        s'.apply (decreaseExponent m' e' (min e e')).1 : ℤ) : ℚ) * 2 ^ min e e' := by
      rw [value_of_finite hx', value_of_finite hy']
      push_cast
      rw [add_mul, decreaseExponent_value s m (min_le_left e e'), decreaseExponent_value s' m' (min_le_right e e')]
    rw [hsum] at h ⊢
    rw [hx', hy']
    exact normalize_rounds h

theorem unpack_neg (x : Float) : (-x).toModel.unpack = x.toModel.unpack.neg := by
  change (Float.Model.pack x.toModel.unpack.neg).unpack = _
  cases hx : x.toModel.unpack with
  | notANumber => rfl
  | infinity s => cases s <;> rfl
  | zero s => exact unpack_pack_zero (-s)
  | finite s m e hm => exact unpack_pack (isStored_of_unpack hx)

theorem isFinite_neg {x : Float} (h : x.isFinite = true) : (-x).isFinite = true := by
  change (-x).toModel.unpack.isFinite = true
  rw [unpack_neg]
  rcases finite_cases h with ⟨s, hx⟩ | ⟨s, m, e, hm, hx⟩ <;> rw [hx] <;> rfl

private theorem apply_neg (s : Sign) (n : ℤ) : (-s).apply n = -s.apply n := by
  cases s
  · exact (neg_neg n).symm
  · rfl

theorem value_neg (x : Float) : value (-x) = -value x := by
  rw [value, value, unpack_neg]
  cases x.toModel.unpack with
  | finite s m e hm =>
    simp only [UnpackedFloat.neg, unpackedValue, apply_neg, Int.cast_neg, neg_mul]
  | _ => exact neg_zero.symm

private theorem sub_eq_add_negated (x y : Float) : x - y = x + -y := by
  change Float.ofModel (.pack (UnpackedFloat.sub .binary64 x.toModel.unpack y.toModel.unpack)) =
    Float.ofModel (.pack (UnpackedFloat.add .binary64 x.toModel.unpack (-y).toModel.unpack))
  congr 2
  rw [unpack_neg]
  cases x.toModel.unpack <;> cases y.toModel.unpack <;> try rfl
  simp only [UnpackedFloat.sub, UnpackedFloat.add, UnpackedFloat.neg, apply_neg, Int.sub_eq_add_neg]

theorem rounds_sub {x y : Float} (hx : x.isFinite = true) (hy : y.isFinite = true)
    (h : InRange (value x - value y)) : Rounds (x - y) (value x - value y) := by
  rw [sub_eq_add_neg, ← value_neg] at h ⊢
  rw [sub_eq_add_negated]
  exact rounds_add hx (isFinite_neg hy) h

theorem unpack_sub_infinity {x y : Float} (hx : x.isFinite = true) (hy : y.toModel.unpack = .infinity .positive) :
    (x - y).toModel.unpack = .infinity .negative := by
  have hsub : UnpackedFloat.sub .binary64 x.toModel.unpack (.infinity .positive) = .infinity .negative := by
    rcases finite_cases hx with ⟨s, hx⟩ | ⟨s, m, e, hm, hx⟩ <;> rw [hx] <;> rfl
  change (Float.Model.pack (UnpackedFloat.sub .binary64 x.toModel.unpack y.toModel.unpack)).unpack = _
  rw [hy, hsub]
  rfl

theorem isNaN_sub (x : Float) {y : Float} (hy : y.isNaN = true) : (x - y).isNaN = true := by
  have hsub : UnpackedFloat.sub .binary64 x.toModel.unpack .notANumber = .notANumber := by
    cases x.toModel.unpack <;> rfl
  change (Float.Model.pack (UnpackedFloat.sub .binary64 x.toModel.unpack y.toModel.unpack)).unpack.isNaN = true
  rw [unpack_notANumber hy, hsub]
  rfl

/-- A small enough integer is a number of its own. -/
theorem rounds_ofInt (n : ℤ) (h : InRange n) : Rounds (.ofModel (.ofInt n)) n := by
  have hscaled : (n : ℚ) = n * 2 ^ (0 : ℤ) := by simp
  rw [hscaled] at h ⊢
  exact normalize_rounds h

end CarbonAware.Numeral
