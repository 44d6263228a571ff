import CarbonAware.Numeral.Rounding
import CarbonAware.Proofs.Numeral.Nearest

/-!
# The values of floating-point numbers

A finite floating-point number stands for a rational number, its `value`, with 53 binary digits (`isDyadic_value`).
What is stored is determined by the value, but for the sign of zero (`eq_of_value_eq`), and finite numbers compare as
their values do (`le_iff`, `lt_iff`).
-/

namespace CarbonAware.Numeral

open Float.Model (UnpackedFloat Format)
open Float.Model.UnpackedFloat (Sign unpackSign unpackExponent unpackMantissa packComponents)

/-! ### The bits of a number -/

/-- The mantissa and exponent of a nonzero finite number as they are stored. -/
structure IsStored (m : ℕ) (e : ℤ) : Prop where
  pos : 0 < m
  lt : m < 2 ^ 53
  exponent_ge : -1074 ≤ e
  exponent_le : e ≤ 971
  full : 2 ^ 52 ≤ m ∨ e = -1074

private theorem toBitVec_ofBitVec (v : BitVec 1) : (Sign.ofBitVec v).toBitVec = v := by
  rcases BitVec.eq_zero_or_eq_one v with rfl | rfl <;> rfl

private theorem ofBitVec_toBitVec (s : Sign) : Sign.ofBitVec s.toBitVec = s := by cases s <;> rfl

private theorem unpackSign_packComponents (s : Sign) (exponent : BitVec 11) (mantissa : BitVec 52) :
    @unpackSign .binary64 (packComponents .binary64 s exponent mantissa) = s.toBitVec := by
  apply BitVec.eq_of_getLsbD_eq
  intro i hi
  obtain rfl : i = 0 := by omega
  simp only [unpackSign, packComponents, BitVec.cast_eq, Nat.reduceAdd, Nat.reduceSub, Order.lt_one_iff,
    BitVec.getLsbD_eq_getElem, BitVec.getElem_extract, add_zero]
  rw [BitVec.getLsbD_append, BitVec.getLsbD_append]
  rfl

private theorem packComponents_unpack (b : BitVec 64) :
    packComponents .binary64 (.ofBitVec (@unpackSign .binary64 b)) (@unpackExponent .binary64 b)
      (@unpackMantissa .binary64 b) = b := by
  unfold packComponents
  rw [toBitVec_ofBitVec]
  ext i hi
  simp only [unpackSign, unpackExponent, unpackMantissa, BitVec.cast_eq, Nat.reduceAdd, Nat.reduceSub,
    Nat.add_one_sub_one, Nat.sub_zero]
  -- the three fields are side by side, so every bit is one of theirs
  grind

/-- The leading digit is not stored. -/
private theorem toNat_leading (mantissa : BitVec 52) : (1#1 ++ mantissa).toNat = 2 ^ 52 + mantissa.toNat := by
  rw [BitVec.toNat_append, ← Nat.shiftLeft_add_eq_or_of_lt mantissa.isLt]
  rfl

private theorem toNat_ne_zero {n : ℕ} {v : BitVec n} (h : v ≠ 0#n) : v.toNat ≠ 0 :=
  fun h0 => h (BitVec.eq_of_toNat_eq h0)

private theorem toNat_lt_of_ne {v : BitVec 11} (h : v ≠ -1#11) : v.toNat < 2047 := by
  have hlt := v.isLt
  have hne : v.toNat ≠ 2047 := fun h0 => h (BitVec.eq_of_toNat_eq h0)
  omega

private theorem bias_eq :
    (Format.exponentBias .binary64 : ℤ) + (Format.mantissaBitsWithoutImplicit .binary64 : ℤ) = 1075 := by
  decide

theorem isStored_of_unpack {x : Float.Model} {s : Sign} {m : ℕ} {e : ℤ} {h : 0 < m}
    (hx : x.unpack = .finite s m e h) : IsStored m e := by
  unfold Float.Model.unpack UnpackedFloat.unpack at hx
  simp only at hx
  split at hx
  · split at hx <;> cases hx
  · rename_i hfinite
    have hexp := toNat_lt_of_ne hfinite
    split at hx
    · rename_i hzero
      split at hx
      · cases hx
      · cases hx
        have hlt := (@unpackMantissa .binary64 x.toBits.toBitVec).isLt
        rw [hzero]
        refine ⟨h, ?_, ?_, ?_, .inr ?_⟩
        · change _ < 2 ^ 52 at hlt; omega
        · decide
        · decide
        · decide
    · rename_i hnonzero
      cases hx
      have hlt := (@unpackMantissa .binary64 x.toBits.toBitVec).isLt
      have hpos := toNat_ne_zero hnonzero
      rw [toNat_leading, bias_eq]
      change _ < 2 ^ 52 at hlt
      exact ⟨by omega, by omega, by omega, by omega, .inl (by omega)⟩

/-- The exponent field of a number of 53 digits. -/
private theorem exponentField {e : ℤ} (hge : -1074 ≤ e) (hle : e ≤ 971) :
    (e + (Format.exponentBias .binary64 : ℕ) + (Format.mantissaBitsWithoutImplicit .binary64 : ℕ)).toNat =
      (e + 1075).toNat ∧ ¬ 2 ^ Format.exponentBits .binary64 ≤ (e + 1075).toNat + 1 := by
  constructor
  · change (e + 1023 + 52).toNat = _
    omega
  · change ¬ 2048 ≤ _
    omega

private theorem pack_normal {s : Sign} {m : ℕ} {e : ℤ} (h : IsStored m e) (hm : 2 ^ 52 ≤ m) :
    UnpackedFloat.pack .binary64 (.finite s m e h.pos) =
      packComponents .binary64 s (BitVec.ofNat 11 (e + 1075).toNat) (BitVec.ofNat 52 m) := by
  obtain ⟨hfield, hsmall⟩ := exponentField h.exponent_ge h.exponent_le
  have hlog : m.log2 + 1 = Format.mantissaBits .binary64 := by
    change m.log2 + 1 = 53
    rw [(Nat.log2_eq_iff (by omega)).2 ⟨hm, h.lt⟩]
  simp only [UnpackedFloat.pack, hfield, if_neg hsmall, if_pos hlog]

private theorem pack_subnormal {s : Sign} {m : ℕ} {e : ℤ} (h : IsStored m e) (hm : m < 2 ^ 52) :
    UnpackedFloat.pack .binary64 (.finite s m e h.pos) = packComponents .binary64 s 0#11 (BitVec.ofNat 52 m) := by
  obtain ⟨hfield, hsmall⟩ := exponentField h.exponent_ge h.exponent_le
  have hlog : ¬ m.log2 + 1 = Format.mantissaBits .binary64 := by
    change ¬ m.log2 + 1 = 53
    have := (Nat.log2_lt (Nat.ne_of_gt h.pos)).2 hm
    omega
  simp only [UnpackedFloat.pack, hfield, if_neg hsmall, if_neg hlog]

private theorem toNat_ofNat_of_lt {n k : ℕ} (h : k < 2 ^ n) : (BitVec.ofNat n k).toNat = k := by
  rw [BitVec.toNat_ofNat, Nat.mod_eq_of_lt h]

theorem unpack_pack {s : Sign} {m : ℕ} {e : ℤ} (h : IsStored m e) :
    (Float.Model.pack (.finite s m e h.pos)).unpack = .finite s m e h.pos := by
  have hge := h.exponent_ge
  have hle := h.exponent_le
  have hlt := h.lt
  unfold Float.Model.unpack Float.Model.pack
  rcases le_or_gt (2 ^ 52) m with hm | hm
  · obtain ⟨b, hb⟩ : ∃ b : ℕ, e + 1075 = b := ⟨_, (Int.toNat_of_nonneg (by omega)).symm⟩
    have hfield : (BitVec.ofNat 11 b).toNat = b := toNat_ofNat_of_lt (by omega)
    have hmax : BitVec.ofNat 11 b ≠ -1#11 := by
      intro heq
      rw [heq] at hfield
      change 2047 = b at hfield
      omega
    have hzero : BitVec.ofNat 11 b ≠ 0#11 := by
      intro heq
      rw [heq] at hfield
      change 0 = b at hfield
      -- the least exponent of a number of full precision is one
      omega
    have hmantissa : (1#1 ++ BitVec.ofNat 52 m).toNat = m := by
      rw [toNat_leading, BitVec.toNat_ofNat]
      omega
    have hback : (b : ℤ) -
        ((Format.exponentBias .binary64 : ℕ) + (Format.mantissaBitsWithoutImplicit .binary64 : ℕ)) = e := by
      rw [bias_eq]
      omega
    simp only [pack_normal h hm, hb, Int.toNat_natCast, UnpackedFloat.unpack,
      UnpackedFloat.unpackExponent_packComponents, UnpackedFloat.unpackMantissa_packComponents,
      unpackSign_packComponents, ofBitVec_toBitVec, if_neg hmax, if_neg hzero, hfield, hmantissa, hback]
  · obtain rfl : e = -1074 := h.full.resolve_left (not_le.2 hm)
    have hmax : (0#11) ≠ -1#11 := by decide
    have hmantissa : (BitVec.ofNat 52 m).toNat = m := toNat_ofNat_of_lt hm
    have hzero : BitVec.ofNat 52 m ≠ 0#52 := by
      intro heq
      rw [heq] at hmantissa
      exact absurd hmantissa.symm (Nat.ne_of_gt h.pos)
    simp only [pack_subnormal h hm, UnpackedFloat.unpack, UnpackedFloat.unpackExponent_packComponents,
      UnpackedFloat.unpackMantissa_packComponents, unpackSign_packComponents, ofBitVec_toBitVec, if_neg hmax,
      ↓reduceIte, dif_neg hzero, hmantissa]
    rfl

/-- What a number is unpacked to can be packed again. -/
theorem pack_unpack (x : Float.Model) : Float.Model.pack x.unpack = x := by
  have hbits : UnpackedFloat.pack .binary64 x.unpack = x.toBits.toBitVec := by
    have hback := packComponents_unpack x.toBits.toBitVec
    have hlt := (@unpackMantissa .binary64 x.toBits.toBitVec).isLt
    change _ < 2 ^ 52 at hlt
    have hstored {s : Sign} {m : ℕ} {e : ℤ} {h : 0 < m} := @isStored_of_unpack x s m e h
    unfold Float.Model.unpack UnpackedFloat.unpack at hstored ⊢
    simp only at hstored ⊢
    split
    · rename_i hmax
      split
      · rename_i hzero
        rw [hmax, hzero] at hback
        exact hback
      · rename_i hzero
        exact (x.valid.eq_packedNaN hmax hzero).symm
    · rename_i hmax
      have hexp := toNat_lt_of_ne hmax
      rw [if_neg hmax] at hstored
      split
      · rename_i hexpzero
        rw [if_pos hexpzero] at hstored
        split
        · rename_i hzero
          rw [hexpzero, hzero] at hback
          exact hback
        · rename_i hzero
          rw [dif_neg hzero] at hstored
          rw [pack_subnormal (hstored rfl) hlt, BitVec.ofNat_toNat, BitVec.setWidth_eq]
          rw [hexpzero] at hback
          exact hback
      · rename_i hexpzero
        rw [if_neg hexpzero] at hstored
        have hpos := toNat_ne_zero hexpzero
        have hmantissa : BitVec.ofNat 52 (1#1 ++ @unpackMantissa .binary64 x.toBits.toBitVec).toNat =
            @unpackMantissa .binary64 x.toBits.toBitVec := by
          apply BitVec.eq_of_toNat_eq
          rw [toNat_leading, BitVec.toNat_ofNat]
          omega
        rw [pack_normal (hstored rfl) (by rw [toNat_leading]; omega), hmantissa, bias_eq, sub_add_cancel,
          Int.toNat_natCast, BitVec.ofNat_toNat, BitVec.setWidth_eq]
        exact hback
  unfold Float.Model.pack
  rcases x with ⟨bits, valid⟩
  congr 1
  rw [hbits]

/-! ### Values -/

/-- The rational number that an unpacked number stands for; zero if it is not finite. -/
def unpackedValue : UnpackedFloat → ℚ
  | .finite s m e _ => s.apply m * 2 ^ e
  | _ => 0

/-- The rational number that a finite number stands for. -/
def value (x : Float) : ℚ := unpackedValue x.toModel.unpack

theorem finite_cases {x : Float} (h : x.isFinite = true) : (∃ s, x.toModel.unpack = .zero s) ∨
    ∃ s m e, ∃ hm : IsStored m e, x.toModel.unpack = .finite s m e hm.pos := by
  change x.toModel.unpack.isFinite = true at h
  cases hx : x.toModel.unpack with
  | notANumber => rw [hx] at h; cases h
  | infinity s => rw [hx] at h; cases h
  | zero s => exact .inl ⟨s, rfl⟩
  | finite s m e hm => exact .inr ⟨s, m, e, isStored_of_unpack hx, rfl⟩

theorem isFinite_of_zero {x : Float} {s : Sign} (h : x.toModel.unpack = .zero s) : x.isFinite = true := by
  change x.toModel.unpack.isFinite = true
  rw [h]
  rfl

theorem isFinite_of_finite {x : Float} {s : Sign} {m : ℕ} {e : ℤ} {hm : 0 < m}
    (h : x.toModel.unpack = .finite s m e hm) : x.isFinite = true := by
  change x.toModel.unpack.isFinite = true
  rw [h]
  rfl

theorem value_of_zero {x : Float} {s : Sign} (h : x.toModel.unpack = .zero s) : value x = 0 := by
  rw [value, h]
  rfl

theorem value_of_finite {x : Float} {s : Sign} {m : ℕ} {e : ℤ} {hm : 0 < m}
    (h : x.toModel.unpack = .finite s m e hm) : value x = s.apply m * 2 ^ e := by
  rw [value, h]
  rfl

theorem isDyadic_stored {m : ℕ} {e : ℤ} (h : IsStored m e) (s : Sign) : IsDyadic (s.apply m * 2 ^ e) := by
  refine ⟨s.apply m, e, ?_, h.exponent_ge, rfl⟩
  have := h.lt
  cases s <;> simp only [Sign.apply, abs_neg, Nat.abs_cast] <;> exact_mod_cast le_of_lt this

theorem isDyadic_value (x : Float) : IsDyadic (value x) := by
  by_cases h : x.isFinite = true
  · rcases finite_cases h with ⟨s, hx⟩ | ⟨s, m, e, hm, hx⟩
    · rw [value_of_zero hx]; exact isDyadic_zero
    · rw [value_of_finite hx]; exact isDyadic_stored hm s
  · have hzero : value x = 0 := by
      unfold value
      change ¬ x.toModel.unpack.isFinite = true at h
      cases hx : x.toModel.unpack with
      | notANumber => rfl
      | infinity s => rfl
      | zero s => rfl
      | finite s m e hm => rw [hx] at h; exact absurd rfl h
    rw [hzero]
    exact isDyadic_zero

theorem nearest_value (x : Float) : nearest (value x) = value x := nearest_of_isDyadic (isDyadic_value x)

theorem abs_apply (s : Sign) (m : ℕ) (e : ℤ) : |(s.apply m : ℚ) * 2 ^ e| = m * 2 ^ e := by
  rw [abs_mul, abs_of_pos (two_zpow_pos e)]
  cases s <;> simp [Sign.apply]

/-! ### Order -/

private theorem stored_lt_of_exponent_lt {m m' : ℕ} {e e' : ℤ} (h : IsStored m e) (h' : IsStored m' e')
    (hlt : e < e') : (m : ℚ) * 2 ^ e < m' * 2 ^ e' := by
  have hfull : 2 ^ 52 ≤ m' := h'.full.resolve_right (by have := h.exponent_ge; omega)
  have hm : (m : ℚ) < 2 ^ (53 : ℤ) := by exact_mod_cast h.lt
  have hm' : (2 : ℚ) ^ (52 : ℤ) ≤ m' := by exact_mod_cast hfull
  calc (m : ℚ) * 2 ^ e < 2 ^ (53 : ℤ) * 2 ^ e := mul_lt_mul_of_pos_right hm (two_zpow_pos e)
    _ = 2 ^ (53 + e) := (zpow_add₀ (by norm_num) _ _).symm
    _ ≤ 2 ^ (52 + e') := zpow_le_zpow_right₀ (by norm_num) (by omega)
    _ = 2 ^ (52 : ℤ) * 2 ^ e' := zpow_add₀ (by norm_num) _ _
    _ ≤ m' * 2 ^ e' := mul_le_mul_of_nonneg_right hm' (le_of_lt (two_zpow_pos e'))

private theorem compare_stored {m m' : ℕ} {e e' : ℤ} (h : IsStored m e) (h' : IsStored m' e') :
    (compare e e').then (compare m m') = compare ((m : ℚ) * 2 ^ e) (m' * 2 ^ e') := by
  rcases lt_trichotomy e e' with hlt | rfl | hlt
  · rw [compare_lt_iff_lt.2 hlt, compare_lt_iff_lt.2 (stored_lt_of_exponent_lt h h' hlt)]
    rfl
  · have hpos := two_zpow_pos e
    rw [compare_eq_iff_eq.2 rfl]
    rcases lt_trichotomy m m' with hlt | rfl | hlt
    · have : (m : ℚ) * 2 ^ e < m' * 2 ^ e := mul_lt_mul_of_pos_right (by exact_mod_cast hlt) hpos
      rw [compare_lt_iff_lt.2 hlt, compare_lt_iff_lt.2 this]
      rfl
    · rw [compare_eq_iff_eq.2 rfl, compare_eq_iff_eq.2 rfl]
      rfl
    · have : (m' : ℚ) * 2 ^ e < m * 2 ^ e := mul_lt_mul_of_pos_right (by exact_mod_cast hlt) hpos
      rw [compare_gt_iff_gt.2 hlt, compare_gt_iff_gt.2 this]
      rfl
  · rw [compare_gt_iff_gt.2 hlt, compare_gt_iff_gt.2 (stored_lt_of_exponent_lt h' h hlt)]
    rfl

private theorem stored_pos {m : ℕ} {e : ℤ} (h : IsStored m e) : (0 : ℚ) < m * 2 ^ e :=
  mul_pos (by exact_mod_cast h.pos) (two_zpow_pos e)

/-- A finite number of value zero is one of the two zeros. -/
theorem unpack_zero_of_value {x : Float} (h : x.isFinite = true) (hzero : value x = 0) :
    ∃ s, x.toModel.unpack = .zero s := by
  rcases finite_cases h with hx | ⟨s, m, e, hm, hx⟩
  · exact hx
  · have habs := abs_apply s m e
    rw [← value_of_finite hx, hzero, abs_zero] at habs
    exact absurd habs (ne_of_lt (stored_pos hm))

private theorem apply_negative (m : ℕ) (e : ℤ) : ((Sign.negative.apply m : ℤ) : ℚ) * 2 ^ e = -(m * 2 ^ e) := by
  simp [Sign.apply]

private theorem apply_positive (m : ℕ) (e : ℤ) : ((Sign.positive.apply m : ℤ) : ℚ) * 2 ^ e = m * 2 ^ e := by
  simp [Sign.apply]

private theorem compare_swap (a b : ℚ) : (compare a b).swap = compare (-a) (-b) := by
  rcases lt_trichotomy a b with h | rfl | h
  · rw [compare_lt_iff_lt.2 h, compare_gt_iff_gt.2 (neg_lt_neg h)]; rfl
  · rw [compare_eq_iff_eq.2 rfl, compare_eq_iff_eq.2 rfl]; rfl
  · rw [compare_gt_iff_gt.2 h, compare_lt_iff_lt.2 (neg_lt_neg h)]; rfl

/-- Finite numbers compare as their values. -/
theorem compare_eq {x y : Float} (hx : x.isFinite = true) (hy : y.isFinite = true) :
    x.toModel.unpack.compare y.toModel.unpack = some (compare (value x) (value y)) := by
  rcases finite_cases hx with ⟨s, hx⟩ | ⟨s, m, e, hm, hx⟩ <;>
    rcases finite_cases hy with ⟨s', hy⟩ | ⟨s', m', e', hm', hy⟩
  · rw [value_of_zero hx, value_of_zero hy, hx, hy, compare_eq_iff_eq.2 rfl]
    rfl
  · rw [value_of_zero hx, value_of_finite hy, hx, hy]
    cases s'
    · rw [apply_negative, compare_gt_iff_gt.2 (neg_lt_zero.2 (stored_pos hm'))]; rfl
    · rw [apply_positive, compare_lt_iff_lt.2 (stored_pos hm')]; rfl
  · rw [value_of_finite hx, value_of_zero hy, hx, hy]
    cases s
    · rw [apply_negative, compare_lt_iff_lt.2 (neg_lt_zero.2 (stored_pos hm))]; rfl
    · rw [apply_positive, compare_gt_iff_gt.2 (stored_pos hm)]; rfl
  · rw [value_of_finite hx, value_of_finite hy, hx, hy]
    have hpos := stored_pos hm
    have hpos' := stored_pos hm'
    cases s <;> cases s'
    · rw [apply_negative, apply_negative, ← compare_swap, ← compare_stored hm hm']; rfl
    · rw [apply_negative, apply_positive, compare_lt_iff_lt.2 (by linarith)]; rfl
    · rw [apply_negative, apply_positive, compare_gt_iff_gt.2 (by linarith)]; rfl
    · rw [apply_positive, apply_positive, ← compare_stored hm hm']; rfl

private theorem le_iff_compare (x y : Float) :
    x ≤ y ↔ (x.toModel.unpack.compare y.toModel.unpack).any (·.isLE) = true := by
  change decide (x.toModel ≤ y.toModel) = true ↔ _
  rw [decide_eq_true_iff]
  exact Iff.rfl

theorem lt_iff_compare (x y : Float) :
    x < y ↔ (x.toModel.unpack.compare y.toModel.unpack == some .lt) = true := by
  change decide (x.toModel < y.toModel) = true ↔ _
  rw [decide_eq_true_iff]
  exact Iff.rfl

theorem le_iff {x y : Float} (hx : x.isFinite = true) (hy : y.isFinite = true) : x ≤ y ↔ value x ≤ value y := by
  rw [le_iff_compare, compare_eq hx hy, Option.any_some, Ordering.isLE_iff_ne_gt, compare_gt_iff_gt]
  exact not_lt

theorem lt_iff {x y : Float} (hx : x.isFinite = true) (hy : y.isFinite = true) : x < y ↔ value x < value y := by
  rw [lt_iff_compare, compare_eq hx hy, beq_iff_eq, Option.some.injEq, compare_lt_iff_lt]

theorem beq_iff {x y : Float} (hx : x.isFinite = true) (hy : y.isFinite = true) :
    (x == y) = true ↔ value x = value y := by
  change (x.toModel.unpack.compare y.toModel.unpack == some .eq) = true ↔ _
  rw [compare_eq hx hy, beq_iff_eq, Option.some.injEq, compare_eq_iff_eq]

theorem float_le_of_lt {x y : Float} (h : x < y) : x ≤ y := by
  rw [lt_iff_compare, beq_iff_eq] at h
  rw [le_iff_compare, h]
  rfl

/-- What is not below a finite number is finite or positive infinity. -/
theorem isFinite_of_le {a x : Float} (ha : a.isFinite = true) (h : a ≤ x) :
    x.isFinite = true ∨ x.toModel.unpack = .infinity .positive := by
  rw [le_iff_compare] at h
  change x.toModel.unpack.isFinite = true ∨ _
  cases hx : x.toModel.unpack with
  | zero s => exact .inl rfl
  | finite s m e hm => exact .inl rfl
  | notANumber =>
    rw [hx] at h
    rcases finite_cases ha with ⟨s', ha⟩ | ⟨s', m', e', hm', ha⟩ <;> rw [ha] at h <;> cases h
  | infinity s =>
    cases s with
    | positive => exact .inr rfl
    | negative =>
      rw [hx] at h
      rcases finite_cases ha with ⟨s', ha⟩ | ⟨s', m', e', hm', ha⟩ <;> rw [ha] at h <;> cases h

/-- What lies between two finite numbers is finite. -/
theorem isFinite_of_le_of_le {a x b : Float} (ha : a.isFinite = true) (hb : b.isFinite = true) (hax : a ≤ x)
    (hxb : x ≤ b) : x.isFinite = true := by
  rcases isFinite_of_le ha hax with hx | hx
  · exact hx
  · rw [le_iff_compare, hx] at hxb
    rcases finite_cases hb with ⟨s', hb⟩ | ⟨s', m', e', hm', hb⟩ <;> rw [hb] at hxb <;> cases hxb

/-- A number that is neither finite nor `NaN` is an infinity. -/
theorem unpack_infinity {x : Float} (h : ¬ x.isFinite = true) (hnan : x.isNaN = false) :
    ∃ s, x.toModel.unpack = .infinity s := by
  change ¬ x.toModel.unpack.isFinite = true at h
  change x.toModel.unpack.isNaN = false at hnan
  cases hx : x.toModel.unpack with
  | notANumber => rw [hx] at hnan; cases hnan
  | infinity s => exact ⟨s, rfl⟩
  | zero s => rw [hx] at h; exact absurd rfl h
  | finite s m e hm => rw [hx] at h; exact absurd rfl h

theorem unpack_notANumber {x : Float} (h : x.isNaN = true) : x.toModel.unpack = .notANumber := by
  change x.toModel.unpack.isNaN = true at h
  cases hx : x.toModel.unpack with
  | notANumber => rfl
  | _ => rw [hx] at h; cases h

theorem isNaN_eq_false {x : Float} (h : x.isFinite = true) : x.isNaN = false := by
  change x.toModel.unpack.isNaN = false
  rcases finite_cases h with ⟨s, hx⟩ | ⟨s, m, e, hm, hx⟩ <;> rw [hx] <;> rfl

theorem isInf_eq_false {x : Float} (h : x.isFinite = true) : x.isInf = false := by
  change x.toModel.unpack.isInf = false
  rcases finite_cases h with ⟨s, hx⟩ | ⟨s, m, e, hm, hx⟩ <;> rw [hx] <;> rfl

theorem totalCompare_eq {x y : Float} (hx : x.isFinite = true) (hy : y.isFinite = true) :
    totalCompare x y = compare (value x) (value y) := by
  simp only [totalCompare, isNaN_eq_false hx, isNaN_eq_false hy, Bool.false_eq_true, if_false, lt_iff hx hy,
    lt_iff hy hx]
  rcases lt_trichotomy (value x) (value y) with h | h | h
  · rw [if_pos h, compare_lt_iff_lt.2 h]
  · rw [h, if_neg (lt_irrefl _), if_neg (lt_irrefl _), compare_eq_iff_eq.2 rfl]
  · rw [if_neg (lt_asymm h), if_pos h, compare_gt_iff_gt.2 h]

/-- No finite number is below negative infinity. -/
theorem not_totalCompare_lt_negative {x y : Float} (hx : x.isFinite = true)
    (hy : y.toModel.unpack = .infinity .negative) : ¬ totalCompare x y = .lt := by
  have hnumber : y.isNaN = false := by
    change y.toModel.unpack.isNaN = false
    rw [hy]
    rfl
  have hlt : ¬ x < y := by
    rw [lt_iff_compare, hy]
    rcases finite_cases hx with ⟨s, hx⟩ | ⟨s, m, e, hm, hx⟩ <;> rw [hx] <;> cases s <;> exact Bool.false_ne_true
  intro h
  rw [totalCompare, isNaN_eq_false hx, hnumber, if_neg Bool.false_ne_true, if_neg Bool.false_ne_true, if_neg hlt] at h
  split at h <;> cases h

theorem totalCompare_negative {x y : Float} (hx : x.toModel.unpack = .infinity .negative) (hy : y.isFinite = true) :
    totalCompare x y = .lt := by
  have hnumber : x.isNaN = false := by
    change x.toModel.unpack.isNaN = false
    rw [hx]
    rfl
  have hlt : x < y := by
    rw [lt_iff_compare, hx]
    rcases finite_cases hy with ⟨s, hy⟩ | ⟨s, m, e, hm, hy⟩ <;> rw [hy] <;> rfl
  rw [totalCompare, hnumber, isNaN_eq_false hy, if_neg Bool.false_ne_true, if_neg Bool.false_ne_true, if_pos hlt]

theorem totalCompare_of_isNaN {x y : Float} (hx : x.isFinite = true) (hy : y.isNaN = true) :
    totalCompare x y = .lt := by
  rw [totalCompare, isNaN_eq_false hx, if_neg Bool.false_ne_true, if_pos hy]

private theorem mantissa_compare_swap (m m' : ℕ) (e e' : ℤ) :
    ((compare e e').then (compare m m')).swap = (compare e' e).then (compare m' m) := by
  rw [Ordering.swap_then, ← Std.OrientedCmp.eq_swap, ← Std.OrientedCmp.eq_swap]

private theorem unpacked_compare_swap (u v : UnpackedFloat) : (u.compare v).map (·.swap) = v.compare u := by
  rcases u with ⟨⟨⟩⟩ | _ | s | ⟨⟨⟩, m, e, hm⟩ <;> rcases v with ⟨⟨⟩⟩ | _ | s' | ⟨⟨⟩, m', e', hm'⟩ <;> try rfl
  -- only two finite numbers of one sign compare by their mantissas
  · exact congrArg (fun o : Ordering => some o.swap) (mantissa_compare_swap m m' e e')
  · exact congrArg some (mantissa_compare_swap m m' e e')

theorem float_lt_asymm {x y : Float} (h : x < y) : ¬ y < x := by
  rw [lt_iff_compare, beq_iff_eq] at h ⊢
  rw [← unpacked_compare_swap, h]
  decide

/-- The total order of all numbers, `NaN` among them, does not depend on the side that it is asked from. -/
theorem totalCompare_swap (x y : Float) : (totalCompare x y).swap = totalCompare y x := by
  unfold totalCompare
  cases x.isNaN <;> cases y.isNaN
  · by_cases hlt : x < y
    · simp [hlt, float_lt_asymm hlt]
    · by_cases hgt : y < x <;> simp [hlt, hgt]
  · rfl
  · rfl
  · rfl

/-! ### Numbers of one value -/

private theorem stored_inj {m m' : ℕ} {e e' : ℤ} (h : IsStored m e) (h' : IsStored m' e')
    (heq : (m : ℚ) * 2 ^ e = m' * 2 ^ e') : m = m' ∧ e = e' := by
  have hcompare := compare_stored h h'
  rw [compare_eq_iff_eq.2 heq, Ordering.then_eq_eq, compare_eq_iff_eq, compare_eq_iff_eq] at hcompare
  exact hcompare.symm

/-- A number is determined by what it unpacks to. -/
theorem eq_of_unpack_eq {x y : Float} (h : x.toModel.unpack = y.toModel.unpack) : x = y := by
  rcases x with ⟨x⟩
  rcases y with ⟨y⟩
  rw [← pack_unpack x, ← pack_unpack y]
  exact congrArg (fun u => Float.ofModel (.pack u)) h

/-- A nonzero finite number is determined by its value. -/
theorem eq_of_value_eq {x y : Float} (hx : x.isFinite = true) (hy : y.isFinite = true) (hne : value y ≠ 0)
    (h : value x = value y) : x = y := by
  refine eq_of_unpack_eq ?_
  rcases finite_cases hx with ⟨s, hx⟩ | ⟨s, m, e, hm, hx⟩
  · rw [← h, value_of_zero hx] at hne
    exact absurd rfl hne
  · rcases finite_cases hy with ⟨s', hy⟩ | ⟨s', m', e', hm', hy⟩
    · rw [value_of_zero hy] at hne
      exact absurd rfl hne
    · rw [value_of_finite hx, value_of_finite hy] at h
      have habs := congrArg abs h
      rw [abs_apply, abs_apply] at habs
      obtain ⟨rfl, rfl⟩ := stored_inj hm hm' habs
      have hpos := stored_pos hm
      have hsign : s = s' := by
        cases s <;> cases s'
        · rfl
        · rw [apply_negative, apply_positive] at h; linarith
        · rw [apply_negative, apply_positive] at h; linarith
        · rfl
      rw [hx, hy, hsign]

/-! ### Numbers that compare as equal -/

theorem beq_self {x : Float} (h : x.isNaN = false) : (x == x) = true := by
  by_cases hx : x.isFinite = true
  · exact (beq_iff hx hx).2 rfl
  · obtain ⟨s, hs⟩ := unpack_infinity hx h
    change (x.toModel.unpack.compare x.toModel.unpack == some .eq) = true
    rw [hs]
    cases s <;> rfl

private theorem mantissa_eq_of_compare {m m' : ℕ} {e e' : ℤ} (h : (compare e e').then (compare m m') = .eq) :
    m = m' ∧ e = e' := by
  rw [Ordering.then_eq_eq, compare_eq_iff_eq, compare_eq_iff_eq] at h
  exact h.symm

private theorem unpacked_eq_of_compare {u v : UnpackedFloat} (h : u.compare v = some .eq) :
    u = v ∨ ∃ s s', u = .zero s ∧ v = .zero s' := by
  rcases u with ⟨⟨⟩⟩ | _ | s | ⟨⟨⟩, m, e, hm⟩ <;> rcases v with ⟨⟨⟩⟩ | _ | s' | ⟨⟨⟩, m', e', hm'⟩ <;>
    first | exact .inl rfl | exact .inr ⟨_, _, rfl, rfl⟩ | cases h | skip
  -- two finite numbers of one sign are left
  · obtain ⟨rfl, rfl⟩ := mantissa_eq_of_compare (Ordering.swap_eq_eq.1 (Option.some.inj h))
    exact .inl rfl
  · obtain ⟨rfl, rfl⟩ := mantissa_eq_of_compare (Option.some.inj h)
    exact .inl rfl

/-- Numbers that compare as equal are one number, or both of them are zeros. -/
theorem eq_or_zero_of_beq {x y : Float} (h : (x == y) = true) :
    x = y ∨ ∃ s s', x.toModel.unpack = .zero s ∧ y.toModel.unpack = .zero s' := by
  change (x.toModel.unpack.compare y.toModel.unpack == some .eq) = true at h
  rw [beq_iff_eq] at h
  exact (unpacked_eq_of_compare h).imp_left eq_of_unpack_eq

end CarbonAware.Numeral
