import CarbonAware.Toml.Reader
import CarbonAware.Toml.Writer
import CarbonAware.Proofs.Numeral.Digits
import CarbonAware.Proofs.Numeral.ShortestDecimal

/-!
# Scalars read back

What is written for an integer or a floating-point number is read as that number (`scalar?_integer`,
`scalar?_floatText`), the zeros, the infinities and `NaN` included.
-/

namespace CarbonAware.Toml

open Numeral (natural digitsValue signText Written)
open Float.Model.UnpackedFloat (Sign)

/-! ### Digits -/

/-- A digit or a point. -/
def isNumeral (c : Char) : Bool := c.isDigit || c == '.'

theorem digits?_eq {text : List Char} (h : ∀ c ∈ text, c.isDigit = true) (hne : text ≠ []) :
    digits? Char.isDigit text = some text := by
  induction text with
  | nil => exact absurd rfl hne
  | cons c rest ih =>
    have hc := h c List.mem_cons_self
    cases rest with
    | nil => rw [digits?, if_pos hc]
    | cons d rest =>
      have hd := h d (List.mem_cons_of_mem _ List.mem_cons_self)
      have hunderscore : d ≠ '_' := by
        rintro rfl
        cases hd
      rw [digits?, if_pos hc, ih (fun c hc => h c (List.mem_cons_of_mem _ hc)) (List.cons_ne_nil _ _)]
      · rfl
      all_goals simp [hunderscore]

theorem wholeDigits?_eq {text : List Char} (h : ∀ c ∈ text, c.isDigit = true) (hne : text ≠ [])
    (hleading : ∀ rest, text = '0' :: rest → rest = []) : wholeDigits? text = some text := by
  unfold wholeDigits?
  rw [digits?_eq h hne]
  split
  · rename_i heq
    cases hleading _ (Option.some.inj heq)
  · rfl

/-! ### Signs and words -/

/-- The minus sign of a negative number. -/
def minus (negative : Bool) : List Char := if negative then ['-'] else []

/-- A text without a letter of a word is not that word. -/
private theorem ofList_ne {text : List Char} {word : String} (c : Char) (hword : c ∈ word.toList) (h : c ∉ text) :
    String.ofList text ≠ word := by
  rintro rfl
  rw [String.toList_ofList] at hword
  exact h hword

section Words

variable {text : List Char} (h : ∀ c ∈ text, isNumeral c = true) (negative : Bool)

include h

private theorem splitSign_minus : Numeral.splitSign (minus negative ++ text) = (negative, text) := by
  cases negative with
  | true => rfl
  | false =>
    change Numeral.splitSign text = _
    unfold Numeral.splitSign
    split
    · cases h '-' List.mem_cons_self
    · cases h '+' List.mem_cons_self
    · rfl

private theorem not_mem_text {c : Char} (hc : isNumeral c = false) : c ∉ text := fun hmem => by
  rw [h c hmem] at hc
  cases hc

private theorem not_mem_minus {c : Char} (hc : isNumeral c = false) (hsign : c ≠ '-') : c ∉ minus negative ++ text := by
  refine fun hmem => (List.mem_append.1 hmem).elim (fun hminus => ?_) (not_mem_text h hc)
  cases negative with
  | true => exact hsign (List.mem_singleton.1 hminus)
  | false => cases hminus

/-- A number of digits and points is not in another base, and neither infinite nor no number. -/
theorem number?_eq : number? (minus negative ++ text) = unsignedNumber? negative text := by
  unfold number?
  split
  · rename_i heq
    have hmem : 'x' ∈ minus negative ++ text := heq ▸ List.mem_cons_of_mem _ List.mem_cons_self
    exact absurd hmem (not_mem_minus h negative rfl (by decide))
  · rename_i heq
    have hmem : 'o' ∈ minus negative ++ text := heq ▸ List.mem_cons_of_mem _ List.mem_cons_self
    exact absurd hmem (not_mem_minus h negative rfl (by decide))
  · rename_i heq
    have hmem : 'b' ∈ minus negative ++ text := heq ▸ List.mem_cons_of_mem _ List.mem_cons_self
    exact absurd hmem (not_mem_minus h negative rfl (by decide))
  · rw [splitSign_minus h]
    dsimp only
    split
    · rename_i heq
      exact absurd heq (ofList_ne 'i' (by decide) (not_mem_text h (by decide)))
    · rename_i heq
      exact absurd heq (ofList_ne 'n' (by decide) (not_mem_text h (by decide)))
    · rfl

/-- A number of digits and points is no word. -/
theorem scalar?_eq {v : Value} (hv : unsignedNumber? negative text = some v) :
    scalar? (minus negative ++ text) = some v := by
  unfold scalar?
  split
  · rename_i heq
    exact absurd heq (ofList_ne 't' (by decide) (not_mem_minus h negative (by decide) (by decide)))
  · rename_i heq
    exact absurd heq (ofList_ne 'f' (by decide) (not_mem_minus h negative (by decide) (by decide)))
  · rw [number?_eq h, hv]
    rfl

end Words

/-! ### Integers -/

private theorem isPart_of_isDigit {digits : List Char} (h : ∀ c ∈ digits, c.isDigit = true) :
    ∀ c ∈ digits, (c.isDigit || c == '_') = true := fun c hc => by rw [h c hc, Bool.true_or]

private theorem isNumeral_of_isDigit {c : Char} (h : c.isDigit = true) : isNumeral c = true := by
  rw [isNumeral, h, Bool.true_or]

private theorem unsignedNumber?_natural (n : ℕ) (negative : Bool) :
    unsignedNumber? negative (natural n) = decimalInteger? negative (natural n) := by
  have hdigits : ∀ c ∈ natural n, c.isDigit = true := fun c hc => Numeral.isDigit_of_mem_natural hc
  have htake := List.takeWhile_eq_self_iff.2 (isPart_of_isDigit hdigits)
  have hdrop := List.dropWhile_eq_nil_iff.2 (isPart_of_isDigit hdigits)
  have hwhole := wholeDigits?_eq hdigits (Numeral.natural_ne_nil n) fun rest => Numeral.natural_leading
  simp only [unsignedNumber?, htake, hdrop, hwhole]
  rfl

theorem integer_eq (n : ℤ) : Numeral.integer n = minus (decide (n < 0)) ++ natural n.natAbs := by
  cases n with
  | ofNat n => rfl
  | negSucc n => rw [decide_eq_true (Int.negSucc_lt_zero n)]; rfl

/-- Integers of 64 bits, and somewhat larger ones, read back. -/
theorem scalar?_integer {n : ℤ} (h : |n| ≤ 2 ^ 64) : scalar? (Numeral.integer n) = some (.integer n) := by
  rw [integer_eq]
  refine scalar?_eq (fun c hc => isNumeral_of_isDigit (Numeral.isDigit_of_mem_natural hc)) _ ?_
  rw [unsignedNumber?_natural, decimalInteger?, Numeral.digitsValue_natural]
  have habs : n.natAbs ≤ 2 ^ 64 := by
    rw [Int.abs_eq_natAbs] at h
    exact_mod_cast h
  have hlarge : (2 : ℕ) ^ 64 < Nat.pow 2 127 := by decide
  rcases lt_or_ge n 0 with hneg | hnonneg
  · rw [decide_eq_true hneg, if_pos rfl, if_pos (by omega)]
    exact congrArg (fun n => some (Value.integer n)) (by omega)
  · have hlarge' : Nat.pow 2 127 < Nat.pow 2 128 := by decide
    rw [decide_eq_false (not_lt.2 hnonneg), if_neg Bool.false_ne_true, if_pos (by omega)]
    exact congrArg (fun n => some (Value.integer n)) (by omega)

/-! ### Floating-point numbers -/

section Floats

variable {whole places : List Char} {q : ℚ}

/-- A decimal with a point is read to the nearest number. -/
theorem scalar?_written (h : Written whole places q) (hq : Numeral.InRange q) (negative : Bool) :
    ∃ x, Numeral.Rounds x q ∧ scalar? (minus negative ++ (whole ++ '.' :: places)) =
      some (.float (if negative then -x else x)) := by
  refine ⟨_, h.rounds hq, scalar?_eq (fun c hc => ?_) negative ?_⟩
  · rcases List.mem_append.1 hc with hc | hc
    · exact isNumeral_of_isDigit (h.isDigit_whole c hc)
    · rcases List.mem_cons.1 hc with rfl | hc
      · rfl
      · exact isNumeral_of_isDigit (h.isDigit_places c hc)
  · obtain ⟨htake, hdrop⟩ := @Numeral.takeWhile_dropWhile_append Char _ whole ('.' :: places)
      (isPart_of_isDigit h.isDigit_whole) rfl
    have htake' := List.takeWhile_eq_self_iff.2 (isPart_of_isDigit h.isDigit_places)
    have hdrop' := List.dropWhile_eq_nil_iff.2 (isPart_of_isDigit h.isDigit_places)
    have hfinite := Numeral.isInf_eq_false (h.rounds hq).isFinite
    simp only [unsignedNumber?, htake, hdrop, wholeDigits?_eq h.isDigit_whole h.whole_ne_nil h.no_leading_zero, htake',
      hdrop', digits?_eq h.isDigit_places h.places_ne_nil, exponentText?, decimalFloat?, List.append_nil,
      h.unsignedDecimal?_eq, Option.bind_eq_bind, Option.bind_some, hfinite, Bool.false_eq_true, if_false]
    rfl

end Floats

/-- The digits of a decimal around its point, which a whole number is given when it is written. -/
private theorem positional_written {d : Numeral.Decimal} (hd : 0 < d.digits) :
    ∃ whole places, Written whole places (d.digits * 10 ^ d.exponent) ∧
      ((d.positional = whole ++ '.' :: places) ∨
        d.positional = whole ∧ places = ['0'] ∧ ∀ c ∈ whole, c.isDigit = true) := by
  unfold Numeral.Decimal.positional
  split
  · rename_i hexponent
    have hwritten := Numeral.whole_written hd d.exponent.toNat
    rw [← zpow_natCast, Int.toNat_of_nonneg hexponent] at hwritten
    exact ⟨_, _, hwritten, .inr ⟨rfl, rfl, hwritten.isDigit_whole⟩⟩
  · rename_i hexponent
    obtain ⟨whole, places, htext, hwritten⟩ := Numeral.pointed_written hd (k := (-d.exponent).toNat) (by omega)
    rw [Int.toNat_of_nonneg (by omega), neg_neg] at hwritten
    exact ⟨whole, places, hwritten, .inl htext⟩

/-- Whether the sign is a minus. -/
private def isMinus : Sign → Bool
  | .negative => true
  | .positive => false

private theorem signText_eq (s : Sign) : signText s = minus (isMinus s) := by cases s <;> rfl

/-- A finite number is written with a point. -/
private theorem floatText_of_finite {x : Float} (h : x.isFinite = true) : floatText x =
    if (Numeral.plainText x).contains '.' then Numeral.plainText x else Numeral.plainText x ++ ".0".toList := by
  simp only [floatText, Numeral.isNaN_eq_false h, Numeral.isInf_eq_false h, Bool.false_eq_true, if_false, Bool.false_or]

private theorem floatText_notANumber {x : Float} (h : x.toModel.unpack = .notANumber) : floatText x = "nan".toList := by
  have hnan : x.isNaN = true := by
    change x.toModel.unpack.isNaN = true
    rw [h]
    rfl
  rw [floatText, if_pos hnan]

private theorem floatText_infinity {x : Float} {s : Sign} (h : x.toModel.unpack = .infinity s) :
    floatText x = minus (isMinus s) ++ "inf".toList := by
  have hnan : x.isNaN = false := by
    change x.toModel.unpack.isNaN = false
    rw [h]
    rfl
  have hinf : x.isInf = true := by
    change x.toModel.unpack.isInf = true
    rw [h]
    rfl
  simp only [floatText, hnan, hinf, Numeral.plainText, h, signText_eq]
  rfl

private theorem floatText_zero {x : Float} {s : Sign} (h : x.toModel.unpack = .zero s) :
    floatText x = minus (isMinus s) ++ "0.0".toList := by
  have hplain : Numeral.plainText x = minus (isMinus s) ++ ['0'] := by simp only [Numeral.plainText, h, signText_eq]
  rw [floatText_of_finite (Numeral.isFinite_of_zero h), hplain]
  cases s <;> rfl

/-- Any other number is written as its shortest decimal. -/
private theorem floatText_written {x : Float} {s : Sign} {m : ℕ} {e : ℤ} {h : 0 < m}
    (hx : x.toModel.unpack = .finite s m e h) (hm : Numeral.IsStored m e) : ∃ whole places,
    floatText x = minus (isMinus s) ++ (whole ++ '.' :: places) ∧
      Written whole places ((Numeral.shortest m e).digits * 10 ^ (Numeral.shortest m e).exponent) := by
  have hdigits : 0 < (Numeral.shortest m e).digits := by
    rw [Nat.pos_iff_ne_zero]
    intro hzero
    have hnearest := Numeral.nearest_shortest hm
    rw [hzero, Nat.cast_zero, zero_mul, Numeral.nearest_zero] at hnearest
    have hpos : (0 : ℚ) < m * 2 ^ e := mul_pos (by exact_mod_cast h) (Numeral.two_zpow_pos e)
    rw [← hnearest] at hpos
    exact lt_irrefl _ hpos
  have hplain : Numeral.plainText x = minus (isMinus s) ++ (Numeral.shortest m e).positional := by
    simp only [Numeral.plainText, hx, signText_eq]
  obtain ⟨whole, places, hwritten, hpoint | ⟨hwhole, rfl, hdigit⟩⟩ := positional_written hdigits
  · refine ⟨whole, places, ?_, hwritten⟩
    rw [floatText_of_finite (Numeral.isFinite_of_finite hx), hplain, hpoint, if_pos]
    simp
  · refine ⟨whole, ['0'], ?_, hwritten⟩
    have hnone : '.' ∉ minus (isMinus s) ++ whole := by
      intro hmem
      rcases List.mem_append.1 hmem with hmem | hmem
      · cases s
        · cases List.mem_singleton.1 hmem
        · cases hmem
      · cases hdigit '.' hmem
    rw [floatText_of_finite (Numeral.isFinite_of_finite hx), hplain, hwhole, if_neg (by simpa using hnone),
      List.append_assoc]
    rfl

/-- A number that is neither a zero, infinite nor `NaN` reads back. -/
private theorem scalar?_floatText_finite {x : Float} {s : Sign} {m : ℕ} {e : ℤ} {h : 0 < m}
    (hx : x.toModel.unpack = .finite s m e h) : scalar? (floatText x) = some (.float x) := by
  have hm := Numeral.isStored_of_unpack hx
  have hnearest := Numeral.nearest_shortest hm
  have hfinite := Numeral.isFinite_of_finite hx
  have hpos : (0 : ℚ) < m * 2 ^ e := mul_pos (by exact_mod_cast h) (Numeral.two_zpow_pos e)
  have hvalue : Numeral.value x = Numeral.signed s (m * 2 ^ e) :=
    (Numeral.value_of_finite hx).trans (Numeral.apply_eq_signed s m e)
  have hne : Numeral.value x ≠ 0 := by
    rw [← abs_ne_zero, Numeral.value_of_finite hx, Numeral.abs_apply]
    exact ne_of_gt hpos
  obtain ⟨whole, places, htext, hwritten⟩ := floatText_written hx hm
  have hrange := Numeral.inRange_value hfinite
  rw [Numeral.InRange, Numeral.nearest_value, Numeral.value_of_finite hx, Numeral.abs_apply] at hrange
  -- the decimal is in range, since it is rounded to a number that is stored
  have hdecimal : Numeral.InRange ((Numeral.shortest m e).digits * 10 ^ (Numeral.shortest m e).exponent) := by
    rwa [Numeral.InRange, hnearest, abs_of_pos hpos]
  obtain ⟨y, hy, hread⟩ := scalar?_written hwritten hdecimal (isMinus s)
  have hy_value : Numeral.value y = m * 2 ^ e := hy.value_eq.trans hnearest
  rw [htext, hread]
  congr 2
  cases s with
  | negative =>
    refine Numeral.eq_of_value_eq (Numeral.isFinite_neg hy.isFinite) hfinite hne ?_
    change Numeral.value (-y) = _
    rw [Numeral.value_neg, hy_value, hvalue]
    rfl
  | positive =>
    refine Numeral.eq_of_value_eq hy.isFinite hfinite hne ?_
    change Numeral.value y = _
    rw [hy_value, hvalue]
    rfl

/-- Every floating-point number reads back. -/
theorem scalar?_floatText (x : Float) : scalar? (floatText x) = some (.float x) := by
  cases hx : x.toModel.unpack with
  | notANumber =>
    have heq : x = 0.0 / 0.0 := Numeral.eq_of_unpack_eq (hx.trans (by rfl))
    rw [floatText_notANumber hx, heq]
    rfl
  | infinity s =>
    rw [floatText_infinity hx]
    cases s with
    | negative =>
      have heq : x = -(1.0 / 0.0) := Numeral.eq_of_unpack_eq (hx.trans (by rfl))
      rw [heq]
      rfl
    | positive =>
      have heq : x = 1.0 / 0.0 := Numeral.eq_of_unpack_eq (hx.trans (by rfl))
      rw [heq]
      rfl
  | zero s =>
    rw [floatText_zero hx]
    cases s with
    | negative =>
      have heq : x = -0.0 := Numeral.eq_of_unpack_eq (hx.trans (by rfl))
      rw [heq]
      rfl
    | positive =>
      have heq : x = 0.0 := Numeral.eq_of_unpack_eq (hx.trans (by rfl))
      rw [heq]
      rfl
  | finite s m e h => exact scalar?_floatText_finite hx

/-! ### Characters of numbers -/

private theorem isScalarChar_of_isDigit {c : Char} (h : c.isDigit = true) : Reader.isScalarChar c = true := by
  simp only [Reader.isScalarChar, Char.isAlphanum, h, Bool.or_true, Bool.true_or]

theorem isScalarChar_natural (n : ℕ) : ∀ c ∈ natural n, Reader.isScalarChar c = true := fun _ hc =>
  isScalarChar_of_isDigit (Numeral.isDigit_of_mem_natural hc)

private theorem isScalarChar_minus {text : List Char} (h : ∀ c ∈ text, Reader.isScalarChar c = true) (negative : Bool) :
    ∀ c ∈ minus negative ++ text, Reader.isScalarChar c = true := by
  cases negative with
  | true =>
    intro c hc
    rcases List.mem_cons.1 hc with rfl | hc
    · rfl
    · exact h c hc
  | false => exact h

theorem isScalarChar_integer (n : ℤ) : ∀ c ∈ Numeral.integer n, Reader.isScalarChar c = true := by
  rw [integer_eq]
  exact isScalarChar_minus (isScalarChar_natural _) _

theorem isScalarChar_floatText (x : Float) : ∀ c ∈ floatText x, Reader.isScalarChar c = true := by
  cases hx : x.toModel.unpack with
  | notANumber =>
    rw [floatText_notANumber hx]
    exact List.all_eq_true.1 rfl
  | infinity s =>
    rw [floatText_infinity hx]
    exact isScalarChar_minus (List.all_eq_true.1 rfl) _
  | zero s =>
    rw [floatText_zero hx]
    exact isScalarChar_minus (List.all_eq_true.1 rfl) _
  | finite s m e h =>
    obtain ⟨whole, places, htext, hwritten⟩ := floatText_written hx (Numeral.isStored_of_unpack hx)
    rw [htext]
    refine isScalarChar_minus (fun c hc => ?_) _
    rcases List.mem_append.1 hc with hc | hc
    · exact isScalarChar_of_isDigit (hwritten.isDigit_whole c hc)
    · rcases List.mem_cons.1 hc with rfl | hc
      · rfl
      · exact isScalarChar_of_isDigit (hwritten.isDigit_places c hc)

end CarbonAware.Toml
