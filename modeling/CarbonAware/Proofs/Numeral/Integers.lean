import CarbonAware.Proofs.Numeral.Digits

/-!
# Integers read back

Reading an integer appends its digits one by one and keeps the value within the bounds on the way, which a value that
ends within them never leaves (`accumulate_eq`).  So what is written for an integer is read as that integer by every
reader whose bounds it lies within (`boundedInteger_integer`).
-/

namespace CarbonAware.Numeral

/-- The integer of a sign, `true` for a minus, and an amount. -/
def withSign (negative : Bool) (n : ℕ) : ℤ := if negative then -n else n

/-- Appending digits moves a value away from zero. -/
private theorem le_ofDigitChars (digits : List Char) (n : ℕ) : n ≤ Nat.ofDigitChars 10 digits n := by
  induction digits generalizing n with
  | nil => exact Nat.le_refl n
  | cons c rest ih =>
    rw [Nat.ofDigitChars_cons]
    exact le_trans (by omega) (ih _)

/-- An amount that is no greater than one within the bounds is within the bounds. -/
private theorem withSign_bounds {negative : Bool} {lo hi : ℤ} (hlo : lo ≤ 0) (hhi : 0 ≤ hi) {m n : ℕ} (hle : m ≤ n)
    (h : lo ≤ withSign negative n ∧ withSign negative n ≤ hi) :
    lo ≤ withSign negative m ∧ withSign negative m ≤ hi := by
  cases negative with
  | false =>
    simp only [withSign, Bool.false_eq_true, if_false] at h ⊢
    omega
  | true =>
    simp only [withSign, if_true] at h ⊢
    omega

private theorem withSign_digit (negative : Bool) (n : ℕ) {c : Char} (hc : c.isDigit = true) :
    (if negative then 10 * withSign negative n - ((c.toNat : ℤ) - 48)
      else 10 * withSign negative n + ((c.toNat : ℤ) - 48)) = withSign negative (10 * n + (c.toNat - '0'.toNat)) := by
  have hzero : '0'.toNat = 48 := rfl
  have hdigit : 48 ≤ c.toNat := by
    simp only [Char.isDigit, Bool.and_eq_true, decide_eq_true_eq, ge_iff_le, UInt32.le_iff_toNat_le] at hc
    exact hc.1
  rw [hzero]
  cases negative with
  | false =>
    simp only [withSign, Bool.false_eq_true, if_false]
    omega
  | true =>
    simp only [withSign, if_true]
    omega

/-- Digits whose value lies within the bounds are all read. -/
theorem accumulate_eq {negative : Bool} {lo hi : ℤ} (hlo : lo ≤ 0) (hhi : 0 ≤ hi) {digits : List Char}
    (hdigits : ∀ c ∈ digits, c.isDigit = true) (n : ℕ)
    (h : lo ≤ withSign negative (Nat.ofDigitChars 10 digits n) ∧
      withSign negative (Nat.ofDigitChars 10 digits n) ≤ hi) :
    accumulate negative lo hi (withSign negative n) digits =
      .ok (withSign negative (Nat.ofDigitChars 10 digits n)) := by
  induction digits generalizing n with
  | nil => rfl
  | cons c rest ih =>
    rw [List.forall_mem_cons] at hdigits
    rw [Nat.ofDigitChars_cons] at h ⊢
    obtain ⟨hlower, hupper⟩ := withSign_bounds hlo hhi (le_ofDigitChars rest _) h
    simp only [accumulate, if_pos hdigits.1, withSign_digit negative n hdigits.1]
    rw [if_neg (not_lt.2 hupper), if_neg (not_lt.2 hlower)]
    exact ih hdigits.2 _ h

/-- The digits of a natural number are read from zero on. -/
private theorem accumulate_natural {negative : Bool} {lo hi : ℤ} {n : ℕ} (hlo : lo ≤ 0) (hhi : 0 ≤ hi)
    (h : lo ≤ withSign negative n ∧ withSign negative n ≤ hi) :
    accumulate negative lo hi 0 (natural n) = .ok (withSign negative n) := by
  have hvalue : Nat.ofDigitChars 10 (natural n) 0 = n := digitsValue_natural n
  have hread := @accumulate_eq negative lo hi hlo hhi (natural n) (fun c => isDigit_of_mem_natural) 0
  have hzero : withSign negative 0 = 0 := by cases negative <;> rfl
  rw [hvalue, hzero] at hread
  exact hread h

/-- A text without a sign is read upwards. -/
private theorem boundedInteger_digits {lo hi : ℤ} {digits : List Char} (hdigits : ∀ c ∈ digits, c.isDigit = true)
    (hne : digits ≠ []) : boundedInteger lo hi (String.ofList digits) = accumulate false lo hi 0 digits := by
  unfold boundedInteger
  rw [String.toList_ofList]
  split
  · exact absurd rfl hne
  · cases hdigits '+' List.mem_cons_self
  · cases hdigits '-' List.mem_cons_self
  · cases hdigits '+' List.mem_cons_self
  · cases hdigits '-' List.mem_cons_self
  · rfl

/-- A text with a minus sign is read downwards. -/
private theorem boundedInteger_minus {lo hi : ℤ} (hlo : lo < 0) {digits : List Char} (hne : digits ≠ []) :
    boundedInteger lo hi (String.ofList ('-' :: digits)) = accumulate true lo hi 0 digits := by
  obtain ⟨c, rest, rfl⟩ := List.exists_cons_of_ne_nil hne
  unfold boundedInteger
  rw [String.toList_ofList]
  exact if_pos hlo

/-- What is written for an integer is read as that integer. -/
theorem boundedInteger_integer {lo hi n : ℤ} (hlo : lo ≤ 0) (hhi : 0 ≤ hi) (hn : lo ≤ n ∧ n ≤ hi) :
    boundedInteger lo hi (String.ofList (integer n)) = .ok n := by
  cases n with
  | ofNat n =>
    rw [integer, boundedInteger_digits (fun c => isDigit_of_mem_natural) (natural_ne_nil n)]
    exact @accumulate_natural false lo hi n hlo hhi hn
  | negSucc n =>
    rw [integer, boundedInteger_minus (lt_of_le_of_lt hn.1 (Int.negSucc_lt_zero n)) (natural_ne_nil (n + 1))]
    exact @accumulate_natural true lo hi (n + 1) hlo hhi hn

end CarbonAware.Numeral
