/-!
# Rounding and range

`roundDiv num den` is the natural number nearest to `num / den`; a half goes to the even neighbour.
`truncate lo hi x` is the integer part of a floating-point number, kept within `lo` and `hi`.
`wrapInt64 n` is what arithmetic on 64-bit signed numbers gives where exact arithmetic gives `n`: the same if it is in
range (`wrapInt64_of_mem`), and otherwise `n` wrapped around.
`totalCompare` orders all floating-point numbers, with `NaN` equal to itself and above every number.
-/

namespace CarbonAware.Numeral

/-- The natural number nearest to `num / den`, a half going to the even neighbour. -/
def roundDiv (num den : Nat) : Nat :=
  let quotient := num / den
  match compare (2 * (num % den)) den with
  | .lt => quotient
  | .eq => quotient + quotient % 2
  | .gt => quotient + 1

/-- The integer part of `x`, clamped to `lo` and `hi`; `NaN` gives zero, an infinity its bound. -/
def truncate (lo hi : Int) (x : Float) : Int :=
  max lo (min (x.toModel.unpack.toInt lo hi) hi)

/-- The greatest 32-bit unsigned integer. -/
def maxUInt32 : Nat := 4294967295

/-- The least 64-bit signed integer. -/
def minInt64 : Int := -9223372036854775808

/-- The greatest 64-bit signed integer. -/
def maxInt64 : Int := 9223372036854775807

/-- The greatest 64-bit unsigned integer. -/
def maxUInt64 : Nat := 18446744073709551615

/-- The 64-bit signed number that has the last 64 bits of `n`. -/
def wrapInt64 (n : Int) : Int := (n + 9223372036854775808) % 18446744073709551616 - 9223372036854775808

/-- A total order: numbers as usual, the two zeros equal, and `NaN` equal to itself and above every number. -/
def totalCompare (x y : Float) : Ordering :=
  if x.isNaN then (if y.isNaN then .eq else .gt)
  else if y.isNaN then .lt
  else if x < y then .lt
  else if y < x then .gt
  else .eq

theorem wrapInt64_eq_toInt (n : Int) : wrapInt64 n = (Int64.ofInt n).toInt := by
  have hsize : Int64.size = 18446744073709551616 := rfl
  rw [Int64.toInt_ofInt, Int.bmod_def, hsize]
  unfold wrapInt64
  split <;> omega

theorem wrapInt64_of_mem {n : Int} (h : -9223372036854775808 ≤ n) (h' : n < 9223372036854775808) :
    wrapInt64 n = n := by
  unfold wrapInt64
  omega

theorem wrapInt64_bounds (n : Int) : minInt64 ≤ wrapInt64 n ∧ wrapInt64 n ≤ maxInt64 := by
  unfold wrapInt64 minInt64 maxInt64
  omega

theorem wrapInt64_wrapInt64 (n : Int) : wrapInt64 (wrapInt64 n) = wrapInt64 n := by
  unfold wrapInt64
  omega

/-- Numbers that wrap on the way to a sum do not change what the sum wraps to. -/
theorem wrapInt64_add_left (a b : Int) : wrapInt64 (wrapInt64 a + b) = wrapInt64 (a + b) := by
  unfold wrapInt64
  omega

theorem wrapInt64_add_right (a b : Int) : wrapInt64 (a + wrapInt64 b) = wrapInt64 (a + b) := by
  rw [Int.add_comm, wrapInt64_add_left, Int.add_comm]

theorem totalCompare_nan {x y : Float} (hx : x.isNaN = true) (hy : y.isNaN = true) :
    totalCompare x y = .eq := by
  rw [totalCompare, if_pos hx, if_pos hy]

/-- Twice the distance of `roundDiv` from the exact quotient is at most one. -/
theorem roundDiv_near (num : Nat) {den : Nat} (h : 0 < den) :
    2 * num ≤ den * (2 * roundDiv num den + 1) ∧ den * (2 * roundDiv num den) ≤ 2 * num + den := by
  have hdiv := Nat.div_add_mod num den
  have hmod := Nat.mod_lt num h
  have hexp (a : Nat) : den * (2 * a) = 2 * (den * a) := by
    rw [← Nat.mul_assoc, Nat.mul_comm den 2, Nat.mul_assoc]
  rw [Nat.mul_add, Nat.mul_one, hexp]
  unfold roundDiv
  simp only
  split
  · rename_i hc
    rw [Nat.compare_eq_lt] at hc
    omega
  · rename_i hc
    rw [Nat.compare_eq_eq] at hc
    rcases Nat.mod_two_eq_zero_or_one (num / den) with h2 | h2 <;> rw [h2]
    · rw [Nat.add_zero]; omega
    · rw [Nat.mul_add, Nat.mul_one]; omega
  · rename_i hc
    rw [Nat.compare_eq_gt] at hc
    rw [Nat.mul_add, Nat.mul_one]
    omega

end CarbonAware.Numeral
