import CarbonAware.Numeral.Shortest
import CarbonAware.Proofs.Numeral.FloatValue

/-!
# The shortest decimal reads back

Every rational number in the rounding interval of a stored number is rounded to that number
(`RoundingInterval.nearest_of_holds`).  The search for the shortest decimal ends within the interval, because the grid
is finer than half of it before the search gives up (`RoundingInterval.holds_search`).  So the shortest decimal of a
number is rounded to the number (`nearest_shortest`).
-/

namespace CarbonAware.Numeral

namespace RoundingInterval

/-! ### The numbers in the interval -/

/-- The interval holds the rational number. -/
def Holds (i : RoundingInterval) (q : ℚ) : Prop :=
  if i.closed then i.low ≤ q * i.scale ∧ q * i.scale ≤ i.high else i.low < q * i.scale ∧ q * i.scale < i.high

theorem contains_iff {i : RoundingInterval} {n : ℕ} : i.contains n = true ↔ i.Holds n := by
  unfold contains Holds
  split
  · rw [Bool.and_eq_true, decide_eq_true_iff, decide_eq_true_iff]
    norm_cast
  · rw [Bool.and_eq_true, decide_eq_true_iff, decide_eq_true_iff]
    norm_cast

/-- A power whose exponent may be negative, as a fraction of natural numbers. -/
private theorem zpow_mul_toNat (b : ℕ) (hb : b ≠ 0) (g : ℤ) :
    (b : ℚ) ^ g * (b ^ (-g).toNat : ℕ) = (b ^ g.toNat : ℕ) := by
  push_cast
  rw [← zpow_natCast, ← zpow_natCast, ← zpow_add₀ (by exact_mod_cast hb)]
  congr 1
  omega

/-- An integer of a grid stands for a multiple of the power of ten. -/
theorem holds_onGrid {i : RoundingInterval} {g : ℤ} {q : ℚ} : (i.onGrid g).Holds q ↔ i.Holds (q * 10 ^ g) := by
  have hup : (0 : ℚ) < (10 ^ (-g).toNat : ℕ) := by positivity
  have hscaled : q * (i.scale * (10 ^ g.toNat : ℕ)) = q * 10 ^ g * i.scale * (10 ^ (-g).toNat : ℕ) := by
    rw [← zpow_mul_toNat 10 (by norm_num)]
    push_cast
    ring
  unfold Holds onGrid
  simp only [Nat.pow_eq, Nat.cast_mul, hscaled]
  rw [mul_le_mul_iff_left₀ hup, mul_le_mul_iff_left₀ hup, mul_lt_mul_iff_left₀ hup, mul_lt_mul_iff_left₀ hup]

section Stored

variable {m : ℕ} {e : ℤ}

/-- How far the interval reaches down, in quarters of the spacing. -/
def below (m : ℕ) (e : ℤ) : ℕ := if m = 2 ^ 52 ∧ -1074 < e then 1 else 2

/-- The ends of the interval in units of the spacing. -/
theorem holds_of_iff (hm : 0 < m) {x : ℚ} : (RoundingInterval.of m e).Holds (x * 2 ^ e) ↔
    if m % 2 = 0 then (m - below m e / 4 : ℚ) ≤ x ∧ x ≤ m + 1 / 2
    else (m - below m e / 4 : ℚ) < x ∧ x < m + 1 / 2 := by
  have hscale : (0 : ℚ) < 2 ^ (e - 2) * (2 ^ (2 - e).toNat : ℕ) := mul_pos (two_zpow_pos _) (by positivity)
  have hunit : ((2 ^ (e - 2).toNat : ℕ) : ℚ) = 2 ^ (e - 2) * (2 ^ (2 - e).toNat : ℕ) := by
    have := zpow_mul_toNat 2 (by norm_num) (e - 2)
    rw [neg_sub] at this
    rw [← this, Nat.cast_ofNat]
  have hbelow : below m e ≤ 4 * m := by
    unfold below
    split <;> omega
  have hquarter : (2 : ℚ) ^ e = 4 * 2 ^ (e - 2) := by
    rw [zpow_sub₀ (by norm_num)]
    norm_num
    ring
  have hx : x * 2 ^ e * (2 ^ (2 - e).toNat : ℕ) = 4 * x * (2 ^ (e - 2) * (2 ^ (2 - e).toNat : ℕ)) := by
    rw [hquarter]
    ring
  have hlow : ((4 * m - below m e : ℕ) : ℚ) = 4 * m - below m e := by rw [Nat.cast_sub hbelow]; push_cast; ring
  have hdef : RoundingInterval.of m e = ⟨4 * m * 2 ^ (e - 2).toNat, (4 * m - below m e) * 2 ^ (e - 2).toNat,
    (4 * m + 2) * 2 ^ (e - 2).toNat, m % 2 == 0, 2 ^ (2 - e).toNat⟩ := rfl
  rw [hdef, Holds]
  simp only [beq_iff_eq, Nat.cast_mul, hunit, hx, hlow]
  rw [mul_le_mul_iff_left₀ hscale, mul_le_mul_iff_left₀ hscale, mul_lt_mul_iff_left₀ hscale,
    mul_lt_mul_iff_left₀ hscale]
  split <;> constructor <;> rintro ⟨hlo, hhi⟩ <;> push_cast at * <;> constructor <;> linarith

/-- A number between two neighbours of a spacing is rounded to the nearer one. -/
private theorem nearest_of_near {x : ℚ} {n : ℤ} (hspacing : spacing (x * 2 ^ e) = e) (h : |x - n| ≤ 1 / 2)
    (heven : |x - n| = 1 / 2 → n % 2 = 0) : nearest (x * 2 ^ e) = n * 2 ^ e := by
  rw [nearest, hspacing, mul_div_cancel_right₀ _ (ne_of_gt (two_zpow_pos e)), roundEven_eq h heven]

/-- Below a power of two the spacing is halved, and the interval reaches half as far. -/
private theorem nearest_below_power {x : ℚ} (he : -1074 < e) (hlo : 2 ^ 52 - 1 / 4 ≤ x) (hhi : x < 2 ^ 52) :
    nearest (x * 2 ^ e) = 2 ^ 52 * 2 ^ e := by
  have hx : 0 < 2 * x := by linarith
  have hhalved (y : ℚ) : y * 2 ^ e = 2 * y * 2 ^ (e - 1) := by
    rw [zpow_sub₀ (by norm_num)]
    norm_num
    ring
  have hspacing : spacing (2 * x * 2 ^ (e - 1)) = e - 1 := by
    have habs : |2 * x * 2 ^ (e - 1)| = 2 * x * 2 ^ (e - 1) := abs_of_pos (mul_pos hx (two_zpow_pos _))
    refine spacing_eq (ne_of_gt (mul_pos hx (two_zpow_pos _))) (by omega) ?_ (.inl ?_)
    · rw [habs, add_comm, zpow_add₀ (by norm_num)]
      exact mul_lt_mul_of_pos_right (by norm_num; linarith) (two_zpow_pos _)
    · rw [habs, add_comm, zpow_add₀ (by norm_num)]
      exact mul_le_mul_of_nonneg_right (by norm_num; linarith) (le_of_lt (two_zpow_pos _))
  have hnear : |2 * x - ((2 ^ 53 : ℤ) : ℚ)| ≤ 1 / 2 := by
    push_cast
    rw [abs_le]
    constructor <;> linarith
  rw [hhalved, nearest_of_near hspacing hnear fun _ => by norm_num, hhalved]
  norm_num

/-- Every number in the rounding interval is rounded to the stored number. -/
theorem nearest_of_holds (h : IsStored m e) {q : ℚ} (hq : (RoundingInterval.of m e).Holds q) :
    nearest q = m * 2 ^ e := by
  have hpos := two_zpow_pos e
  obtain ⟨x, rfl⟩ : ∃ x, q = x * 2 ^ e := ⟨q / 2 ^ e, (div_mul_cancel₀ q (ne_of_gt hpos)).symm⟩
  rw [holds_of_iff h.pos] at hq
  have hm : (1 : ℚ) ≤ m := by exact_mod_cast h.pos
  have hm' : (m : ℚ) + 1 ≤ 2 ^ 53 := by exact_mod_cast h.lt
  have hbelow : (below m e : ℚ) ≤ 2 := by
    unfold below
    split <;> norm_num
  obtain ⟨hlo, hhi⟩ : (m - below m e / 4 : ℚ) ≤ x ∧ x ≤ m + 1 / 2 := by
    split at hq
    · exact hq
    · exact ⟨le_of_lt hq.1, le_of_lt hq.2⟩
  have hx : 0 < x := by linarith
  have habs : |x * 2 ^ e| = x * 2 ^ e := abs_of_pos (mul_pos hx hpos)
  by_cases hpower : x < 2 ^ 52 ∧ -1074 < e
  · -- the stored number is a power of two, and the number is below it
    have hfull : (2 : ℚ) ^ 52 ≤ m := by exact_mod_cast h.full.resolve_right (by omega)
    have hmantissa : m = 2 ^ 52 := by
      have hlt : (m : ℚ) < 2 ^ 52 + 1 := by linarith
      have hge : 2 ^ 52 ≤ m := by exact_mod_cast hfull
      have hle : m < 2 ^ 52 + 1 := by exact_mod_cast hlt
      omega
    have hone : below m e = 1 := if_pos ⟨hmantissa, hpower.2⟩
    rw [hone, hmantissa] at hlo
    push_cast at hlo
    rw [nearest_below_power hpower.2 hlo hpower.1, hmantissa]
    norm_num
  · have hspacing : spacing (x * 2 ^ e) = e := by
      refine spacing_eq (ne_of_gt (mul_pos hx hpos)) h.exponent_ge ?_ ?_
      · rw [habs, add_comm, zpow_add₀ (by norm_num)]
        exact mul_lt_mul_of_pos_right (by norm_num; linarith) hpos
      · rcases le_or_gt (2 ^ 52) x with hfull | hsmall
        · left
          rw [habs, add_comm, zpow_add₀ (by norm_num)]
          exact mul_le_mul_of_nonneg_right (by norm_num; linarith) (le_of_lt hpos)
        · have := h.exponent_ge
          have := not_and.1 hpower hsmall
          omega
    have hnear : |x - (m : ℤ)| ≤ 1 / 2 := by
      rw [abs_le, Int.cast_natCast]
      constructor <;> linarith
    have heven (htie : |x - (m : ℤ)| = 1 / 2) : (m : ℤ) % 2 = 0 := by
      -- an odd number does not reach its ends
      by_contra hodd
      rw [if_neg (by omega)] at hq
      have : |x - (m : ℤ)| < 1 / 2 := by
        rw [abs_lt, Int.cast_natCast]
        constructor <;> linarith [hq.1, hq.2]
      linarith
    rw [nearest_of_near hspacing hnear heven, Int.cast_natCast]

end Stored

/-! ### The search -/

theorem contains_of_nearestInteger? {i : RoundingInterval} {n : ℕ} (h : i.nearestInteger? = some n) :
    i.contains n = true := by
  simp only [nearestInteger?] at h
  split at h
  · cases h
  · rename_i hfloor hnext
    cases h
    exact hfloor
  · rename_i hfloor hnext
    cases h
    exact hnext
  · rename_i hfloor hnext
    split at h
    · cases h
      exact hfloor
    · cases h
      exact hnext

theorem nearestInteger?_of_contains {i : RoundingInterval} (h : i.contains (i.value / i.scale + 1) = true) :
    ∃ n, i.nearestInteger? = some n := by
  simp only [nearestInteger?, h]
  cases i.contains (i.value / i.scale)
  · exact ⟨_, rfl⟩
  · dsimp only
    split
    · exact ⟨_, rfl⟩
    · exact ⟨_, rfl⟩

/-- The search ends within the interval, if one of the grids has a number above the value in it. -/
theorem holds_search {i : RoundingInterval} {fuel k : ℕ} {g : ℤ} (hk : k < fuel)
    (h : (i.onGrid (g - k)).contains ((i.onGrid (g - k)).value / (i.onGrid (g - k)).scale + 1) = true) :
    i.Holds ((i.search fuel g).digits * 10 ^ (i.search fuel g).exponent) := by
  induction fuel generalizing g k with
  | zero => omega
  | succ fuel ih =>
    cases hfound : (i.onGrid g).nearestInteger? with
    | some n =>
      simp only [search, hfound]
      exact holds_onGrid.1 (contains_iff.1 (contains_of_nearestInteger? hfound))
    | none =>
      simp only [search, hfound]
      -- the grid that hits the interval is the next one or below it
      cases k with
      | zero =>
        rw [Int.natCast_zero, sub_zero] at h
        obtain ⟨n, hn⟩ := nearestInteger?_of_contains h
        rw [hn] at hfound
        cases hfound
      | succ k =>
        have hgrid : g - (k + 1 : ℕ) = g - 1 - k := by push_cast; ring
        rw [hgrid] at h
        exact ih (by omega) h

/-- A grid that is finer than the upper half of the interval has a number in it. -/
theorem contains_next {i : RoundingInterval} (hlow : i.low ≤ i.value) (hscale : 0 < i.scale)
    (hfine : i.value + i.scale < i.high) : i.contains (i.value / i.scale + 1) = true := by
  have hlo : i.value < (i.value / i.scale + 1) * i.scale := by
    have := Nat.lt_mul_div_succ i.value hscale
    rwa [mul_comm] at this
  have hhi : (i.value / i.scale + 1) * i.scale ≤ i.value + i.scale := by
    rw [add_mul, one_mul]
    exact Nat.add_le_add_right (Nat.div_mul_le_self _ _) _
  unfold contains
  split
  · rw [Bool.and_eq_true, decide_eq_true_iff, decide_eq_true_iff]
    omega
  · rw [Bool.and_eq_true, decide_eq_true_iff, decide_eq_true_iff]
    omega

end RoundingInterval

private theorem lt_pow_length (n : ℕ) : (n : ℚ) < 10 ^ ((Nat.toDigits 10 n).length : ℤ) := by
  have := (Nat.length_toDigits_le_iff (by norm_num) Nat.length_toDigits_pos).1 (le_refl (Nat.toDigits 10 n).length)
  exact_mod_cast this

private theorem pow_length_le {n : ℕ} (hn : 0 < n) : (10 : ℚ) ^ ((Nat.toDigits 10 n).length - 1 : ℤ) ≤ n := by
  obtain ⟨k, hk⟩ : ∃ k, (Nat.toDigits 10 n).length = k + 1 :=
    Nat.exists_eq_succ_of_ne_zero (Nat.pos_iff_ne_zero.1 Nat.length_toDigits_pos)
  have hpow : 10 ^ k ≤ n := by
    rcases Nat.eq_zero_or_pos k with rfl | hpos
    · exact hn
    · by_contra hlt
      have := (Nat.length_toDigits_le_iff (by norm_num) hpos).2 (not_le.1 hlt)
      omega
  rw [hk, Nat.cast_succ, add_sub_cancel_right, zpow_natCast]
  exact_mod_cast hpow

section Shortest

variable {m : ℕ} {e : ℤ}

/-- Nineteen places below the first grid, the grid is finer than the upper half of the interval. -/
private theorem fine_grid (h : IsStored m e) {g : ℤ}
    (hg : g = (Nat.toDigits 10 (RoundingInterval.of m e).value).length -
      (Nat.toDigits 10 (RoundingInterval.of m e).scale).length + 1 - (19 : ℕ)) :
    ((RoundingInterval.of m e).onGrid g).value + ((RoundingInterval.of m e).onGrid g).scale <
      ((RoundingInterval.of m e).onGrid g).high := by
  obtain ⟨i, hi⟩ : ∃ i, i = RoundingInterval.of m e := ⟨_, rfl⟩
  obtain ⟨unit, hunit, hvalue, hhigh⟩ : ∃ unit, 0 < unit ∧ i.value = 4 * m * unit ∧ i.high = i.value + 2 * unit := by
    refine ⟨2 ^ (e - 2).toNat, Nat.two_pow_pos _, by rw [hi]; rfl, ?_⟩
    rw [hi]
    exact add_mul (4 * m) 2 _
  rw [← hi] at hg ⊢
  have hpositive : 0 < i.value := by
    rw [hvalue]
    exact Nat.mul_pos (Nat.mul_pos (by norm_num) h.pos) hunit
  have hpower : (0 : ℚ) < 10 ^ ((Nat.toDigits 10 i.value).length - 1 : ℤ) := zpow_pos (by norm_num) _
  have hstep : (i.scale : ℚ) * 10 ^ g < 2 * unit := by
    have hmantissa : (m : ℚ) < 2 ^ 53 := by exact_mod_cast h.lt
    have hcast : (i.value : ℚ) = 4 * m * unit := by exact_mod_cast hvalue
    have hunit' : (0 : ℚ) < unit := by exact_mod_cast hunit
    calc (i.scale : ℚ) * 10 ^ g
        ≤ 10 ^ ((Nat.toDigits 10 i.scale).length : ℤ) * 10 ^ g :=
          mul_le_mul_of_nonneg_right (le_of_lt (lt_pow_length _)) (le_of_lt (zpow_pos (by norm_num) _))
      _ = 10 ^ ((Nat.toDigits 10 i.value).length - 1 : ℤ) / 10 ^ 17 := by
          rw [← zpow_natCast, ← zpow_add₀ (by norm_num), ← zpow_sub₀ (by norm_num), hg]
          congr 1
          push_cast
          ring
      _ ≤ i.value / 10 ^ 17 := div_le_div_of_nonneg_right (pow_length_le hpositive) (by norm_num)
      _ < 2 * unit := by
          rw [hcast, div_lt_iff₀ (by norm_num)]
          nlinarith
  have hup : (0 : ℚ) < (10 ^ (-g).toNat : ℕ) := by positivity
  have hscaled : (i.scale : ℚ) * (10 ^ g.toNat : ℕ) < 2 * unit * (10 ^ (-g).toNat : ℕ) := by
    rw [← RoundingInterval.zpow_mul_toNat 10 (by norm_num), ← mul_assoc]
    exact mul_lt_mul_of_pos_right (by exact_mod_cast hstep) hup
  have hnat : i.scale * 10 ^ g.toNat < 2 * unit * 10 ^ (-g).toNat := by exact_mod_cast hscaled
  change i.value * 10 ^ (-g).toNat + i.scale * 10 ^ g.toNat < i.high * 10 ^ (-g).toNat
  rw [hhigh, add_mul]
  omega

/-- The shortest decimal of a stored number is rounded to it. -/
theorem nearest_shortest (h : IsStored m e) :
    nearest ((shortest m e).digits * 10 ^ (shortest m e).exponent) = m * 2 ^ e := by
  refine RoundingInterval.nearest_of_holds h ?_
  refine RoundingInterval.holds_search (k := 19) (by norm_num)
    (RoundingInterval.contains_next ?_ ?_ (fine_grid h rfl))
  · exact Nat.mul_le_mul_right _ (Nat.mul_le_mul_right _ (Nat.sub_le _ _))
  · exact Nat.mul_pos (Nat.two_pow_pos _) (Nat.pow_pos (by norm_num))

end Shortest

end CarbonAware.Numeral
