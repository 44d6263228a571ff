import CarbonAware.Numeral.Print
import CarbonAware.Proofs.Numeral.Conversions

/-!
# Decimals in digits

What is written with digits and a point reads back: the digits of a natural number have its value and no leading zero,
and `Written` says of the digits before and after a point which number they are.  Every decimal has such digits
(`pointed_written`, `whole_written`), and they are read to the nearest number (`Written.unsignedDecimal?_eq`,
`Written.rounds`).
-/

namespace CarbonAware.Numeral

/-! ### Natural numbers -/

theorem isDigit_of_mem_natural {n : ℕ} {c : Char} (h : c ∈ natural n) : c.isDigit = true :=
  Nat.isDigit_of_mem_toDigits (by norm_num) (by norm_num) h

theorem natural_ne_nil (n : ℕ) : natural n ≠ [] := List.ne_nil_of_length_pos Nat.length_toDigits_pos

theorem digitsValue_natural (n : ℕ) : digitsValue (natural n) = n := Nat.ofDigitChars_ten_toDigits

/-- A positive number has no leading zero. -/
theorem head?_natural {n : ℕ} (hn : 0 < n) : (natural n).head? ≠ some '0' := by
  induction n using Nat.strongRecOn with
  | ind n ih =>
    unfold natural
    rcases Nat.lt_or_ge n 10 with hsmall | hlarge
    · rw [Nat.toDigits_of_lt_base hsmall]
      interval_cases n <;> decide
    · rw [Nat.toDigits_of_base_le (by norm_num) hlarge]
      change (natural (n / 10) ++ _).head? ≠ _
      rw [List.head?_append_of_ne_nil _ (natural_ne_nil _)]
      exact ih (n / 10) (by omega) (by omega)

/-! ### Digits before and after a point -/

/-- The digits before and after a point write the number. -/
structure Written (whole places : List Char) (q : ℚ) : Prop where
  isDigit_whole : ∀ c ∈ whole, c.isDigit = true
  isDigit_places : ∀ c ∈ places, c.isDigit = true
  whole_ne_nil : whole ≠ []
  places_ne_nil : places ≠ []
  no_leading_zero : ∀ rest, whole = '0' :: rest → rest = []
  value_eq : (digitsValue (whole ++ places) : ℚ) * 10 ^ (-(places.length : ℤ)) = q

theorem natural_leading {n : ℕ} {rest : List Char} (h : natural n = '0' :: rest) : rest = [] := by
  rcases Nat.eq_zero_or_pos n with rfl | hn
  · cases h
    rfl
  · have := head?_natural hn
    rw [h] at this
    exact absurd rfl this

/-- A multiple of a power of ten, with a zero after the point. -/
theorem whole_written {n : ℕ} (hn : 0 < n) (k : ℕ) :
    Written (natural n ++ List.replicate k '0') ['0'] (n * 10 ^ k) := by
  constructor
  · intro c hc
    rcases List.mem_append.1 hc with hc | hc
    · exact isDigit_of_mem_natural hc
    · rw [List.eq_of_mem_replicate hc]
      rfl
  · intro c hc
    rw [List.mem_singleton.1 hc]
    rfl
  · exact List.append_ne_nil_of_left_ne_nil (natural_ne_nil n) _
  · exact List.cons_ne_nil _ _
  · intro rest h
    have hhead : (natural n ++ List.replicate k '0').head? = (natural n).head? :=
      List.head?_append_of_ne_nil _ (natural_ne_nil n)
    rw [h] at hhead
    exact absurd hhead.symm (head?_natural hn)
  · have hdigits : digitsValue (natural n ++ List.replicate k '0' ++ ['0']) = 10 * (10 ^ k * n) := by
      unfold digitsValue
      rw [Nat.ofDigitChars_append, Nat.ofDigitChars_append, Nat.ofDigitChars_replicate_zero]
      change 10 * (10 ^ k * digitsValue (natural n)) + 0 = _
      rw [digitsValue_natural]
      rfl
    rw [hdigits, List.length_singleton]
    push_cast
    norm_num
    ring

/-- A decimal with places. -/
theorem pointed_written {n k : ℕ} (hn : 0 < n) (hk : 0 < k) : ∃ whole places,
    pointed n k = whole ++ '.' :: places ∧ Written whole places (n * 10 ^ (-(k : ℤ))) := by
  obtain ⟨padded, hpadded⟩ : ∃ padded, padded = List.replicate (k + 1 - (natural n).length) '0' ++ natural n :=
    ⟨_, rfl⟩
  have hlength : k + 1 ≤ padded.length := by
    rw [hpadded, List.length_append, List.length_replicate]
    omega
  have hdigit (c : Char) (hc : c ∈ padded) : c.isDigit = true := by
    rw [hpadded] at hc
    rcases List.mem_append.1 hc with hc | hc
    · rw [List.eq_of_mem_replicate hc]
      rfl
    · exact isDigit_of_mem_natural hc
  have hplaces : (padded.drop (padded.length - k)).length = k := by
    rw [List.length_drop]
    omega
  refine ⟨padded.take (padded.length - k), padded.drop (padded.length - k), ?_, ?_⟩
  · unfold pointed
    rw [if_neg (by omega), hpadded]
  constructor
  · exact fun c hc => hdigit c (List.mem_of_mem_take hc)
  · exact fun c hc => hdigit c (List.mem_of_mem_drop hc)
  · refine List.ne_nil_of_length_pos ?_
    rw [List.length_take]
    omega
  · exact List.ne_nil_of_length_pos (by omega)
  · intro rest h
    rcases Nat.lt_or_ge k (natural n).length with hlong | hshort
    · -- nothing has been padded
      have hpadding : k + 1 - (natural n).length = 0 := by omega
      rw [hpadding, List.replicate_zero, List.nil_append] at hpadded
      have hhead := congrArg List.head? h
      rw [List.head?_take, if_neg (by omega), hpadded] at hhead
      exact absurd hhead (head?_natural hn)
    · -- padded to a single digit before the point
      have hone := congrArg List.length h
      have hexact : padded.length = k + 1 := by
        rw [hpadded, List.length_append, List.length_replicate]
        omega
      rw [List.length_take, List.length_cons] at hone
      exact List.eq_nil_of_length_eq_zero (by omega)
  · rw [List.take_append_drop, hplaces, hpadded]
    unfold digitsValue
    rw [Nat.ofDigitChars_append, Nat.ofDigitChars_replicate_zero, Nat.mul_zero]
    exact congrArg (fun n : ℕ => (n : ℚ) * 10 ^ (-(k : ℤ))) (digitsValue_natural n)

/-- What satisfies the condition is taken off, up to what does not start with such. -/
theorem takeWhile_dropWhile_append {α : Type} {p : α → Bool} {body rest : List α} (h : ∀ a ∈ body, p a = true)
    (hrest : rest.takeWhile p = []) : (body ++ rest).takeWhile p = body ∧ (body ++ rest).dropWhile p = rest := by
  have hdrop := List.takeWhile_append_dropWhile (p := p) (l := rest)
  rw [hrest, List.nil_append] at hdrop
  rw [List.takeWhile_append_of_pos h, List.dropWhile_append_of_pos h, hrest, hdrop, List.append_nil]
  exact ⟨rfl, rfl⟩

private theorem splitDigits_append {digits rest : List Char} (h : ∀ c ∈ digits, c.isDigit = true)
    (hrest : rest.takeWhile Char.isDigit = []) : splitDigits (digits ++ rest) = (digits, rest) := by
  obtain ⟨htake, hdrop⟩ := takeWhile_dropWhile_append h hrest
  rw [splitDigits, List.span_eq_takeWhile_dropWhile, htake, hdrop]

namespace Written

variable {whole places : List Char} {q : ℚ}

theorem unsignedDecimal?_eq (h : Written whole places q) : unsignedDecimal? (whole ++ '.' :: places) =
    some (ofDecimal (digitsValue (whole ++ places)) (-places.length)) := by
  have hwhole : splitDigits (whole ++ '.' :: places) = (whole, '.' :: places) :=
    splitDigits_append h.isDigit_whole rfl
  have hplaces : splitDigits places = (places, []) := by
    have := @splitDigits_append places [] h.isDigit_places rfl
    rwa [List.append_nil] at this
  have hempty : ¬(whole.isEmpty = true ∧ places.isEmpty = true) := by
    rw [List.isEmpty_iff]
    exact fun hnil => h.whole_ne_nil hnil.1
  simp only [unsignedDecimal?, hwhole, hplaces, if_neg hempty, exponent?, Option.map_some, zero_sub]

theorem rounds (h : Written whole places q) (hq : InRange q) :
    Rounds (ofDecimal (digitsValue (whole ++ places)) (-places.length)) q := by
  have := rounds_ofDecimal (m := digitsValue (whole ++ places)) (e := -places.length) (by rwa [h.value_eq])
  rwa [h.value_eq] at this

end Written

end CarbonAware.Numeral
