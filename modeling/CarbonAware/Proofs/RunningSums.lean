import CarbonAware.Proofs.Grid
import CarbonAware.Proofs.Numeral.Conversions

/-!
# Averages without running sums

A series of fewer than `2 ^ 32` buckets keeps exact running sums: no addition and no difference of them wraps around
(`CarbonSeries.accumulates_sums`).  So the average over a range, which takes two look-ups, is the sum of the values
there, divided by their number (`CarbonSeries.average_of_build`).
-/

namespace CarbonAware

/-! ### Sums of words -/

private theorem sum_toNat_lt {values : List UInt32} (h : values.length < 2 ^ 32) :
    (values.map UInt32.toNat).sum < 2 ^ 64 := by
  have hle : (values.map UInt32.toNat).sum ≤ (values.map UInt32.toNat).length • (2 ^ 32 - 1) := by
    refine List.sum_le_card_nsmul _ _ fun n hn => ?_
    obtain ⟨value, -, rfl⟩ := List.mem_map.1 hn
    have := value.toNat_lt
    omega
  rw [List.length_map, smul_eq_mul] at hle
  have hproduct : values.length * (2 ^ 32 - 1) ≤ (2 ^ 32 - 1) * (2 ^ 32 - 1) := Nat.mul_le_mul_right _ (by omega)
  omega

theorem toNat_sum_words {values : List UInt32} (h : (values.map UInt32.toNat).sum < 2 ^ 64) :
    (values.map UInt32.toUInt64).sum.toNat = (values.map UInt32.toNat).sum := by
  induction values with
  | nil => rfl
  | cons value rest ih =>
    rw [List.map_cons, List.sum_cons] at h ⊢
    rw [List.map_cons, List.sum_cons, UInt64.toNat_add, UInt32.toNat_toUInt64, ih (by omega), Nat.mod_eq_of_lt h]

private theorem sum_take_mono (values : List UInt32) {i j : ℕ} (h : i ≤ j) :
    ((values.take i).map UInt32.toNat).sum ≤ ((values.take j).map UInt32.toNat).sum :=
  ((List.take_prefix_take_left h).sublist.map _).sum_le_sum fun _ _ => Nat.zero_le _

/-- Entry `i` is the sum of the first `i` values, and neither the additions nor the differences of entries wrap. -/
structure Accumulates (sums : Array UInt64) (values : List UInt32) : Prop where
  size_eq : sums.size = values.length + 1
  entry_eq : ∀ i : ℕ, i ≤ values.length → ∃ total, sums[i]? = some total ∧
    total.toNat = ((values.take i).map UInt32.toNat).sum
  addition_fits : ∀ (i : ℕ) total value, sums[i]? = some total → values[i]? = some value →
    total.toNat + value.toNat < 2 ^ 64 ∧ sums[i + 1]? = some (total + value.toUInt64)
  difference_fits : ∀ (i j : ℕ) low high, i ≤ j → sums[i]? = some low → sums[j]? = some high → low ≤ high

namespace CarbonSeries

/-- The values of a kind, as they were given. -/
def given (observed forecast : Array UInt32) : SeriesKind → List UInt32
  | .observed => observed.toList
  | .forecast => forecast.toList

/-- The sum of the values over the range, divided by their number. -/
def plainMean (values : List UInt32) (range : BucketRange) : Moer :=
  ⟨Float.ofNat (((values.take range.stop).drop range.start).map UInt32.toNat).sum /
    Float.ofNat (range.stop - range.start)⟩

private theorem ofValues_values (t : Track) : .ofValues t.values = t := by
  obtain ⟨values, sums, rfl⟩ := t
  rfl

/-- A series is the one that is built from its values. -/
theorem build_eq_ok {observed forecast : Array UInt32} {s : CarbonSeries} :
    build observed forecast = .ok s ↔ s.observed.values = observed ∧ s.forecast.values = forecast := by
  constructor
  · intro h
    unfold build at h
    split at h
    · cases h
    · split at h
      · split at h
        · cases h
          exact ⟨rfl, rfl⟩
        · cases h
      · cases h
  · rintro ⟨rfl, rfl⟩
    have hpos := s.size_pos
    have hsize := s.same_size
    rw [build, dif_neg (by omega), dif_pos hsize, dif_pos s.size_le]
    simp only [ofValues_values]

theorem exists_build {observed forecast : Array UInt32} (hsize : forecast.size = observed.size)
    (hpos : 0 < observed.size) (hle : observed.size ≤ maxBuckets) : ∃ s, build observed forecast = .ok s ∧ s.length = observed.size ∧
      ∀ kind, s.values kind = given observed forecast kind := by
  have hsome : ¬ (observed.size = 0 ∨ forecast.size = 0) := by omega
  refine ⟨⟨.ofValues observed, .ofValues forecast, hsize, hpos, hle⟩, ?_, rfl, fun kind => ?_⟩
  · rw [build, dif_neg hsome, dif_pos hsize, dif_pos hle]
  · cases kind <;> rfl

section Short

variable {s : CarbonSeries} (kind : SeriesKind) (hshort : s.length < 2 ^ 32)
include hshort

private theorem exists_entry {i : ℕ} (hi : i ≤ s.length) : ∃ total, (s.track kind).sums[i]? = some total ∧
    total.toNat = (((s.values kind).take i).map UInt32.toNat).sum := by
  have hsize : i < (s.track kind).sums.size := by
    rw [Track.size_sums, s.size_track]
    omega
  have htake : ((s.values kind).take i).length < 2 ^ 32 := by
    rw [List.length_take]
    omega
  refine ⟨(s.track kind).sums[i], Array.getElem?_eq_getElem hsize, ?_⟩
  rw [s.getElem_sums kind hi, toNat_sum_words (sum_toNat_lt htake)]

theorem accumulates_sums : Accumulates (s.track kind).sums (s.values kind) := by
  have hlength : (s.values kind).length = s.length := s.size_track kind
  have hsize : (s.track kind).sums.size = (s.values kind).length + 1 := Track.size_sums _
  -- an entry that is there has the sum that it should have
  have hentry {i : ℕ} {total : UInt64} (htotal : (s.track kind).sums[i]? = some total) :
      i ≤ s.length ∧ total.toNat = (((s.values kind).take i).map UInt32.toNat).sum := by
    have hi := (Array.getElem?_eq_some_iff.1 htotal).1
    obtain ⟨total', htotal', hsum⟩ := exists_entry kind hshort (i := i) (by omega)
    rw [htotal, Option.some.injEq] at htotal'
    exact ⟨by omega, htotal' ▸ hsum⟩
  refine ⟨hsize, fun i hi => exists_entry kind hshort (by omega), ?addition, ?difference⟩
  case addition =>
    intro i total value htotal hvalue
    obtain ⟨-, hsum⟩ := hentry htotal
    have hi := (List.getElem?_eq_some_iff.1 hvalue).1
    obtain ⟨next, hnext, hnextSum⟩ := exists_entry kind hshort (i := i + 1) (by omega)
    rw [List.take_add_one, hvalue, Option.toList_some, List.map_append, List.sum_append, ← hsum, List.map_singleton,
      List.sum_singleton] at hnextSum
    have hfits : total.toNat + value.toNat < 2 ^ 64 := hnextSum ▸ next.toNat_lt
    refine ⟨hfits, hnext.trans (congrArg some (UInt64.toNat_inj.1 ?_))⟩
    rw [hnextSum, UInt64.toNat_add, UInt32.toNat_toUInt64, Nat.mod_eq_of_lt hfits]
  case difference =>
    intro i j low high hij hlow hhigh
    rw [UInt64.le_iff_toNat_le, (hentry hlow).2, (hentry hhigh).2]
    exact sum_take_mono _ hij

theorem meanOver_eq_plainMean (range : BucketRange) : s.meanOver kind range = plainMean (s.values kind) range := by
  have hlength : (s.values kind).length = s.length := s.size_track kind
  have hrange : (((s.values kind).take range.stop).drop range.start).length < 2 ^ 32 := by
    rw [List.length_drop, List.length_take]
    omega
  rw [meanOver, sumOver, Numeral.word64_eq_natFloat, toNat_sum_words (sum_toNat_lt hrange)]
  rfl

theorem average_eq_plainMean {range : BucketRange} (h : range.start < range.stop ∧ range.stop ≤ s.length) :
    s.average kind range = .ok (plainMean (s.values kind) range) := by
  rw [s.average_eq_meanOver kind h.1 h.2, meanOver_eq_plainMean kind hshort]

end Short

/--
The series of two lists of one length, not empty and short enough, keeps their running sums, none of which has wrapped
around.  The average over a range of at least one bucket within the series is the plain mean of the values of the kind,
and over any other range there is none.
-/
theorem average_of_build (observed forecast : Array UInt32) (hsize : forecast.size = observed.size)
    (hpos : 0 < observed.size) (hshort : observed.size < 2 ^ 32) :
    ∃ s, build observed forecast = .ok s ∧ s.length = observed.size ∧ ∀ kind,
      s.values kind = given observed forecast kind ∧
      Accumulates (s.track kind).sums (given observed forecast kind) ∧
      ∀ range : BucketRange,
        ((∃ mean, s.average kind range = .ok mean) ↔ range.start < range.stop ∧ range.stop ≤ observed.size) ∧
        (range.start < range.stop ∧ range.stop ≤ observed.size →
          s.average kind range = .ok (plainMean (given observed forecast kind) range)) ∧
        (¬ (range.start < range.stop ∧ range.stop ≤ observed.size) →
          s.average kind range = .error (.invalidRange range observed.size)) := by
  obtain ⟨s, hbuild, hlength, hvalues⟩ := exists_build hsize hpos (by unfold maxBuckets; omega)
  rw [← hlength] at hshort ⊢
  refine ⟨s, hbuild, rfl, fun kind => ⟨hvalues kind, ?_, fun range => ?_⟩⟩
  · rw [← hvalues kind]
    exact accumulates_sums kind hshort
  · have hwithin (h : range.start < range.stop ∧ range.stop ≤ s.length) :
        s.average kind range = .ok (plainMean (given observed forecast kind) range) := by
      rw [average_eq_plainMean kind hshort h, hvalues kind]
    have hbeyond (h : ¬ (range.start < range.stop ∧ range.stop ≤ s.length)) :
        s.average kind range = .error (.invalidRange range s.length) := dif_neg h
    refine ⟨⟨?_, fun h => ⟨_, hwithin h⟩⟩, hwithin, hbeyond⟩
    rintro ⟨mean, hmean⟩
    by_contra h
    rw [hbeyond h] at hmean
    cases hmean

theorem average_of_build_fourBuckets :
    let observed : Array UInt32 := #[100, 200, 300, 400]
    let forecast : Array UInt32 := #[900, 900, 700, 4294967295]
    forecast.size = observed.size ∧ 0 < observed.size ∧ observed.size < 2 ^ 32 ∧
      ∃ s, build observed forecast = .ok s ∧ s.average .observed ⟨0, 4⟩ = .ok ⟨250.0⟩ ∧
        s.average .forecast ⟨2, 4⟩ = .ok ⟨2147483997.5⟩ ∧
        s.average .forecast ⟨3, 5⟩ = .error (.invalidRange ⟨3, 5⟩ 4) := by
  intro observed forecast
  obtain ⟨s, hbuild, -, h⟩ := average_of_build observed forecast rfl (by decide) (by decide)
  obtain ⟨-, -, hobserved⟩ := h .observed
  obtain ⟨-, -, hforecast⟩ := h .forecast
  refine ⟨rfl, by decide, by decide, s, hbuild, ?_, ?_, ?_⟩
  · rw [(hobserved ⟨0, 4⟩).2.1 (by decide)]
    decide +kernel
  · rw [(hforecast ⟨2, 4⟩).2.1 (by decide)]
    decide +kernel
  · exact (hforecast ⟨3, 5⟩).2.2 (by decide)

end CarbonSeries

end CarbonAware
