import CarbonAware.Trace.Carbon
import CarbonAware.Proofs.Fallible
import CarbonAware.Proofs.RunningSums

/-!
# Reading a carbon trace

A rate is read if the number in its column is not negative (`Trace.rate_eq_ok`).  Its fraction is cut off, unless the
number is too large for a word: then the greatest word is stored in its place (`Trace.StoredAs`), and infinity is such
a number.  A carbon trace is read record by record, so its series holds what is stored of the records in their order,
for both kinds (`Trace.carbonSeries_reads`).
-/

namespace CarbonAware

namespace Trace

/-! ### One number -/

/-- The column that holds the rates of a kind. -/
def rateColumn : SeriesKind → Nat
  | .observed => 0
  | .forecast => 1

/-- A number that is not negative; both zeros are such numbers, and so is infinity. -/
structure IsRate (x : Float) : Prop where
  isNaN_eq : x.isNaN = false
  not_negative : ¬ x < 0.0

/-- The word is the number without its fraction. -/
structure CutOff (x : Float) (word : UInt32) : Prop where
  finite : x.isFinite = true
  le : (word.toNat : ℚ) ≤ Numeral.value x
  lt : Numeral.value x < word.toNat + 1

/-- The number is infinite, or it is above all words even without its fraction. -/
def TooLarge (x : Float) : Prop := x.isInf = true ∨ 2 ^ 32 ≤ Numeral.value x

/-- The word that is stored for a number: the number without its fraction, or the greatest word of all. -/
structure StoredAs (x : Float) (word : UInt32) : Prop where
  cutOff_iff : CutOff x word ↔ ¬ TooLarge x
  greatest : TooLarge x → word.toNat = Numeral.maxUInt32

theorem StoredAs.unique {x : Float} {word word' : UInt32} (h : StoredAs x word) (h' : StoredAs x word') :
    word = word' := by
  apply UInt32.toNat_inj.1
  by_cases hlarge : TooLarge x
  · rw [h.greatest hlarge, h'.greatest hlarge]
  · obtain ⟨-, hle, hlt⟩ := h.cutOff_iff.2 hlarge
    obtain ⟨-, hle', hlt'⟩ := h'.cutOff_iff.2 hlarge
    have hup : word.toNat < word'.toNat + 1 := by exact_mod_cast lt_of_le_of_lt hle hlt'
    have hdown : word'.toNat < word.toNat + 1 := by exact_mod_cast lt_of_le_of_lt hle' hlt
    omega

private theorem isRate_infinity {x : Float} (hx : x.toModel.unpack = .infinity .positive) : IsRate x := by
  constructor
  · change x.toModel.unpack.isNaN = false
    rw [hx]
    rfl
  · rw [Numeral.lt_iff_compare, hx]
    decide

private theorem nonneg_infinity {x : Float} (hx : x.toModel.unpack = .infinity .positive) : 0.0 ≤ x := by
  apply Numeral.float_le_of_lt
  rw [Numeral.lt_iff_compare, hx]
  decide

/-- The comparison with zero admits the rates. -/
theorem nonneg_iff_isRate {x : Float} : 0.0 ≤ x ↔ IsRate x := by
  have hzero : Float.isFinite 0.0 = true := by decide
  constructor
  · intro h
    rcases Numeral.isFinite_of_le hzero h with hfinite | hinfinity
    · refine ⟨Numeral.isNaN_eq_false hfinite, ?_⟩
      rw [Numeral.lt_iff hfinite hzero, not_lt]
      exact (Numeral.le_iff hzero hfinite).1 h
    · exact isRate_infinity hinfinity
  · rintro ⟨hnan, hnegative⟩
    by_cases hfinite : x.isFinite = true
    · rw [Numeral.lt_iff hfinite hzero, not_lt] at hnegative
      exact (Numeral.le_iff hzero hfinite).2 hnegative
    · obtain ⟨s, hs⟩ := Numeral.unpack_infinity hfinite hnan
      cases s with
      | positive => exact nonneg_infinity hs
      | negative =>
        refine absurd ?_ hnegative
        rw [Numeral.lt_iff_compare, hs]
        decide

private theorem storedAs_infinity {x : Float} (hx : x.toModel.unpack = .infinity .positive) :
    StoredAs x x.toUInt32 := by
  have hlarge : TooLarge x := by
    refine .inl ?_
    change x.toModel.unpack.isInf = true
    rw [hx]
    rfl
  have hnotFinite : ¬ x.isFinite = true := by
    change ¬ x.toModel.unpack.isFinite = true
    rw [hx]
    decide
  refine ⟨⟨fun h => absurd h.finite hnotFinite, fun h => absurd hlarge h⟩, fun _ => ?_⟩
  exact Numeral.toNat_toUInt32_infinity hx

private theorem tooLarge_iff {x : Float} (h : x.isFinite = true) : TooLarge x ↔ 2 ^ 32 ≤ Numeral.value x := by
  rw [TooLarge, Numeral.isInf_eq_false h]
  exact or_iff_right Bool.false_ne_true

private theorem storedAs_finite {x : Float} (hfinite : x.isFinite = true) (hnonneg : 0 ≤ Numeral.value x) :
    StoredAs x x.toUInt32 := by
  have hword := Numeral.toNat_toUInt32 hfinite
  rw [Numeral.integerPart_of_nonneg hnonneg] at hword
  have hfloor : (⌊Numeral.value x⌋.toNat : ℤ) = ⌊Numeral.value x⌋ := Int.toNat_of_nonneg (Int.floor_nonneg.2 hnonneg)
  by_cases hlarge : TooLarge x
  · have hle := (tooLarge_iff hfinite).1 hlarge
    have hle' : 2 ^ 32 ≤ ⌊Numeral.value x⌋ := Int.le_floor.2 (by exact_mod_cast hle)
    have hgreatest : x.toUInt32.toNat = 2 ^ 32 - 1 := by omega
    refine ⟨⟨fun hcut => ?_, fun h => absurd hlarge h⟩, fun _ => hgreatest⟩
    have hlt := lt_of_le_of_lt hle hcut.lt
    rw [hgreatest] at hlt
    norm_num at hlt
  · have hlt : Numeral.value x < 2 ^ 32 := not_le.1 fun h => hlarge ((tooLarge_iff hfinite).2 h)
    have hlt' : ⌊Numeral.value x⌋ < 2 ^ 32 := Int.floor_lt.2 (by exact_mod_cast hlt)
    have hcut : (x.toUInt32.toNat : ℤ) = ⌊Numeral.value x⌋ := by omega
    have hcast : (x.toUInt32.toNat : ℚ) = ⌊Numeral.value x⌋ := by exact_mod_cast hcut
    refine ⟨⟨fun _ => hlarge, fun _ => ⟨hfinite, ?_, ?_⟩⟩, fun h => absurd h hlarge⟩
    · rw [hcast]
      exact Int.floor_le _
    · rw [hcast]
      exact Int.lt_floor_add_one _

theorem storedAs_toUInt32 {x : Float} (h : IsRate x) : StoredAs x x.toUInt32 := by
  have hle := nonneg_iff_isRate.2 h
  rcases Numeral.isFinite_of_le (by decide) hle with hfinite | hinfinity
  · refine storedAs_finite hfinite ?_
    rw [← Numeral.value_zero]
    exact (Numeral.le_iff (by decide) hfinite).1 hle
  · exact storedAs_infinity hinfinity

/-! ### One record -/

/-- The record is a row, and the number in the column of the kind is stored as the word. -/
def ReadAs (kind : SeriesKind) (record : Except Csv.RecordError Csv.Record) (word : UInt32) : Prop :=
  ∃ row x, record = .ok row ∧ number row.fields (rateColumn kind) = .ok x ∧ IsRate x ∧ StoredAs x word

theorem rate_eq_ok {fields : List String} {column : Nat} {word : UInt32} :
    rate fields column = .ok word ↔ ∃ x, number fields column = .ok x ∧ IsRate x ∧ StoredAs x word := by
  unfold rate
  rw [bind_eq_ok]
  refine exists_congr fun x => and_congr_right fun _ => ?_
  by_cases hx : 0.0 ≤ x
  · have hrate := nonneg_iff_isRate.1 hx
    rw [if_pos hx]
    constructor
    · intro h
      cases h
      exact ⟨hrate, storedAs_toUInt32 hrate⟩
    · rintro ⟨-, hstored⟩
      rw [hstored.unique (storedAs_toUInt32 hrate)]
      rfl
  · rw [if_neg hx]
    exact ⟨fun h => (nomatch h), fun h => absurd (nonneg_iff_isRate.2 h.1) hx⟩

theorem carbonRow_eq_ok {fields : List String} {rates : UInt32 × UInt32} :
    carbonRow fields = .ok rates ↔ rate fields 0 = .ok rates.1 ∧ rate fields 1 = .ok rates.2 := by
  unfold carbonRow
  simp only [bind_eq_ok]
  constructor
  · rintro ⟨observed, hobserved, forecast, hforecast, hrates⟩
    cases hrates
    exact ⟨hobserved, hforecast⟩
  · rintro ⟨hobserved, hforecast⟩
    exact ⟨rates.1, hobserved, rates.2, hforecast, rfl⟩

/-- One record adds the two words that are stored of it. -/
theorem readRates_cons {observed forecast : Array UInt32} {record : Except Csv.RecordError Csv.Record}
    {rest : List (Except Csv.RecordError Csv.Record)} {result : Array UInt32 × Array UInt32} :
    readRates observed forecast (record :: rest) = .ok result ↔
      ∃ words : SeriesKind → UInt32, (∀ kind, ReadAs kind record (words kind)) ∧
        readRates (observed.push (words .observed)) (forecast.push (words .forecast)) rest = .ok result := by
  rw [readRates]
  simp only [bind_eq_ok, mapError_eq_ok, carbonRow_eq_ok, rate_eq_ok]
  constructor
  · rintro ⟨row, hrow, rates, ⟨⟨x, hx, hobserved⟩, ⟨y, hy, hforecast⟩⟩, hrest⟩
    refine ⟨fun | .observed => rates.1 | .forecast => rates.2, fun kind => ?_, hrest⟩
    cases kind with
    | observed => exact ⟨row, x, hrow, hx, hobserved⟩
    | forecast => exact ⟨row, y, hrow, hy, hforecast⟩
  · rintro ⟨words, hwords, hrest⟩
    obtain ⟨row, x, rfl, hx, hobserved⟩ := hwords .observed
    obtain ⟨row', y, hrow, hy, hforecast⟩ := hwords .forecast
    cases hrow
    exact ⟨row, rfl, (words .observed, words .forecast), ⟨⟨x, hx, hobserved⟩, ⟨y, hy, hforecast⟩⟩, hrest⟩

/-! ### The whole trace -/

/-- The words of all records are added in the order of the records. -/
theorem readRates_eq_ok {records : List (Except Csv.RecordError Csv.Record)} {observed forecast : Array UInt32}
    {result : Array UInt32 × Array UInt32} :
    readRates observed forecast records = .ok result ↔
      ∃ words : SeriesKind → List UInt32, (∀ kind, List.Forall₂ (ReadAs kind) records (words kind)) ∧
        result = (observed ++ words .observed, forecast ++ words .forecast) := by
  induction records generalizing observed forecast with
  | nil =>
    simp only [List.forall₂_nil_left_iff]
    constructor
    · intro h
      cases h
      exact ⟨fun _ => [], fun _ => rfl, by simp⟩
    · rintro ⟨words, hwords, rfl⟩
      rw [readRates, hwords, hwords]
      simp
  | cons record rest ih =>
    rw [readRates_cons]
    simp only [ih]
    constructor
    · rintro ⟨words, hwords, later, hlater, rfl⟩
      exact ⟨fun kind => words kind :: later kind, fun kind => .cons (hwords kind) (hlater kind), by simp⟩
    · rintro ⟨words, hwords, rfl⟩
      have hsplit (kind : SeriesKind) : ∃ word later, ReadAs kind record word ∧
          List.Forall₂ (ReadAs kind) rest later ∧ words kind = word :: later :=
        List.forall₂_cons_left_iff.1 (hwords kind)
      choose first later hfirst hlater hcons using hsplit
      exact ⟨first, hfirst, later, hlater, by simp [hcons]⟩

theorem carbonSeries_eq_ok {records : List (Except Csv.RecordError Csv.Record)} {series : CarbonSeries} :
    carbonSeries records = .ok series ↔ ∀ kind, List.Forall₂ (ReadAs kind) records (series.values kind) := by
  unfold carbonSeries
  simp only [bind_eq_ok, mapError_eq_ok, readRates_eq_ok, CarbonSeries.build_eq_ok]
  constructor
  · rintro ⟨rates, ⟨words, hwords, rfl⟩, hobserved, hforecast⟩ kind
    have hvalues : series.values kind = words kind := by
      cases kind with
      | observed => simp [CarbonSeries.values, CarbonSeries.track, hobserved]
      | forecast => simp [CarbonSeries.values, CarbonSeries.track, hforecast]
    rw [hvalues]
    exact hwords kind
  · intro h
    refine ⟨(series.observed.values, series.forecast.values), ⟨series.values, h, ?_⟩, rfl, rfl⟩
    simp [CarbonSeries.values, CarbonSeries.track]

private theorem carbonSeries_of_readRates {records : List (Except Csv.RecordError Csv.Record)}
    {observed forecast : Array UInt32} (h : readRates #[] #[] records = .ok (observed, forecast))
    (hsize : forecast.size = observed.size) (hpos : 0 < observed.size) (hle : observed.size ≤ maxBuckets) :
    ∃ series, carbonSeries records = .ok series ∧
      ∀ kind, series.values kind = CarbonSeries.given observed forecast kind := by
  obtain ⟨series, hbuild, -, hvalues⟩ := CarbonSeries.exists_build hsize hpos hle
  exact ⟨series, bind_eq_ok.2 ⟨_, h, mapError_eq_ok.2 hbuild⟩, hvalues⟩

private theorem exists_forall₂_iff {α β : Type} {R : α → β → Prop} {l : List α} :
    (∃ l', List.Forall₂ R l l') ↔ ∀ a ∈ l, ∃ b, R a b := by
  induction l with
  | nil => exact ⟨fun _ _ ha => absurd ha List.not_mem_nil, fun _ => ⟨[], .nil⟩⟩
  | cons a l ih =>
    rw [List.forall_mem_cons, ← ih]
    constructor
    · rintro ⟨l', h⟩
      obtain ⟨b, rest, hb, hrest, -⟩ := List.forall₂_cons_left_iff.1 h
      exact ⟨⟨b, hb⟩, rest, hrest⟩
    · rintro ⟨⟨b, hb⟩, rest, hrest⟩
      exact ⟨b :: rest, .cons hb hrest⟩

private theorem exists_readAs {record : Except Csv.RecordError Csv.Record} :
    (∀ kind, ∃ word, ReadAs kind record word) ↔
      ∃ row, record = .ok row ∧ ∀ kind, ∃ x, number row.fields (rateColumn kind) = .ok x ∧ IsRate x := by
  constructor
  · intro h
    obtain ⟨-, row, -, rfl, -⟩ := h .observed
    refine ⟨row, rfl, fun kind => ?_⟩
    obtain ⟨-, row', x, hrow, hx, hrate, -⟩ := h kind
    cases hrow
    exact ⟨x, hx, hrate⟩
  · rintro ⟨row, rfl, h⟩ kind
    obtain ⟨x, hx, hrate⟩ := h kind
    exact ⟨x.toUInt32, row, x, rfl, hx, hrate, storedAs_toUInt32 hrate⟩

theorem exists_carbonSeries {records : List (Except Csv.RecordError Csv.Record)} :
    (∃ series, carbonSeries records = .ok series) ↔ records ≠ [] ∧ records.length ≤ maxBuckets ∧
      ∀ record ∈ records, ∃ row, record = .ok row ∧
        ∀ kind, ∃ x, number row.fields (rateColumn kind) = .ok x ∧ IsRate x := by
  simp only [← exists_readAs]
  constructor
  · rintro ⟨series, hseries⟩
    have hread := carbonSeries_eq_ok.1 hseries
    have hlength : series.length = records.length := (hread .observed).length_eq.symm
    refine ⟨?_, hlength ▸ series.length_le,
      fun record hrecord kind => exists_forall₂_iff.1 ⟨_, hread kind⟩ record hrecord⟩
    rintro rfl
    -- no record would mean no bucket
    exact Nat.ne_of_gt series.size_pos hlength
  · rintro ⟨hne, hle, hrecords⟩
    have hwords (kind : SeriesKind) : ∃ words, List.Forall₂ (ReadAs kind) records words :=
      exists_forall₂_iff.2 fun record hrecord => hrecords record hrecord kind
    choose words hread using hwords
    have hlength (kind : SeriesKind) : (words kind).length = records.length := (hread kind).length_eq.symm
    have hsize : (words .forecast).toArray.size = (words .observed).toArray.size := by
      rw [List.size_toArray, List.size_toArray, hlength, hlength]
    have hpos : 0 < (words .observed).toArray.size := by
      rw [List.size_toArray, hlength]
      exact List.length_pos_iff.2 hne
    have hle' : (words .observed).toArray.size ≤ maxBuckets := by
      rw [List.size_toArray, hlength]
      exact hle
    obtain ⟨series, -, -, hvalues⟩ := CarbonSeries.exists_build hsize hpos hle'
    refine ⟨series, carbonSeries_eq_ok.2 fun kind => ?_⟩
    rw [hvalues]
    cases kind with
    | observed => exact hread .observed
    | forecast => exact hread .forecast

/--
Reading a carbon trace.  A series is that of the records if and only if it holds for each record in order, and for
both kinds, the word that is stored for the number in the column of the kind: the number without its fraction, unless
it is infinite or above all words, when there is no such word and the greatest one is stored.  There is a series
exactly if there are records, no more than fit in a memory, and every one is a row with a number in both columns that
is not negative.
-/
theorem carbonSeries_reads (records : List (Except Csv.RecordError Csv.Record)) :
    (∀ series, carbonSeries records = .ok series ↔
      ∀ kind, List.Forall₂ (ReadAs kind) records (series.values kind)) ∧
    (∀ series, carbonSeries records = .ok series → series.length = records.length) ∧
    ((∃ series, carbonSeries records = .ok series) ↔ records ≠ [] ∧ records.length ≤ maxBuckets ∧
      ∀ record ∈ records, ∃ row, record = .ok row ∧
        ∀ kind, ∃ x, number row.fields (rateColumn kind) = .ok x ∧ IsRate x) := by
  refine ⟨fun series => carbonSeries_eq_ok, fun series hseries => ?_, exists_carbonSeries⟩
  exact (carbonSeries_eq_ok.1 hseries .observed).length_eq.symm

/-- The row of an infinite rate, and of one just above all words. -/
def largeRates : Csv.Record := ⟨3, ["inf", "4294967296"]⟩

theorem carbonSeries_reads_largeRates :
    let records := [.ok ⟨2, ["810.9", "-0"]⟩, .ok largeRates]
    ∃ series, carbonSeries records = .ok series ∧ series.length = 2 ∧ series.values .observed = [810, 4294967295] ∧
      series.values .forecast = [0, 4294967295] ∧
      ∀ kind, List.Forall₂ (ReadAs kind) records (series.values kind) := by
  intro records
  have hrates : readRates #[] #[] records = .ok (#[810, 4294967295], #[0, 4294967295]) := by decide +kernel
  obtain ⟨series, hseries, hvalues⟩ := carbonSeries_of_readRates hrates rfl (by decide) (by decide)
  obtain ⟨hread, hlength, -⟩ := carbonSeries_reads records
  exact ⟨series, hseries, hlength series hseries, hvalues .observed, hvalues .forecast, (hread series).1 hseries⟩

/-- Infinity is accepted, and so is a finite number of which no word is the whole part. -/
theorem carbonSeries_not_cutOff : ∃ series infinite large, carbonSeries [.ok largeRates] = .ok series ∧
    number largeRates.fields 0 = .ok infinite ∧ infinite.isInf = true ∧
    number largeRates.fields 1 = .ok large ∧ large.isFinite = true ∧ ∀ word, ¬ CutOff large word := by
  have hrates : readRates #[] #[] [.ok largeRates] = .ok (#[4294967295], #[4294967295]) := by decide +kernel
  obtain ⟨series, hseries, -⟩ := carbonSeries_of_readRates hrates rfl (by decide) (by decide)
  refine ⟨series, 1.0 / 0.0, 4294967296.0, hseries, by decide +kernel, by decide +kernel, by decide +kernel,
    by decide +kernel, fun word hcut => ?_⟩
  have hvalue : Numeral.value 4294967296.0 = (4294967296 : ℕ) := Numeral.value_literal (by norm_num) (by norm_num)
  have hlt := hcut.lt
  rw [hvalue] at hlt
  have := word.toNat_lt
  norm_cast at hlt
  omega

end Trace

end CarbonAware
