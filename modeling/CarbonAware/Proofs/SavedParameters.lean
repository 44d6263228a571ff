import CarbonAware.Program
import CarbonAware.Proofs.Toml.Documents

/-!
# Saved parameters

The integers of a settings file have 64 bits and a sign, and validation does not ask for that.  Parameters whose seed
and lookaheads are such integers (`Parameters.Storable`) can be saved, and the file gives the same parameters back; all
others cannot be saved (`Parameters.toToml_restores`), which a simulation finds out when all scenarios have run
(`Program.save_of_not_storable`).
-/

namespace CarbonAware

/-- The bounds are integers of 64 bits. -/
structure Eligibility.IsRepresentable (e : Eligibility) : Prop where
  minInt64_le_min : Numeral.minInt64 ≤ e.minRuntime
  min_le_maxInt64 : e.minRuntime ≤ Numeral.maxInt64
  minInt64_le_max : Numeral.minInt64 ≤ e.maxRuntime
  max_le_maxInt64 : e.maxRuntime ≤ Numeral.maxInt64

/-! ### Values read as what they were -/

namespace Toml.Value

theorem integer?_integer {lo hi n : ℤ} (hlo : lo ≤ n) (hhi : n ≤ hi) : (integer n).integer? lo hi = some n :=
  if_pos ⟨hlo, hhi⟩

theorem signed?_integer {n : ℤ} (hlo : Numeral.minInt64 ≤ n) (hhi : n ≤ Numeral.maxInt64) :
    (integer n).signed? = some n :=
  integer?_integer hlo hhi

theorem natural?_integer {n : ℕ} (h : (n : ℤ) ≤ Numeral.maxInt64) : (integer n).natural? = some n := by
  have hmax : Numeral.maxInt64 ≤ Numeral.maxUInt64 := by decide
  rw [natural?, integer?_integer (Int.natCast_nonneg n) (h.trans hmax)]
  rfl

theorem toNat_le_maxInt64 (w : UInt32) : (w.toNat : ℤ) ≤ Numeral.maxInt64 := by
  have hlt := w.toNat_lt
  unfold Numeral.maxInt64
  omega

theorem word?_integer (w : UInt32) : (integer w.toNat).word? = some w := by
  have hlt := w.toNat_lt
  have hmax : (w.toNat : ℤ) ≤ Numeral.maxUInt32 := by
    unfold Numeral.maxUInt32
    omega
  rw [word?, integer?_integer (Int.natCast_nonneg _) hmax]
  exact congrArg some UInt32.ofNat_toNat

theorem words?_array (ws : List UInt32) :
    (array ((ws.map UInt32.toNat).map fun n : ℕ => integer n)).words? = some ws := by
  change List.mapM word? _ = _
  induction ws with
  | nil => rfl
  | cons w ws ih =>
    rw [List.map_cons, List.map_cons, List.mapM_cons, word?_integer, ih]
    rfl

theorem float?_float (x : Float) : (float x).float? = some x := rfl

theorem acceptance?_float (rate : AcceptanceRate) : (float rate.value).acceptance? = some rate := by
  change (AcceptanceRate.ofFloat rate.value).toOption = _
  rw [AcceptanceRate.ofFloat, dif_pos ⟨rate.nonneg, rate.le_one⟩]
  rfl

end Toml.Value

/-! ### Sections read as what they were -/

section Sections

open Toml (Value Setting Settings)

variable {α β : Type}

/-- Whether the names need no quotes and are distinct. -/
private def plainNames (names : List String) : Bool :=
  names.all (fun name => !name.toList.isEmpty && name.toList.all Toml.Reader.isKeyChar) && decide names.Nodup

private theorem isName_of_plainNames {names : List String} (h : plainNames names = true) :
    (∀ name ∈ names, Toml.Reader.IsName name) ∧ names.Nodup := by
  rw [plainNames, Bool.and_eq_true, decide_eq_true_iff] at h
  refine ⟨fun name hname => ?_, h.2⟩
  have hchars := List.all_eq_true.1 h.1 name hname
  rw [Bool.and_eq_true, Bool.not_eq_true', List.isEmpty_eq_false_iff, List.all_eq_true] at hchars
  exact ⟨hchars.1, hchars.2⟩

private theorem wellFormed_of_plainNames {settings : Settings} (names : List String)
    (hnames : settings.map Prod.fst = names) (hplain : plainNames names = true)
    (h : ∀ s ∈ settings.map Prod.snd, s.IsReadable) : settings.WellFormed where
  isName e he := (isName_of_plainNames hplain).1 e.1 (hnames ▸ List.mem_map_of_mem he)
  isReadable e he := h e.2 (List.mem_map_of_mem he)
  nodup := hnames ▸ (isName_of_plainNames hplain).2

private theorem isReadable_of_bounded {n : ℤ} (hlo : Numeral.minInt64 ≤ n) (hhi : n ≤ Numeral.maxInt64) :
    (Setting.integer n).IsReadable := by
  unfold Numeral.minInt64 at hlo
  unfold Numeral.maxInt64 at hhi
  exact abs_le.2 ⟨by omega, by omega⟩

private theorem isReadable_natural {n : ℕ} (h : (n : ℤ) ≤ Numeral.maxInt64) : (Setting.integer n).IsReadable :=
  isReadable_of_bounded ((show Numeral.minInt64 ≤ 0 by decide).trans (Int.natCast_nonneg n)) h

private theorem isReadable_words (ws : List UInt32) : (Setting.integers (ws.map UInt32.toNat)).IsReadable := by
  intro n hn
  obtain ⟨w, -, rfl⟩ := List.mem_map.1 hn
  have hlt := w.toNat_lt
  omega

/-- The settings are fit for a section, and reading the section gives `a`. -/
private structure Restores (read? : Value → Option α) (settings : Settings) (a : α) : Prop where
  wellFormed : settings.WellFormed
  read?_eq : read? (.table .header settings.entries) = some a

/-- A setting that is there and is what it should be. -/
private theorem bind_setting {v s : Value} {place : ℕ} {name : String} {f : Value → Option α} {a : α}
    {g : α → Option β} (hs : v.setting? place name = some s) (ha : f s = some a) :
    (do let x ← f (← v.setting? place name); g x) = g a := by
  rw [hs]
  change (f s).bind g = g a
  rw [ha]
  rfl

private theorem restores_eligibility {e : Eligibility} (h : e.IsRepresentable) : Restores Parameters.eligibilityOf?
    [("min_runtime", .integer e.minRuntime), ("max_runtime", .integer e.maxRuntime)] e where
  wellFormed := by
    refine wellFormed_of_plainNames ["min_runtime", "max_runtime"] rfl rfl (List.forall_mem_cons.2 ⟨?_, ?_⟩)
    · exact isReadable_of_bounded h.minInt64_le_min h.min_le_maxInt64
    · exact List.forall_mem_singleton.2 (isReadable_of_bounded h.minInt64_le_max h.max_le_maxInt64)
  read?_eq := (bind_setting rfl (Value.signed?_integer h.minInt64_le_min h.min_le_maxInt64)).trans
    (bind_setting rfl (Value.signed?_integer h.minInt64_le_max h.max_le_maxInt64))

private theorem restores_threshold {t : ThresholdShift} (h : (t.lookahead : ℤ) ≤ Numeral.maxInt64) :
    Restores Parameters.thresholdOf? [("acceptance", .float t.acceptance.value),
      ("moer_threshold", .integer t.rateThreshold.toNat), ("lookahead", .integer t.lookahead)] t where
  wellFormed := by
    refine wellFormed_of_plainNames ["acceptance", "moer_threshold", "lookahead"] rfl rfl
      (List.forall_mem_cons.2 ⟨trivial, List.forall_mem_cons.2 ⟨?_, ?_⟩⟩)
    · exact isReadable_natural (Value.toNat_le_maxInt64 t.rateThreshold)
    · exact List.forall_mem_singleton.2 (isReadable_natural h)
  read?_eq := (bind_setting rfl (Value.acceptance?_float _)).trans ((bind_setting rfl (Value.word?_integer _)).trans
    (bind_setting rfl (Value.natural?_integer h)))

private theorem restores_movingAverage {a : MovingAverageShift} (h : (a.lookahead : ℤ) ≤ Numeral.maxInt64) :
    Restores Parameters.movingAverageOf? [("acceptance", .float a.acceptance.value),
      ("confidence_threshold", .float a.confidence.value), ("lookahead", .integer a.lookahead)] a where
  wellFormed := wellFormed_of_plainNames ["acceptance", "confidence_threshold", "lookahead"] rfl rfl
    (List.forall_mem_cons.2 ⟨trivial, List.forall_mem_cons.2 ⟨trivial,
      List.forall_mem_singleton.2 (isReadable_natural h)⟩⟩)
  read?_eq := (bind_setting rfl (Value.acceptance?_float _)).trans ((bind_setting rfl (Value.float?_float _)).trans
    (bind_setting rfl (Value.natural?_integer h)))

private theorem restores_coreReduction (r : CoreReduction) :
    Restores Parameters.coreReductionOf? [("acceptance", .float r.acceptance.value),
      ("core_counts", .integers (r.coreCounts.map UInt32.toNat)), ("p95_threshold", .float r.p95Threshold),
      ("waste_threshold", .float r.wasteThreshold.value)] r where
  wellFormed := wellFormed_of_plainNames ["acceptance", "core_counts", "p95_threshold", "waste_threshold"] rfl rfl
    (List.forall_mem_cons.2 ⟨trivial, List.forall_mem_cons.2 ⟨isReadable_words r.coreCounts,
      List.forall_mem_cons.2 ⟨trivial, List.forall_mem_singleton.2 trivial⟩⟩⟩)
  read?_eq := (bind_setting rfl (Value.acceptance?_float _)).trans ((bind_setting rfl (Value.words?_array _)).trans
    ((bind_setting rfl (Value.float?_float _)).trans (bind_setting rfl (Value.float?_float _))))

private theorem restores_shutdown (d : Shutdown) : Restores Parameters.shutdownOf?
    [("acceptance", .float d.acceptance.value), ("idle_floor", .float d.idleFloor)] d where
  wellFormed := wellFormed_of_plainNames ["acceptance", "idle_floor"] rfl rfl
    (List.forall_mem_cons.2 ⟨trivial, List.forall_mem_singleton.2 trivial⟩)
  read?_eq := (bind_setting rfl (Value.acceptance?_float _)).trans (bind_setting rfl (Value.float?_float _))

end Sections

/-! ### Parameters read as what they were -/

namespace Parameters

open Toml (Value)

variable {p : Parameters}

/-- The seed and the lookaheads are among the integers of a settings file. -/
structure Storable (p : Parameters) : Prop where
  seed_le : (p.seed.toNat : ℤ) ≤ Numeral.maxInt64
  thresholdLookahead_le : (p.threshold.lookahead : ℤ) ≤ Numeral.maxInt64
  averageLookahead_le : (p.movingAverage.lookahead : ℤ) ≤ Numeral.maxInt64

theorem naturalSetting_of_le {n : ℕ} (h : (n : ℤ) ≤ Numeral.maxInt64) : naturalSetting n = .ok (.integer n) := if_pos h

theorem naturalSetting_of_lt {n : ℕ} (h : Numeral.maxInt64 < (n : ℤ)) : naturalSetting n = .error .outOfRange :=
  if_neg (not_le.2 h)

/-- The first of the three numbers that is too large ends the writing. -/
theorem settings_of_not_storable (h : ¬p.Storable) : p.settings = .error .outOfRange := by
  unfold settings
  rcases le_or_gt (p.seed.toNat : ℤ) Numeral.maxInt64 with hseed | hseed
  · rw [naturalSetting_of_le hseed]
    rcases le_or_gt (p.threshold.lookahead : ℤ) Numeral.maxInt64 with hthreshold | hthreshold
    · rw [naturalSetting_of_le hthreshold]
      have haverage : Numeral.maxInt64 < (p.movingAverage.lookahead : ℤ) := by
        by_contra hle
        exact h ⟨hseed, hthreshold, not_lt.1 hle⟩
      rw [naturalSetting_of_lt haverage]
      rfl
    · rw [naturalSetting_of_lt hthreshold]
      rfl
  · rw [naturalSetting_of_lt hseed]
    rfl

/-- Reading goes on with what has been read of an entry. -/
private theorem bind_entry {α β : Type} {entries : Toml.Entries} {name : String} {v : Value} {f : Value → Option α}
    {a : α} {g : α → Option β} (hv : entries.lookup name = some v) (ha : f v = some a) :
    (do let x ← f (← entries.lookup name); g x) = g a := by
  rw [hv]
  change (f v).bind g = g a
  rw [ha]
  rfl

theorem settings_of_storable (he : p.eligibility.IsRepresentable) (h : p.Storable) :
    ∃ file, p.settings = .ok file ∧ file.WellFormed ∧ ofEntries? file.entries = some p := by
  have heligibility := restores_eligibility he
  have hthreshold := restores_threshold h.thresholdLookahead_le
  have haverage := restores_movingAverage h.averageLookahead_le
  have hreduction := restores_coreReduction p.coreReduction
  have hshutdown := restores_shutdown p.shutdown
  rw [settings, naturalSetting_of_le h.seed_le, naturalSetting_of_le h.thresholdLookahead_le,
      naturalSetting_of_le h.averageLookahead_le]
  -- the names are fixed, so what is left is that each section restores what it was written for
  refine ⟨_, rfl, ⟨?top, ?sections, ?nodup⟩, ?read⟩
  case top =>
    exact wellFormed_of_plainNames ["seed"] rfl rfl (List.forall_mem_singleton.2 (isReadable_natural h.seed_le))
  case sections =>
    have hnames : plainNames ["eligibility", "threshold", "moving_average", "core_reduction", "shutdown"] = true := rfl
    refine fun s hs => ⟨(isName_of_plainNames hnames).1 s.1 (List.mem_map_of_mem hs), ?_⟩
    simp only [List.mem_cons, List.not_mem_nil, or_false] at hs
    rcases hs with rfl | rfl | rfl | rfl | rfl
    · exact heligibility.wellFormed
    · exact hthreshold.wellFormed
    · exact haverage.wellFormed
    · exact hreduction.wellFormed
    · exact hshutdown.wellFormed
  case nodup =>
    have hnames : plainNames ["seed", "eligibility", "threshold", "moving_average", "core_reduction", "shutdown"] = true :=
      rfl
    exact (isName_of_plainNames hnames).2
  case read =>
    refine (bind_entry rfl (Value.natural?_integer h.seed_le)).trans ?_
    refine (bind_entry rfl heligibility.read?_eq).trans ((bind_entry rfl hthreshold.read?_eq).trans ?_)
    refine (bind_entry rfl haverage.read?_eq).trans ((bind_entry rfl hreduction.read?_eq).trans ?_)
    refine (bind_entry rfl hshutdown.read?_eq).trans ?_
    exact congrArg (fun seed => some { p with seed }) UInt64.ofNat_toNat

theorem toToml_of_storable (he : p.eligibility.IsRepresentable) (h : p.Storable) :
    ∃ text, p.toToml = .ok text ∧ ofToml? text = some p := by
  obtain ⟨file, hsettings, hwellFormed, hread⟩ := settings_of_storable he h
  refine ⟨file.text, ?_, ?_⟩
  · rw [toToml, hsettings]
    rfl
  · rw [ofToml?, Toml.SettingsFile.read?_text hwellFormed]
    exact hread

theorem toToml_of_not_storable (h : ¬p.Storable) : p.toToml = .error .outOfRange := by
  rw [toToml, settings_of_not_storable h]
  rfl

/--
Saving parameters succeeds if and only if the seed and the lookaheads are among the integers of a settings file, and
then the file gives the same parameters back.
-/
theorem toToml_restores (he : p.eligibility.IsRepresentable) :
    (p.Storable → ∃ text, p.toToml = .ok text ∧ ofToml? text = some p) ∧
      (¬p.Storable → p.toToml = .error .outOfRange) :=
  ⟨toToml_of_storable he, toToml_of_not_storable⟩

/-- The greatest seed that can be saved. -/
theorem toToml_restores_atGreatestSeed :
    ({ (default : Parameters) with seed := 9223372036854775807 } : Parameters).eligibility.IsRepresentable ∧
      ∃ text, ({ (default : Parameters) with seed := 9223372036854775807 } : Parameters).toToml = .ok text ∧
        ofToml? text = some { (default : Parameters) with seed := 9223372036854775807 } := by
  have he : ({ (default : Parameters) with seed := 9223372036854775807 } : Parameters).eligibility.IsRepresentable :=
    ⟨by decide, by decide, by decide, by decide⟩
  exact ⟨he, (toToml_restores he).1 ⟨by decide, by decide, by decide⟩⟩

/-- The next seed passes validation, and cannot be saved. -/
theorem not_saved_aboveGreatestSeed :
    ({ (default : Parameters) with seed := 9223372036854775808 } : Parameters).validate = .ok () ∧
      ({ (default : Parameters) with seed := 9223372036854775808 } : Parameters).eligibility.IsRepresentable ∧
      ({ (default : Parameters) with seed := 9223372036854775808 } : Parameters).toToml = .error .outOfRange :=
  ⟨by decide, ⟨by decide, by decide, by decide, by decide⟩, rfl⟩

end Parameters

namespace Program

variable {m : Type → Type} [Monad m] [Storage m] {p : Parameters}

/-- The file that goes into a folder gives the parameters back. -/
theorem save_of_storable (he : p.eligibility.IsRepresentable) (h : p.Storable) (folder : String)
    (outcomes : List Outcome) : ∃ toml, Parameters.ofToml? toml = some p ∧ (save folder p outcomes : m _) = (do
      match ← Storage.createFolder folder with
      | .error cause => return .error (.cannotCreate folder cause)
      | .ok () => match ← Storage.write (pathIn folder "parameters.toml") toml with
        | .error cause => return .error (.cannotWrite (pathIn folder "parameters.toml") cause)
        | .ok () => savePlacements folder outcomes) := by
  obtain ⟨toml, htoml, hread⟩ := Parameters.toToml_of_storable he h
  refine ⟨toml, hread, ?_⟩
  unfold save
  generalize p.toToml = saved at htoml ⊢
  subst htoml
  rfl

/-- The folder is created and nothing written to it, not even the placements. -/
theorem save_of_not_storable (h : ¬p.Storable) (folder : String) (outcomes : List Outcome) :
    (save folder p outcomes : m _) = (do
      match ← Storage.createFolder folder with
      | .error cause => return .error (.cannotCreate folder cause)
      | .ok () => return .error (.settings .outOfRange)) := by
  have htoml := Parameters.toToml_of_not_storable h
  unfold save
  generalize p.toToml = saved at htoml ⊢
  subst htoml
  rfl

end Program

end CarbonAware
