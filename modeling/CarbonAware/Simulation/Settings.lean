import CarbonAware.Simulation.Scenario
import CarbonAware.Toml.Reader
import CarbonAware.Toml.Writer

/-!
# Parameters as a settings file

`Parameters.toToml` writes all parameters to a settings file and `Parameters.ofToml?` reads them back.  The integers
of a settings file have 64 bits and a sign, so a seed or lookahead above the greatest of them cannot be written.
Reading checks the type and the range of each number, but of the rules of the policies only the bounds of an acceptance
rate.
-/

namespace CarbonAware

/-- A number is too large for a settings file. -/
inductive SettingsError where
  | outOfRange
deriving DecidableEq, Repr

def SettingsError.message : SettingsError → String
  | .outOfRange => "out-of-range value for u64 type"

namespace Parameters

/-- A number that must fit into the integers of a settings file. -/
def naturalSetting (n : Nat) : Except SettingsError Toml.Setting :=
  if (n : Int) ≤ Numeral.maxInt64 then .ok (.integer n) else .error .outOfRange

/-- The settings file of the parameters. -/
def settings (p : Parameters) : Except SettingsError Toml.SettingsFile := do
  let seed ← naturalSetting p.seed.toNat
  let thresholdLookahead ← naturalSetting p.threshold.lookahead
  let averageLookahead ← naturalSetting p.movingAverage.lookahead
  return {
    top := [("seed", seed)]
    sections := [
      ("eligibility", [
        ("min_runtime", .integer p.eligibility.minRuntime),
        ("max_runtime", .integer p.eligibility.maxRuntime)]),
      ("threshold", [
        ("acceptance", .float p.threshold.acceptance.value),
        ("moer_threshold", .integer p.threshold.rateThreshold.toNat),
        ("lookahead", thresholdLookahead)]),
      ("moving_average", [
        ("acceptance", .float p.movingAverage.acceptance.value),
        ("confidence_threshold", .float p.movingAverage.confidence.value),
        ("lookahead", averageLookahead)]),
      ("core_reduction", [
        ("acceptance", .float p.coreReduction.acceptance.value),
        ("core_counts", .integers (p.coreReduction.coreCounts.map UInt32.toNat)),
        ("p95_threshold", .float p.coreReduction.p95Threshold),
        ("waste_threshold", .float p.coreReduction.wasteThreshold.value)]),
      ("shutdown", [
        ("acceptance", .float p.shutdown.acceptance.value),
        ("idle_floor", .float p.shutdown.idleFloor)])] }

/-- The text of the settings file of the parameters. -/
def toToml (p : Parameters) : Except SettingsError String := p.settings.map (·.text)

end Parameters

namespace Toml.Value

/-- The integer from `lo` to `hi` that the value is. -/
def integer? (lo hi : Int) : Value → Option Int
  | integer n => if lo ≤ n ∧ n ≤ hi then some n else none
  | _ => none

/-- The number of 32 bits that the value is. -/
def word? (v : Value) : Option UInt32 := (v.integer? 0 Numeral.maxUInt32).map fun n => n.toNat.toUInt32

/-- The number of 64 bits without sign that the value is. -/
def natural? (v : Value) : Option Nat := (v.integer? 0 Numeral.maxUInt64).map Int.toNat

/-- The number of 64 bits with a sign that the value is. -/
def signed? (v : Value) : Option Int := v.integer? Numeral.minInt64 Numeral.maxInt64

/-- The floating-point number that the value is; integers of 64 bits are taken for one. -/
def float? : Value → Option Float
  | float x => some x
  | integer n => if Numeral.minInt64 ≤ n ∧ n ≤ Numeral.maxUInt64 then some (Float.ofInt n) else none
  | _ => none

/-- The acceptance rate that the value is. -/
def acceptance? (v : Value) : Option AcceptanceRate := do (AcceptanceRate.ofFloat (← v.float?)).toOption

/-- The numbers that the items of an array are. -/
def words? : Value → Option (List UInt32)
  | array items => items.mapM word?
  | _ => none

/-- The setting of a section by its name, or by its place if the section is an array. -/
def setting? (v : Value) (place : Nat) (name : String) : Option Value :=
  match v with
  | table _ entries => entries.lookup name
  | array items => items[place]?
  | _ => none

end Toml.Value

namespace Parameters

open Toml (Value)

/-- The eligibility that a section gives. -/
def eligibilityOf? (v : Value) : Option Eligibility := do
  let minRuntime ← (← v.setting? 0 "min_runtime").signed?
  let maxRuntime ← (← v.setting? 1 "max_runtime").signed?
  return { minRuntime, maxRuntime }

/-- The threshold policy that a section gives. -/
def thresholdOf? (v : Value) : Option ThresholdShift := do
  let acceptance ← (← v.setting? 0 "acceptance").acceptance?
  let rateThreshold ← (← v.setting? 1 "moer_threshold").word?
  let lookahead ← (← v.setting? 2 "lookahead").natural?
  return { acceptance, rateThreshold, lookahead }

/-- The moving-average policy that a section gives. -/
def movingAverageOf? (v : Value) : Option MovingAverageShift := do
  let acceptance ← (← v.setting? 0 "acceptance").acceptance?
  let confidence ← (← v.setting? 1 "confidence_threshold").float?
  let lookahead ← (← v.setting? 2 "lookahead").natural?
  return { acceptance, confidence := ⟨confidence⟩, lookahead }

/-- The core reduction that a section gives. -/
def coreReductionOf? (v : Value) : Option CoreReduction := do
  let acceptance ← (← v.setting? 0 "acceptance").acceptance?
  let coreCounts ← (← v.setting? 1 "core_counts").words?
  let p95Threshold ← (← v.setting? 2 "p95_threshold").float?
  let wasteThreshold ← (← v.setting? 3 "waste_threshold").float?
  return { acceptance, coreCounts, p95Threshold, wasteThreshold := ⟨wasteThreshold⟩ }

/-- The shutdown policy that a section gives. -/
def shutdownOf? (v : Value) : Option Shutdown := do
  let acceptance ← (← v.setting? 0 "acceptance").acceptance?
  let idleFloor ← (← v.setting? 1 "idle_floor").float?
  return { acceptance, idleFloor }

/-- The parameters that the entries of a document give; further entries are ignored. -/
def ofEntries? (entries : Toml.Entries) : Option Parameters := do
  let seed ← (← entries.lookup "seed").natural?
  let eligibility ← eligibilityOf? (← entries.lookup "eligibility")
  let threshold ← thresholdOf? (← entries.lookup "threshold")
  let movingAverage ← movingAverageOf? (← entries.lookup "moving_average")
  let coreReduction ← coreReductionOf? (← entries.lookup "core_reduction")
  let shutdown ← shutdownOf? (← entries.lookup "shutdown")
  return { seed := seed.toUInt64, eligibility, threshold, movingAverage, coreReduction, shutdown }

/-- The parameters of a settings file. -/
def ofToml? (text : String) : Option Parameters := do ofEntries? (← Toml.read? text)

end Parameters

end CarbonAware
