import CarbonAware.CommandLine.Flag
import CarbonAware.Simulation.Scenario

/-!
# What the flags select

A `Selection` holds the value of every flag, at first its default.  `Selection.set` reads the value of one flag.  The
defaults of the parameters are those of the policies; the one lookahead serves both rescheduling policies.
-/

namespace CarbonAware

/-- Why a value is refused. -/
inductive ValueError where
  /-- It is none of the values that are allowed. -/
  | notAllowed
  | unreadable (reason : String)
deriving DecidableEq, Repr

/-- The values of the flags. -/
structure Selection where
  carbonTrace : Option String
  machineTrace : Option String
  machineLimit : Option Nat
  outputFolder : Option String
  reschedulings : List ReschedulingKind
  adjustments : List AdjustmentKind
  parameters : Parameters

namespace Selection

instance : Inhabited Selection :=
  ⟨none, none, none, none, [.threshold, .movingAverage], [.coreReduction, .shutdown], default⟩

/-- A path, which must not be empty. -/
def path (text : String) : Except ValueError String := if text = "" then .error .notAllowed else .ok text

/-- An integer from `lo` to `hi`. -/
def integer (lo hi : Int) (text : String) : Except ValueError Int :=
  (Numeral.boundedInteger lo hi text).mapError fun e => .unreadable e.message

/-- A number of 64 bits without sign. -/
def natural (text : String) : Except ValueError Nat := (integer 0 Numeral.maxUInt64 text).map Int.toNat

/-- A number of 64 bits with a sign. -/
def signed (text : String) : Except ValueError Int := integer Numeral.minInt64 Numeral.maxInt64 text

/-- A number of 32 bits without sign, read as one of 64 bits with a sign. -/
def word (text : String) : Except ValueError UInt32 := do
  let n ← signed text
  if 0 ≤ n ∧ n ≤ Numeral.maxUInt32 then return n.toNat.toUInt32
  else throw (.unreadable s!"{n} is not in 0..=4294967295")

/-- A floating-point number. -/
def float (text : String) : Except ValueError Float :=
  (Numeral.float text).mapError fun e => .unreadable e.message

/-- An acceptance rate; of a chain of causes, only the outermost is told. -/
def acceptance (text : String) : Except ValueError AcceptanceRate :=
  (AcceptanceRate.read text).mapError fun e => .unreadable (e.causes.headD "")

/-- One of some kinds by its name. -/
def kind {α : Type} (all : List α) (name : α → String) (text : String) : Except ValueError α :=
  match all.find? fun kind => name kind == text with
  | some kind => .ok kind
  | none => .error .notAllowed

/-- The item of a list; the first item that is given takes the place of the default. -/
def append {α : Type} (isFirst : Bool) (items : List α) (item : α) : List α :=
  if isFirst then [item] else items ++ [item]

/-- Sets a flag to a value, or adds an item to a list; `isFirst` tells that the flag has its default so far. -/
def set (s : Selection) (flag : Flag) (isFirst : Bool) (text : String) : Except ValueError Selection := do
  match flag with
  | .carbonTrace => return { s with carbonTrace := some (← path text) }
  | .machineTrace => return { s with machineTrace := some (← path text) }
  | .machineLimit => return { s with machineLimit := some (← natural text) }
  | .outputFolder => return { s with outputFolder := some (← path text) }
  | .reschedulings =>
    let item ← kind ReschedulingKind.all ReschedulingKind.optionName text
    return { s with reschedulings := append isFirst s.reschedulings item }
  | .adjustments =>
    let item ← kind AdjustmentKind.all AdjustmentKind.optionName text
    return { s with adjustments := append isFirst s.adjustments item }
  | .seed => return { s with parameters.seed := (← natural text).toUInt64 }
  | .minRuntime => return { s with parameters.eligibility.minRuntime := ← signed text }
  | .maxRuntime => return { s with parameters.eligibility.maxRuntime := ← signed text }
  | .lookahead =>
    let lookahead ← natural text
    return { s with
      parameters.threshold.lookahead := lookahead
      parameters.movingAverage.lookahead := lookahead }
  | .rateThreshold => return { s with parameters.threshold.rateThreshold := ← word text }
  | .confidence => return { s with parameters.movingAverage.confidence := ⟨← float text⟩ }
  | .coreCounts =>
    let count ← word text
    return { s with
      parameters.coreReduction.coreCounts := append isFirst s.parameters.coreReduction.coreCounts count }
  | .p95Threshold => return { s with parameters.coreReduction.p95Threshold := ← float text }
  | .wasteThreshold => return { s with parameters.coreReduction.wasteThreshold := ⟨← float text⟩ }
  | .idleFloor => return { s with parameters.shutdown.idleFloor := ← float text }
  | .thresholdAcceptance => return { s with parameters.threshold.acceptance := ← acceptance text }
  | .averageAcceptance => return { s with parameters.movingAverage.acceptance := ← acceptance text }
  | .reductionAcceptance => return { s with parameters.coreReduction.acceptance := ← acceptance text }
  | .shutdownAcceptance => return { s with parameters.shutdown.acceptance := ← acceptance text }

end Selection

end CarbonAware
