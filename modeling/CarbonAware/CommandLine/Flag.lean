/-!
# Flags

The flags of the commands.  Each is given as `--name value` or `--name=value`, or through an environment variable of
the same name; a list is given as several values, or as one with commas between the items.
-/

namespace CarbonAware

/-- Environment variables and their values. -/
abbrev Environment := List (String × String)

/-- A flag of a command, in the order in which the help lists them. -/
inductive Flag where
  | carbonTrace
  | machineTrace
  | machineLimit
  | outputFolder
  | reschedulings
  | adjustments
  | seed
  | minRuntime
  | maxRuntime
  | lookahead
  | rateThreshold
  | confidence
  | coreCounts
  | p95Threshold
  | wasteThreshold
  | idleFloor
  | thresholdAcceptance
  | averageAcceptance
  | reductionAcceptance
  | shutdownAcceptance
deriving DecidableEq, Repr

namespace Flag

/-- The name on the command line, without the dashes. -/
def name : Flag → String
  | carbonTrace => "carbon-trace"
  | machineTrace => "vm-trace"
  | machineLimit => "vm-limit"
  | outputFolder => "output-dir"
  | reschedulings => "reschedulings"
  | adjustments => "adjustments"
  | seed => "seed"
  | minRuntime => "min-runtime"
  | maxRuntime => "max-runtime"
  | lookahead => "lookahead"
  | rateThreshold => "moer-threshold"
  | confidence => "confidence-threshold"
  | coreCounts => "core-counts"
  | p95Threshold => "p95-threshold"
  | wasteThreshold => "waste-threshold"
  | idleFloor => "idle-floor"
  | thresholdAcceptance => "rt-acceptance"
  | averageAcceptance => "ra-acceptance"
  | reductionAcceptance => "cr-acceptance"
  | shutdownAcceptance => "sd-acceptance"

/-- The environment variable: the name in capitals with underscores. -/
def variableName (flag : Flag) : String := flag.name.map fun c => if c = '-' then '_' else c.toUpper

/-- The word that stands for the value in messages. -/
def placeholder : Flag → String
  | carbonTrace => "PATH"
  | thresholdAcceptance => "THRESHOLD"
  | averageAcceptance => "MOVING_AVERAGE"
  | reductionAcceptance => "CORE_REDUCTION"
  | shutdownAcceptance => "SHUTDOWN"
  | flag => flag.variableName

/-- Whether the flag takes a list. -/
def isList : Flag → Bool
  | reschedulings | adjustments | coreCounts => true
  | _ => false

/-- The flag with its value, as messages name it. -/
def usage (flag : Flag) : String :=
  let dots := if flag.isList then "..." else ""
  s!"--{flag.name} <{flag.placeholder}>{dots}"

/-- The flags of the command that simulates. -/
def ofSimulate : List Flag := [
  carbonTrace, machineTrace, machineLimit, outputFolder, reschedulings, adjustments, seed, minRuntime, maxRuntime,
  lookahead, rateThreshold, confidence, coreCounts, p95Threshold, wasteThreshold, idleFloor, thresholdAcceptance,
  averageAcceptance, reductionAcceptance, shutdownAcceptance]

/-- The flags of the command that lists low-carbon runs. -/
def ofWindows : List Flag := [carbonTrace, rateThreshold]

end Flag

end CarbonAware
