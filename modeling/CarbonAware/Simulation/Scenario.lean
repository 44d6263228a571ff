import CarbonAware.Policy.Adjustment
import CarbonAware.Policy.Rescheduling
import CarbonAware.Simulation.Eligibility

/-!
# Scenarios and parameters

A scenario is a rescheduling policy followed by an adjustment policy; the baseline has neither.  `Parameters` holds
every tunable of a simulation, and `Parameters.scenarios` all combinations of the selected policies.
-/

namespace CarbonAware

/-- One rescheduling policy followed by one adjustment policy. -/
structure Scenario where
  rescheduling : Rescheduling
  adjustment : Adjustment
deriving DecidableEq

namespace Scenario

/-- The scenario that changes nothing. -/
def baseline : Scenario := ⟨.none, .none⟩

def isBaseline (s : Scenario) : Bool := s.rescheduling.kind == .none && s.adjustment.kind == .none

/-- The labels of the policies, joined by a plus sign. -/
def name (s : Scenario) : String :=
  match s.rescheduling.kind, s.adjustment.kind with
  | .none, .none => "baseline"
  | rescheduling, .none => rescheduling.label
  | .none, adjustment => adjustment.label
  | rescheduling, adjustment => s!"{rescheduling.label}+{adjustment.label}"

end Scenario

/-- Which policy of a scenario is invalid. -/
inductive ScenarioError where
  | rescheduling (scenario : String) (cause : PolicyError)
  | adjustment (scenario : String) (cause : PolicyError)
deriving DecidableEq

/-- The messages of the error and its cause, outermost first. -/
def ScenarioError.causes : ScenarioError → List String
  | .rescheduling scenario cause => [s!"invalid `{scenario}` rescheduling", cause.message]
  | .adjustment scenario cause => [s!"invalid `{scenario}` adjustment", cause.message]

def Scenario.validate (s : Scenario) : Except ScenarioError Unit := do
  s.rescheduling.validate.mapError (.rescheduling s.name)
  s.adjustment.validate.mapError (.adjustment s.name)

/-- Every tunable of a simulation. -/
structure Parameters where
  /-- The seed of the acceptance draws. -/
  seed : UInt64
  eligibility : Eligibility
  threshold : ThresholdShift
  movingAverage : MovingAverageShift
  coreReduction : CoreReduction
  shutdown : Shutdown
deriving DecidableEq

/-- Which section of the parameters is invalid. -/
inductive ParameterError where
  | eligibility (cause : EligibilityError)
  | rescheduling (kind : ReschedulingKind) (cause : PolicyError)
  | adjustment (kind : AdjustmentKind) (cause : PolicyError)
deriving DecidableEq

/-- The messages of the error and its cause, outermost first. -/
def ParameterError.causes : ParameterError → List String
  | .eligibility cause => ["invalid eligibility", cause.message]
  | .rescheduling kind cause => [s!"invalid {kind.label} parameters", cause.message]
  | .adjustment kind cause => [s!"invalid {kind.label} parameters", cause.message]

namespace Parameters

instance : Inhabited Parameters := ⟨⟨0, default, default, default, default, default⟩⟩

def validate (p : Parameters) : Except ParameterError Unit := do
  p.eligibility.validate.mapError .eligibility
  p.threshold.validate.mapError (.rescheduling .threshold)
  p.movingAverage.validate.mapError (.rescheduling .movingAverage)
  p.coreReduction.validate.mapError (.adjustment .coreReduction)
  p.shutdown.validate.mapError (.adjustment .shutdown)

/-- The rescheduling policy of the kind, with its parameters. -/
def rescheduling (p : Parameters) : ReschedulingKind → Rescheduling
  | .none => .none
  | .threshold => .threshold p.threshold
  | .movingAverage => .movingAverage p.movingAverage

/-- The adjustment policy of the kind, with its parameters. -/
def adjustment (p : Parameters) : AdjustmentKind → Adjustment
  | .none => .none
  | .coreReduction => .coreReduction p.coreReduction
  | .shutdown => .shutdown p.shutdown

/-- Every combination of the selected policies and of doing nothing; the baseline is the first. -/
def scenarios (p : Parameters) (reschedulings : List ReschedulingKind) (adjustments : List AdjustmentKind) :
    List Scenario :=
  let reschedulings := ReschedulingKind.all.filter fun kind => kind == .none || reschedulings.contains kind
  let adjustments := AdjustmentKind.all.filter fun kind => kind == .none || adjustments.contains kind
  reschedulings.flatMap fun rescheduling =>
    adjustments.map fun adjustment => ⟨p.rescheduling rescheduling, p.adjustment adjustment⟩

end Parameters

end CarbonAware
