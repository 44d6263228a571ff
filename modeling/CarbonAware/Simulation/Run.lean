import CarbonAware.Simulation.Scenario

/-!
# Running a scenario

`Simulation.run` applies the policies of a scenario to the workloads of a trace: first the rescheduling policy to the
eligible workloads, then the adjustment policy to every workload.  Each stage has salted decisions of its own.  The
`Outcome` totals emissions, cost and waste of the workloads as they are in the end.
-/

namespace CarbonAware

/-- The workloads of a trace and what all scenarios share. -/
structure Simulation where
  series : CarbonSeries
  workloads : List Workload
  eligibility : Eligibility
  /-- The seed of the acceptance draws. -/
  seed : UInt64

/-- What came of one scenario. -/
structure Outcome where
  scenario : String
  /-- Emissions under the observed rates. -/
  carbon : Pounds
  /-- Emissions as the forecast predicted them. -/
  predictedCarbon : Pounds
  cost : Dollars
  waste : Dollars
  delays : Delays
  /-- The number of workloads that the adjustment policy changed. -/
  adjusted : Nat
  workloads : List Workload
deriving DecidableEq

/-- Why a scenario has no outcome. -/
inductive SimulationError where
  | scenario (cause : ScenarioError)
  | eligibility (cause : EligibilityError)
  | rescheduling (cause : SeriesError)
  | outOfSeries (id : UInt32) (cause : SeriesError)
  | prediction (cause : SeriesError)
deriving DecidableEq

/-- The messages of the error and its causes, outermost first. -/
def SimulationError.causes : SimulationError → List String
  | .scenario cause => cause.causes
  | .eligibility cause => [cause.message]
  | .rescheduling cause => [cause.message]
  | .outOfSeries id cause =>
    let number := Nat.repr id.toNat
    [s!"workload #{number} is out of the carbon series", cause.message]
  | .prediction cause => [cause.message]

namespace Outcome

/-- The number of workloads that do not start as in the trace. -/
def rescheduled (o : Outcome) : Nat := o.workloads.countP (·.isRescheduled)

def placements (o : Outcome) : List Placement := o.workloads.map (·.placement)

/-- Adds the observed and the predicted emissions of a workload to the totals. -/
def addEmissions (series : CarbonSeries) (totals : Pounds × Pounds) (w : Workload) :
    Except SimulationError (Pounds × Pounds) := do
  let carbon ← (w.carbon series .observed).mapError (.outOfSeries w.id)
  let predicted ← (w.carbon series .forecast).mapError .prediction
  return (totals.1 + carbon, totals.2 + predicted)

/-- Totals the workloads as a scenario has left them. -/
def aggregate (scenario : String) (series : CarbonSeries) (workloads : List Workload) (delays : Delays)
    (adjusted : Nat) : Except SimulationError Outcome := do
  let (carbon, predictedCarbon) ← workloads.foldlM (addEmissions series) (.zero, .zero)
  return {
    scenario, carbon, predictedCarbon
    cost := .total (workloads.map (·.cost))
    waste := .total (workloads.map (·.waste))
    delays, adjusted, workloads }

end Outcome

namespace Simulation

/-- What the decisions of the rescheduling stage are salted with. -/
def reschedulingSalt : UInt64 := 0x5245534348454455

/-- What the decisions of the adjustment stage are salted with. -/
def adjustmentSalt : UInt64 := 0x41444a5553544d54

/-- The workloads after the rescheduling stage. -/
def reschedule (s : Simulation) (policy : Rescheduling) : List Workload × Except SeriesError Delays :=
  policy.apply s.series (Decisions.mk s.seed |>.salted reschedulingSalt) s.eligibility.contains s.workloads

/-- The workloads after the adjustment stage. -/
def adjust (s : Simulation) (policy : Adjustment) (workloads : List Workload) : List Adjusted :=
  workloads.map (policy.applyOwn (Decisions.mk s.seed |>.salted adjustmentSalt))

/-- Runs a scenario; its policies and the eligibility are validated before. -/
def run (s : Simulation) (scenario : Scenario) : Except SimulationError Outcome := do
  scenario.validate.mapError .scenario
  s.eligibility.validate.mapError .eligibility
  let (rescheduled, delays) := s.reschedule scenario.rescheduling
  let delays ← delays.mapError .rescheduling
  let adjusted := s.adjust scenario.adjustment rescheduled
  Outcome.aggregate scenario.name s.series (adjusted.map (·.workload)) delays (adjusted.countP (·.changed))

end Simulation

end CarbonAware
