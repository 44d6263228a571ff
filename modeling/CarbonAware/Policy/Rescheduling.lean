import CarbonAware.Policy.MovingAverage

/-!
# Rescheduling policies

A rescheduling policy moves run windows in time.  A workload whose user does not accept the recommendation stays where
it is, and no search is made for it.
-/

namespace CarbonAware

/-- The kinds of rescheduling. -/
inductive ReschedulingKind where
  | none
  | threshold
  | movingAverage
deriving DecidableEq, Repr

namespace ReschedulingKind

/-- All kinds, in the order of the scenarios. -/
def all : List ReschedulingKind := [none, threshold, movingAverage]

/-- The short name in scenarios and messages. -/
def label : ReschedulingKind → String
  | none => "none"
  | threshold => "RT"
  | movingAverage => "RA"

/-- The name on the command line. -/
def optionName : ReschedulingKind → String
  | none => "none"
  | threshold => "threshold"
  | movingAverage => "moving-average"

end ReschedulingKind

/-- A policy that moves run windows. -/
inductive Rescheduling where
  | none
  | threshold (policy : ThresholdShift)
  | movingAverage (policy : MovingAverageShift)
deriving DecidableEq

namespace Rescheduling

def kind : Rescheduling → ReschedulingKind
  | none => .none
  | threshold _ => .threshold
  | movingAverage _ => .movingAverage

def validate : Rescheduling → Except PolicyError Unit
  | none => .ok ()
  | threshold policy => policy.validate
  | movingAverage policy => policy.validate

/-- Searches only for workloads whose user accepts. -/
def ifAccepted (rate : AcceptanceRate) (decisions : Decisions) (search : WindowSearch) : WindowSearch := fun w =>
  if (rate.draw (decisions.generator w.id)).1 then search w else .ok .none

/-- The low-carbon runs that the policy searches, found once for all workloads. -/
def runs (r : Rescheduling) (series : CarbonSeries) : Array LowCarbonRun :=
  match r with
  | threshold policy => LowCarbonRun.all series policy.rateThreshold
  | _ => #[]

/-- The windows that the policy proposes, given the runs that it searches. -/
def proposals (r : Rescheduling) (series : CarbonSeries) (runs : Array LowCarbonRun) (decisions : Decisions) :
    WindowSearch :=
  match r with
  | none => fun _ => .ok .none
  | threshold policy => ifAccepted policy.acceptance decisions (policy.findWindow series runs)
  | movingAverage policy => ifAccepted policy.acceptance decisions (policy.findWindow series)

/-- Applies the policy to the selected workloads. -/
def apply (r : Rescheduling) (series : CarbonSeries) (decisions : Decisions) (selected : Workload → Bool)
    (workloads : List Workload) : List Workload × Except SeriesError Delays :=
  let runs := r.runs series
  reschedule selected (r.proposals series runs decisions) .none workloads

end Rescheduling

end CarbonAware
