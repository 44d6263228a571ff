import CarbonAware.Adoption.Rate
import CarbonAware.Policy.Validation
import CarbonAware.Workload.Basic

/-!
# Adjustment policies

An adjustment policy changes the resources of one workload.  Core reduction allots the fewest cores that keep the
workload unsaturated; shutdown ends a workload that is mostly idle as soon as its work is done.  A policy first says
what it would make of the workload; only then is the user asked to accept.
-/

namespace CarbonAware

/-- Fewer cores for workloads that waste much of their cost. -/
structure CoreReduction where
  acceptance : AcceptanceRate
  /-- The core counts to choose from, ascending. -/
  coreCounts : List UInt32
  /-- A workload with this 95th percentile is saturated. -/
  p95Threshold : Float
  /-- A workload that wastes no more than this is left alone. -/
  wasteThreshold : Dollars
deriving DecidableEq

namespace CoreReduction

instance : Inhabited CoreReduction := ⟨⟨.always, [2, 4, 8, 12, 24, 30], 0.8, ⟨5.0⟩⟩⟩

def validate (p : CoreReduction) : Except PolicyError Unit :=
  if p.coreCounts = [] then .error .noCoreCounts
  else if 0 ∈ p.coreCounts then .error .zeroCoreCount
  else if ¬p.coreCounts.Pairwise (· < ·) then .error (.coreCountsNotAscending p.coreCounts)
  else if ¬(0.0 < p.p95Threshold ∧ p.p95Threshold ≤ 1.0) then .error (.p95OutOfRange p.p95Threshold)
  else if p.wasteThreshold < .zero then .error (.negativeWaste p.wasteThreshold)
  else .ok ()

/-- The utilisation of the workload on the given number of cores. -/
def utilizationOn (w : Workload) (cores : UInt32) : Utilization :=
  w.utilization.rescaled (w.cores.toFloat / cores.toFloat)

/-- Whether the workload is unsaturated on the given number of cores. -/
def fits (p : CoreReduction) (w : Workload) (cores : UInt32) : Bool :=
  let utilization := utilizationOn w cores
  utilization.p95 < p.p95Threshold && utilization.maximum ≤ 1.0

/-- The first of the core counts up to the present one on which the workload fits. -/
def smallestFitting? (p : CoreReduction) (w : Workload) : Option UInt32 :=
  (p.coreCounts.takeWhile (· ≤ w.cores)).find? (p.fits w)

/-- The workload on fewer cores, if it is neither saturated nor thrifty and fits on fewer. -/
def proposal? (p : CoreReduction) (w : Workload) : Option Workload :=
  if p.p95Threshold ≤ w.utilization.p95 then none
  else if w.waste ≤ p.wasteThreshold then none
  else match p.smallestFitting? w with
    | none => none
    | some cores => if w.cores ≤ cores then none else some { w with cores, utilization := utilizationOn w cores }

end CoreReduction

/-- An early end for workloads that are mostly idle. -/
structure Shutdown where
  acceptance : AcceptanceRate
  /-- The utilisation of a workload that does nothing. -/
  idleFloor : Float
deriving DecidableEq

namespace Shutdown

instance : Inhabited Shutdown := ⟨⟨.always, 0.01⟩⟩

def validate (p : Shutdown) : Except PolicyError Unit :=
  if 0.0 ≤ p.idleFloor ∧ p.idleFloor < 1.0 then .ok () else .error (.idleFloorOutOfRange p.idleFloor)

/-- The ratio of peak to mean busy utilisation that a workload must exceed. -/
def minPeakRatio : Float := 10.0

/-- The number within zero and one that is nearest to `x`. -/
def clampToUnit (x : Float) : Float := if x < 0.0 then 0.0 else if 1.0 < x then 1.0 else x

/--
The workload ended early.  All its work is taken to be done at peak utilisation, so it needs the share of its window
in the trace that the mean takes of the peak.  A ratio that is no number, as of an idle workload, proposes nothing.
-/
def proposal? (p : Shutdown) (w : Workload) : Option Workload :=
  let busyAverage := w.utilization.average - p.idleFloor
  let busyMaximum := w.utilization.maximum - p.idleFloor
  if minPeakRatio < busyMaximum / busyAverage then
    let share := clampToUnit (busyAverage / busyMaximum)
    let seconds := Numeral.truncate Numeral.minInt64 Numeral.maxInt64
      (share * Float.ofInt w.traceWindow.duration)
    let peak := w.utilization.maximum
    some { w with window := w.window.truncated seconds, utilization := ⟨peak, peak, peak⟩ }
  else none

end Shutdown

/-- The kinds of adjustment. -/
inductive AdjustmentKind where
  | none
  | coreReduction
  | shutdown
deriving DecidableEq, Repr

namespace AdjustmentKind

/-- All kinds, in the order of the scenarios. -/
def all : List AdjustmentKind := [none, coreReduction, shutdown]

/-- The short name in scenarios and messages. -/
def label : AdjustmentKind → String
  | none => "none"
  | coreReduction => "CR"
  | shutdown => "SD"

/-- The name on the command line. -/
def optionName : AdjustmentKind → String
  | none => "none"
  | coreReduction => "core-reduction"
  | shutdown => "shutdown"

end AdjustmentKind

/-- A policy that changes the resources of a workload. -/
inductive Adjustment where
  | none
  | coreReduction (policy : CoreReduction)
  | shutdown (policy : Shutdown)
deriving DecidableEq

/-- A workload after an adjustment policy, and whether it was adjusted. -/
structure Adjusted where
  workload : Workload
  changed : Bool
deriving DecidableEq

namespace Adjustment

def kind : Adjustment → AdjustmentKind
  | none => .none
  | coreReduction _ => .coreReduction
  | shutdown _ => .shutdown

def validate : Adjustment → Except PolicyError Unit
  | none => .ok ()
  | coreReduction policy => policy.validate
  | shutdown policy => policy.validate

/-- What the policy would make of the workload, if anything. -/
def proposal? : Adjustment → Workload → Option Workload
  | none, _ => .none
  | coreReduction policy, w => policy.proposal? w
  | shutdown policy, w => policy.proposal? w

def acceptance : Adjustment → AcceptanceRate
  | none => .always
  | coreReduction policy => policy.acceptance
  | shutdown policy => policy.acceptance

/-- Applies the policy to a workload; the generator is consulted only if there is a proposal. -/
def apply (a : Adjustment) (w : Workload) (g : Generator) : Adjusted × Generator :=
  match a.proposal? w with
  | .none => (⟨w, false⟩, g)
  | some proposal =>
    let (accepted, g) := a.acceptance.draw g
    (if accepted then ⟨proposal, true⟩ else ⟨w, false⟩, g)

/-- Applies the policy to the workload with the workload's own generator. -/
def applyOwn (a : Adjustment) (decisions : Decisions) (w : Workload) : Adjusted :=
  (a.apply w (decisions.generator w.id)).1

/-- Applies the policy to all workloads with one generator, in order. -/
def applyShared (a : Adjustment) (g : Generator) : List Workload → List Adjusted × Generator
  | [] => ([], g)
  | w :: rest =>
    let (adjusted, g) := a.apply w g
    let (rest, g) := applyShared a g rest
    (adjusted :: rest, g)

end Adjustment

end CarbonAware
