import CarbonAware.Grid.CarbonSeries
import CarbonAware.Workload.Model

/-!
# Workloads

A workload is one virtual machine of the trace: when it runs, how large it is, how busy it is.  Energy, emissions,
cost and waste follow from these.  Policies change the run window, the core count and the utilisation; the window and
runtime of the trace are kept beside them.
-/

namespace CarbonAware

/-- A virtual machine with its run window and resources. -/
structure Workload where
  id : UInt32
  /-- When the workload runs, as the policies have left it. -/
  window : Window
  /-- When the workload ran in the trace. -/
  traceWindow : Window
  /-- The seconds that the workload ran in the trace, before its window was aligned. -/
  runtime : Int
  cores : UInt32
  ramMegabytes : UInt32
  utilization : Utilization
deriving DecidableEq

/-- Where and how large a workload runs in the end. -/
structure Placement where
  id : UInt32
  start : Int
  stop : Int
  cores : UInt32
  ramMegabytes : UInt32
deriving DecidableEq, Repr

namespace Workload

/-- Whole gigabytes, a thousand megabytes each. -/
def ramGigabytes (w : Workload) : UInt32 := w.ramMegabytes / 1000

/-- The seconds that the start has been postponed. -/
def delay (w : Workload) : Int := Numeral.wrapInt64 (w.window.start - w.traceWindow.start)

def isRescheduled (w : Workload) : Bool := w.window.start != w.traceWindow.start

def power (w : Workload) : Watts := Machine.power w.cores w.ramGigabytes w.utilization.average

/-- The energy over the run window; none at all if the window is empty. -/
def energy (w : Workload) : MegawattHours := if w.window.duration = 0 then .zero else w.power * w.window.hours

/-- The mean emissions rate over the run window, zero if it covers no bucket. -/
def averageRate (w : Workload) (series : CarbonSeries) (kind : SeriesKind) : Except SeriesError Moer :=
  series.averageOrZero kind w.window.buckets

/-- The emissions under the observed or the forecast rate. -/
def carbon (w : Workload) (series : CarbonSeries) (kind : SeriesKind) : Except SeriesError Pounds :=
  (w.averageRate series kind).map (· * w.energy)

def price (w : Workload) : DollarsPerHour := Machine.price w.cores w.ramMegabytes

def cost (w : Workload) : Dollars := w.price * w.window.hours

/-- The part of the cost that is spent on idle capacity. -/
def waste (w : Workload) : Dollars := w.cost * (1.0 - w.utilization.average)

def placement (w : Workload) : Placement := ⟨w.id, w.window.start, w.window.stop, w.cores, w.ramMegabytes⟩

end Workload

end CarbonAware
