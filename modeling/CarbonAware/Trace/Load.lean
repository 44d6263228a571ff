import CarbonAware.Trace.Carbon
import CarbonAware.Trace.Machines

/-!
# Loading traces

Reads the traces from files.  What goes wrong is reported with the path of the file.
-/

namespace CarbonAware.Trace

/-- Why a trace could not be loaded. -/
inductive LoadError where
  | cannotOpen (path : String) (cause : FileError)
  | cannotRead (path : String) (cause : TraceError)
deriving DecidableEq

/-- The messages of the error and its causes, outermost first. -/
def LoadError.causes : LoadError → List String
  | .cannotOpen path cause => [s!"failed to open `{path}`", cause.message]
  | .cannotRead path cause => s!"failed to read `{path}`" :: cause.causes

/-- Opens a file and reads its records. -/
def load {m : Type → Type} [Monad m] [Storage m] {α : Type} (path : String)
    (read : List (Except Csv.RecordError Csv.Record) → Except TraceError α) : m (Except LoadError α) := do
  match ← Storage.read path with
  | .error cause => return .error (.cannotOpen path cause)
  | .ok content => return (read (Csv.dataRecords content)).mapError (.cannotRead path)

def loadCarbonSeries {m : Type → Type} [Monad m] [Storage m] (path : String) : m (Except LoadError CarbonSeries) :=
  load path carbonSeries

def loadWorkloads {m : Type → Type} [Monad m] [Storage m] (path : String) (series : CarbonSeries)
    (limit : Option Nat) : m (Except LoadError (List Workload)) :=
  load path (workloads series limit)

end CarbonAware.Trace
