import CarbonAware.Workload.Basic

/-!
# Eligibility

Very short workloads are not worth moving, and day-long ones have nowhere to go: rescheduling considers only those
whose runtime in the trace lies within bounds.
-/

namespace CarbonAware

/-- The runtimes, in seconds, of the workloads that rescheduling may move. -/
structure Eligibility where
  minRuntime : Int
  maxRuntime : Int
deriving DecidableEq, Repr

/-- What is wrong with the bounds. -/
inductive EligibilityError where
  | negativeMinimum
  | noRuntimes (minimum maximum : Int)
deriving DecidableEq, Repr

def EligibilityError.message : EligibilityError → String
  | .negativeMinimum => "minimal runtime must not be negative"
  | .noRuntimes minimum maximum => s!"eligible runtimes are empty: {minimum}..={maximum}"

namespace Eligibility

instance : Inhabited Eligibility := ⟨⟨2100, 86100⟩⟩

def validate (e : Eligibility) : Except EligibilityError Unit :=
  if e.minRuntime < 0 then .error .negativeMinimum
  else if e.maxRuntime < e.minRuntime then .error (.noRuntimes e.minRuntime e.maxRuntime)
  else .ok ()

/-- Whether rescheduling may move the workload. -/
def contains (e : Eligibility) (w : Workload) : Bool := e.minRuntime ≤ w.runtime && w.runtime ≤ e.maxRuntime

end Eligibility

end CarbonAware
