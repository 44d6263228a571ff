import CarbonAware.Workload.Basic

/-!
# Postponements

`Delays` counts what a rescheduling policy did: how many workloads it considered, how many it moved, and by how many
seconds in total; like all seconds, the total is a signed number of 64 bits.  `reschedule` goes through a list of
workloads with a policy's proposals and keeps these counts; it stops at the first proposal that fails and leaves that
workload and the following ones as they are.
-/

namespace CarbonAware

/-- What a rescheduling policy did. -/
structure Delays where
  /-- The number of workloads that the policy considered. -/
  eligible : Nat
  /-- The number of workloads that the policy moved. -/
  moved : Nat
  totalSeconds : Int
deriving DecidableEq, Repr

namespace Delays

def none : Delays := ⟨0, 0, 0⟩

instance : Inhabited Delays := ⟨none⟩

/-- One more workload considered. -/
def consider (d : Delays) : Delays := { d with eligible := d.eligible + 1 }

/-- One more workload moved, by the given number of seconds. -/
def record (d : Delays) (seconds : Int) : Delays :=
  { d with moved := d.moved + 1, totalSeconds := Numeral.wrapInt64 (d.totalSeconds + seconds) }

/-- The mean over `count` workloads, if there are any. -/
def mean? (totalSeconds : Int) (count : Nat) : Option Hours :=
  if count = 0 then .none else some (Quantity.ofSeconds totalSeconds / Float.ofNat count)

/-- The mean postponement of the considered workloads. -/
def meanOverEligible? (d : Delays) : Option Hours := mean? d.totalSeconds d.eligible

/-- The mean postponement of the moved workloads. -/
def meanOverMoved? (d : Delays) : Option Hours := mean? d.totalSeconds d.moved

end Delays

/-- A window to move a workload to, if there is a better one. -/
abbrev WindowSearch := Workload → Except SeriesError (Option Window)

/-- The workload and the counts after a proposal for it. -/
def Workload.moved (w : Workload) (delays : Delays) : Option Window → Workload × Delays
  | none => (w, delays)
  | some window => ({ w with window }, delays.record (Numeral.wrapInt64 (window.start - w.window.start)))

/--
Moves the selected workloads to the windows proposed for them, in order.  The proposal that fails first ends the pass.
-/
def reschedule (selected : Workload → Bool) (propose : WindowSearch) (delays : Delays) :
    List Workload → List Workload × Except SeriesError Delays
  | [] => ([], .ok delays)
  | w :: rest =>
    if selected w then
      match propose w with
      | .error e => (w :: rest, .error e)
      | .ok proposal =>
        let (w, delays) := w.moved delays.consider proposal
        let (rest, result) := reschedule selected propose delays rest
        (w :: rest, result)
    else
      let (rest, result) := reschedule selected propose delays rest
      (w :: rest, result)

end CarbonAware
