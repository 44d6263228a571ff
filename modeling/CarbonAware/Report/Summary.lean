import CarbonAware.Report.Table
import CarbonAware.Simulation.Run

/-!
# Reports

The tables that are shown to the user: `outcomesTable` compares the outcomes of scenarios with the first of them,
which is the baseline, and `lowCarbonTable` lists the low-carbon runs of a series.
-/

namespace CarbonAware.Report

/-- The text of a cell without a value. -/
def notAvailable : Cell := (Cell.right "n/a").styled .dim

/-- The part of the baseline that has been saved; there is none of a baseline of zero. -/
def savings? (baseline value : Float) : Option Float :=
  if baseline == 0.0 then none else some ((baseline - value) / baseline)

/-- Savings in percent: green if something was saved, red if it got worse. -/
def savingsCell (baseline value : Float) : Cell :=
  match savings? baseline value with
  | none => notAvailable
  | some savings =>
    let style : Style := if 0.0 < savings then .green else if savings < 0.0 then .red else .standardColour
    let percent := Numeral.fixed 1 (savings * 100.0)
    (Cell.right s!"{percent}%").styled style

/-- A mean delay, if there is one. -/
def delayCell (delay : Option Hours) : Cell :=
  match delay with
  | none => notAvailable
  | some delay => .right delay.text

/-- A number of workloads. -/
def countCell (count : Nat) : Cell := .right (Nat.repr count)

/-- The row of an outcome, its savings taken against the baseline. -/
def outcomeRow (baseline o : Outcome) : Vector Cell 11 := #v[
  (Cell.left o.scenario).styled .bold,
  .right o.carbon.text,
  (Cell.right o.predictedCarbon.text).styled .dim,
  savingsCell baseline.carbon.value o.carbon.value,
  .right o.cost.text,
  .right o.waste.text,
  savingsCell baseline.waste.value o.waste.value,
  delayCell o.delays.meanOverEligible?,
  delayCell o.delays.meanOverMoved?,
  countCell o.rescheduled,
  countCell o.adjusted]

/-- One row per outcome, each compared with the first. -/
def outcomesTable (outcomes : List Outcome) : Table 11 where
  header := #v["Scenario", "Carbon", "Predicted", "Savings", "Cost", "Waste", "Savings", "Delay (all)",
    "Delay (moved)", "Moved", "Adjusted"].map Cell.left
  rows := match outcomes with
    | [] => []
    | baseline :: _ => outcomes.map (outcomeRow baseline)

/-- The row of a low-carbon run: its buckets, its seconds, how long it is and its mean forecast. -/
def lowCarbonRow (run : LowCarbonRun) : Vector Cell 5 :=
  let window := Window.ofBuckets run.buckets.start run.length
  #v[(Cell.left run.buckets.text).styled .dim, .right s!"{window.start}", .right s!"{window.stop}",
    .right window.hours.text, .right run.average.text]

/-- One row per low-carbon run. -/
def lowCarbonTable (runs : Array LowCarbonRun) : Table 5 where
  header := #v["Buckets", "Start", "End", "Duration", "Forecast"].map Cell.left
  rows := runs.toList.map lowCarbonRow

end CarbonAware.Report
