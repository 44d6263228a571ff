import CarbonAware.Trace.Row
import CarbonAware.Workload.Basic

/-!
# The machine trace

One row per virtual machine.  A row that lacks one of the used values is skipped, and a machine that runs past the end
of the carbon series is dropped; the machines that are kept are numbered from zero on.
-/

namespace CarbonAware.Trace

/-- The columns that are used; further ones are ignored. -/
inductive Column where
  | start
  | stop
  | maximum
  | average
  | p95
  | cores
  | ramGigabytes
deriving DecidableEq, Repr

namespace Column

/-- All columns, in the order of the table. -/
def all : List Column := [start, stop, maximum, average, p95, cores, ramGigabytes]

def index (c : Column) : Nat := c.ctorIdx

end Column

/-- Whether every used column has a value. -/
def isComplete (fields : List String) : Bool :=
  Column.all.all fun column => match fields[column.index]? with
    | some text => !text.isEmpty
    | none => false

/-- The percentage in a column. -/
def percentage (fields : List String) (column : Column) : Except RowError Float := do
  let value ← number fields column.index
  if 0.0 ≤ value ∧ value ≤ 100.0 then return value else throw (.invalidPercentage column.index value)

/-- Memory is counted in megabytes, a thousand of them to the gigabyte; what does not fit is cut down to the most. -/
def megabytesOf (gigabytes : UInt32) : UInt32 := (min (gigabytes.toNat * 1000) Numeral.maxUInt32).toUInt32

/-- The seconds of a time stamp, its fraction cut off. -/
def secondsOf (time : Float) : Int := Numeral.truncate Numeral.minInt64 Numeral.maxInt64 time

/-- The workload of a complete row. -/
def machineRow (id : UInt32) (fields : List String) : Except RowError Workload := do
  let start ← number fields Column.start.index
  let stop ← number fields Column.stop.index
  unless 0.0 ≤ start ∧ start ≤ stop ∧ stop.isFinite do throw (.invalidWindow start stop)
  let cores ← number fields Column.cores.index
  unless 1.0 ≤ cores do throw (.invalidCores cores)
  let ramGigabytes ← number fields Column.ramGigabytes.index
  unless 0.0 ≤ ramGigabytes do throw (.invalidMemory ramGigabytes)
  let average ← percentage fields .average
  let maximum ← percentage fields .maximum
  let p95 ← percentage fields .p95
  let window := Window.aligned (secondsOf start) (secondsOf stop)
  return {
    id, window, traceWindow := window
    runtime := Numeral.wrapInt64 (secondsOf stop - secondsOf start)
    cores := cores.toUInt32
    ramMegabytes := megabytesOf ramGigabytes.toUInt32
    utilization := .ofPercentages average maximum p95 }

/-- Adds the machines of the records to those kept so far, until there are as many as the limit allows. -/
def readMachines (series : CarbonSeries) (limit : Option Nat) (kept : Array Workload) :
    List (Except Csv.RecordError Csv.Record) → Except TraceError (Array Workload)
  | [] => .ok kept
  | record :: rest =>
    if limit.any (· ≤ kept.size) then .ok kept
    else do
      let record ← record.mapError .record
      if ¬isComplete record.fields then readMachines series limit kept rest
      else if Numeral.maxUInt32 < kept.size then throw .tooManyMachines
      else
        let w ← (machineRow kept.size.toUInt32 record.fields).mapError (.machineRow record.line)
        if series.length < w.window.buckets.stop then readMachines series limit kept rest
        else readMachines series limit (kept.push w) rest

/-- The workloads of the records of a machine trace, at most `limit` of them. -/
def workloads (series : CarbonSeries) (limit : Option Nat) (records : List (Except Csv.RecordError Csv.Record)) :
    Except TraceError (List Workload) :=
  (readMachines series limit #[] records).map Array.toList

end CarbonAware.Trace
