import CarbonAware.Trace.Row

/-!
# The carbon trace

One row per bucket, with the observed rate in the first column and the forecast rate in the second.  Decimal rates are
cut off to whole numbers.
-/

namespace CarbonAware.Trace

/-- The rate in a column, cut off to a whole number. -/
def rate (fields : List String) (column : Nat) : Except RowError UInt32 := do
  let value ← number fields column
  if 0.0 ≤ value then return value.toUInt32 else throw (.negativeRate value)

/-- The observed and the forecast rate of a row. -/
def carbonRow (fields : List String) : Except RowError (UInt32 × UInt32) := do
  let observed ← rate fields 0
  let forecast ← rate fields 1
  return (observed, forecast)

/-- Adds the rates of the records to those read so far. -/
def readRates (observed forecast : Array UInt32) :
    List (Except Csv.RecordError Csv.Record) → Except TraceError (Array UInt32 × Array UInt32)
  | [] => .ok (observed, forecast)
  | record :: rest => do
    let record ← record.mapError .record
    let rates ← (carbonRow record.fields).mapError .carbonRow
    readRates (observed.push rates.1) (forecast.push rates.2) rest

/-- The series of the records of a carbon trace. -/
def carbonSeries (records : List (Except Csv.RecordError Csv.Record)) : Except TraceError CarbonSeries := do
  let rates ← readRates #[] #[] records
  (CarbonSeries.build rates.1 rates.2).mapError .series

end CarbonAware.Trace
